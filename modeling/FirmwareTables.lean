import FirmwareTables.Action
import FirmwareTables.Aml.Term
import FirmwareTables.Board.Boot
import FirmwareTables.Board.Description
import FirmwareTables.Board.Document
import FirmwareTables.BootLog.Basic
import FirmwareTables.Madt.Installed
import FirmwareTables.Madt.Walk
import FirmwareTables.Processor.Devices
import FirmwareTables.Processor.Enumeration
import FirmwareTables.Services.Error
import FirmwareTables.Services.Sequence
import FirmwareTables.Smbios.SlotEnumeration
import FirmwareTables.Smbios.SystemSlot
import FirmwareTables.Soc.Turin
import FirmwareTables.Store.Merge
import FirmwareTables.Store.StructureStore
import FirmwareTables.Table.Basic
import FirmwareTables.Text.Utf8
import FirmwareTables.Proofs.Collation.Order
import FirmwareTables.Proofs.Collation.Places
import FirmwareTables.Proofs.Madt.Tiling
import FirmwareTables.Proofs.Bytes.LittleEndian
import FirmwareTables.Proofs.Table.Header
import FirmwareTables.Proofs.Madt.Layout
import FirmwareTables.Proofs.Madt.WellFormed
import FirmwareTables.Proofs.Madt.InPlace
import FirmwareTables.Proofs.Table.Checksum
import FirmwareTables.Proofs.Madt.Outcomes
import FirmwareTables.Proofs.Madt.Frame
import FirmwareTables.Proofs.Madt.Reordered
import FirmwareTables.Proofs.Aml.Reader
import FirmwareTables.Proofs.Aml.RoundTrip
import FirmwareTables.Proofs.Processor.Block
import FirmwareTables.Proofs.Processor.Listed
import FirmwareTables.Proofs.Table.Built
import FirmwareTables.Proofs.Processor.Described
import FirmwareTables.Proofs.Store.Replaced
import FirmwareTables.Proofs.Store.Spared
import FirmwareTables.Proofs.Madt.Reinstalled
import FirmwareTables.Proofs.Board.Stages
import FirmwareTables.Proofs.Board.Agreement
import FirmwareTables.Proofs.Smbios.Appended
import FirmwareTables.Proofs.Board.Staged
import FirmwareTables.Proofs.Collation.Before
import FirmwareTables.Proofs.Board.Drift
import FirmwareTables.Proofs.Store.Unreplaced
import FirmwareTables.Proofs.Processor.Pieces
import FirmwareTables.Proofs.Board.Statuses
import FirmwareTables.Proofs.Aml.Encoded
import FirmwareTables.Proofs.Aml.Decodable
import FirmwareTables.Proofs.Madt.Walked
import FirmwareTables.Proofs.Madt.RoundTrip
import FirmwareTables.Proofs.Topology.Fields
import FirmwareTables.Proofs.Collation.Siblings
import FirmwareTables.Proofs.Collation.FirstThreads
import FirmwareTables.Proofs.Madt.Targets
import FirmwareTables.Proofs.Services.Told
import FirmwareTables.Proofs.Services.Registers
import FirmwareTables.Proofs.Soc.Interrupts
import FirmwareTables.Proofs.Soc.RootBridges
import FirmwareTables.Proofs.Smbios.Published
import FirmwareTables.Proofs.Store.Merged
import FirmwareTables.Proofs.Table.Appended
import FirmwareTables.Proofs.Topology.Recomposed
import FirmwareTables.Proofs.Topology.Reported
import FirmwareTables.Proofs.BootLog.Accounted
import FirmwareTables.Proofs.Text.Utf8
import FirmwareTables.Proofs.Smbios.Referenced
import FirmwareTables.Proofs.Smbios.Recovered
import FirmwareTables.Proofs.Topology.Ranked
import FirmwareTables.Proofs.Board.Validated
import FirmwareTables.Proofs.Table.Consistent
import FirmwareTables.Proofs.Aml.Delimited
