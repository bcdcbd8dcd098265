import FirmwareTables.Proofs.Bytes.LittleEndian
import FirmwareTables.Proofs.Smbios.Referenced
import FirmwareTables.Smbios.SystemSlot

set_option autoImplicit false

namespace FirmwareTables.Smbios

structure SlotImage where
  slot : SystemSlot
  size : UInt8
  reference : UInt8
  peerCount : UInt8
  strings : List String
  deriving DecidableEq

-- The part in front of the peer groups; what stands behind them is filled in later.
def readFixed : Bytes → Option (SlotImage × Bytes)
  | kind :: size :: h0 :: h1 :: reference :: slotType :: width :: usage :: slotLength :: i0 :: i1 ::
      characteristics1 :: characteristics2 :: s0 :: s1 :: bus :: devFunc :: dataBusWidth ::
      peerCount :: rest =>
    let slot := {
      kind, slotType, width, usage, slotLength, characteristics1, characteristics2, bus, devFunc,
      dataBusWidth
      designation := ""
      handle := Bytes.toWord16 [h0, h1]
      slotId := Bytes.toWord16 [i0, i1]
      segment := Bytes.toWord16 [s0, s1] }
    some ({ slot, size, reference, peerCount, strings := [] }, rest)
  | _ => none

def readPeers : Nat → Bytes → Option (List PeerGroup × Bytes)
  | 0, bytes => some ([], bytes)
  | count + 1, s0 :: s1 :: bus :: devFunc :: width :: rest =>
    (readPeers count rest).map fun (peers, rest) =>
      ({ segment := Bytes.toWord16 [s0, s1], bus, devFunc, width } :: peers, rest)
  | _, _ => none

-- Nothing of the formatted area may be left over.
def readExtension (slot : SystemSlot) : Bytes → Option SystemSlot
  | [information, physicalWidth, p0, p1, height] =>
    some { slot with information, physicalWidth, height, pitch := Bytes.toWord16 [p0, p1] }
  | _ => none

def readSlot (bytes : Bytes) : Option (SlotImage × Bytes) := do
  let length ← bytes[1]?
  let (area, behind) ← Bytes.splitExact length.toNat bytes
  let (image, area) ← readFixed area
  let (peers, area) ← readPeers image.peerCount.toNat area
  let slot ← readExtension { image.slot with peers } area
  let (strings, rest) ← readStrings behind
  let designation ← stringAt strings image.reference
  return ({ image with slot := { slot with designation }, strings }, rest)

theorem toWord16_pair (w : UInt16) :
    Bytes.toWord16 [UInt8.ofNat w.toNat, UInt8.ofNat (w.toNat / 256)] = w :=
  Bytes.toWord16_word16 w

theorem readFixed_append (slot : SystemSlot) (size reference : UInt8) (rest : Bytes) :
    readFixed (slot.fixedPart size reference ++ rest) = some ({
      size, reference
      peerCount := UInt8.ofNat slot.peers.length
      strings := []
      slot := { slot with
        designation := "", peers := [], information := 0, physicalWidth := 0, pitch := 0, height := 2 } },
      rest) := by
  simp only [SystemSlot.fixedPart, Bytes.word16, Bytes.littleEndian, List.cons_append,
    List.nil_append, readFixed, toWord16_pair]

theorem readPeers_append (peers : List PeerGroup) (rest : Bytes) :
    readPeers peers.length (peers.flatMap PeerGroup.toBytes ++ rest) = some (peers, rest) := by
  induction peers with
  | nil => rfl
  | cons peer peers ih =>
    simp only [List.flatMap_cons, PeerGroup.toBytes, Bytes.word16, Bytes.littleEndian,
      List.cons_append, List.nil_append, List.length_cons, readPeers, ih, Option.map_some,
      toWord16_pair]

theorem readExtension_extensionPart (slot : SystemSlot) (given : SystemSlot) :
    readExtension given slot.extensionPart = some { given with
      information := slot.information, physicalWidth := slot.physicalWidth
      pitch := slot.pitch, height := slot.height } := by
  simp only [SystemSlot.extensionPart, Bytes.word16, Bytes.littleEndian, List.cons_append,
    List.nil_append, readExtension, toWord16_pair]

theorem length_peers (peers : List PeerGroup) :
    (peers.flatMap PeerGroup.toBytes).length = 5 * peers.length := by
  induction peers with
  | nil => rfl
  | cons peer peers ih =>
    rw [List.flatMap_cons, List.length_append, ih, List.length_cons]
    simp only [PeerGroup.toBytes, List.length_append, Bytes.length_word16, List.length_cons,
      List.length_nil]
    omega

namespace SystemSlot

def area (slot : SystemSlot) : Bytes :=
  slot.fixedPart (UInt8.ofNat slot.formattedSize) 1 ++ slot.peers.flatMap PeerGroup.toBytes ++
    slot.extensionPart

theorem length_area (slot : SystemSlot) : slot.area.length = slot.formattedSize := by
  simp only [area, fixedPart, extensionPart, formattedSize, List.length_append, length_peers,
    Bytes.length_word16, List.length_cons, List.length_nil]

theorem formattedSize_eq (slot : SystemSlot) : slot.formattedSize = 24 + 5 * slot.peers.length := by
  rw [formattedSize]
  omega

theorem toNat_size {slot : SystemSlot} (few : slot.peers.length ≤ 46) :
    (UInt8.ofNat slot.formattedSize).toNat = slot.formattedSize := by
  apply UInt8.toNat_ofNat_of_lt'
  rw [formattedSize_eq, UInt8.size]
  omega

theorem toNat_peerCount {slot : SystemSlot} (few : slot.peers.length ≤ 46) :
    (UInt8.ofNat slot.peers.length).toNat = slot.peers.length := by
  apply UInt8.toNat_ofNat_of_lt'
  rw [UInt8.size]
  omega

theorem toBytes_eq (slot : SystemSlot) : slot.toBytes =
    if 46 < slot.peers.length then .error (.tooLarge slot.formattedSize)
    else if 0 ∈ Text.utf8 slot.designation then .error (.embeddedNul slot.designation)
    else .ok (slot.area ++ StringSet.toBytes ⟨[slot.designation]⟩) := by
  have large : 256 ≤ slot.formattedSize ↔ 46 < slot.peers.length := by
    rw [formattedSize_eq]
    omega
  rw [toBytes, if_congr large rfl rfl]
  by_cases many : 46 < slot.peers.length
  · rw [if_pos many, if_pos many]
    rfl
  rw [if_neg many, if_neg many, StringSet.add_eq]
  by_cases nul : 0 ∈ Text.utf8 slot.designation
  · rw [if_pos nul, if_pos nul]
    rfl
  · rw [if_neg nul, if_neg nul]
    rfl

def image (slot : SystemSlot) : SlotImage where
  slot := slot
  size := UInt8.ofNat slot.formattedSize
  reference := 1
  peerCount := UInt8.ofNat slot.peers.length
  strings := [slot.designation]

theorem readSlot_append {slot : SystemSlot} (few : slot.peers.length ≤ 46)
    (clean : 0 ∉ Text.utf8 slot.designation) (named : slot.designation ≠ "") (rest : Bytes) :
    readSlot (slot.area ++ StringSet.toBytes ⟨[slot.designation]⟩ ++ rest) =
      some (slot.image, rest) := by
  have strings : readStrings (StringSet.toBytes ⟨[slot.designation]⟩ ++ rest) =
      some ([slot.designation], rest) := by
    refine (@StringSet.readStrings_toBytes_iff ⟨[slot.designation]⟩ ?_ rest).mpr ?_
    · exact List.forall_mem_singleton.mpr clean
    · exact mt List.mem_singleton.mp named.symm
  have length (behind : Bytes) :
      (slot.area ++ behind)[1]? = some (UInt8.ofNat slot.formattedSize) := rfl
  -- The length byte alone parts the formatted area from the strings.
  have split (behind : Bytes) :
      Bytes.splitExact (UInt8.ofNat slot.formattedSize).toNat (slot.area ++ behind) =
        some (slot.area, behind) := by
    rw [toNat_size few, ← length_area, Bytes.splitExact_append]
  have fixed := readFixed_append slot (UInt8.ofNat slot.formattedSize) 1
    (slot.peers.flatMap PeerGroup.toBytes ++ slot.extensionPart)
  rw [List.append_assoc, readSlot, length]
  simp only [Option.bind_eq_bind, Option.bind_some, split]
  rw [area, List.append_assoc, fixed]
  simp only [Option.bind_some, toNat_peerCount few, readPeers_append, readExtension_extensionPart,
    strings]
  rfl

theorem toBytes_eq_error {slot : SystemSlot} {e : StructureError} : slot.toBytes = .error e ↔
    46 < slot.peers.length ∧ e = .tooLarge slot.formattedSize ∨
      slot.peers.length ≤ 46 ∧ 0 ∈ Text.utf8 slot.designation ∧
        e = .embeddedNul slot.designation := by
  rw [toBytes_eq]
  by_cases many : 46 < slot.peers.length
  · rw [if_pos many]
    simp [many, Nat.not_le.mpr many, eq_comm]
  rw [if_neg many]
  have few : slot.peers.length ≤ 46 := Nat.le_of_not_lt many
  by_cases nul : 0 ∈ Text.utf8 slot.designation
  · rw [if_pos nul]
    simp [many, few, nul, eq_comm]
  · rw [if_neg nul]
    exact iff_of_false nofun fun given => given.elim (fun h => many h.1) fun h => nul h.2.1

theorem toBytes_eq_ok {slot : SystemSlot} {bytes : Bytes} : slot.toBytes = .ok bytes ↔
    slot.peers.length ≤ 46 ∧ 0 ∉ Text.utf8 slot.designation ∧
      bytes = slot.area ++ StringSet.toBytes ⟨[slot.designation]⟩ := by
  rw [toBytes_eq]
  by_cases many : 46 < slot.peers.length
  · rw [if_pos many]
    exact iff_of_false nofun fun given => Nat.not_le.mpr many given.1
  rw [if_neg many]
  by_cases nul : 0 ∈ Text.utf8 slot.designation
  · rw [if_pos nul]
    exact iff_of_false nofun fun given => given.2.1 nul
  · rw [if_neg nul]
    simp [Nat.le_of_not_lt many, nul, eq_comm]

structure Recovers (slot : SystemSlot) (image : SlotImage) : Prop where
  whole : image.slot = slot
  size : image.size.toNat = 24 + 5 * slot.peers.length
  peerCount : image.peerCount.toNat = slot.peers.length
  strings : image.strings = [slot.designation]
  designation : stringAt image.strings image.reference = some slot.designation

theorem recovers_image {slot : SystemSlot} (few : slot.peers.length ≤ 46) :
    slot.Recovers slot.image where
  whole := rfl
  size := (toNat_size few).trans slot.formattedSize_eq
  peerCount := toNat_peerCount few
  strings := rfl
  designation := rfl

/-- A slot is written just when it has at most 46 peer groups and no NUL byte in its designation; too
many peer groups are reported before a NUL byte is. What is written of a slot with a designation reads
back as that slot, with the length, the count and the reference that belong to it, and the reader stops
where the slot ends. -/
theorem toBytes_recovers (slot : SystemSlot) :
    (∀ e, slot.toBytes = .error e ↔
      46 < slot.peers.length ∧ e = .tooLarge (24 + 5 * slot.peers.length) ∨
        slot.peers.length ≤ 46 ∧ 0 ∈ Text.utf8 slot.designation ∧
          e = .embeddedNul slot.designation) ∧
      ((∃ bytes, slot.toBytes = .ok bytes) ↔
        slot.peers.length ≤ 46 ∧ 0 ∉ Text.utf8 slot.designation) ∧
      ∀ bytes, slot.toBytes = .ok bytes → slot.designation ≠ "" →
        ∃ image, slot.Recovers image ∧ ∀ rest, readSlot (bytes ++ rest) = some (image, rest) := by
  refine ⟨fun e => slot.formattedSize_eq ▸ toBytes_eq_error, ?_, ?_⟩
  · constructor
    · rintro ⟨bytes, written⟩
      obtain ⟨few, clean, -⟩ := toBytes_eq_ok.mp written
      exact ⟨few, clean⟩
    · rintro ⟨few, clean⟩
      exact ⟨_, toBytes_eq_ok.mpr ⟨few, clean, rfl⟩⟩
  · intro bytes written named
    obtain ⟨few, clean, rfl⟩ := toBytes_eq_ok.mp written
    exact ⟨slot.image, recovers_image few, readSlot_append few clean named⟩

-- As many peer groups as the length byte allows for.
def fullSlot : SystemSlot where
  designation := "PCIE-1"
  handle := 0x1234
  peers := List.replicate 46 { segment := 1, bus := 0x40, devFunc := 0x08, width := 4 }
  pitch := 0x0910

theorem toBytes_recovers_fullSlot :
    ∃ bytes, fullSlot.toBytes = .ok bytes ∧ fullSlot.designation ≠ "" ∧
      ∃ image, fullSlot.Recovers image ∧ ∀ rest, readSlot (bytes ++ rest) = some (image, rest) := by
  obtain ⟨-, writes, recovers⟩ := toBytes_recovers fullSlot
  have text : Text.utf8 "PCIE-1" = [0x50, 0x43, 0x49, 0x45, 0x2D, 0x31] := by cbv
  have clean : 0 ∉ Text.utf8 fullSlot.designation := by
    rw [fullSlot, text]
    decide
  obtain ⟨bytes, written⟩ := writes.mpr ⟨by decide, clean⟩
  exact ⟨bytes, written, by decide, recovers bytes written (by decide)⟩

end SystemSlot

end FirmwareTables.Smbios
