import FirmwareTables.Madt.Walk

set_option autoImplicit false

namespace FirmwareTables.Table

inductive Kind where
  | madt (baseAddress : UInt32)
  | dsdt
  | ssdt

namespace Kind

def make (kind : Kind) (origin : Origin) (body : Bytes) : Except TableError Table :=
  match kind with
  | .madt baseAddress => Madt.build origin baseAddress body
  | .dsdt => Table.dsdt origin body
  | .ssdt => Table.ssdt origin body

def signature : Kind → FixedBytes 4
  | .madt _ => madtSignature
  | .dsdt => dsdtSignature
  | .ssdt => ssdtSignature

def revision : Kind → UInt8
  | .madt _ => Madt.revision
  | .dsdt | .ssdt => 2

def headerSize : Kind → Nat
  | .madt _ => Madt.headerSize
  | .dsdt | .ssdt => Table.headerSize

-- What stands in the header of this kind behind the part that all tables have.
def more : Kind → Bytes
  | .madt baseAddress => Bytes.word32 baseAddress ++ Bytes.word32 0
  | .dsdt | .ssdt => []

theorem headerSize_eq (kind : Kind) : kind.headerSize = Table.headerSize + kind.more.length := by
  cases kind with
  | madt baseAddress => simp [headerSize, more, Madt.headerSize, Table.headerSize]
  | dsdt => rfl
  | ssdt => rfl

theorem make_eq (kind : Kind) (origin : Origin) (body : Bytes) : kind.make origin body =
    build kind.signature kind.revision origin (kind.more ++ body) := by
  cases kind <;> rfl

end Kind

end FirmwareTables.Table
