import FirmwareTables.Proofs.Services.Told
import FirmwareTables.Services.Fabric

set_option autoImplicit false

namespace FirmwareTables.Fabric

abbrev RegisterFiles : Type := List (UInt64 × IoApicRegisters)

variable {ε : Type} {files : RegisterFiles}

-- What a register of the IOAPIC at a base holds; it is zero where there is no IOAPIC.
def held (files : RegisterFiles) (base : UInt32) (register : UInt8) : UInt32 :=
  match files.lookup base.toUInt64 with
  | some registers => registerValue registers register
  | none => 0

-- Bits 24 to 27 of the first register.
def idAt (files : RegisterFiles) (base : UInt32) : UInt8 :=
  UInt8.ofNat ((held files base idRegister).toNat / 2 ^ 24 % 2 ^ 4)

-- Bits 16 to 23 of the version register number the entries from zero.
def entriesAt (files : RegisterFiles) (base : UInt32) : Nat :=
  (held files base versionRegister).toNat / 2 ^ 16 % 2 ^ 8 + 1

theorem entriesAt_pos (files : RegisterFiles) (base : UInt32) : 0 < entriesAt files base :=
  Nat.succ_pos _

theorem entriesAt_le (files : RegisterFiles) (base : UInt32) : entriesAt files base ≤ 256 :=
  Nat.mod_lt _ (by decide)

-- These are the IOAPICs, whatever is selected and whatever was done to them.
def Has (files : RegisterFiles) (fabric : Fabric) : Prop := fabric.ioApics = files

theorem readRegister_tells (base : UInt32) (register : UInt8) :
    (readRegister base register : Action Fabric ε UInt32).Tells (Has files)
      (.ok (held files base register)) := by
  rintro fabric rfl
  refine ⟨?_, rfl⟩
  have ran : ((readRegister base register : Action Fabric ε UInt32).run fabric).result =
      .ok (valueAt { fabric with selected := (base.toUInt64, register) :: fabric.selected }
        (base.toUInt64 + dataOffset)) := rfl
  rw [ran, valueAt]
  simp only [UInt64.add_sub_cancel, List.lookup_cons_self, held]
  cases fabric.ioApics.lookup base.toUInt64 <;> rfl

theorem redirectionEntries_tells (base : UInt32) :
    (redirectionEntries base : Action Fabric ε UInt32).Tells (Has files)
      (.ok (UInt32.ofNat (entriesAt files base))) := by
  refine (readRegister_tells base versionRegister).bind_ok ?_
  have same (version : UInt32) :
      ((version >>> 16) &&& 0xFF) + 1 = UInt32.ofNat (version.toNat / 2 ^ 16 % 2 ^ 8 + 1) := by
    apply UInt32.toNat_inj.mp
    rw [UInt32.toNat_add, UInt32.toNat_and, UInt32.toNat_shiftRight, UInt32.toNat_ofNat']
    rw [← Nat.and_two_pow_sub_one_eq_mod _ 8, ← Nat.shiftRight_eq_div_pow]
    rfl
  rw [same]
  exact .pure _

theorem ioApicId_tells (base : UInt32) :
    (ioApicId base : Action Fabric ε UInt8).Tells (Has files) (.ok (idAt files base)) := by
  refine (readRegister_tells base idRegister).bind_ok ?_
  have same (id : UInt32) :
      ((id >>> 24) &&& 0xF).toUInt8 = UInt8.ofNat (id.toNat / 2 ^ 24 % 2 ^ 4) := by
    apply UInt8.toNat_inj.mp
    rw [UInt32.toNat_toUInt8, UInt32.toNat_and, UInt32.toNat_shiftRight, UInt8.toNat_ofNat']
    rw [← Nat.and_two_pow_sub_one_eq_mod _ 4, ← Nat.shiftRight_eq_div_pow]
    rfl
  rw [same]
  exact .pure _

end FirmwareTables.Fabric
