import FirmwareTables.Madt.Structure
import FirmwareTables.Proofs.Table.Header

set_option autoImplicit false

namespace FirmwareTables.Madt

def layoutSize (number : UInt8) : Nat :=
  if number = ioApicType then 12
  else if number = interruptOverrideType then 10
  else if number = localX2ApicType then localX2ApicSize
  else if number = localX2ApicNmiType then 12
  else 2

namespace Structure

def number : Structure → UInt8
  | .ioApic _ => ioApicType
  | .interruptOverride _ => interruptOverrideType
  | .localX2Apic _ => localX2ApicType
  | .localX2ApicNmi _ => localX2ApicNmiType
  | .other number _ => number

def lengthByte : Structure → UInt8
  | .ioApic fields => fields.length
  | .interruptOverride fields => fields.length
  | .localX2Apic fields => fields.length
  | .localX2ApicNmi fields => fields.length
  | .other _ length => length

-- The types with a layout are not read as any other type.
def Proper : Structure → Prop
  | .other number _ => number ≠ ioApicType ∧ number ≠ interruptOverrideType ∧
      number ≠ localX2ApicType ∧ number ≠ localX2ApicNmiType
  | _ => True

theorem encode_front (content : Structure) :
    ∃ rest, content.encode = content.number :: content.lengthByte :: rest := by
  cases content with
  | ioApic fields => exact ⟨_, rfl⟩
  | interruptOverride fields => exact ⟨_, rfl⟩
  | localX2Apic fields => exact ⟨_, rfl⟩
  | localX2ApicNmi fields => exact ⟨_, rfl⟩
  | other number length => exact ⟨_, rfl⟩

theorem word16_bytes (w : UInt16) : ∃ b0 b1, Bytes.word16 w = [b0, b1] := ⟨_, _, rfl⟩

theorem word32_bytes (w : UInt32) : ∃ b0 b1 b2 b3, Bytes.word32 w = [b0, b1, b2, b3] :=
  ⟨_, _, _, _, rfl⟩

theorem read_encode_append (content : Structure) (proper : content.Proper) (rest : Bytes) :
    read (content.encode ++ rest) = some content := by
  cases content with
  | ioApic fields =>
    obtain ⟨a0, a1, a2, a3, address⟩ := word32_bytes fields.address
    obtain ⟨g0, g1, g2, g3, gsi⟩ := word32_bytes fields.gsiBase
    simp only [encode, address, gsi, List.cons_append, List.nil_append, read, readIoApic, if_true]
    simp only [← address, ← gsi, Bytes.toWord32_word32]
  | interruptOverride fields =>
    obtain ⟨g0, g1, g2, g3, gsi⟩ := word32_bytes fields.gsi
    obtain ⟨f0, f1, flags⟩ := word16_bytes fields.flags
    have other : interruptOverrideType ≠ ioApicType := by decide
    simp only [encode, gsi, flags, List.cons_append, List.nil_append, read, readInterruptOverride,
      other, if_false, if_true]
    simp only [← gsi, ← flags, Bytes.toWord32_word32, Bytes.toWord16_word16]
  | localX2Apic fields =>
    obtain ⟨r0, r1, reserved⟩ := word16_bytes fields.reserved
    obtain ⟨i0, i1, i2, i3, id⟩ := word32_bytes fields.id
    obtain ⟨f0, f1, f2, f3, flags⟩ := word32_bytes fields.flags
    obtain ⟨u0, u1, u2, u3, uid⟩ := word32_bytes fields.uid
    have other1 : localX2ApicType ≠ ioApicType := by decide
    have other2 : localX2ApicType ≠ interruptOverrideType := by decide
    simp only [encode, reserved, id, flags, uid, List.cons_append, List.nil_append, read,
      readLocalX2Apic, other1, other2, if_false, if_true]
    simp only [← reserved, ← id, ← flags, ← uid, Bytes.toWord32_word32, Bytes.toWord16_word16]
  | localX2ApicNmi fields =>
    obtain ⟨f0, f1, flags⟩ := word16_bytes fields.flags
    obtain ⟨u0, u1, u2, u3, uid⟩ := word32_bytes fields.uid
    obtain ⟨length, fieldFlags, fieldUid, lint, ⟨reserved, three⟩⟩ := fields
    match reserved, three with
    | [r0, r1, r2], _ =>
      have other1 : localX2ApicNmiType ≠ ioApicType := by decide
      have other2 : localX2ApicNmiType ≠ interruptOverrideType := by decide
      have other3 : localX2ApicNmiType ≠ localX2ApicType := by decide
      simp only at flags uid
      simp only [encode, flags, uid, List.cons_append, List.nil_append, read, readLocalX2ApicNmi,
        other1, other2, other3, if_false, if_true]
      simp only [← flags, ← uid, Bytes.toWord32_word32, Bytes.toWord16_word16]
  | other n length =>
    obtain ⟨h1, h2, h3, h4⟩ := proper
    simp [encode, read, h1, h2, h3, h4]

theorem exists_encode_append {n length : UInt8} {rest : Bytes}
    (long : layoutSize n ≤ (n :: length :: rest).length) :
    ∃ (content : Structure) (back : Bytes),
      content.Proper ∧ content.number = n ∧ n :: length :: rest = content.encode ++ back := by
  simp only [List.length_cons] at long
  by_cases h1 : n = ioApicType
  · subst h1
    rw [layoutSize, if_pos rfl] at long
    obtain ⟨id, r1, e1, l1⟩ := Bytes.exists_cons rest (by omega)
    obtain ⟨reserved, r2, e2, l2⟩ := Bytes.exists_cons r1 (by omega)
    obtain ⟨address, r3, e3, l3⟩ := Bytes.exists_word32_append r2 (by omega)
    obtain ⟨gsiBase, r4, e4, l4⟩ := Bytes.exists_word32_append r3 (by omega)
    refine ⟨.ioApic { length, id, reserved, address, gsiBase }, r4, trivial, rfl, ?_⟩
    simp [encode, e1, e2, e3, e4]
  by_cases h2 : n = interruptOverrideType
  · subst h2
    rw [layoutSize, if_neg h1, if_pos rfl] at long
    obtain ⟨bus, r1, e1, l1⟩ := Bytes.exists_cons rest (by omega)
    obtain ⟨source, r2, e2, l2⟩ := Bytes.exists_cons r1 (by omega)
    obtain ⟨gsi, r3, e3, l3⟩ := Bytes.exists_word32_append r2 (by omega)
    obtain ⟨flags, r4, e4, l4⟩ := Bytes.exists_word16_append r3 (by omega)
    refine ⟨.interruptOverride { length, bus, source, gsi, flags }, r4, trivial, rfl, ?_⟩
    simp [encode, e1, e2, e3, e4]
  by_cases h3 : n = localX2ApicType
  · subst h3
    rw [layoutSize, if_neg h1, if_neg h2, if_pos rfl, localX2ApicSize] at long
    obtain ⟨reserved, r1, e1, l1⟩ := Bytes.exists_word16_append rest (by omega)
    obtain ⟨id, r2, e2, l2⟩ := Bytes.exists_word32_append r1 (by omega)
    obtain ⟨flags, r3, e3, l3⟩ := Bytes.exists_word32_append r2 (by omega)
    obtain ⟨uid, r4, e4, l4⟩ := Bytes.exists_word32_append r3 (by omega)
    refine ⟨.localX2Apic { length, reserved, id, flags, uid }, r4, trivial, rfl, ?_⟩
    simp [encode, e1, e2, e3, e4]
  by_cases h4 : n = localX2ApicNmiType
  · subst h4
    rw [layoutSize, if_neg h1, if_neg h2, if_neg h3, if_pos rfl] at long
    obtain ⟨flags, r1, e1, l1⟩ := Bytes.exists_word16_append rest (by omega)
    obtain ⟨uid, r2, e2, l2⟩ := Bytes.exists_word32_append r1 (by omega)
    obtain ⟨lint, r3, e3, l3⟩ := Bytes.exists_cons r2 (by omega)
    obtain ⟨reserved, r4, e4, l4⟩ := FixedBytes.exists_append 3 r3 (by omega)
    refine ⟨.localX2ApicNmi { length, flags, uid, lint, reserved }, r4, trivial, rfl, ?_⟩
    simp [encode, e1, e2, e3, e4]
  · exact ⟨.other n length, rest, ⟨h1, h2, h3, h4⟩, rfl, rfl⟩

theorem length_of_readIoApic {piece : Bytes} {content : Structure}
    (found : readIoApic piece = some content) : 12 ≤ piece.length := by
  unfold readIoApic at found
  split at found
  · simp
  · cases found

theorem length_of_readInterruptOverride {piece : Bytes} {content : Structure}
    (found : readInterruptOverride piece = some content) : 10 ≤ piece.length := by
  unfold readInterruptOverride at found
  split at found
  · simp
  · cases found

theorem length_of_readLocalX2Apic {piece : Bytes} {content : Structure}
    (found : readLocalX2Apic piece = some content) : localX2ApicSize ≤ piece.length := by
  unfold readLocalX2Apic at found
  split at found
  · simp [localX2ApicSize]
  · cases found

theorem length_of_readLocalX2ApicNmi {piece : Bytes} {content : Structure}
    (found : readLocalX2ApicNmi piece = some content) : 12 ≤ piece.length := by
  unfold readLocalX2ApicNmi at found
  split at found
  · simp
  · cases found

theorem layoutSize_le_of_read {n length : UInt8} {rest : Bytes} {content : Structure}
    (found : read (n :: length :: rest) = some content) :
    layoutSize n ≤ (n :: length :: rest).length := by
  simp only [read] at found
  unfold layoutSize
  by_cases h1 : n = ioApicType
  · rw [if_pos h1] at found ⊢
    exact length_of_readIoApic found
  by_cases h2 : n = interruptOverrideType
  · rw [if_neg h1, if_pos h2] at found ⊢
    exact length_of_readInterruptOverride found
  by_cases h3 : n = localX2ApicType
  · rw [if_neg h1, if_neg h2, if_pos h3] at found ⊢
    exact length_of_readLocalX2Apic found
  by_cases h4 : n = localX2ApicNmiType
  · rw [if_neg h1, if_neg h2, if_neg h3, if_pos h4] at found ⊢
    exact length_of_readLocalX2ApicNmi found
  · rw [if_neg h1, if_neg h2, if_neg h3, if_neg h4]
    simp

theorem read_eq_some_iff {piece : Bytes} {content : Structure} :
    read piece = some content ↔ content.Proper ∧ ∃ rest, piece = content.encode ++ rest := by
  constructor
  · intro found
    match piece, found with
    | n :: length :: rest, found =>
      obtain ⟨other, back, proper, _, whole⟩ := exists_encode_append (layoutSize_le_of_read found)
      rw [whole, read_encode_append other proper] at found
      cases found
      exact ⟨proper, back, whole⟩
    | [], found => cases found
    | [_], found => cases found
  · rintro ⟨proper, rest, rfl⟩
    exact read_encode_append content proper rest

end Structure

end FirmwareTables.Madt
