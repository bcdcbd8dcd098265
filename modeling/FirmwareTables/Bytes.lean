set_option autoImplicit false

namespace FirmwareTables

abbrev Bytes := List UInt8

namespace Bytes

def littleEndian : Nat → Nat → Bytes
  | 0, _ => []
  | width + 1, n => UInt8.ofNat n :: littleEndian width (n / 256)

def ofLittleEndian : Bytes → Nat
  | [] => 0
  | b :: rest => b.toNat + 256 * ofLittleEndian rest

@[simp] theorem length_littleEndian (width n : Nat) : (littleEndian width n).length = width := by
  induction width generalizing n with
  | zero => rfl
  | succ width ih => simp [littleEndian, ih]

def word16 (w : UInt16) : Bytes := littleEndian 2 w.toNat

def word32 (w : UInt32) : Bytes := littleEndian 4 w.toNat

def word64 (w : UInt64) : Bytes := littleEndian 8 w.toNat

def toWord16 (bytes : Bytes) : UInt16 := UInt16.ofNat (ofLittleEndian bytes)

def toWord32 (bytes : Bytes) : UInt32 := UInt32.ofNat (ofLittleEndian bytes)

def toWord64 (bytes : Bytes) : UInt64 := UInt64.ofNat (ofLittleEndian bytes)

@[simp] theorem length_word16 (w : UInt16) : (word16 w).length = 2 := by simp [word16]

@[simp] theorem length_word32 (w : UInt32) : (word32 w).length = 4 := by simp [word32]

@[simp] theorem length_word64 (w : UInt64) : (word64 w).length = 8 := by simp [word64]

def splitExact : Nat → Bytes → Option (Bytes × Bytes)
  | 0, rest => some ([], rest)
  | _ + 1, [] => none
  | n + 1, b :: rest => (splitExact n rest).map fun (taken, left) => (b :: taken, left)

theorem splitExact_eq (n : Nat) (bytes : Bytes) :
    splitExact n bytes =
      if n ≤ bytes.length then some (bytes.take n, bytes.drop n) else none := by
  induction n generalizing bytes with
  | zero => simp [splitExact]
  | succ n ih =>
      cases bytes with
      | nil => simp [splitExact]
      | cons b rest =>
          by_cases h : n ≤ rest.length <;> simp [splitExact, ih, h]

def overwrite (offset : Nat) (new old : Bytes) : Bytes :=
  old.take offset ++ new ++ old.drop (offset + new.length)

theorem length_overwrite {offset : Nat} {new old : Bytes} (fits : offset + new.length ≤ old.length) :
    (overwrite offset new old).length = old.length := by
  simp only [overwrite, List.length_append, List.length_take, List.length_drop]
  omega

theorem overwrite_append {front chunk back new : Bytes} {offset : Nat}
    (fits : offset + new.length ≤ chunk.length) :
    overwrite (front.length + offset) new (front ++ chunk ++ back) =
      front ++ overwrite offset new chunk ++ back := by
  have before : offset ≤ chunk.length := by omega
  simp only [overwrite, List.append_assoc, Nat.add_assoc, List.take_length_add_append,
    List.drop_length_add_append, List.take_append_of_le_length before,
    List.drop_append_of_le_length fits]

theorem overwrite_singleton {offset : Nat} {old : Bytes} (b : UInt8) (inside : offset < old.length) :
    overwrite offset [b] old = old.set offset b := by
  rw [overwrite, List.set_eq_take_append_cons_drop, if_pos inside]
  simp

theorem overwrite_of_prefix {offset : Nat} {new old : Bytes} (there : new <+: old.drop offset) :
    overwrite offset new old = old := by
  obtain ⟨back, split⟩ := there
  have rest : old.drop (offset + new.length) = back := by
    rw [← List.drop_drop, ← split, List.drop_left]
  rw [overwrite, rest, List.append_assoc, split, List.take_append_drop]

theorem splitExact_append (taken rest : Bytes) :
    splitExact taken.length (taken ++ rest) = some (taken, rest) := by
  simp [splitExact_eq]

theorem splitExact_eq_some_iff {n : Nat} {bytes front rest : Bytes} :
    splitExact n bytes = some (front, rest) ↔ front.length = n ∧ bytes = front ++ rest := by
  constructor
  · intro split
    rw [splitExact_eq] at split
    by_cases enough : n ≤ bytes.length
    · rw [if_pos enough, Option.some.injEq, Prod.mk.injEq] at split
      obtain ⟨rfl, rfl⟩ := split
      exact ⟨List.length_take_of_le enough, (List.take_append_drop n bytes).symm⟩
    · rw [if_neg enough] at split
      cases split
  · rintro ⟨rfl, rfl⟩
    exact splitExact_append front rest

end Bytes

structure FixedBytes (n : Nat) where
  bytes : Bytes
  length_eq : bytes.length = n
  deriving DecidableEq

namespace FixedBytes

attribute [simp] FixedBytes.length_eq

def padded (n : Nat) (filler : UInt8) (bytes : Bytes) : FixedBytes n where
  bytes := bytes.take n ++ List.replicate (n - bytes.length) filler
  length_eq := by
    simp only [List.length_append, List.length_take, List.length_replicate]
    omega

def ofText (n : Nat) (text : String) : FixedBytes n :=
  padded n 0x20 text.toUTF8.toList

def read (n : Nat) (bytes : Bytes) : Option (FixedBytes n × Bytes) :=
  if h : n ≤ bytes.length then
    some (⟨bytes.take n, by simp only [List.length_take]; omega⟩, bytes.drop n)
  else none

theorem read_append {n : Nat} (field : FixedBytes n) (rest : Bytes) :
    read n (field.bytes ++ rest) = some (field, rest) := by
  have fits : n ≤ (field.bytes ++ rest).length := by simp
  have front : (field.bytes ++ rest).take n = field.bytes := by
    rw [List.take_append_of_le_length (by simp), List.take_of_length_le (by simp)]
  have back : (field.bytes ++ rest).drop n = rest := by
    rw [List.drop_append_of_le_length (by simp), List.drop_of_length_le (by simp)]
    rfl
  simp only [read, fits, dif_pos, front, back]

end FixedBytes

end FirmwareTables
