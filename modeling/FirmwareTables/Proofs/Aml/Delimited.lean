import FirmwareTables.Proofs.Aml.Reader

set_option autoImplicit false

namespace FirmwareTables.Aml

theorem formRoom_le {count : Nat} (few : count ≤ 3) : formRoom count ≤ 2 ^ 28 := by
  interval_cases count <;> decide

theorem lengthForm_of_lead {lead : UInt8} {high : Bytes} {count : Nat}
    (top : lead.toNat / 64 = count + 1) (reserved : lead.toNat / 16 % 4 = 0)
    (follow : high.length = count + 1) :
    lengthForm (count + 1) (lead.toNat % 16 + 16 * Bytes.ofLittleEndian high) = lead :: high := by
  have low : (lead.toNat % 16 + 16 * Bytes.ofLittleEndian high) % 16 = lead.toNat % 16 := by omega
  have quotient : (lead.toNat % 16 + 16 * Bytes.ofLittleEndian high) / 16 =
      Bytes.ofLittleEndian high := by omega
  have whole : 64 * (count + 1) + lead.toNat % 16 = lead.toNat := by omega
  rw [lengthForm, low, quotient, whole, UInt8.ofNat_toNat, ← follow,
    Bytes.littleEndian_ofLittleEndian]

theorem exists_lengthForm {bytes rest : Bytes} {length : Nat}
    (read : readPackageLength bytes = some (length, rest)) :
    ∃ count, count ≤ 3 ∧ length < formRoom count ∧ bytes = lengthForm count length ++ rest := by
  match bytes with
  | [] => cases read
  | lead :: more =>
    have small := lead.toNat_lt
    match top : lead.toNat / 64 with
    | 0 =>
      simp only [readPackageLength, top, if_true, Option.some.injEq, Prod.mk.injEq] at read
      obtain ⟨rfl, rfl⟩ := read
      refine ⟨0, by omega, ?_, ?_⟩
      · rw [formRoom]
        omega
      · simp [lengthForm]
    | count + 1 =>
      by_cases reserved : lead.toNat / 16 % 4 = 0
      · simp only [readPackageLength, top, if_neg (Nat.succ_ne_zero count), if_pos reserved,
          Option.map_eq_some_iff, Prod.exists, Prod.mk.injEq] at read
        obtain ⟨high, behind, split, rfl, rfl⟩ := read
        obtain ⟨follow, rfl⟩ := Bytes.splitExact_eq_some_iff.mp split
        have bound := Bytes.ofLittleEndian_lt high
        rw [follow] at bound
        refine ⟨count + 1, by omega, ?_, ?_⟩
        · rw [formRoom]
          omega
        · rw [lengthForm_of_lead top reserved follow, List.cons_append]
      · simp only [readPackageLength, top, if_neg (Nat.succ_ne_zero count), if_neg reserved] at read
        cases read

theorem readPackageLength_eq_some_iff {bytes rest : Bytes} {length : Nat} :
    readPackageLength bytes = some (length, rest) ↔
      ∃ count, count ≤ 3 ∧ length < formRoom count ∧ bytes = lengthForm count length ++ rest := by
  constructor
  · exact exists_lengthForm
  · rintro ⟨count, few, room, rfl⟩
    exact readPackageLength_lengthForm few room rest

theorem eq_lengthForm_of_read {form rest : Bytes} {length : Nat}
    (read : readPackageLength (form ++ rest) = some (length, rest)) :
    ∃ count, count ≤ 3 ∧ length < formRoom count ∧ form = lengthForm count length := by
  obtain ⟨count, few, room, whole⟩ := readPackageLength_eq_some_iff.mp read
  exact ⟨count, few, room, List.append_cancel_right whole⟩

theorem packageLengthSize_le {body count : Nat} (room : body + (count + 1) < formRoom count) :
    packageLengthSize body ≤ count + 1 := by
  match count with
  | 0 =>
    have one : body + 1 < 0x40 := room
    rw [packageLengthSize, if_pos one]
  | 1 =>
    have two : body + 2 < 0x1000 := room
    rw [packageLengthSize]
    split_ifs <;> omega
  | 2 =>
    have three : body + 3 < 0x100000 := room
    rw [packageLengthSize]
    split_ifs <;> omega
  | count + 3 =>
    have most := (packageLengthSize_bounds body).2
    omega

structure Delimited (body : Bytes) : Prop where
  reads : ∀ rest, readPackageLength (packageLength body.length ++ rest) =
    some (body.length + (packageLength body.length).length, rest)
  -- In fewer bytes there is only a length that falls short of the body and these bytes.
  shortest : ∀ (form rest : Bytes) (length : Nat),
    form.length < (packageLength body.length).length →
      readPackageLength (form ++ rest) = some (length, rest) → length < body.length + form.length
  only : ∀ form rest : Bytes, form.length ≤ (packageLength body.length).length →
    readPackageLength (form ++ rest) =
      some (body.length + (packageLength body.length).length, rest) →
    form = packageLength body.length
  ends : ∀ operator rest : Bytes,
    readPackage ((package operator body ++ rest).drop operator.length) = some (body, rest)

section Shortest

variable {body form rest : Bytes} {length : Nat}

theorem lt_of_shorter_form (shorter : form.length < (packageLength body.length).length)
    (read : readPackageLength (form ++ rest) = some (length, rest)) :
    length < body.length + form.length := by
  obtain ⟨count, _, room, rfl⟩ := eq_lengthForm_of_read read
  rw [length_packageLength, length_lengthForm] at shorter
  rw [length_lengthForm]
  -- Otherwise a shorter form would have room for the whole, and the form that is written is the first
  -- that has.
  by_contra covers
  have fits : body.length + (count + 1) < formRoom count := by omega
  have atMost := packageLengthSize_le fits
  omega

theorem eq_packageLength_of_read (atMost : form.length ≤ (packageLength body.length).length)
    (read : readPackageLength (form ++ rest) =
      some (body.length + (packageLength body.length).length, rest)) :
    form = packageLength body.length := by
  have notShorter : ¬form.length < (packageLength body.length).length := by
    intro shorter
    have short := lt_of_shorter_form shorter read
    omega
  obtain ⟨count, _, _, rfl⟩ := eq_lengthForm_of_read read
  rw [length_lengthForm, length_packageLength] at atMost notShorter
  have size : packageLengthSize body.length = count + 1 := by omega
  rw [length_packageLength, size, packageLength_eq_lengthForm size]

theorem readPackage_package (operator rest : Bytes)
    (fits : body.length + packageLengthSize body.length < 2 ^ 28) :
    readPackage ((package operator body ++ rest).drop operator.length) = some (body, rest) := by
  rw [package, List.append_assoc, List.append_assoc, List.drop_left]
  exact readPackage_append body rest fits

end Shortest

/-- The length in front of a body delimits it, in the fewest bytes, exactly when both together are under
2 ^ 28 bytes. -/
theorem delimited_iff (body : Bytes) :
    Delimited body ↔ body.length + (packageLength body.length).length < 2 ^ 28 := by
  constructor
  · intro delimited
    obtain ⟨count, few, room, _⟩ := readPackageLength_eq_some_iff.mp (delimited.reads [])
    exact Nat.lt_of_lt_of_le room (formRoom_le few)
  · intro fits
    rw [length_packageLength] at fits
    refine ⟨fun rest => ?_, fun _ _ _ => lt_of_shorter_form, fun _ _ => eq_packageLength_of_read,
      fun operator rest => readPackage_package operator rest fits⟩
    rw [length_packageLength]
    exact readPackageLength_append rest fits

example : packageLength 62 = [0x3F] ∧ packageLength 63 = [0x41, 0x04] ∧
    packageLength 4093 = [0x4F, 0xFF] ∧ packageLength 4094 = [0x81, 0x00, 0x01] ∧
    packageLength 1048572 = [0x8F, 0xFF, 0xFF] ∧
    packageLength 1048573 = [0xC1, 0x00, 0x00, 0x01] := by decide

end FirmwareTables.Aml
