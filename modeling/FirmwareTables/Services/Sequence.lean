import FirmwareTables.Services.Error

set_option autoImplicit false

namespace FirmwareTables.Services

variable {ε α : Type}

-- Reads on; `done` holds the items read so far, newest first.
def readOnto (read : Nat → Except ε α) : List α → Nat → Nat → Except ε (List α)
  | done, _, 0 => .ok done.reverse
  | done, first, count + 1 =>
    match read first with
    | .ok item => readOnto read (item :: done) (first + 1) count
    | .error e => .error e

def readRange (read : Nat → Except ε α) (first count : Nat) : Except ε (List α) :=
  readOnto read [] first count

theorem readOnto_eq (read : Nat → Except ε α) (done : List α) (first count : Nat) :
    readOnto read done first count = (readRange read first count).map (done.reverse ++ ·) := by
  unfold readRange
  induction count generalizing done first with
  | zero => simp [readOnto, Except.map]
  | succ count ih =>
      cases found : read first with
      | error e => simp [readOnto, found, Except.map]
      | ok item =>
          simp only [readOnto, found]
          rw [ih (item :: done), ih [item]]
          cases readOnto read [] (first + 1) count <;> simp [Except.map]

@[simp] theorem readRange_zero (read : Nat → Except ε α) (first : Nat) :
    readRange read first 0 = .ok [] := rfl

theorem readRange_succ (read : Nat → Except ε α) (first count : Nat) :
    readRange read first (count + 1) =
      (read first).bind fun item => (readRange read (first + 1) count).map (item :: ·) := by
  cases found : read first with
  | error e => simp [readRange, readOnto, found, Except.bind]
  | ok item =>
      simp only [readRange, readOnto, found, Except.bind]
      rw [readOnto_eq]
      rfl

theorem readRange_eq_ok_iff {read : Nat → Except ε α} {first count : Nat} {items : List α} :
    readRange read first count = .ok items ↔
      items.length = count ∧ ∀ i (inside : i < items.length), read (first + i) = .ok items[i] := by
  induction count generalizing first items with
  | zero =>
      rw [readRange_zero, Except.ok.injEq, List.length_eq_zero_iff]
      constructor
      · rintro rfl
        exact ⟨rfl, fun i inside => absurd inside (Nat.not_lt_zero i)⟩
      · exact fun ⟨empty, _⟩ => empty.symm
  | succ count ih =>
      rw [readRange_succ]
      constructor
      · intro done
        cases head : read first with
        | error e => simp [head, Except.bind] at done
        | ok item =>
            cases tail : readRange read (first + 1) count with
            | error e => simp [head, tail, Except.bind, Except.map] at done
            | ok rest =>
                simp only [head, tail, Except.bind, Except.map, Except.ok.injEq] at done
                obtain ⟨size, reads⟩ := ih.mp tail
                subst done
                refine ⟨by rw [List.length_cons, size], ?_⟩
                intro i inside
                cases i with
                | zero => exact head
                | succ i =>
                    have later := reads i (Nat.lt_of_succ_lt_succ inside)
                    rwa [Nat.add_right_comm] at later
      · rintro ⟨size, reads⟩
        cases items with
        | nil => cases size
        | cons item rest =>
            have head := reads 0 (Nat.succ_pos _)
            have tail : readRange read (first + 1) count = .ok rest := by
              refine ih.mpr ⟨Nat.succ.inj size, ?_⟩
              intro i inside
              have later := reads (i + 1) (Nat.succ_lt_succ inside)
              rwa [← Nat.add_assoc, Nat.add_right_comm] at later
            rw [Nat.add_zero, List.getElem_cons_zero] at head
            simp only [head, tail, Except.bind, Except.map]

def beforeFailure : List (Except ε α) → List α
  | .ok item :: rest => item :: beforeFailure rest
  | _ => []

end FirmwareTables.Services
