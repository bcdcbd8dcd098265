import FirmwareTables.Madt.Walk
import Mathlib

set_option autoImplicit false

namespace FirmwareTables.Madt

def Sized (piece : Bytes) : Prop :=
  ∃ number length rest, piece = number :: length :: rest ∧ length.toNat = piece.length

theorem Sized.two_le {piece : Bytes} (sized : Sized piece) : 2 ≤ piece.length := by
  obtain ⟨number, length, rest, rfl, _⟩ := sized
  simp

theorem cut_eq_some_iff {bytes front back : Bytes} :
    cut bytes = some (front, back) ↔ bytes = front ++ back ∧ Sized front := by
  constructor
  · intro found
    refine ⟨(cut_eq_some found).1, ?_⟩
    match bytes, found with
    | number :: length :: rest, found =>
      rw [cut] at found
      split at found
      next long =>
        obtain ⟨size, whole⟩ := Bytes.splitExact_eq_some_iff.mp found
        have atLeast : 2 ≤ length.toNat := UInt8.le_iff_toNat_le.mp long
        rcases front with _ | ⟨first, _ | ⟨second, more⟩⟩
        · rw [List.length_nil] at size
          omega
        · rw [List.length_singleton] at size
          omega
        · simp only [List.cons_append, List.cons.injEq] at whole
          obtain ⟨rfl, rfl, _⟩ := whole
          exact ⟨number, length, more, rfl, size.symm⟩
      next => cases found
    | [], found => cases found
    | [_], found => cases found
  · rintro ⟨rfl, number, length, rest, rfl, size⟩
    have long : 2 ≤ length := by
      rw [UInt8.le_iff_toNat_le, size]
      simp
    have whole : cut (number :: length :: rest ++ back) =
        Bytes.splitExact (number :: length :: rest).length (number :: length :: rest ++ back) := by
      rw [← size]
      simp [cut, long]
    rw [whole, Bytes.splitExact_append]

def Entry.Decoded (entry : Entry) : Prop :=
  Sized entry.bytes ∧ Structure.read entry.bytes = some entry.content

def Tiled : Nat → List Entry → Prop
  | _, [] => True
  | offset, entry :: rest =>
    entry.offset = offset ∧ entry.Decoded ∧ Tiled (offset + entry.bytes.length) rest

def area (found : List Entry) : Bytes := found.flatMap (·.bytes)

@[simp] theorem area_nil : area [] = [] := rfl

@[simp] theorem area_cons (entry : Entry) (rest : List Entry) :
    area (entry :: rest) = entry.bytes ++ area rest := rfl

theorem walkFrom_eq_iff (offset : Nat) (bytes : Bytes) (found : List Entry) :
    walkFrom offset bytes = { entries := found, stuck := none } ↔
      Tiled offset found ∧ area found = bytes := by
  fun_induction walkFrom offset bytes generalizing found with
  | case1 offset =>
    cases found with
    | nil => simp [Tiled]
    | cons entry rest =>
      simp only [Walk.mk.injEq, List.nil_eq, reduceCtorEq, false_and, false_iff]
      rintro ⟨⟨_, decoded, _⟩, whole⟩
      have long := decoded.1.two_le
      simp only [area_cons, List.append_eq_nil_iff] at whole
      simp [whole.1] at long
  | case2 offset b more stuck =>
    refine iff_of_false (by simp) ?_
    rintro ⟨tiled, whole⟩
    cases found with
    | nil => cases whole
    | cons entry rest =>
      have again := cut_eq_some_iff.mpr ⟨whole.symm, tiled.2.1.1⟩
      rw [stuck] at again
      cases again
  | case3 offset b more front back found' unread =>
    refine iff_of_false (by simp) ?_
    rintro ⟨tiled, whole⟩
    cases found with
    | nil => cases whole
    | cons entry rest =>
      have again := cut_eq_some_iff.mpr ⟨whole.symm, tiled.2.1.1⟩
      rw [found'] at again
      cases again
      rw [tiled.2.1.2] at unread
      cases unread
  | case4 offset b more front back isCut content read later ih =>
    obtain ⟨whole, sized⟩ := cut_eq_some_iff.mp isCut
    constructor
    · intro walked
      cases found with
      | nil => simp at walked
      | cons entry rest =>
        simp only [Walk.mk.injEq, List.cons.injEq] at walked
        obtain ⟨⟨rfl, rest_eq⟩, notStuck⟩ := walked
        have tail := (ih rest).mp (by rw [← rest_eq, ← notStuck])
        exact ⟨⟨rfl, ⟨sized, read⟩, tail.1⟩, by rw [area_cons, tail.2, whole]⟩
    · rintro ⟨tiled, covers⟩
      cases found with
      | nil => cases covers
      | cons entry rest =>
        obtain ⟨rfl, decoded, tail⟩ := tiled
        -- The first entry of a tiling is what the walk cuts off here.
        have again := cut_eq_some_iff.mpr ⟨covers.symm, decoded.1⟩
        rw [isCut] at again
        cases again
        rw [decoded.2] at read
        cases read
        have walked := (ih rest).mpr ⟨tail, rfl⟩
        simp [later, walked]

end FirmwareTables.Madt
