import Mathlib

set_option autoImplicit false

namespace FirmwareTables

variable {α κ : Type} [LinearOrder κ] (key : α → κ)

theorem decide_key_trans (a b c : α) (ab : decide (key a ≤ key b) = true)
    (bc : decide (key b ≤ key c) = true) : decide (key a ≤ key c) = true := by
  rw [decide_eq_true_eq] at ab bc ⊢
  exact le_trans ab bc

theorem decide_key_total (a b : α) : (decide (key a ≤ key b) || decide (key b ≤ key a)) = true := by
  rw [Bool.or_eq_true, decide_eq_true_eq, decide_eq_true_eq]
  exact le_total _ _

theorem pairwise_mergeSort_key (items : List α) :
    (items.mergeSort fun a b => decide (key a ≤ key b)).Pairwise fun a b => key a ≤ key b := by
  have sorted := List.pairwise_mergeSort (decide_key_trans key) (decide_key_total key) items
  exact sorted.imp fun ordered => of_decide_eq_true ordered

theorem filter_mergeSort_key (items : List α) (k : κ) :
    (items.mergeSort fun a b => decide (key a ≤ key b)).filter (key · = k) =
      items.filter (key · = k) := by
  have tied : (items.filter (key · = k)).Pairwise fun a b => decide (key a ≤ key b) = true := by
    apply List.pairwise_of_forall_mem_list
    intro a ha b hb
    have keyA : key a = k := of_decide_eq_true (List.mem_filter.mp ha).2
    have keyB : key b = k := of_decide_eq_true (List.mem_filter.mp hb).2
    rw [keyA, keyB]
    exact decide_eq_true le_rfl
  have kept : (items.filter (key · = k)).Sublist
      (items.mergeSort fun a b => decide (key a ≤ key b)) :=
    List.sublist_mergeSort (decide_key_trans key) (decide_key_total key) tied List.filter_sublist
  have within := kept.filter (key · = k)
  rw [List.filter_filter] at within
  simp only [Bool.and_self] at within
  have count := ((List.mergeSort_perm items fun a b => decide (key a ≤ key b)).filter
    (key · = k)).length_eq
  exact (within.eq_of_length count.symm).symm

theorem pairwise_mergeSort_stable {before : α → α → Prop} {items : List α}
    (ordered : items.Pairwise before) :
    (items.mergeSort fun a b => decide (key a ≤ key b)).Pairwise fun a b =>
      key a < key b ∨ key a = key b ∧ before a b := by
  rw [List.pairwise_iff_forall_sublist] at ordered ⊢
  intro a b pair
  have le : key a ≤ key b :=
    List.pairwise_iff_forall_sublist.mp (pairwise_mergeSort_key key items) pair
  rcases lt_or_eq_of_le le with lt | tie
  · exact Or.inl lt
  · refine Or.inr ⟨tie, ordered ?_⟩
    have kept := pair.filter (key · = key b)
    rw [filter_mergeSort_key] at kept
    simp only [tie, decide_true, List.filter_cons_of_pos, List.filter_nil] at kept
    exact kept.trans List.filter_sublist

theorem countP_key_lt {items : List α} (ordered : items.Pairwise fun a b => key a < key b)
    (i : Nat) (inside : i < items.length) :
    items.countP (fun a => key a < key items[i]) = i := by
  induction items generalizing i with
  | nil => cases inside
  | cons head rest ih =>
    obtain ⟨first, later⟩ := List.pairwise_cons.mp ordered
    cases i with
    | zero =>
      have none : rest.countP (fun a => key a < key head) = 0 := by
        rw [List.countP_eq_zero]
        intro a member smaller
        exact lt_asymm (of_decide_eq_true smaller) (first a member)
      simpa using none
    | succ i =>
      have bound : i < rest.length := Nat.lt_of_succ_lt_succ inside
      have smaller : key head < key rest[i] := first _ (List.getElem_mem bound)
      simp only [List.getElem_cons_succ, List.countP_cons, ih later i bound, smaller, decide_true,
        if_true]

end FirmwareTables
