import FirmwareTables.Proofs.Collation.Places

set_option autoImplicit false

namespace FirmwareTables.Collation

section Precedes

variable {α : Type} {items one two : List α} {a b : α}

def Precedes (items : List α) (a b : α) : Prop :=
  ∃ i j : Nat, i < j ∧ items[i]? = some a ∧ items[j]? = some b

theorem pairwise_precedes (items : List α) : items.Pairwise (Precedes items) := by
  rw [List.pairwise_iff_getElem]
  intro i j inside within less
  exact ⟨i, j, less, List.getElem?_eq_getElem inside, List.getElem?_eq_getElem within⟩

theorem Precedes.asymm (distinct : items.Nodup) (first : Precedes items a b) : ¬Precedes items b a := by
  rintro ⟨k, l, more, kb, la⟩
  obtain ⟨i, j, less, ia, jb⟩ := first
  obtain ⟨inside, _⟩ := List.getElem?_eq_some_iff.mp ia
  obtain ⟨within, _⟩ := List.getElem?_eq_some_iff.mp jb
  have same : i = l := (List.getElem?_inj inside distinct).mp (ia.trans la.symm)
  have equal : j = k := (List.getElem?_inj within distinct).mp (jb.trans kb.symm)
  omega

theorem nodup_of_precedes (apart : ∀ a, ¬Precedes items a a) : items.Nodup := by
  refine (pairwise_precedes items).imp ?_
  rintro a b first rfl
  exact apart a first

theorem eq_of_precedes (distinct : one.Nodup) (members : ∀ a, a ∈ two ↔ a ∈ one)
    (alike : ∀ a b, Precedes one a b ↔ Precedes two a b) : one = two := by
  have apart : two.Nodup := by
    apply nodup_of_precedes
    intro a twice
    have first := (alike a a).mpr twice
    exact first.asymm distinct first
  have perm : one.Perm two := (List.perm_ext_iff_of_nodup distinct apart).mpr fun a => (members a).symm
  have sorted : two.Pairwise (Precedes one) :=
    (pairwise_precedes two).imp fun {a b} first => (alike a b).mpr first
  refine perm.eq_of_pairwise ?_ (pairwise_precedes one) sorted
  intro a b _ _ first second
  exact absurd second (first.asymm distinct)

end Precedes

-- The list has the two identifiers at positions of which the first has the smaller key.
def Before (collation : Collation) (ids : List UInt32) (a b : UInt32) : Prop :=
  ∃ p q : Fin ids.length, ids[p] = a ∧ ids[q] = b ∧
    @placeKey _ identifiers collation ids p < @placeKey _ identifiers collation ids q

theorem before_iff_precedes (collation : Collation) (ids : List UInt32) (a b : UInt32) :
    collation.Before ids a b ↔ Precedes (@arrange _ identifiers collation ids) a b := by
  have order := @pairwise_orderedPositions _ identifiers collation ids
  have perm := @orderedPositions_perm _ identifiers collation ids
  rw [List.pairwise_iff_getElem] at order
  rw [@arrange_eq_map_positions _ identifiers collation ids]
  constructor
  · rintro ⟨p, q, rfl, rfl, less⟩
    obtain ⟨i, inside, rfl⟩ := List.getElem_of_mem (perm.mem_iff.mpr (List.mem_finRange p))
    obtain ⟨j, within, rfl⟩ := List.getElem_of_mem (perm.mem_iff.mpr (List.mem_finRange q))
    refine ⟨i, j, ?_, by simp [inside], by simp [within]⟩
    rcases Nat.lt_trichotomy i j with earlier | rfl | later
    · exact earlier
    · exact absurd less (lt_irrefl _)
    · exact absurd (order j i within inside later) (lt_asymm less)
  · rintro ⟨i, j, less, ia, jb⟩
    obtain ⟨inside, rfl⟩ := List.getElem?_eq_some_iff.mp ia
    obtain ⟨within, rfl⟩ := List.getElem?_eq_some_iff.mp jb
    rw [List.length_map] at inside within
    refine ⟨_, _, ?_, ?_, order i j inside within less⟩
    · rw [List.getElem_map]
    · rw [List.getElem_map]

theorem arrange_eq_iff {collation : Collation} {one two : List UInt32} (distinct : one.Nodup)
    (members : ∀ id, id ∈ two ↔ id ∈ one) :
    @arrange _ identifiers collation one = @arrange _ identifiers collation two ↔
      ∀ a b, collation.Before one a b ↔ collation.Before two a b := by
  simp only [before_iff_precedes]
  have first := @arrange_perm _ identifiers collation one
  have second := @arrange_perm _ identifiers collation two
  constructor
  · intro same a b
    rw [same]
  · intro alike
    refine eq_of_precedes (first.nodup_iff.mpr distinct) ?_ alike
    intro id
    rw [first.mem_iff, second.mem_iff, members]

end FirmwareTables.Collation
