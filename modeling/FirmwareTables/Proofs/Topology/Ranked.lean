import FirmwareTables.Proofs.Collation.Places

set_option autoImplicit false

namespace FirmwareTables.Topology.CcdOrder

def RepeatsAt (order : CcdOrder) (place : Nat) : Prop :=
  ∃ ccd, order.ccds[place]? = some ccd ∧ ccd ∈ order.ccds.take place

def FirstRepeat (order : CcdOrder) (ccd : UInt32) : Prop :=
  ∃ place, IsLeast {place | order.RepeatsAt place} place ∧ order.ccds[place]? = some ccd

theorem nodup_iff_not_mem_take {l : List UInt32} :
    l.Nodup ↔ ∀ (i : Nat) (c : UInt32), l[i]? = some c → c ∉ l.take i := by
  rw [List.nodup_iff_getElem?_ne_getElem?]
  constructor
  · intro differ i c here member
    obtain ⟨j, there⟩ := List.mem_iff_getElem?.mp member
    rw [List.getElem?_take] at there
    split at there
    · next less =>
      exact differ j i less (List.getElem?_eq_some_iff.mp here).1 (there.trans here.symm)
    · cases there
  · intro fresh i j less inside same
    have here : l[j]? = some l[j] := List.getElem?_eq_getElem inside
    refine fresh j _ here (List.mem_iff_getElem?.mpr ⟨i, ?_⟩)
    rw [List.getElem?_take_of_lt less, same, here]

theorem firstRepeatAfter_eq_some {seen l : List UInt32} {ccd : UInt32} :
    firstRepeatAfter seen l = some ccd ↔ ∃ front back, l = front ++ ccd :: back ∧ front.Nodup ∧
      (∀ c ∈ front, c ∉ seen) ∧ (ccd ∈ seen ∨ ccd ∈ front) := by
  -- The scan stops behind a front without repeats; `seen` takes up that front as it goes.
  induction l generalizing seen with
  | nil =>
    refine iff_of_false nofun ?_
    rintro ⟨front, back, whole, -⟩
    simp at whole
  | cons c rest ih =>
    by_cases known : c ∈ seen
    · rw [firstRepeatAfter, if_pos known]
      constructor
      · rintro ⟨⟩
        exact ⟨[], rest, rfl, List.nodup_nil, nofun, .inl known⟩
      · rintro ⟨front, back, whole, -, fresh, -⟩
        cases front with
        | nil =>
          rw [(List.cons.inj whole).1]
        | cons b front =>
          have same := (List.cons.inj whole).1
          exact absurd (same ▸ known) (fresh b (List.mem_cons_self ..))
    · rw [firstRepeatAfter, if_neg known, ih]
      constructor
      · rintro ⟨front, back, rfl, nodup, fresh, there⟩
        have new : c ∉ front := fun member => fresh c member (List.mem_cons_self ..)
        refine ⟨c :: front, back, rfl, List.nodup_cons.mpr ⟨new, nodup⟩, ?_, ?_⟩
        · rw [List.forall_mem_cons]
          exact ⟨known, fun b member seen => fresh b member (List.mem_cons_of_mem _ seen)⟩
        · rw [List.mem_cons] at there ⊢
          tauto
      · rintro ⟨front, back, whole, nodup, fresh, there⟩
        cases front with
        | nil =>
          have same := (List.cons.inj whole).1
          rcases there with there | there
          · exact absurd (same ▸ there) known
          · cases there
        | cons b front =>
          obtain ⟨rfl, rfl⟩ := List.cons.inj whole
          rw [List.nodup_cons] at nodup
          rw [List.forall_mem_cons] at fresh
          refine ⟨front, back, rfl, nodup.2, ?_, ?_⟩
          · intro x member
            rw [List.mem_cons, not_or]
            exact ⟨fun same => nodup.1 (same ▸ member), fresh.2 x member⟩
          · rw [List.mem_cons] at there ⊢
            tauto

theorem firstRepeatAfter_eq_none {seen l : List UInt32} :
    firstRepeatAfter seen l = none ↔ l.Nodup ∧ ∀ c ∈ l, c ∉ seen := by
  induction l generalizing seen with
  | nil => exact iff_of_true rfl ⟨List.nodup_nil, nofun⟩
  | cons c rest ih =>
    by_cases known : c ∈ seen
    · rw [firstRepeatAfter, if_pos known]
      exact iff_of_false nofun fun given => given.2 c (List.mem_cons_self ..) known
    · rw [firstRepeatAfter, if_neg known, ih, List.nodup_cons, List.forall_mem_cons]
      simp only [List.mem_cons, not_or]
      constructor
      · rintro ⟨nodup, fresh⟩
        exact ⟨⟨fun member => (fresh c member).1 rfl, nodup⟩, known, fun x member => (fresh x member).2⟩
      · rintro ⟨⟨new, nodup⟩, -, fresh⟩
        exact ⟨nodup, fun x member => ⟨fun same => new (same ▸ member), fresh x member⟩⟩

theorem firstRepeat_eq_none {order : CcdOrder} : order.firstRepeat = none ↔ order.ccds.Nodup := by
  rw [firstRepeat, firstRepeatAfter_eq_none]
  exact ⟨fun given => given.1, fun nodup => ⟨nodup, fun _ _ => List.not_mem_nil⟩⟩

theorem firstRepeat_eq_some {order : CcdOrder} {ccd : UInt32} :
    order.firstRepeat = some ccd ↔ order.FirstRepeat ccd := by
  rw [firstRepeat, firstRepeatAfter_eq_some]
  constructor
  · rintro ⟨front, back, whole, nodup, -, there⟩
    have earlier : ccd ∈ front := there.resolve_left List.not_mem_nil
    have here : order.ccds[front.length]? = some ccd := by
      rw [whole, List.getElem?_append_right (Nat.le_refl _), Nat.sub_self]
      rfl
    refine ⟨front.length, ⟨⟨ccd, here, ?_⟩, ?_⟩, here⟩
    · rw [whole, List.take_left]
      exact earlier
    · rintro place ⟨c, repeated, before⟩
      by_contra less
      have inside : place < front.length := Nat.lt_of_not_le less
      rw [whole, List.getElem?_append_left inside] at repeated
      rw [whole, List.take_append_of_le_length (Nat.le_of_lt inside)] at before
      exact nodup_iff_not_mem_take.mp nodup place c repeated before
  · rintro ⟨place, ⟨⟨c, here, earlier⟩, least⟩, same⟩
    obtain rfl : c = ccd := Option.some.inj (here.symm.trans same)
    obtain ⟨inside, there⟩ := List.getElem?_eq_some_iff.mp here
    refine ⟨order.ccds.take place, order.ccds.drop (place + 1), ?_, ?_, fun _ _ => List.not_mem_nil,
      .inr earlier⟩
    · rw [← there, List.getElem_cons_drop, List.take_append_drop]
    · rw [nodup_iff_not_mem_take]
      intro i b found before
      rw [List.getElem?_take] at found
      split at found
      · next less =>
        rw [List.take_take, Nat.min_eq_left (Nat.le_of_lt less)] at before
        exact absurd (least ⟨b, found, before⟩) (Nat.not_le.mpr less)
      · cases found

theorem all_ne_iff_nodup {l : List UInt32} (sorted : l.Pairwise (· ≤ ·)) :
    (l.zip l.tail).all (fun (a, b) => a ≠ b) = true ↔ l.Nodup := by
  induction l with
  | nil => exact iff_of_true rfl List.nodup_nil
  | cons a rest ih =>
    rw [List.pairwise_cons] at sorted
    cases rest with
    | nil => exact iff_of_true rfl (List.nodup_singleton a)
    | cons b rest =>
      have later := ih sorted.2
      rw [List.tail_cons] at later ⊢
      rw [List.zip_cons_cons, List.all_cons, Bool.and_eq_true, later, decide_eq_true_eq]
      rw [List.nodup_cons (a := a)]
      refine and_congr_left fun _ => ⟨fun differ member => ?_, fun absent same => ?_⟩
      · -- What stands behind `b` is not below it, and `a` is.
        have below : a < b := UInt32.lt_of_le_of_ne (sorted.1 b (List.mem_cons_self ..)) differ
        rcases List.mem_cons.mp member with same | behind
        · exact differ same
        · have above := (List.pairwise_cons.mp sorted.2).1 a behind
          exact absurd (UInt32.lt_of_lt_of_le below above) (UInt32.lt_irrefl a)
      · exact absent (same ▸ List.mem_cons_self ..)

theorem isPermutation_iff (order : CcdOrder) : order.isPermutation = true ↔ order.ccds.Nodup := by
  have sorted : (order.ccds.mergeSort fun a b => decide (a ≤ b)).Pairwise (· ≤ ·) := by
    have pairwise := @List.pairwise_mergeSort _ (fun a b : UInt32 => decide (a ≤ b))
      (fun a b c => by simpa using UInt32.le_trans) (fun a b => by simpa using UInt32.le_total a b)
      order.ccds
    simpa using pairwise
  rw [isPermutation, all_ne_iff_nodup sorted, (List.mergeSort_perm _ _).nodup_iff]

structure Ranks (order : CcdOrder) : Prop where
  place : ∀ (i : Nat) (ccd : UInt32), order.ccds[i]? = some ccd → (order.rank ccd).toNat = i
  injective : Set.InjOn order.rank {ccd | ccd ∈ order.ccds}
  unlisted : ∀ ccd ∈ order.ccds, ∀ other ∉ order.ccds, order.rank ccd < order.rank other

theorem toNat_rank_of_mem {order : CcdOrder} {ccd : UInt32} (listed : ccd ∈ order.ccds) :
    (order.rank ccd).toNat = order.ccds.idxOf ccd := by
  rw [Collation.toNat_rank, if_pos listed]

theorem ranks_of_nodup {order : CcdOrder} (nodup : order.ccds.Nodup) : order.Ranks where
  place i ccd here := by
    obtain ⟨inside, rfl⟩ := List.getElem?_eq_some_iff.mp here
    rw [toNat_rank_of_mem (List.getElem_mem inside), nodup.idxOf_getElem i inside]
  injective a listed b listed' same := by
    have places := congrArg UInt32.toNat same
    rw [toNat_rank_of_mem listed, toNat_rank_of_mem listed'] at places
    exact (List.idxOf_inj listed).mp places
  unlisted a listed b absent := by
    have inside := List.idxOf_lt_length_of_mem listed
    have sixteen := order.length_eq
    rw [UInt32.lt_iff_toNat_lt, toNat_rank_of_mem listed, Collation.toNat_rank, if_neg absent]
    omega

end FirmwareTables.Topology.CcdOrder
