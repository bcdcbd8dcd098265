import FirmwareTables.Proofs.Collation.Numbered

set_option autoImplicit false

namespace FirmwareTables.Collation

variable {α : Type} [Collatable α]

section Keys

variable (collation : Collation) (items : List α)

-- The second half of the list is the second socket.
def socketAt (p : Fin items.length) : Nat :=
  if collation.multiSocket ∧ items.length / 2 ≤ p then 1 else 0

-- A CCD that is not listed comes after all others.
def rankAt (p : Fin items.length) : Nat :=
  let ccd := (collation.decoder.decode (apicId items[p])).ccd
  if ccd ∈ collation.ccdOrder.ccds then collation.ccdOrder.ccds.idxOf ccd else 2 ^ 32 - 1

def lowIdBit (p : Fin items.length) : Nat := (apicId items[p]).toNat % 2

def sortedKey (p : Fin items.length) : Nat ×ₗ Nat ×ₗ Nat :=
  toLex (collation.socketAt items p, toLex (collation.rankAt items p, p.val))

-- The item with exactly one item before it has an odd identifier.
def SecondIsOdd : Prop :=
  ∃ p : Fin items.length,
    (List.finRange items.length).countP
      (fun q => collation.sortedKey items q < collation.sortedKey items p) = 1 ∧
    lowIdBit items p = 1

instance : Decidable (collation.SecondIsOdd items) := by
  unfold SecondIsOdd
  infer_instance

def threadAt (p : Fin items.length) : Nat :=
  if collation.SecondIsOdd items then lowIdBit items p else 0

def placeKey (p : Fin items.length) : Nat ×ₗ Nat ×ₗ Nat ×ₗ Nat :=
  toLex (collation.threadAt items p, collation.sortedKey items p)

end Keys

theorem toNat_rank (order : Topology.CcdOrder) (ccd : UInt32) :
    (order.rank ccd).toNat = if ccd ∈ order.ccds then order.ccds.idxOf ccd else 2 ^ 32 - 1 := by
  have sixteen := order.length_eq
  by_cases listed : ccd ∈ order.ccds
  · have inside := List.idxOf_lt_length_of_mem listed
    have place : order.ccds.findIdx? (fun x => decide (x = ccd)) = some (order.ccds.idxOf ccd) :=
      List.findIdx?_eq_some_iff_findIdx_eq.mpr ⟨inside, rfl⟩
    simp only [Topology.CcdOrder.rank, place, if_pos listed, UInt32.toNat_ofNat']
    omega
  · have nowhere : order.ccds.findIdx? (fun x => decide (x = ccd)) = none := by
      rw [List.findIdx?_eq_none_iff]
      intro other member
      rw [decide_eq_false_iff_not]
      rintro rfl
      exact listed member
    simp only [Topology.CcdOrder.rank, nowhere, if_neg listed]
    rfl

theorem rankAt_eq (collation : Collation) (items : List α) (p : Fin items.length) :
    collation.rankAt items p = (collation.rank items[p]).toNat :=
  (toNat_rank _ _).symm

section Positions

variable (collation : Collation) (items : List α)

-- A position is collated like the item that it holds.
@[reducible] def positions : Collatable (Fin items.length) where
  apicId p := apicId items[p]
  withUid p _ := p

def sortedPositions : List (Fin items.length) :=
  @sortSockets _ (positions items) collation (List.finRange items.length)

def orderedPositions : List (Fin items.length) :=
  @arrange _ (positions items) collation (List.finRange items.length)

omit [Collatable α] in
theorem items_at_positions : (List.finRange items.length).map (fun p => items[p]) = items := by
  apply List.ext_getElem
  · simp
  · intro i inside _
    simp

theorem arrange_eq_map_positions :
    collation.arrange items = (collation.orderedPositions items).map fun p => items[p] := by
  have natural := @arrange_map _ _ (positions items) _ collation (fun p => items[p]) (fun _ => rfl)
    (List.finRange items.length)
  rw [items_at_positions] at natural
  exact natural

theorem orderedPositions_perm :
    (collation.orderedPositions items).Perm (List.finRange items.length) :=
  @arrange_perm _ (positions items) collation _

theorem sortedPositions_perm :
    (collation.sortedPositions items).Perm (List.finRange items.length) :=
  @sortSockets_perm _ (positions items) collation _

end Positions

theorem isSecondThread_iff (items : List α) (p : Fin items.length) :
    @isSecondThread _ (positions items) p = true ↔ lowIdBit items p = 1 := by
  have low : (apicId items[p] &&& 1).toNat = (apicId items[p]).toNat % 2 := by
    rw [UInt32.toNat_and]
    exact Nat.and_one_is_mod _
  change (apicId items[p] &&& 1 == 1) = true ↔ (apicId items[p]).toNat % 2 = 1
  rw [beq_iff_eq, ← UInt32.toNat_inj, low]
  rfl

theorem pairwise_sortByCcd (collation : Collation) {before : α → α → Prop} {items : List α}
    (ordered : items.Pairwise before) :
    (collation.sortByCcd items).Pairwise fun a b =>
      (collation.rank a).toNat < (collation.rank b).toNat ∨
        (collation.rank a).toNat = (collation.rank b).toNat ∧ before a b := by
  have sorted := pairwise_mergeSort_stable (fun item => (collation.rank item).toNat) ordered
  simpa only [sortByCcd, UInt32.le_iff_toNat_le] using sorted

theorem sortedKey_lt_iff (collation : Collation) (items : List α) (p q : Fin items.length) :
    collation.sortedKey items p < collation.sortedKey items q ↔
      collation.socketAt items p < collation.socketAt items q ∨
        collation.socketAt items p = collation.socketAt items q ∧
          (collation.rankAt items p < collation.rankAt items q ∨
            collation.rankAt items p = collation.rankAt items q ∧ p < q) := by
  simp only [sortedKey, Prod.Lex.toLex_lt_toLex, Fin.lt_def]

theorem pairwise_sortedKey_of_socket (collation : Collation) (items : List α) (socket : Nat)
    {part : List (Fin items.length)} (ordered : part.Pairwise (· < ·))
    (alike : ∀ p ∈ part, collation.socketAt items p = socket) :
    (@sortByCcd _ (positions items) collation part).Pairwise fun p q =>
      collation.sortedKey items p < collation.sortedKey items q := by
  have sorted := @pairwise_sortByCcd _ (positions items) collation _ _ ordered
  refine sorted.imp_of_mem ?_
  intro p q hp hq key
  have same := @sortByCcd_perm _ (positions items) collation part
  rw [sortedKey_lt_iff, alike p (same.mem_iff.mp hp), alike q (same.mem_iff.mp hq), rankAt_eq,
    rankAt_eq]
  exact Or.inr ⟨rfl, key⟩

theorem pairwise_sortedPositions (collation : Collation) (items : List α) :
    (collation.sortedPositions items).Pairwise fun p q =>
      collation.sortedKey items p < collation.sortedKey items q := by
  have ordered := List.pairwise_lt_finRange items.length
  unfold sortedPositions sortSockets
  by_cases several : collation.multiSocket = true
  · rw [if_pos several, List.length_finRange]
    have first : ∀ p ∈ (List.finRange items.length).take (items.length / 2),
        collation.socketAt items p = 0 := by
      intro p member
      obtain ⟨i, inside, rfl⟩ := List.mem_take_iff_getElem.mp member
      simp only [socketAt, List.getElem_finRange, Fin.cast_mk]
      rw [if_neg (by omega)]
    have second : ∀ p ∈ (List.finRange items.length).drop (items.length / 2),
        collation.socketAt items p = 1 := by
      intro p member
      obtain ⟨i, inside, rfl⟩ := List.mem_drop_iff_getElem.mp member
      simp only [socketAt, List.getElem_finRange, Fin.cast_mk]
      rw [if_pos ⟨several, by omega⟩]
    rw [List.pairwise_append]
    refine ⟨pairwise_sortedKey_of_socket collation items 0 (ordered.take) first,
      pairwise_sortedKey_of_socket collation items 1 (ordered.drop) second, ?_⟩
    intro p hp q hq
    have onFirst := first p ((@sortByCcd_perm _ (positions items) collation _).mem_iff.mp hp)
    have onSecond := second q ((@sortByCcd_perm _ (positions items) collation _).mem_iff.mp hq)
    rw [sortedKey_lt_iff, onFirst, onSecond]
    exact Or.inl Nat.zero_lt_one
  · rw [if_neg several]
    apply pairwise_sortedKey_of_socket collation items 0 ordered
    intro p _
    simp [socketAt, several]

theorem threadsDetected_iff (collation : Collation) (items : List α) :
    @threadsDetected _ (positions items) (collation.sortedPositions items) = true ↔
      collation.SecondIsOdd items := by
  have ordered := pairwise_sortedPositions collation items
  have perm := sortedPositions_perm collation items
  have place (i : Nat) (inside : i < (collation.sortedPositions items).length) :
      (List.finRange items.length).countP (fun q => collation.sortedKey items q <
        collation.sortedKey items (collation.sortedPositions items)[i]) = i := by
    rw [← perm.countP_eq]
    exact countP_key_lt (collation.sortedKey items) ordered i inside
  constructor
  · intro detected
    match shape : collation.sortedPositions items, detected with
    | first :: second :: rest, detected =>
      have count := place 1 (by simp [shape])
      simp only [shape, List.getElem_cons_succ, List.getElem_cons_zero] at count
      exact ⟨second, count, (isSecondThread_iff items second).mp detected⟩
  · rintro ⟨p, count, odd⟩
    obtain ⟨i, inside, found⟩ := List.getElem_of_mem (perm.mem_iff.mpr (List.mem_finRange p))
    have index : i = 1 := by
      rw [← count, ← found, place i inside]
    subst index
    match shape : collation.sortedPositions items, inside, found with
    | first :: second :: rest, _, found =>
      simp only [List.getElem_cons_succ, List.getElem_cons_zero] at found
      subst found
      exact (isSecondThread_iff items second).mpr odd

theorem pairwise_orderedPositions (collation : Collation) (items : List α) :
    (collation.orderedPositions items).Pairwise fun p q =>
      collation.placeKey items p < collation.placeKey items q := by
  have sorted := pairwise_sortedPositions collation items
  have detect := threadsDetected_iff collation items
  have unfolded : collation.orderedPositions items =
      if @threadsDetected _ (positions items) (collation.sortedPositions items) then
        @partitionThreads _ (positions items) (collation.sortedPositions items)
      else collation.sortedPositions items := rfl
  rw [unfolded]
  simp only [placeKey, Prod.Lex.toLex_lt_toLex]
  by_cases odd : collation.SecondIsOdd items
  · rw [if_pos (detect.mpr odd)]
    simp only [threadAt, if_pos odd, partitionThreads]
    have firstBit : ∀ p ∈ (collation.sortedPositions items).filter
        (fun p => !@isSecondThread _ (positions items) p), lowIdBit items p = 0 := by
      intro p member
      have even := (List.mem_filter.mp member).2
      rw [Bool.not_eq_true', ← Bool.not_eq_true, isSecondThread_iff] at even
      unfold lowIdBit at even ⊢
      omega
    have secondBit : ∀ p ∈ (collation.sortedPositions items).filter
        (@isSecondThread _ (positions items)), lowIdBit items p = 1 := by
      intro p member
      exact (isSecondThread_iff items p).mp (List.mem_filter.mp member).2
    -- Each part keeps the sorted order, and first threads come before second threads.
    rw [List.pairwise_append]
    refine ⟨?_, ?_, ?_⟩
    · refine (sorted.filter _).imp_of_mem ?_
      intro p q hp hq lt
      exact Or.inr ⟨(firstBit p hp).trans (firstBit q hq).symm, lt⟩
    · refine (sorted.filter _).imp_of_mem ?_
      intro p q hp hq lt
      exact Or.inr ⟨(secondBit p hp).trans (secondBit q hq).symm, lt⟩
    · intro p hp q hq
      rw [firstBit p hp, secondBit q hq]
      exact Or.inl Nat.zero_lt_one
  · rw [if_neg (fun detected => odd (detect.mp detected))]
    simp only [threadAt, if_neg odd]
    exact sorted.imp fun lt => Or.inr ⟨trivial, lt⟩

theorem collate_eq (collation : Collation) {items : List α} (few : items.length < 2 ^ 32) :
    collation.collate items = .ok ((collation.orderedPositions items).mapIdx fun u p =>
      withUid items[p] (UInt32.ofNat u)) := by
  rw [collate_of_few collation few, number, arrange_eq_map_positions]
  congr 1
  apply List.ext_getElem
  · simp
  · intro u _ _
    simp only [List.getElem_mapIdx, List.getElem_map]

theorem collate_places (collation : Collation) (items : List α) (few : items.length < 2 ^ 32) :
    ∃ order : List (Fin items.length),
      order.Perm (List.finRange items.length) ∧
      (order.Pairwise fun p q => collation.placeKey items p < collation.placeKey items q) ∧
      collation.collate items =
        .ok (order.mapIdx fun u p => withUid items[p] (UInt32.ofNat u)) :=
  ⟨collation.orderedPositions items, orderedPositions_perm collation items,
    pairwise_orderedPositions collation items, collate_eq collation few⟩

theorem collate_places_two_threads :
    let collation : Collation := ⟨.ofReports [(.smt, 1), (.ccd, 2)], .turin, true⟩
    let items : List Processor := [4, 5, 0, 1, 2].map fun id =>
      { id, status := .enabled, location := collation.decoder.decode id, uid := 0 }
    items.length < 2 ^ 32 ∧
      ∃ order : List (Fin items.length),
        order.Perm (List.finRange items.length) ∧
        (order.Pairwise fun p q => collation.placeKey items p < collation.placeKey items q) ∧
        collation.collate items =
          .ok (order.mapIdx fun u p => withUid items[p] (UInt32.ofNat u)) :=
  ⟨by decide, collate_places _ _ (by decide)⟩

end FirmwareTables.Collation
