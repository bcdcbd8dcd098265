import FirmwareTables.Proofs.Collation.Order

set_option autoImplicit false

namespace FirmwareTables.Collation

abbrev identifiers : Collatable UInt32 := ⟨id, fun id _ => id⟩

section Collated

variable {α : Type} [Collatable α] {collation : Collation} {items ordered : List α}

theorem collate_of_few (collation : Collation) (few : items.length < 2 ^ 32) :
    collation.collate items = .ok (number (collation.arrange items)) :=
  if_pos few

theorem few_of_collate (collated : collation.collate items = .ok ordered) :
    items.length < 2 ^ 32 := by
  unfold collate at collated
  split at collated
  · assumption
  · cases collated

theorem eq_number_of_collate (collated : collation.collate items = .ok ordered) :
    ordered = number (collation.arrange items) := by
  rw [collate_of_few collation (few_of_collate collated), Except.ok.injEq] at collated
  exact collated.symm

theorem length_of_collate (collated : collation.collate items = .ok ordered) :
    ordered.length = items.length := by
  rw [eq_number_of_collate collated, number, List.length_mapIdx]
  exact (arrange_perm collation items).length_eq

theorem exists_of_collate (collated : collation.collate items = .ok ordered) {u : Nat}
    (inside : u < ordered.length) :
    ∃ item ∈ items, ordered[u] = withUid item (UInt32.ofNat u) := by
  have numbered := eq_number_of_collate collated
  subst numbered
  rw [number, List.length_mapIdx] at inside
  refine ⟨(collation.arrange items)[u], ?_, ?_⟩
  · exact (arrange_perm collation items).mem_iff.mp (List.getElem_mem inside)
  · simp only [number, List.getElem_mapIdx]

theorem toNat_place (collated : collation.collate items = .ok ordered) {u : Nat}
    (inside : u < ordered.length) : (UInt32.ofNat u).toNat = u := by
  have few := few_of_collate collated
  rw [← length_of_collate collated] at few
  rw [UInt32.toNat_ofNat']
  omega

theorem uid_of_collate (uid : α → UInt32)
    (sets : ∀ (item : α) (n : UInt32), uid (withUid item n) = n)
    (collated : collation.collate items = .ok ordered) {u : Nat} (inside : u < ordered.length) :
    uid ordered[u] = UInt32.ofNat u := by
  obtain ⟨item, _, place⟩ := exists_of_collate collated inside
  rw [place, sets]

theorem map_number {β : Type} (part : α → β)
    (keeps : ∀ (item : α) (uid : UInt32), part (withUid item uid) = part item) (items : List α) :
    (number items).map part = items.map part := by
  apply List.ext_getElem
  · simp [number]
  · intro u _ _
    simp only [number, List.getElem_map, List.getElem_mapIdx, keeps]

theorem perm_map_of_collate {β : Type} (part : α → β)
    (keeps : ∀ (item : α) (uid : UInt32), part (withUid item uid) = part item)
    (collated : collation.collate items = .ok ordered) :
    (ordered.map part).Perm (items.map part) := by
  rw [eq_number_of_collate collated, map_number part keeps]
  exact (arrange_perm collation items).map part

end Collated

section Mapped

variable {α β : Type} [Collatable α] [Collatable β] {collation : Collation} {items ordered : List α}

theorem number_map (f : α → β)
    (commutes : ∀ (item : α) (uid : UInt32), f (withUid item uid) = withUid (f item) uid)
    (items : List α) : (number items).map f = number (items.map f) := by
  apply List.ext_getElem
  · simp [number]
  · intro u _ _
    simp only [number, List.getElem_map, List.getElem_mapIdx, commutes]

theorem collate_map (f : α → β) (same : ∀ item, apicId (f item) = apicId item)
    (commutes : ∀ (item : α) (uid : UInt32), f (withUid item uid) = withUid (f item) uid)
    (collated : collation.collate items = .ok ordered) :
    collation.collate (items.map f) = .ok (ordered.map f) := by
  have few : (items.map f).length < 2 ^ 32 := by
    rw [List.length_map]
    exact few_of_collate collated
  rw [collate_of_few collation few, arrange_map collation f same, ← number_map f commutes,
    eq_number_of_collate collated]

theorem collate_map_apicId
    (keeps : ∀ (item : α) (uid : UInt32), apicId (withUid item uid) = apicId item)
    (collated : collation.collate items = .ok ordered) :
    @collate _ identifiers collation (items.map apicId) = .ok (ordered.map apicId) :=
  @collate_map α UInt32 _ identifiers collation items ordered apicId (fun _ => rfl) keeps collated

theorem number_identifiers (ids : List UInt32) : @number _ identifiers ids = ids := by
  have kept := @map_number _ identifiers _ id (fun _ _ => rfl) ids
  rwa [List.map_id, List.map_id] at kept

theorem map_apicId_of_collate
    (keeps : ∀ (item : α) (uid : UInt32), apicId (withUid item uid) = apicId item)
    (collated : collation.collate items = .ok ordered) :
    ordered.map apicId = @arrange _ identifiers collation (items.map apicId) := by
  have numbered := @eq_number_of_collate _ identifiers _ _ _ (collate_map_apicId keeps collated)
  rwa [number_identifiers] at numbered

end Mapped

theorem map_apicId_eq_of_collate {α β : Type} [Collatable α] [Collatable β] {collation : Collation}
    {items ordered : List α} {others numbered : List β}
    (keeps : ∀ (item : α) (uid : UInt32), apicId (withUid item uid) = apicId item)
    (keepsOthers : ∀ (item : β) (uid : UInt32), apicId (withUid item uid) = apicId item)
    (same : items.map apicId = others.map apicId)
    (collated : collation.collate items = .ok ordered)
    (collatedOthers : collation.collate others = .ok numbered) :
    ordered.map apicId = numbered.map apicId := by
  rw [map_apicId_of_collate keeps collated, map_apicId_of_collate keepsOthers collatedOthers, same]

section Places

variable {α : Type} [Collatable α] {collation : Collation} {items ordered : List α}

abbrev placed : Collatable (α × Nat) where
  apicId item := apicId item.1
  withUid item uid := (withUid item.1 uid, item.2)

-- The places in the list before, in the order of the collated list.
def order (collation : Collation) (ids : List UInt32) : List Nat :=
  (@arrange _ (@placed _ identifiers) collation ids.zipIdx).map (·.2)

theorem order_perm (collation : Collation) (ids : List UInt32) :
    (collation.order ids).Perm (List.range ids.length) := by
  have arranged := @arrange_perm _ (@placed _ identifiers) collation ids.zipIdx
  have places : ids.zipIdx.map (·.2) = List.range ids.length := by
    rw [List.zipIdx_map_snd, List.range_eq_range']
  rw [← places]
  exact arranged.map (·.2)

theorem forall₂_order (collated : collation.collate items = .ok ordered) :
    List.Forall₂ (fun i item => ∃ source uid, items[i]? = some source ∧ item = withUid source uid)
      (collation.order (items.map apicId)) ordered := by
  have few : items.zipIdx.length < 2 ^ 32 := by
    rw [List.length_zipIdx]
    exact few_of_collate collated
  have paired := @collate_of_few _ placed _ collation few
  have records := @collate_map _ _ placed _ _ _ _ Prod.fst (fun _ => rfl) (fun _ _ => rfl) paired
  rw [List.zipIdx_map_fst, collated, Except.ok.injEq] at records
  have places : collation.order (items.map apicId) =
      (@number _ placed (@arrange _ placed collation items.zipIdx)).map (·.2) := by
    have mapped := @arrange_map (α × Nat) (UInt32 × Nat) placed (@placed _ identifiers) collation
      (Prod.map apicId id) (fun _ => rfl) items.zipIdx
    rw [order, List.zipIdx_map, mapped, List.map_map]
    exact (@map_number _ placed _ Prod.snd (fun _ _ => rfl) _).symm
  rw [places, records, List.forall₂_map_left_iff, List.forall₂_map_right_iff, List.forall₂_same]
  intro pair member
  obtain ⟨u, inside, rfl⟩ := List.getElem_of_mem member
  obtain ⟨⟨source, i⟩, listed, place⟩ := @exists_of_collate _ placed _ _ _ paired u inside
  rw [place]
  exact ⟨source, _, List.mem_zipIdx_iff_getElem?.mp listed, rfl⟩

end Places

end FirmwareTables.Collation
