import FirmwareTables.Processor.Collation
import FirmwareTables.Proofs.Collation.StableSort

set_option autoImplicit false

namespace FirmwareTables.Collation

variable {α β : Type} [Collatable α] [Collatable β]

theorem rank_map (collation : Collation) (f : α → β) (same : ∀ item, apicId (f item) = apicId item)
    (item : α) : collation.rank (f item) = collation.rank item := by
  simp only [rank, same]

theorem sortByCcd_map (collation : Collation) (f : α → β)
    (same : ∀ item, apicId (f item) = apicId item) (items : List α) :
    collation.sortByCcd (items.map f) = (collation.sortByCcd items).map f := by
  symm
  apply List.map_mergeSort
  intro a _ b _
  rw [rank_map collation f same, rank_map collation f same]

theorem sortSockets_map (collation : Collation) (f : α → β)
    (same : ∀ item, apicId (f item) = apicId item) (items : List α) :
    collation.sortSockets (items.map f) = (collation.sortSockets items).map f := by
  unfold sortSockets
  split
  · simp only [List.length_map, ← List.map_take, ← List.map_drop,
      sortByCcd_map collation f same, List.map_append]
  · exact sortByCcd_map collation f same items

theorem isSecondThread_map (f : α → β) (same : ∀ item, apicId (f item) = apicId item) :
    (isSecondThread ∘ f : α → Bool) = isSecondThread := by
  funext item
  simp only [Function.comp_apply, isSecondThread, same]

theorem threadsDetected_map (f : α → β) (same : ∀ item, apicId (f item) = apicId item)
    (items : List α) : threadsDetected (items.map f) = threadsDetected items := by
  match items with
  | [] => rfl
  | [_] => rfl
  | _ :: second :: _ => exact congrFun (isSecondThread_map f same) second

theorem partitionThreads_map (f : α → β) (same : ∀ item, apicId (f item) = apicId item)
    (items : List α) : partitionThreads (items.map f) = (partitionThreads items).map f := by
  have kind := isSecondThread_map f same
  have firsts : (fun item => !isSecondThread item) ∘ f = fun item => !isSecondThread item := by
    funext item
    exact congrArg not (congrFun kind item)
  simp only [partitionThreads, List.filter_map, List.map_append, kind, firsts]

theorem arrange_map (collation : Collation) (f : α → β)
    (same : ∀ item, apicId (f item) = apicId item) (items : List α) :
    collation.arrange (items.map f) = (collation.arrange items).map f := by
  simp only [arrange, sortSockets_map collation f same, threadsDetected_map f same]
  split
  · exact partitionThreads_map f same _
  · rfl

theorem sortByCcd_perm (collation : Collation) (items : List α) :
    (collation.sortByCcd items).Perm items :=
  List.mergeSort_perm items _

theorem sortSockets_perm (collation : Collation) (items : List α) :
    (collation.sortSockets items).Perm items := by
  unfold sortSockets
  split
  · have halves := (sortByCcd_perm collation (items.take (items.length / 2))).append
      (sortByCcd_perm collation (items.drop (items.length / 2)))
    rw [List.take_append_drop] at halves
    exact halves
  · exact sortByCcd_perm collation items

theorem partitionThreads_perm (items : List α) : (partitionThreads items).Perm items :=
  (List.perm_append_comm).trans (List.filter_append_perm isSecondThread items)

theorem arrange_perm (collation : Collation) (items : List α) :
    (collation.arrange items).Perm items := by
  simp only [arrange]
  split
  · exact (partitionThreads_perm _).trans (sortSockets_perm collation items)
  · exact sortSockets_perm collation items

end FirmwareTables.Collation
