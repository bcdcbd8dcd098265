import FirmwareTables.Proofs.Collation.Places
import FirmwareTables.Proofs.Topology.Fields

set_option autoImplicit false

namespace FirmwareTables.Collation

variable {α : Type} [Collatable α]

section Uids

variable (collation : Collation) (items : List α)

def uidAt (p : Fin items.length) : Nat := (collation.orderedPositions items).idxOf p

structure Numbers (uid : Fin items.length → Nat) : Prop where
  below : ∀ p, uid p < items.length
  distinct : Function.Injective uid
  collated : items.length < 2 ^ 32 → ∃ ordered, collation.collate items = .ok ordered ∧
    ordered.length = items.length ∧
    ∀ p, ordered[uid p]? = some (withUid (items.get p) (UInt32.ofNat (uid p)))

theorem mem_orderedPositions (p : Fin items.length) : p ∈ collation.orderedPositions items :=
  (orderedPositions_perm collation items).mem_iff.mpr (List.mem_finRange p)

theorem numbers_uidAt : collation.Numbers items (collation.uidAt items) where
  below p := by
    have inside := List.idxOf_lt_length_of_mem (mem_orderedPositions collation items p)
    rwa [(orderedPositions_perm collation items).length_eq, List.length_finRange] at inside
  distinct p q same := (List.idxOf_inj (mem_orderedPositions collation items p)).mp same
  collated few := by
    refine ⟨_, collate_eq collation few, ?_, ?_⟩
    · rw [List.length_mapIdx, (orderedPositions_perm collation items).length_eq,
        List.length_finRange]
    · intro p
      have there := List.getElem?_idxOf (mem_orderedPositions collation items p)
      rw [uidAt, List.getElem?_mapIdx, there, Option.map_some]
      rfl

theorem uidAt_eq_countP (p : Fin items.length) :
    collation.uidAt items p = (List.finRange items.length).countP fun q =>
      collation.placeKey items q < collation.placeKey items p := by
  have inside := List.idxOf_lt_length_of_mem (mem_orderedPositions collation items p)
  have smaller := countP_key_lt (collation.placeKey items) (pairwise_orderedPositions collation items)
    _ inside
  rw [List.getElem_idxOf inside, (orderedPositions_perm collation items).countP_eq] at smaller
  exact smaller.symm

theorem placeKey_lt_of_uidAt {p q : Fin items.length}
    (less : collation.uidAt items p < collation.uidAt items q) :
    collation.placeKey items p < collation.placeKey items q := by
  have order := List.pairwise_iff_getElem.mp (pairwise_orderedPositions collation items)
  have inside := List.idxOf_lt_length_of_mem (mem_orderedPositions collation items p)
  have within := List.idxOf_lt_length_of_mem (mem_orderedPositions collation items q)
  have keys := order _ _ inside within less
  rwa [List.getElem_idxOf inside, List.getElem_idxOf within] at keys

theorem uidAt_lt_iff (p q : Fin items.length) :
    collation.uidAt items p < collation.uidAt items q ↔
      collation.placeKey items p < collation.placeKey items q := by
  constructor
  · exact placeKey_lt_of_uidAt collation items
  · intro less
    rcases Nat.lt_trichotomy (collation.uidAt items p) (collation.uidAt items q) with
      before | same | after
    · exact before
    · rw [(numbers_uidAt collation items).distinct same] at less
      exact absurd less (lt_irrefl _)
    · exact absurd (placeKey_lt_of_uidAt collation items after) (lt_asymm less)

end Uids

structure Siblings (α : Type) [Collatable α] where
  first : α
  second : α
  core : Nat
  firstId : (apicId first).toNat = 2 * core
  secondId : (apicId second).toNat = 2 * core + 1

def threads (cores : List (Siblings α)) : List α := cores.flatMap fun pair => [pair.first, pair.second]

section Positions

variable (cores : List (Siblings α))

theorem length_threads : (threads cores).length = 2 * cores.length := by
  simp [threads, List.length_flatMap, Nat.mul_comm]

theorem getElem?_threads (i : Nat) :
    (threads cores)[2 * i]? = cores[i]?.map (·.first) ∧
      (threads cores)[2 * i + 1]? = cores[i]?.map (·.second) := by
  induction cores generalizing i with
  | nil => simp [threads]
  | cons pair rest ih =>
    cases i with
    | zero => simp [threads]
    | succ i =>
      have next := ih i
      simp only [threads, List.flatMap_cons] at next ⊢
      simpa [Nat.mul_add] using next

def firstAt (i : Fin cores.length) : Fin (threads cores).length :=
  ⟨2 * i, by rw [length_threads]; omega⟩

def secondAt (i : Fin cores.length) : Fin (threads cores).length :=
  ⟨2 * i + 1, by rw [length_threads]; omega⟩

@[simp] theorem val_firstAt (i : Fin cores.length) : (firstAt cores i).val = 2 * i := rfl

@[simp] theorem val_secondAt (i : Fin cores.length) : (secondAt cores i).val = 2 * i + 1 := rfl

theorem getElem_firstAt (i : Fin cores.length) :
    (threads cores)[firstAt cores i] = cores[i].first := by
  have there : (threads cores)[(firstAt cores i).val]? = some cores[i].first := by
    rw [firstAt, (getElem?_threads cores i).1, List.getElem?_eq_getElem i.isLt]
    rfl
  exact (List.getElem?_eq_some_iff.mp there).2

theorem getElem_secondAt (i : Fin cores.length) :
    (threads cores)[secondAt cores i] = cores[i].second := by
  have there : (threads cores)[(secondAt cores i).val]? = some cores[i].second := by
    rw [secondAt, (getElem?_threads cores i).2, List.getElem?_eq_getElem i.isLt]
    rfl
  exact (List.getElem?_eq_some_iff.mp there).2

theorem position_cases (p : Fin (threads cores).length) :
    (∃ i, p = firstAt cores i) ∨ ∃ i, p = secondAt cores i := by
  have inside : p.val < 2 * cores.length := Nat.lt_of_lt_of_eq p.isLt (length_threads cores)
  rcases Nat.mod_two_eq_zero_or_one p with even | odd
  · exact Or.inl ⟨⟨p / 2, by omega⟩, Fin.ext (by simp only [firstAt]; omega)⟩
  · exact Or.inr ⟨⟨p / 2, by omega⟩, Fin.ext (by simp only [secondAt]; omega)⟩

theorem firstAt_injective : Function.Injective (firstAt cores) := by
  intro i j same
  have value := congrArg Fin.val same
  rw [val_firstAt, val_firstAt] at value
  exact Fin.ext (by omega)

theorem secondAt_injective : Function.Injective (secondAt cores) := by
  intro i j same
  have value := congrArg Fin.val same
  rw [val_secondAt, val_secondAt] at value
  exact Fin.ext (by omega)

theorem firstAt_ne_secondAt (i j : Fin cores.length) : firstAt cores i ≠ secondAt cores j := by
  intro same
  have value := congrArg Fin.val same
  rw [val_firstAt, val_secondAt] at value
  omega

theorem finRange_threads_perm :
    ((List.finRange cores.length).map (firstAt cores) ++
      (List.finRange cores.length).map (secondAt cores)).Perm
        (List.finRange (threads cores).length) := by
  rw [List.perm_ext_iff_of_nodup ?_ (List.nodup_finRange _)]
  · intro p
    rcases position_cases cores p with ⟨i, rfl⟩ | ⟨i, rfl⟩ <;> simp [List.mem_finRange]
  · rw [List.nodup_append]
    refine ⟨(List.nodup_finRange _).map (firstAt_injective cores),
      (List.nodup_finRange _).map (secondAt_injective cores), ?_⟩
    intro p first q second same
    obtain ⟨i, _, rfl⟩ := List.mem_map.mp first
    obtain ⟨j, _, rfl⟩ := List.mem_map.mp second
    exact firstAt_ne_secondAt cores i j same

theorem lowIdBit_firstAt (i : Fin cores.length) : lowIdBit (threads cores) (firstAt cores i) = 0 := by
  rw [lowIdBit, getElem_firstAt, cores[i].firstId]
  omega

theorem lowIdBit_secondAt (i : Fin cores.length) : lowIdBit (threads cores) (secondAt cores i) = 1 := by
  rw [lowIdBit, getElem_secondAt, cores[i].secondId]
  omega

end Positions

section Keys

variable {collation : Collation} {cores : List (Siblings α)}

-- The sort sees no difference between the threads of a core.
abbrev Alike (collation : Collation) (cores : List (Siblings α)) : Prop :=
  ∀ i : Fin cores.length, collation.rank cores[i].first = collation.rank cores[i].second

theorem alike_of_smt {reports : List (Topology.Level × UInt32)}
    (smt : 1 ≤ (Topology.Decoder.ofReports reports).smt) (ccdOrder : Topology.CcdOrder)
    (multiSocket : Bool) (cores : List (Siblings α)) :
    Alike ⟨.ofReports reports, ccdOrder, multiSocket⟩ cores := by
  intro i
  have positive : (Topology.Decoder.ofReports reports).smt ≠ 0 := by
    intro zero
    rw [zero] at smt
    exact absurd smt (by decide)
  have half : (apicId cores[i].first).toNat / 2 = (apicId cores[i].second).toNat / 2 := by
    rw [cores[i].firstId, cores[i].secondId]
    omega
  simp only [rank, Topology.CcdOrder.locationRank, Topology.Decoder.ccd_eq_of_siblings positive half]

theorem rankAt_firstAt (i : Fin cores.length) :
    collation.rankAt (threads cores) (firstAt cores i) = (collation.rank cores[i].first).toNat := by
  rw [rankAt_eq, getElem_firstAt]

theorem rankAt_secondAt (alike : Alike collation cores) (i : Fin cores.length) :
    collation.rankAt (threads cores) (secondAt cores i) = (collation.rank cores[i].first).toNat := by
  rw [rankAt_eq, getElem_secondAt, alike]

theorem socketAt_threads (p : Fin (threads cores).length) :
    collation.socketAt (threads cores) p =
      if collation.multiSocket ∧ cores.length ≤ p then 1 else 0 := by
  have half : (threads cores).length / 2 = cores.length := by
    rw [length_threads]
    omega
  rw [socketAt, half]

theorem sortedKey_lt_of_halves (several : collation.multiSocket = true)
    {p q : Fin (threads cores).length} (low : p.val < cores.length) (high : cores.length ≤ q.val) :
    collation.sortedKey (threads cores) p < collation.sortedKey (threads cores) q := by
  rw [sortedKey_lt_iff, socketAt_threads, socketAt_threads, if_neg (by omega), if_pos ⟨several, high⟩]
  exact Or.inl Nat.zero_lt_one

-- The middle of the list does not part the two threads of the core.
def Together (collation : Collation) (cores : List (Siblings α)) (i : Fin cores.length) : Prop :=
  ¬(collation.multiSocket = true ∧ cores.length = 2 * i + 1)

theorem Together.socketAt_eq {i : Fin cores.length} (together : Together collation cores i) :
    collation.socketAt (threads cores) (secondAt cores i) =
      collation.socketAt (threads cores) (firstAt cores i) := by
  have same : (collation.multiSocket = true ∧ cores.length ≤ (secondAt cores i).val) ↔
      (collation.multiSocket = true ∧ cores.length ≤ (firstAt cores i).val) := by
    rw [val_firstAt, val_secondAt]
    unfold Together at together
    constructor
    · rintro ⟨several, high⟩
      have apart : cores.length ≠ 2 * i + 1 := fun length => together ⟨several, length⟩
      exact ⟨several, by omega⟩
    · rintro ⟨several, high⟩
      exact ⟨several, by omega⟩
  rw [socketAt_threads, socketAt_threads, if_congr same rfl rfl]

theorem sortedKey_firstAt_lt_secondAt (alike : Alike collation cores) (i : Fin cores.length) :
    collation.sortedKey (threads cores) (firstAt cores i) <
      collation.sortedKey (threads cores) (secondAt cores i) := by
  by_cases together : Together collation cores i
  · have place : firstAt cores i < secondAt cores i := by
      rw [Fin.lt_def, val_firstAt, val_secondAt]
      exact Nat.lt_succ_self _
    rw [sortedKey_lt_iff, together.socketAt_eq, rankAt_secondAt alike, rankAt_firstAt]
    exact Or.inr ⟨rfl, Or.inr ⟨rfl, place⟩⟩
  · obtain ⟨several, length⟩ := not_not.mp together
    exact sortedKey_lt_of_halves several (by rw [val_firstAt]; omega) (by rw [val_secondAt]; omega)

-- Nothing is sorted between two threads that stand together.
theorem Together.sortedKey_lt {i : Fin cores.length} (together : Together collation cores i)
    (alike : Alike collation cores) {q : Fin (threads cores).length} (other : q ≠ secondAt cores i)
    (less : collation.sortedKey (threads cores) (firstAt cores i) <
      collation.sortedKey (threads cores) q) :
    collation.sortedKey (threads cores) (secondAt cores i) <
      collation.sortedKey (threads cores) q := by
  rw [sortedKey_lt_iff] at less ⊢
  rw [together.socketAt_eq, rankAt_secondAt alike, ← rankAt_firstAt]
  rcases less with socket | ⟨socket, rank | ⟨rank, place⟩⟩
  · exact Or.inl socket
  · exact Or.inr ⟨socket, Or.inl rank⟩
  · refine Or.inr ⟨socket, Or.inr ⟨rank, ?_⟩⟩
    have apart : q.val ≠ 2 * i + 1 := fun same => other (Fin.ext same)
    rw [Fin.lt_def, val_firstAt] at place
    rw [Fin.lt_def, val_secondAt]
    omega

theorem sortedKey_secondAt_lt_iff (alike : Alike collation cores) {i j : Fin cores.length}
    (one : Together collation cores i) (two : Together collation cores j) :
    collation.sortedKey (threads cores) (secondAt cores i) <
        collation.sortedKey (threads cores) (secondAt cores j) ↔
      collation.sortedKey (threads cores) (firstAt cores i) <
        collation.sortedKey (threads cores) (firstAt cores j) := by
  rw [sortedKey_lt_iff, sortedKey_lt_iff, one.socketAt_eq, two.socketAt_eq, rankAt_secondAt alike,
    rankAt_secondAt alike, rankAt_firstAt, rankAt_firstAt, Fin.lt_def, Fin.lt_def, val_firstAt,
    val_firstAt, val_secondAt, val_secondAt, Nat.add_lt_add_iff_right]

end Keys

section Detection

variable {collation : Collation} {cores : List (Siblings α)}

def Leads (collation : Collation) (cores : List (Siblings α)) (i : Fin cores.length) : Prop :=
  ∀ j, j ≠ i → collation.sortedKey (threads cores) (firstAt cores i) <
    collation.sortedKey (threads cores) (firstAt cores j)

theorem exists_leads (collation : Collation) {cores : List (Siblings α)} (inhabited : cores ≠ []) :
    ∃ i, Leads collation cores i := by
  have nonempty : Nonempty (Fin cores.length) := ⟨⟨0, List.length_pos_of_ne_nil inhabited⟩⟩
  obtain ⟨i, least⟩ := Finite.exists_min fun i =>
    collation.sortedKey (threads cores) (firstAt cores i)
  refine ⟨i, ?_⟩
  intro j other
  refine lt_of_le_of_ne (least j) ?_
  intro same
  have place := congrArg (fun key => (ofLex (ofLex key).2).2) same
  simp only [sortedKey, ofLex_toLex, val_firstAt] at place
  exact other (Fin.ext (by omega))

theorem Leads.sortedKey_lt {i : Fin cores.length} (leads : Leads collation cores i)
    (alike : Alike collation cores) {q : Fin (threads cores).length} (other : q ≠ firstAt cores i) :
    collation.sortedKey (threads cores) (firstAt cores i) <
      collation.sortedKey (threads cores) q := by
  rcases position_cases cores q with ⟨j, rfl⟩ | ⟨j, rfl⟩
  · exact leads j fun same => other (same ▸ rfl)
  · by_cases same : j = i
    · rw [same]
      exact sortedKey_firstAt_lt_secondAt alike i
    · exact (leads j same).trans (sortedKey_firstAt_lt_secondAt alike j)

theorem secondIsOdd_of_next (alike : Alike collation cores) (i : Fin cores.length)
    (next : ∀ q, q ≠ firstAt cores i → q ≠ secondAt cores i →
      collation.sortedKey (threads cores) (secondAt cores i) <
        collation.sortedKey (threads cores) q) :
    collation.SecondIsOdd (threads cores) := by
  refine ⟨secondAt cores i, ?_, lowIdBit_secondAt cores i⟩
  have alone (q : Fin (threads cores).length) : collation.sortedKey (threads cores) q <
      collation.sortedKey (threads cores) (secondAt cores i) ↔ q = firstAt cores i := by
    constructor
    · intro less
      by_contra other
      have apart : q ≠ secondAt cores i := by
        rintro rfl
        exact lt_irrefl _ less
      exact lt_asymm less (next q other apart)
    · rintro rfl
      exact sortedKey_firstAt_lt_secondAt alike i
  have counted : (List.finRange (threads cores).length).count (firstAt cores i) = 1 :=
    List.count_eq_one_of_mem (List.nodup_finRange _) (List.mem_finRange _)
  -- Only the first thread of the core is sorted before its second thread.
  rw [← counted, List.count_eq_countP]
  apply List.countP_congr
  intro q _
  rw [decide_eq_true_iff, beq_iff_eq]
  exact alone q

theorem secondIsOdd_of_together (alike : Alike collation cores) {i : Fin cores.length}
    (leads : Leads collation cores i) (together : Together collation cores i) :
    collation.SecondIsOdd (threads cores) :=
  secondIsOdd_of_next alike i fun _ other apart =>
    together.sortedKey_lt alike apart (leads.sortedKey_lt alike other)

end Detection

section Detected

variable {collation : Collation} {cores : List (Siblings α)}

theorem placeKey_lt_iff (collation : Collation) (items : List α) (p q : Fin items.length) :
    collation.placeKey items p < collation.placeKey items q ↔
      collation.threadAt items p < collation.threadAt items q ∨
        collation.threadAt items p = collation.threadAt items q ∧
          collation.sortedKey items p < collation.sortedKey items q := by
  simp only [placeKey, Prod.Lex.toLex_lt_toLex]

theorem threadAt_firstAt (detected : collation.SecondIsOdd (threads cores)) (i : Fin cores.length) :
    collation.threadAt (threads cores) (firstAt cores i) = 0 := by
  rw [threadAt, if_pos detected, lowIdBit_firstAt]

theorem threadAt_secondAt (detected : collation.SecondIsOdd (threads cores)) (i : Fin cores.length) :
    collation.threadAt (threads cores) (secondAt cores i) = 1 := by
  rw [threadAt, if_pos detected, lowIdBit_secondAt]

theorem placeKey_firstAt_lt_secondAt (detected : collation.SecondIsOdd (threads cores))
    (i j : Fin cores.length) : collation.placeKey (threads cores) (firstAt cores i) <
      collation.placeKey (threads cores) (secondAt cores j) := by
  rw [placeKey_lt_iff, threadAt_firstAt detected, threadAt_secondAt detected]
  exact Or.inl Nat.zero_lt_one

theorem uidAt_threads (collation : Collation) (cores : List (Siblings α))
    (p : Fin (threads cores).length) :
    collation.uidAt (threads cores) p =
      ((List.finRange cores.length).countP fun j =>
        collation.placeKey (threads cores) (firstAt cores j) <
          collation.placeKey (threads cores) p) +
      (List.finRange cores.length).countP fun j =>
        collation.placeKey (threads cores) (secondAt cores j) <
          collation.placeKey (threads cores) p := by
  rw [uidAt_eq_countP, ← (finRange_threads_perm cores).countP_eq, List.countP_append,
    List.countP_map, List.countP_map]
  rfl

def coresBefore (collation : Collation) (cores : List (Siblings α)) (i : Fin cores.length) : Nat :=
  (List.finRange cores.length).countP fun j =>
    collation.sortedKey (threads cores) (firstAt cores j) <
      collation.sortedKey (threads cores) (firstAt cores i)

theorem coresBefore_lt (collation : Collation) (cores : List (Siblings α)) (i : Fin cores.length) :
    coresBefore collation cores i < cores.length := by
  have less : coresBefore collation cores i < (List.finRange cores.length).length :=
    List.countP_lt_length_iff.mpr ⟨i, List.mem_finRange i, decide_eq_false (lt_irrefl _)⟩
  rwa [List.length_finRange] at less

theorem uidAt_firstAt (detected : collation.SecondIsOdd (threads cores)) (i : Fin cores.length) :
    collation.uidAt (threads cores) (firstAt cores i) = coresBefore collation cores i := by
  rw [uidAt_threads, coresBefore]
  have none : (List.finRange cores.length).countP (fun j =>
      collation.placeKey (threads cores) (secondAt cores j) <
        collation.placeKey (threads cores) (firstAt cores i)) = 0 := by
    rw [List.countP_eq_zero]
    intro j _ less
    exact lt_asymm (of_decide_eq_true less) (placeKey_firstAt_lt_secondAt detected i j)
  rw [none, Nat.add_zero]
  apply List.countP_congr
  intro j _
  rw [decide_eq_true_iff, decide_eq_true_iff, placeKey_lt_iff, threadAt_firstAt detected,
    threadAt_firstAt detected]
  simp

theorem uidAt_secondAt (alike : Alike collation cores)
    (detected : collation.SecondIsOdd (threads cores)) (together : ∀ i, Together collation cores i)
    (i : Fin cores.length) :
    collation.uidAt (threads cores) (secondAt cores i) =
      coresBefore collation cores i + cores.length := by
  rw [uidAt_threads, coresBefore, Nat.add_comm]
  have all : (List.finRange cores.length).countP (fun j =>
      collation.placeKey (threads cores) (firstAt cores j) <
        collation.placeKey (threads cores) (secondAt cores i)) = cores.length := by
    have every := List.countP_eq_length.mpr fun j (_ : j ∈ List.finRange cores.length) =>
      decide_eq_true (placeKey_firstAt_lt_secondAt detected j i)
    rwa [List.length_finRange] at every
  rw [all]
  congr 1
  apply List.countP_congr
  intro j _
  rw [decide_eq_true_iff, decide_eq_true_iff, placeKey_lt_iff, threadAt_secondAt detected,
    threadAt_secondAt detected, sortedKey_secondAt_lt_iff alike (together j) (together i)]
  simp

theorem together_of_whole {multiSocket : Bool} {decoder : Topology.Decoder}
    {ccdOrder : Topology.CcdOrder} (whole : multiSocket = false ∨ Even cores.length)
    (i : Fin cores.length) : Together ⟨decoder, ccdOrder, multiSocket⟩ cores i := by
  rintro ⟨several, odd⟩
  rcases whole with single | even
  · rw [single] at several
    cases several
  · obtain ⟨half, double⟩ := even
    omega

end Detected

/-- The second thread of every core is half the list behind the first. -/
theorem siblings_half_apart (reports : List (Topology.Level × UInt32))
    (ccdOrder : Topology.CcdOrder) (multiSocket : Bool) (cores : List (Siblings α))
    (smt : 1 ≤ (Topology.Decoder.ofReports reports).smt)
    (whole : multiSocket = false ∨ Even cores.length) :
    let collation : Collation := ⟨.ofReports reports, ccdOrder, multiSocket⟩
    let uid := collation.uidAt (threads cores)
    collation.Numbers (threads cores) uid ∧
      ∀ i, uid (firstAt cores i) < cores.length ∧
        uid (secondAt cores i) = uid (firstAt cores i) + cores.length := by
  intro collation uid
  refine ⟨numbers_uidAt collation (threads cores), ?_⟩
  intro i
  have alike : Alike collation cores := alike_of_smt smt ccdOrder multiSocket cores
  have together : ∀ j, Together collation cores j := together_of_whole whole
  have inhabited : cores ≠ [] := List.ne_nil_of_length_pos (Nat.zero_lt_of_lt i.isLt)
  obtain ⟨first, leads⟩ := exists_leads collation inhabited
  have detected := secondIsOdd_of_together alike leads (together first)
  rw [show uid (firstAt cores i) = coresBefore collation cores i from uidAt_firstAt detected i]
  exact ⟨coresBefore_lt collation cores i, uidAt_secondAt alike detected together i⟩

def threadReports : List (Topology.Level × UInt32) := [(.smt, 1), (.ccd, 3)]

def reportedProcessor (id : UInt32) : Processor where
  id := id
  status := .enabled
  location := (Topology.Decoder.ofReports threadReports).decode id
  uid := 0

def reportedCore (core : Fin 128) : Siblings Processor where
  first := reportedProcessor (UInt32.ofNat (2 * core))
  second := reportedProcessor (UInt32.ofNat (2 * core + 1))
  core := core
  firstId := by
    have small := core.isLt
    simp only [apicId, reportedProcessor, UInt32.toNat_ofNat']
    omega
  secondId := by
    have small := core.isLt
    simp only [apicId, reportedProcessor, UInt32.toNat_ofNat']
    omega

-- Two sockets, and a core that is listed on both.
theorem siblings_half_apart_twoSockets :
    let cores := ([1, 0, 2, 0] : List (Fin 128)).map reportedCore
    let collation : Collation := ⟨.ofReports threadReports, .turin, true⟩
    let uid := collation.uidAt (threads cores)
    1 ≤ (Topology.Decoder.ofReports threadReports).smt ∧ (true = false ∨ Even cores.length) ∧
      collation.Numbers (threads cores) uid ∧
        ∀ i, uid (firstAt cores i) < cores.length ∧
          uid (secondAt cores i) = uid (firstAt cores i) + cores.length := by
  intro cores collation uid
  have smt : 1 ≤ (Topology.Decoder.ofReports threadReports).smt := by decide
  have whole : true = false ∨ Even cores.length := Or.inr (by decide)
  exact ⟨smt, whole, siblings_half_apart threadReports .turin true cores smt whole⟩

end FirmwareTables.Collation
