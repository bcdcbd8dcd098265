import FirmwareTables.Proofs.Collation.Siblings

set_option autoImplicit false

namespace FirmwareTables.Collation

variable {α : Type} [Collatable α]

def FirstThreadsLow (collation : Collation) (items : List α) : Prop :=
  ∀ p q : Fin items.length, lowIdBit items p = 0 → lowIdBit items q = 1 →
    collation.uidAt items p < collation.uidAt items q

/-- Of an odd number of cores the one in the middle, of which each socket gets one thread, is ranked
before all cores of the first socket. -/
def PartedCoreLeads (collation : Collation) (cores : List (Siblings α)) : Prop :=
  collation.multiSocket = true ∧ 1 < cores.length ∧
    ∃ middle : Fin cores.length, cores.length = 2 * middle + 1 ∧
      ∀ i < middle, collation.rank (cores.get middle).first < collation.rank (cores.get i).first

theorem eq_of_countP_eq_one {β : Type} {items : List β} {counts : β → Bool}
    (one : items.countP counts = 1) {a b : β} (first : a ∈ items.filter counts)
    (second : b ∈ items.filter counts) : a = b := by
  rw [List.countP_eq_length_filter, List.length_eq_one_iff] at one
  obtain ⟨only, single⟩ := one
  rw [single, List.mem_singleton] at first second
  rw [first, second]

section Detection

variable {collation : Collation} {cores : List (Siblings α)}

theorem sortedKey_firstAt_lt_iff {i j : Fin cores.length} (one : 2 * i.val < cores.length)
    (two : 2 * j.val < cores.length) :
    collation.sortedKey (threads cores) (firstAt cores i) <
        collation.sortedKey (threads cores) (firstAt cores j) ↔
      collation.rank cores[i].first < collation.rank cores[j].first ∨
        collation.rank cores[i].first = collation.rank cores[j].first ∧ i < j := by
  have onFirst {k : Fin cores.length} (low : 2 * k.val < cores.length) :
      collation.socketAt (threads cores) (firstAt cores k) = 0 := by
    rw [socketAt_threads, if_neg (by rw [val_firstAt]; omega)]
  rw [sortedKey_lt_iff, onFirst one, onFirst two, rankAt_firstAt, rankAt_firstAt,
    UInt32.lt_iff_toNat_lt, ← UInt32.toNat_inj, Fin.lt_def, Fin.lt_def]
  simp only [val_firstAt, Nat.lt_irrefl, false_or, true_and, Nat.mul_lt_mul_left Nat.zero_lt_two]

theorem PartedCoreLeads.exists_leads (parted : PartedCoreLeads collation cores) :
    ∃ middle, Leads collation cores middle ∧ ¬Together collation cores middle := by
  obtain ⟨several, _, middle, length, first⟩ := parted
  refine ⟨middle, ?_, not_not.mpr ⟨several, length⟩⟩
  intro j other
  have apart : j.val ≠ middle.val := fun same => other (Fin.ext same)
  rcases Nat.lt_or_gt_of_ne apart with before | behind
  · exact (sortedKey_firstAt_lt_iff (by omega) (by omega)).mpr (Or.inl (first j before))
  · exact sortedKey_lt_of_halves several (by rw [val_firstAt]; omega) (by rw [val_firstAt]; omega)

theorem partedCoreLeads_of_leads (many : 1 < cores.length) {middle : Fin cores.length}
    (leads : Leads collation cores middle) (parted : ¬Together collation cores middle) :
    PartedCoreLeads collation cores := by
  obtain ⟨several, length⟩ := not_not.mp parted
  refine ⟨several, many, middle, length, ?_⟩
  intro i before
  have inFront : i.val < middle.val := before
  have less := (sortedKey_firstAt_lt_iff (by omega) (by omega)).mp (leads i (ne_of_lt before))
  rcases less with rank | ⟨_, behind⟩
  · exact rank
  · exact absurd before (lt_asymm behind)

theorem not_secondIsOdd_of_parted (alike : Alike collation cores) {i : Fin cores.length}
    (leads : Leads collation cores i) (parted : ¬Together collation cores i)
    (several : 1 < cores.length) : ¬collation.SecondIsOdd (threads cores) := by
  rintro ⟨p, count, odd⟩
  obtain ⟨multiSocket, length⟩ := not_not.mp parted
  have unique {q r : Fin (threads cores).length}
      (one : collation.sortedKey (threads cores) q < collation.sortedKey (threads cores) p)
      (two : collation.sortedKey (threads cores) r < collation.sortedKey (threads cores) p) :
      q = r :=
    eq_of_countP_eq_one count (List.mem_filter.mpr ⟨List.mem_finRange q, decide_eq_true one⟩)
      (List.mem_filter.mpr ⟨List.mem_finRange r, decide_eq_true two⟩)
  rcases position_cases cores p with ⟨j, rfl⟩ | ⟨j, rfl⟩
  · rw [lowIdBit_firstAt] at odd
    cases odd
  · have own := sortedKey_firstAt_lt_secondAt alike j
    by_cases same : j = i
    · -- The sibling of the leading thread is on the other socket, behind the first core.
      subst same
      let head : Fin cores.length := ⟨0, by omega⟩
      have other : head ≠ j := by
        intro zero
        have value : 0 = j.val := congrArg Fin.val zero
        omega
      have before : collation.sortedKey (threads cores) (firstAt cores head) <
          collation.sortedKey (threads cores) (secondAt cores j) :=
        sortedKey_lt_of_halves multiSocket (Nat.zero_lt_of_lt several)
          (by rw [val_secondAt]; omega)
      exact other (firstAt_injective cores (unique before own))
    · exact same (firstAt_injective cores (unique own ((leads j same).trans own)))

theorem secondIsOdd_iff (alike : Alike collation cores) (inhabited : cores ≠ []) :
    collation.SecondIsOdd (threads cores) ↔ ¬PartedCoreLeads collation cores := by
  constructor
  · intro detected parted
    obtain ⟨middle, leads, apart⟩ := parted.exists_leads
    exact not_secondIsOdd_of_parted alike leads apart parted.2.1 detected
  · intro whole
    obtain ⟨i, leads⟩ := exists_leads collation inhabited
    by_cases together : Together collation cores i
    · exact secondIsOdd_of_together alike leads together
    · -- A single core: its two threads are all there is to sort.
      have single : ¬1 < cores.length := fun many =>
        whole (partedCoreLeads_of_leads many leads together)
      refine secondIsOdd_of_next alike i ?_
      intro q other apart
      rcases position_cases cores q with ⟨j, rfl⟩ | ⟨j, rfl⟩
      · exact absurd (congrArg (firstAt cores) (Fin.ext (by omega))) other
      · exact absurd (congrArg (secondAt cores) (Fin.ext (by omega))) apart

end Detection

theorem firstThreadsLow_of_secondIsOdd {collation : Collation} {items : List α}
    (detected : collation.SecondIsOdd items) : FirstThreadsLow collation items := by
  intro p q even odd
  rw [uidAt_lt_iff, placeKey_lt_iff, threadAt, threadAt, if_pos detected, if_pos detected, even, odd]
  exact Or.inl Nat.zero_lt_one

-- The first thread of the last core is on the second socket, the second thread of the first core is not.
theorem not_firstThreadsLow_of_parted {collation : Collation} {cores : List (Siblings α)}
    (alike : Alike collation cores) (parted : PartedCoreLeads collation cores) :
    ¬FirstThreadsLow collation (threads cores) := by
  intro low
  have many := parted.2.1
  have inhabited : cores ≠ [] := List.ne_nil_of_length_pos (Nat.zero_lt_of_lt many)
  have missed : ¬collation.SecondIsOdd (threads cores) := fun detected =>
    (secondIsOdd_iff alike inhabited).mp detected parted
  let head : Fin cores.length := ⟨0, by omega⟩
  let last : Fin cores.length := ⟨cores.length - 1, by omega⟩
  have less := low (firstAt cores last) (secondAt cores head) (lowIdBit_firstAt cores last)
    (lowIdBit_secondAt cores head)
  rw [uidAt_lt_iff, placeKey_lt_iff, threadAt, threadAt, if_neg missed, if_neg missed] at less
  have sorted : collation.sortedKey (threads cores) (secondAt cores head) <
      collation.sortedKey (threads cores) (firstAt cores last) := by
    refine sortedKey_lt_of_halves parted.1 ?_ ?_
    · exact many
    · rw [val_firstAt]
      change cores.length ≤ 2 * (cores.length - 1)
      omega
  rcases less with thread | ⟨_, sortedBefore⟩
  · exact absurd thread (Nat.lt_irrefl 0)
  · exact lt_asymm sorted sortedBefore

theorem firstThreadsLow_iff (reports : List (Topology.Level × UInt32))
    (ccdOrder : Topology.CcdOrder) (multiSocket : Bool) (cores : List (Siblings α))
    (smt : 1 ≤ (Topology.Decoder.ofReports reports).smt) :
    let collation : Collation := ⟨.ofReports reports, ccdOrder, multiSocket⟩
    collation.Numbers (threads cores) (collation.uidAt (threads cores)) ∧
      (FirstThreadsLow collation (threads cores) ↔ ¬PartedCoreLeads collation cores) := by
  intro collation
  refine ⟨numbers_uidAt collation (threads cores), ?_⟩
  have alike : Alike collation cores := alike_of_smt smt ccdOrder multiSocket cores
  constructor
  · intro low parted
    exact not_firstThreadsLow_of_parted alike parted low
  · intro whole
    by_cases inhabited : cores = []
    · rw [inhabited]
      intro p
      exact p.elim0
    · exact firstThreadsLow_of_secondIsOdd ((secondIsOdd_iff alike inhabited).mpr whole)

-- The sockets share the second core, whose CCD is ranked before those of the others.
def sharedCore : List (Siblings Processor) := ([1, 0, 2] : List (Fin 128)).map reportedCore

def twoSockets : Collation := ⟨.ofReports threadReports, .turin, true⟩

theorem sharedCore_leads : PartedCoreLeads twoSockets sharedCore := by
  refine ⟨rfl, by decide, ⟨1, by decide⟩, rfl, ?_⟩
  decide

theorem firstThreadsLow_iff_sharedCore :
    1 ≤ (Topology.Decoder.ofReports threadReports).smt ∧
      twoSockets.Numbers (threads sharedCore) (twoSockets.uidAt (threads sharedCore)) ∧
        (FirstThreadsLow twoSockets (threads sharedCore) ↔ ¬PartedCoreLeads twoSockets sharedCore) := by
  have smt : 1 ≤ (Topology.Decoder.ofReports threadReports).smt := by decide
  exact ⟨smt, firstThreadsLow_iff threadReports .turin true sharedCore smt⟩

theorem not_firstThreadsLow_sharedCore :
    1 ≤ (Topology.Decoder.ofReports threadReports).smt ∧
      (threads sharedCore).map (·.id) = [2, 3, 0, 1, 4, 5] ∧
      (twoSockets.collate (threads sharedCore)).map
          (·.map fun processor => (processor.id, processor.uid)) =
        .ok [(0, 0), (2, 1), (3, 2), (1, 3), (4, 4), (5, 5)] ∧
      ¬FirstThreadsLow twoSockets (threads sharedCore) := by
  have smt : 1 ≤ (Topology.Decoder.ofReports threadReports).smt := by decide
  have alike : Alike twoSockets sharedCore := alike_of_smt smt .turin true sharedCore
  refine ⟨smt, by decide, by cbv, ?_⟩
  exact not_firstThreadsLow_of_parted alike sharedCore_leads

end FirmwareTables.Collation
