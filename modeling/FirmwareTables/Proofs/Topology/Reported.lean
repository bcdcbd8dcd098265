import FirmwareTables.Proofs.Topology.Fields

set_option autoImplicit false

namespace FirmwareTables

theorem Action.answers_forIn {σ ε γ : Type} {pass : γ → PUnit → Action σ ε (ForInStep PUnit)}
    (keeps : ∀ item s step s', (pass item ⟨⟩).Answers s step s' ↔ step = .yield ⟨⟩ ∧ s' = s)
    (items : List γ) {s s' : σ} {u : PUnit} : (forIn items ⟨⟩ pass).Answers s u s' ↔ s' = s := by
  induction items with
  | nil => simp
  | cons head rest ih =>
    rw [List.forIn_cons, answers_bind]
    constructor
    · rintro ⟨step, middle, passed, later⟩
      obtain ⟨rfl, rfl⟩ := (keeps head s step middle).mp passed
      exact ih.mp later
    · intro same
      exact ⟨_, _, (keeps head s _ s).mpr ⟨rfl, rfl⟩, ih.mpr same⟩

namespace Topology

theorem detect_answers {σ ε : Type} {cpuid : Cpuid} {s s' : σ} {decoder : Decoder} :
    (detect cpuid : Action σ ε Decoder).Answers s decoder s' ↔
      decoder = Decoder.ofCpuid cpuid ∧ s' = s := by
  have keeps (report : LevelReport) (t : σ) (step : ForInStep PUnit) (t' : σ) :
      (if report.known.isNone = true then do
          Action.report Level.debug Component.topology
            ("topology: ignoring level type " ++ Text.prefixedHex report.levelType.toNat)
          pure (ForInStep.yield PUnit.unit)
        else pure (ForInStep.yield PUnit.unit) : Action σ ε (ForInStep PUnit)).Answers t step t' ↔
        step = .yield ⟨⟩ ∧ t' = t := by
    split
    · rw [Action.answers_report_bind, Action.answers_pure]
    · exact Action.answers_pure
  rw [detect, Action.answers_bind]
  constructor
  · rintro ⟨_, middle, looped, finishing⟩
    rw [(Action.answers_forIn keeps _).mp looped] at finishing
    exact Action.answers_pure.mp finishing
  · rintro ⟨rfl, rfl⟩
    exact ⟨⟨⟩, s', (Action.answers_forIn keeps _).mpr rfl, Action.answers_pure.mpr ⟨rfl, rfl⟩⟩

-- Bits 8 to 15 of ECX in a subleaf of the topology leaf.
def levelTypeAt (cpuid : Cpuid) (i : Nat) : Nat :=
  (cpuid topologyLeaf (UInt32.ofNat i)).ecx.toNat / 2 ^ 8 % 2 ^ 8

-- Bits 0 to 4 of EAX.
def shiftAt (cpuid : Cpuid) (i : Nat) : Nat :=
  (cpuid topologyLeaf (UInt32.ofNat i)).eax.toNat % 2 ^ 5

-- One of the eight subleaves with none before it, or itself, that has no level.
def Counts (cpuid : Cpuid) (i : Nat) : Prop := i < 8 ∧ ∀ j ≤ i, levelTypeAt cpuid j ≠ 0

instance (cpuid : Cpuid) (i : Nat) : Decidable (Counts cpuid i) := by
  unfold Counts
  infer_instance

def shifts (cpuid : Cpuid) (levelType : Nat) : List Nat :=
  ((List.range 8).filter fun i => Counts cpuid i ∧ levelTypeAt cpuid i = levelType).map (shiftAt cpuid)

def lastShift (cpuid : Cpuid) (levelType : Nat) : Nat := (shifts cpuid levelType).getLast?.getD 0

def SameReports (cpuid other : Cpuid) : Prop :=
  ∀ i < 8, (∀ j < i, levelTypeAt cpuid j ≠ 0) →
    levelTypeAt other i = levelTypeAt cpuid i ∧
      (levelTypeAt cpuid i ≠ 0 → shiftAt other i = shiftAt cpuid i)

theorem SameReports.counts_iff {cpuid other : Cpuid} (same : SameReports cpuid other) (i : Nat) :
    Counts other i ↔ Counts cpuid i := by
  constructor
  · rintro ⟨inside, reported⟩
    refine ⟨inside, ?_⟩
    intro j
    induction j using Nat.strongRecOn with
    | ind j ih =>
      intro within
      have type := (same j (by omega) fun k before => ih k before (by omega)).1
      rw [← type]
      exact reported j within
  · rintro ⟨inside, reported⟩
    refine ⟨inside, ?_⟩
    intro j within
    rw [(same j (by omega) fun k before => reported k (by omega)).1]
    exact reported j within

theorem SameReports.shifts_eq {cpuid other : Cpuid} (same : SameReports cpuid other)
    (levelType : Nat) : shifts other levelType = shifts cpuid levelType := by
  have alike (i : Nat) (counts : Counts cpuid i) :
      levelTypeAt other i = levelTypeAt cpuid i ∧ shiftAt other i = shiftAt cpuid i := by
    obtain ⟨inside, reported⟩ := counts
    obtain ⟨type, shift⟩ := same i inside fun j before => reported j (Nat.le_of_lt before)
    exact ⟨type, shift (reported i (Nat.le_refl i))⟩
  have chosen : ((List.range 8).filter fun i =>
        decide (Counts other i ∧ levelTypeAt other i = levelType)) =
      (List.range 8).filter fun i => decide (Counts cpuid i ∧ levelTypeAt cpuid i = levelType) := by
    apply List.filter_congr
    intro i _
    rw [decide_eq_decide, same.counts_iff i]
    exact and_congr_right fun counts => by rw [(alike i counts).1]
  rw [shifts, chosen, shifts]
  apply List.map_congr_left
  intro i member
  have counts := of_decide_eq_true (List.mem_filter.mp member).2
  exact (alike i counts.1).2

def LevelReport.ofSubleaf (cpuid : Cpuid) (i : Nat) : LevelReport :=
  LevelReport.ofRegisters (cpuid topologyLeaf (UInt32.ofNat i))

theorem toNat_levelType (cpuid : Cpuid) (i : Nat) :
    (LevelReport.ofSubleaf cpuid i).levelType.toNat = levelTypeAt cpuid i := by
  rw [levelTypeAt, ← Nat.and_two_pow_sub_one_eq_mod _ 8, ← Nat.shiftRight_eq_div_pow]
  simp only [LevelReport.ofSubleaf, LevelReport.ofRegisters, UInt32.toNat_and, UInt32.toNat_shiftRight]
  rfl

theorem toNat_shift (cpuid : Cpuid) (i : Nat) :
    (LevelReport.ofSubleaf cpuid i).shift.toNat = shiftAt cpuid i := by
  rw [shiftAt, ← Nat.and_two_pow_sub_one_eq_mod _ 5]
  simp only [LevelReport.ofSubleaf, LevelReport.ofRegisters, UInt32.toNat_and]
  rfl

theorem takeWhile_map_range {α : Type} (p : α → Bool) (f : Nat → α) (n : Nat) :
    ((List.range n).map f).takeWhile p =
      ((List.range n).filter fun i => decide (∀ j ≤ i, p (f j))).map f := by
  induction n generalizing f with
  | zero => rfl
  | succ n ih =>
    rw [List.range_succ_eq_map, List.map_cons, List.map_map]
    by_cases first : p (f 0)
    · have later (i : Nat) : (∀ j ≤ i + 1, p (f j)) ↔ ∀ j ≤ i, p (f (j + 1)) := by
        constructor
        · intro all j within
          exact all (j + 1) (by omega)
        · intro all j within
          cases j with
          | zero => exact first
          | succ j => exact all j (by omega)
      have front : ∀ j ≤ 0, p (f j) := by
        intro j within
        rw [Nat.le_zero.mp within]
        exact first
      rw [List.takeWhile_cons_of_pos first, ih, List.filter_cons_of_pos (by simpa using front),
        List.map_cons, List.filter_map, List.map_map]
      congr 2
      apply List.filter_congr
      intro i _
      exact decide_eq_decide.mpr (later i).symm
    · have none (i : Nat) : ¬∀ j ≤ i, p (f j) := fun all => first (all 0 (Nat.zero_le i))
      rw [List.takeWhile_cons_of_neg first, List.filter_eq_nil_iff.mpr]
      · rfl
      · intro i _
        simpa using none i

theorem levelReports_eq (cpuid : Cpuid) :
    levelReports cpuid = ((List.range 8).filter (Counts cpuid ·)).map (LevelReport.ofSubleaf cpuid) := by
  have places : subleaves = (List.range 8).map UInt32.ofNat := by decide
  rw [levelReports, places, List.map_map]
  refine (takeWhile_map_range _ (LevelReport.ofSubleaf cpuid) 8).trans ?_
  congr 1
  apply List.filter_congr
  intro i member
  apply decide_eq_decide.mpr
  have type (j : Nat) : (LevelReport.ofSubleaf cpuid j).levelType ≠ 0 ↔ levelTypeAt cpuid j ≠ 0 := by
    rw [← toNat_levelType, ne_eq, ← UInt32.toNat_inj]
    rfl
  simp only [decide_eq_true_eq, type, Counts, List.mem_range.mp member, true_and]

def Level.number : Level → Nat
  | .smt => 1
  | .core => 2
  | .complex => 3
  | .ccd => 4
  | .die => 5
  | .package => 0

theorem Level.number_bounds (level : Level) (reported : level ≠ .package) :
    1 ≤ level.number ∧ level.number ≤ 5 := by
  cases level with
  | package => exact absurd rfl reported
  | _ => decide

theorem Level.ofType_eq_some {levelType : UInt32} {level : Level} (reported : level ≠ .package) :
    Level.ofType levelType = some level ↔ levelType.toNat = level.number := by
  have type (n : UInt32) : levelType = n ↔ levelType.toNat = n.toNat := UInt32.toNat_inj.symm
  simp only [Level.ofType, type]
  repeat' split
  all_goals cases level <;> simp_all [number]

def widthReports (cpuid : Cpuid) : List (Level × UInt32) :=
  (levelReports cpuid).filterMap LevelReport.known

theorem widths_known (reports : List LevelReport) {level : Level} (reported : level ≠ .package) :
    (((reports.filterMap LevelReport.known).filter (·.1 = level)).map (·.2)) =
      (reports.filter (·.levelType.toNat = level.number)).map (·.shift) := by
  induction reports with
  | nil => rfl
  | cons report rest ih =>
    have chosen : Level.ofType report.levelType = some level ↔ report.levelType.toNat = level.number :=
      Level.ofType_eq_some reported
    by_cases here : report.levelType.toNat = level.number
    · have known : report.known = some (level, report.shift) := by
        rw [LevelReport.known, chosen.mpr here]
        rfl
      rw [List.filterMap_cons_some known, List.filter_cons_of_pos (by simp),
        List.filter_cons_of_pos (by simpa using here), List.map_cons, List.map_cons, ih]
    · rw [List.filter_cons_of_neg (by simpa using here), ← ih]
      cases known : report.known with
      | none => rw [List.filterMap_cons_none known]
      | some found =>
        have other : found.1 ≠ level := by
          rintro rfl
          obtain ⟨type, named, rfl⟩ := Option.map_eq_some_iff.mp known
          exact here (chosen.mp named)
        rw [List.filterMap_cons_some known, List.filter_cons_of_neg (by simpa using other)]

theorem toNat_lastReport (cpuid : Cpuid) {level : Level} (reported : level ≠ .package) :
    (Decoder.lastReport (widthReports cpuid) level).map (·.toNat) =
      (shifts cpuid level.number).getLast? := by
  have chosen : ((List.range 8).filter fun i => decide (Counts cpuid i)).filter
        (fun i => decide ((LevelReport.ofSubleaf cpuid i).levelType.toNat = level.number)) =
      (List.range 8).filter fun i => decide (Counts cpuid i ∧ levelTypeAt cpuid i = level.number) := by
    rw [List.filter_filter]
    apply List.filter_congr
    intro i _
    rw [toNat_levelType, ← Bool.decide_and, decide_eq_decide, and_comm]
  have shift : (fun w : UInt32 => w.toNat) ∘ (fun report : LevelReport => report.shift) ∘
      LevelReport.ofSubleaf cpuid = shiftAt cpuid := funext (toNat_shift cpuid)
  rw [Decoder.lastReport, widthReports, widths_known _ reported, levelReports_eq, List.filter_map,
    List.map_map, ← List.getLast?_map, List.map_map, shift, shifts, ← chosen]
  rfl

-- The last shift that is not zero, of the levels from `top` down to the first; zero where there is none.
inductive Nearest (last : Nat → Nat) (top : Nat) : Nat → Prop where
  | found (level : Nat) (first : 1 ≤ level) (within : level ≤ top) (positive : last level ≠ 0)
      (between : ∀ i, level < i → i ≤ top → last i = 0) : Nearest last top (last level)
  | none (silent : ∀ i, 1 ≤ i → i ≤ top → last i = 0) : Nearest last top 0

theorem Nearest.first (last : Nat → Nat) : Nearest last 1 (last 1) := by
  by_cases zero : last 1 = 0
  · rw [zero]
    apply Nearest.none
    intro i first within
    rwa [Nat.le_antisymm within first]
  · exact .found 1 (Nat.le_refl 1) (Nat.le_refl 1) zero fun i above within => by omega

theorem Nearest.next {last : Nat → Nat} {top width : Nat} (below : Nearest last top width) :
    Nearest last (top + 1) (if last (top + 1) = 0 then width else last (top + 1)) := by
  split
  next zero =>
    cases below with
    | found level first within positive between =>
      refine .found level first (Nat.le_succ_of_le within) positive ?_
      intro i above inside
      rcases Nat.le_succ_iff.mp inside with lower | rfl
      · exact between i above lower
      · exact zero
    | none silent =>
      refine .none ?_
      intro i first inside
      rcases Nat.le_succ_iff.mp inside with lower | rfl
      · exact silent i first lower
      · exact zero
  next positive =>
    exact .found (top + 1) (Nat.le_add_left 1 top) (Nat.le_refl _) positive fun i above within => by omega

theorem Nearest.le {last : Nat → Nat} {top width bound : Nat} (nearest : Nearest last top width)
    (bounded : ∀ i, last i ≤ bound) : width ≤ bound := by
  cases nearest with
  | found level => exact bounded level
  | none => exact Nat.zero_le bound

theorem Nearest.pos {last : Nat → Nat} {top width : Nat} (nearest : Nearest last top width)
    (inside : 1 ≤ top) (first : last 1 ≠ 0) : 1 ≤ width := by
  cases nearest with
  | found level _ _ positive => exact Nat.one_le_iff_ne_zero.mpr positive
  | none silent => exact absurd (silent 1 (Nat.le_refl 1) inside) first

theorem toNat_inherit (reported : Option UInt32) (below : UInt32) :
    (Decoder.inherit reported below).toNat =
      if ((reported.map (·.toNat)).getD 0) = 0 then below.toNat else (reported.map (·.toNat)).getD 0 := by
  cases reported with
  | none => rfl
  | some width =>
    by_cases zero : width = 0
    · simp [Decoder.inherit, zero]
    · have positive : width.toNat ≠ 0 := fun eq => zero (UInt32.toNat_inj.mp eq)
      simp [Decoder.inherit, zero, positive]

theorem lastShift_le (cpuid : Cpuid) (levelType : Nat) : lastShift cpuid levelType ≤ 31 := by
  rw [lastShift]
  cases found : (shifts cpuid levelType).getLast? with
  | none => exact Nat.zero_le 31
  | some shift =>
    obtain ⟨i, _, rfl⟩ := List.mem_map.mp (List.mem_of_getLast? found)
    exact Nat.le_of_lt_succ (Nat.mod_lt _ (by decide))

structure Decoder.Inferred (cpuid : Cpuid) (decoder : Decoder) : Prop where
  smt : decoder.smt.toNat = lastShift cpuid 1
  core : Nearest (lastShift cpuid) 2 decoder.core.toNat
  complex : Nearest (lastShift cpuid) 3 decoder.complex.toNat
  ccd : Nearest (lastShift cpuid) 4 decoder.ccd.toNat
  die : Nearest (lastShift cpuid) 5 decoder.die.toNat
  package : decoder.package.toNat = decoder.die.toNat + 1

theorem nearest_inherit {cpuid : Cpuid} {level : Level} {top : Nat} {below : UInt32}
    (reported : level ≠ .package) (number : level.number = top + 1)
    (nearest : Nearest (lastShift cpuid) top below.toNat) :
    Nearest (lastShift cpuid) (top + 1)
      (Decoder.inherit (Decoder.lastReport (widthReports cpuid) level) below).toNat := by
  rw [toNat_inherit, toNat_lastReport cpuid reported, number]
  exact nearest.next

theorem Decoder.inferred_ofCpuid (cpuid : Cpuid) : (ofCpuid cpuid).Inferred cpuid := by
  have smt : (ofCpuid cpuid).smt.toNat = lastShift cpuid 1 := by
    have last : (lastReport (widthReports cpuid) .smt).map (·.toNat) = (shifts cpuid 1).getLast? :=
      toNat_lastReport cpuid nofun
    change ((lastReport (widthReports cpuid) .smt).getD 0).toNat = _
    rw [lastShift, ← last]
    cases lastReport (widthReports cpuid) .smt <;> rfl
  -- Each level inherits from the one below, so the levels are gone through from the thread up.
  have first : Nearest (lastShift cpuid) 1 (ofCpuid cpuid).smt.toNat := smt ▸ Nearest.first _
  have core : Nearest (lastShift cpuid) 2 (ofCpuid cpuid).core.toNat :=
    nearest_inherit nofun rfl first
  have complex : Nearest (lastShift cpuid) 3 (ofCpuid cpuid).complex.toNat :=
    nearest_inherit nofun rfl core
  have ccd : Nearest (lastShift cpuid) 4 (ofCpuid cpuid).ccd.toNat :=
    nearest_inherit nofun rfl complex
  have die : Nearest (lastShift cpuid) 5 (ofCpuid cpuid).die.toNat :=
    nearest_inherit nofun rfl ccd
  have small := die.le (lastShift_le cpuid)
  refine ⟨smt, core, complex, ccd, die, ?_⟩
  change ((ofCpuid cpuid).die + 1).toNat = _
  rw [UInt32.toNat_add, UInt32.toNat_one]
  omega

theorem Decoder.ofCpuid_eq_of_shifts {cpuid other : Cpuid}
    (same : ∀ levelType, 1 ≤ levelType → levelType ≤ 5 →
      shifts other levelType = shifts cpuid levelType) : ofCpuid other = ofCpuid cpuid := by
  have last (level : Level) (reported : level ≠ .package) :
      lastReport (widthReports other) level = lastReport (widthReports cpuid) level := by
    obtain ⟨first, within⟩ := level.number_bounds reported
    apply Option.map_injective fun a b => UInt32.toNat_inj.mp
    rw [toNat_lastReport other reported, toNat_lastReport cpuid reported, same _ first within]
  have smt := last .smt nofun
  have core := last .core nofun
  have complex := last .complex nofun
  have ccd := last .ccd nofun
  have die := last .die nofun
  change ofReports (widthReports other) = ofReports (widthReports cpuid)
  simp only [ofReports, smt, core, complex, ccd, die]

theorem Decoder.Inferred.le {cpuid : Cpuid} {decoder : Decoder} (inferred : decoder.Inferred cpuid) :
    ∀ width ∈ [decoder.smt, decoder.core, decoder.complex, decoder.ccd, decoder.die],
      width.toNat ≤ 31 := by
  have bounded := lastShift_le cpuid
  simp only [List.mem_cons, List.not_mem_nil, or_false, forall_eq_or_imp, forall_eq]
  exact ⟨inferred.smt ▸ bounded 1, inferred.core.le bounded, inferred.complex.le bounded,
    inferred.ccd.le bounded, inferred.die.le bounded⟩

theorem Decoder.Inferred.pos {cpuid : Cpuid} {decoder : Decoder} (inferred : decoder.Inferred cpuid)
    (threads : 1 ≤ decoder.smt.toNat) : ∀ width ∈ decoder.widths, 1 ≤ width.toNat := by
  have first : lastShift cpuid 1 ≠ 0 := inferred.smt ▸ Nat.one_le_iff_ne_zero.mp threads
  simp only [widths, List.mem_cons, List.not_mem_nil, or_false, forall_eq_or_imp, forall_eq]
  exact ⟨threads, inferred.core.pos (by decide) first, inferred.complex.pos (by decide) first,
    inferred.ccd.pos (by decide) first, inferred.die.pos (by decide) first,
    inferred.package ▸ Nat.le_add_left 1 _⟩

/-- Detection answers with the widths that the reports call for. They are narrow, and none is zero where
threads have a width. Nothing behind the first subleaf without a level counts, and the order in which
different levels are reported makes no difference. -/
theorem detect_infers (cpuid : Cpuid) :
    let decoder := Decoder.ofCpuid cpuid
    (∀ (σ ε : Type) (s : σ), (detect cpuid : Action σ ε Decoder).Answers s decoder s) ∧
      (∀ other, SameReports cpuid other → Decoder.ofCpuid other = decoder) ∧
      decoder.Inferred cpuid ∧
      (∀ width ∈ [decoder.smt, decoder.core, decoder.complex, decoder.ccd, decoder.die],
        width.toNat ≤ 31) ∧
      decoder.package.toNat ≤ 32 ∧
      (1 ≤ decoder.smt.toNat → ∀ width ∈ decoder.widths, 1 ≤ width.toNat) ∧
      ∀ other, (∀ levelType, 1 ≤ levelType → levelType ≤ 5 →
        shifts other levelType = shifts cpuid levelType) → Decoder.ofCpuid other = decoder := by
  intro decoder
  have inferred : decoder.Inferred cpuid := Decoder.inferred_ofCpuid cpuid
  have small := inferred.le
  refine ⟨?_, ?_, inferred, small, ?_, inferred.pos, ?_⟩
  · intro σ ε s
    exact detect_answers.mpr ⟨rfl, rfl⟩
  · intro other same
    exact Decoder.ofCpuid_eq_of_shifts fun levelType _ _ => same.shifts_eq levelType
  · rw [inferred.package]
    exact Nat.succ_le_succ (small decoder.die (by simp))
  · intro other same
    exact Decoder.ofCpuid_eq_of_shifts same

def reporting (reports : List (UInt32 × UInt32)) : Cpuid := fun leaf subleaf =>
  match leaf == topologyLeaf, reports[subleaf.toNat]? with
  | true, some (levelType, shift) => { eax := shift, ecx := levelType <<< 8 ||| subleaf }
  | _, _ => { eax := 0, ecx := 0 }

-- Threads twice, a level type without a name, and a CCD whose shift is zero.
def repeated : Cpuid := reporting [(1, 2), (9, 6), (4, 0), (2, 4), (1, 1)]

-- The levels in another order, and one more behind a subleaf without a level.
def reordered : Cpuid := reporting [(4, 0), (1, 2), (1, 1), (2, 4), (0, 0), (5, 9)]

-- The same as far as it is asked, with bits that mean nothing.
def noisy : Cpuid :=
  reporting [(1, 0xE2), (9, 6), (4, 0xFFFFFFE0), (2, 4), (1, 1), (0, 3), (3, 7)]

theorem detect_infers_repeated :
    let decoder := Decoder.ofCpuid repeated
    decoder.widths = [1, 4, 4, 4, 4, 5] ∧ decoder.Inferred repeated ∧
      SameReports repeated noisy ∧ Decoder.ofCpuid noisy = decoder ∧
      (∀ levelType, 1 ≤ levelType → levelType ≤ 5 →
        shifts reordered levelType = shifts repeated levelType) ∧
      Decoder.ofCpuid reordered = decoder ∧
      1 ≤ decoder.smt.toNat ∧ ∀ width ∈ decoder.widths, 1 ≤ width.toNat := by
  intro decoder
  obtain ⟨-, same, inferred, -, -, positive, ordered⟩ := detect_infers repeated
  have alike : SameReports repeated noisy := by
    unfold SameReports
    decide
  have shuffled : ∀ levelType, 1 ≤ levelType → levelType ≤ 5 →
      shifts reordered levelType = shifts repeated levelType := by
    intro levelType first within
    interval_cases levelType <;> decide
  have threads : 1 ≤ decoder.smt.toNat := by decide
  exact ⟨by decide, inferred, alike, same noisy alike, shuffled, ordered reordered shuffled, threads,
    positive threads⟩

end Topology

end FirmwareTables
