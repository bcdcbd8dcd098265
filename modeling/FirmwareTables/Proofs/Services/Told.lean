import FirmwareTables.Action
import FirmwareTables.Services.Sequence
import Mathlib

set_option autoImplicit false

namespace FirmwareTables

namespace Action

variable {σ ε α β : Type} {invariant : σ → Prop}

theorem Answers.run_bind {x : Action σ ε α} {f : α → Action σ ε β} {s s' : σ} {a : α}
    (answers : x.Answers s a s') : ((x >>= f).run s).result = ((f a).run s').result ∧
      ((x >>= f).run s).state = ((f a).run s').state := by
  obtain ⟨result, rfl⟩ := answers
  match ran : x.run s with
  | ⟨.ok b, middle, events⟩ =>
    rw [ran] at result
    cases result
    rw [run_bind_ok ran]
    exact ⟨rfl, rfl⟩
  | ⟨.error e, middle, events⟩ =>
    rw [ran] at result
    cases result

theorem Refuses.run_bind {x : Action σ ε α} {s s' : σ} {e : ε} (refuses : x.Refuses s e s')
    (f : α → Action σ ε β) : (x >>= f).Refuses s e s' :=
  refuses_bind.mpr (Or.inl refuses)

-- What the action comes to in any state that keeps to the invariant, which holds afterwards too.
def Tells (invariant : σ → Prop) (x : Action σ ε α) (told : Except ε α) : Prop :=
  ∀ s, invariant s → (x.run s).result = told ∧ invariant (x.run s).state

namespace Tells

theorem pure (a : α) : Tells invariant (Pure.pure a : Action σ ε α) (.ok a) :=
  fun _ kept => ⟨rfl, kept⟩

theorem fail (e : ε) : Tells invariant (Action.fail e : Action σ ε α) (.error e) :=
  fun _ kept => ⟨rfl, kept⟩

theorem bind {x : Action σ ε α} {f : α → Action σ ε β} {told : Except ε α} {g : α → Except ε β}
    (first : Tells invariant x told) (next : ∀ a, told = .ok a → Tells invariant (f a) (g a)) :
    Tells invariant (x >>= f) (told.bind g) := by
  intro s kept
  obtain ⟨result, still⟩ := first s kept
  cases told with
  | ok a =>
    have answers : x.Answers s a _ := ⟨result, rfl⟩
    rw [answers.run_bind.1, answers.run_bind.2]
    exact next a rfl _ still
  | error e =>
    obtain ⟨failed, stays⟩ := Refuses.run_bind ⟨result, rfl⟩ f
    rw [failed, stays]
    exact ⟨rfl, still⟩

theorem bind_ok {x : Action σ ε α} {f : α → Action σ ε β} {a : α} {told : Except ε β}
    (first : Tells invariant x (.ok a)) (next : Tells invariant (f a) told) :
    Tells invariant (x >>= f) told := by
  refine first.bind (g := fun _ => told) ?_
  rintro _ ⟨⟩
  exact next

theorem bind_error {x : Action σ ε α} {f : α → Action σ ε β} {e : ε}
    (first : Tells invariant x (.error e)) : Tells invariant (x >>= f) (.error e) := by
  refine first.bind (g := fun _ => .error e) ?_
  rintro _ ⟨⟩

theorem map {x : Action σ ε α} {told : Except ε α} (first : Tells invariant x told) (f : α → β) :
    Tells invariant (x >>= fun a => Pure.pure (f a)) (told.map f) := by
  have same : told.map f = told.bind fun a => .ok (f a) := by
    cases told <;> rfl
  rw [same]
  exact first.bind fun a _ => pure (f a)

theorem report_bind (level : Level) (component : Component) (message : String)
    {f : Unit → Action σ ε β} {told : Except ε β} (next : Tells invariant (f ()) told) :
    Tells invariant (report level component message >>= f) told :=
  bind_ok (fun _ kept => ⟨rfl, kept⟩) next

end Tells

theorem run_bind_tells {x : Action σ ε α} {f : α → Action σ ε β} {g : α → Except ε β}
    (next : ∀ a s, Tells (· = s) (f a) (g a)) (s : σ) :
    ((x >>= f).run s).result = (x.run s).result.bind g ∧ ((x >>= f).run s).state = (x.run s).state := by
  cases result : (x.run s).result with
  | ok a =>
    have answers : x.Answers s a _ := ⟨result, rfl⟩
    rw [answers.run_bind.1, answers.run_bind.2]
    exact next a _ _ rfl
  | error e => exact Refuses.run_bind ⟨result, rfl⟩ f

theorem run_bind_pure (x : Action σ ε α) (f : α → β) (s : σ) :
    ((x >>= fun a => pure (f a)).run s).result = (x.run s).result.map f ∧
      ((x >>= fun a => pure (f a)).run s).state = (x.run s).state := by
  have mapped : (x.run s).result.map f = (x.run s).result.bind fun a => .ok (f a) := by
    cases (x.run s).result <;> rfl
  rw [mapped]
  exact run_bind_tells (fun a _ => Tells.pure (f a)) s

end Action

namespace Services

variable {ε α β : Type}

def failure? : Except ε α → Option ε
  | .ok _ => none
  | .error e => some e

def failures (answers : List (Except ε α)) : List ε := answers.filterMap failure?

@[simp] theorem failures_nil : failures ([] : List (Except ε α)) = [] := rfl

@[simp] theorem failures_cons_ok (a : α) (rest : List (Except ε α)) :
    failures (.ok a :: rest) = failures rest := rfl

@[simp] theorem failures_cons_error (e : ε) (rest : List (Except ε α)) :
    failures (.error e :: rest) = e :: failures rest := rfl

theorem failures_eq_nil_iff {answers : List (Except ε α)} :
    failures answers = [] ↔ ∀ answer ∈ answers, ∃ a, answer = .ok a := by
  rw [failures, List.filterMap_eq_nil_iff]
  refine forall₂_congr fun answer _ => ?_
  cases answer <;> simp [failure?]

theorem failure?_eq_some_iff {answer : Except ε α} {e : ε} :
    failure? answer = some e ↔ answer = .error e := by
  cases answer <;> simp [failure?]

theorem head?_failures_map {ι : Type} {answer : ι → Except ε α} {causes : ι → List ε}
    (first : ∀ i, failure? (answer i) = (causes i).head?) (items : List ι) :
    (failures (items.map answer)).head? = (items.flatMap causes).head? := by
  induction items with
  | nil => rfl
  | cons item rest ih =>
    rw [List.map_cons, List.flatMap_cons, List.head?_append, ← first item]
    cases answer item with
    | error e => rfl
    | ok a => exact ih

theorem failure?_readRange (read : Nat → Except ε α) (first count : Nat) :
    failure? (readRange read first count) =
      (failures ((List.range' first count).map read)).head? := by
  induction count generalizing first with
  | zero => rfl
  | succ count ih =>
    rw [readRange_succ, List.range'_succ, List.map_cons]
    cases read first with
    | error cause => rfl
    | ok item =>
      rw [failures_cons_ok, ← ih]
      cases readRange read (first + 1) count <;> rfl

theorem map_readRange (f : α → β) (read : Nat → Except ε α) (first count : Nat) :
    (readRange read first count).map (List.map f) =
      readRange (fun number => (read number).map f) first count := by
  induction count generalizing first with
  | zero => rfl
  | succ count ih =>
    rw [readRange_succ, readRange_succ, ← ih]
    cases read first with
    | error cause => rfl
    | ok item => cases readRange read (first + 1) count <;> rfl

end Services

end FirmwareTables
