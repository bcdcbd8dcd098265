import FirmwareTables.BootLog.Event

set_option autoImplicit false

namespace FirmwareTables

structure Outcome (σ ε α : Type) where
  result : Except ε α
  state : σ
  events : List Event

-- What an action changed and reported before it failed stays.
def Action (σ ε α : Type) : Type := σ → Outcome σ ε α

namespace Action

variable {σ τ ε δ α β : Type}

def run (x : Action σ ε α) (s : σ) : Outcome σ ε α := x s

def succeed (a : α) : Action σ ε α := fun s => ⟨.ok a, s, []⟩

def fail (e : ε) : Action σ ε α := fun s => ⟨.error e, s, []⟩

def andThen (x : Action σ ε α) (f : α → Action σ ε β) : Action σ ε β := fun s =>
  match x s with
  | ⟨.error e, s', events⟩ => ⟨.error e, s', events⟩
  | ⟨.ok a, s', events⟩ =>
    let later := f a s'
    ⟨later.result, later.state, events ++ later.events⟩

instance : Monad (Action σ ε) where
  pure := succeed
  bind := andThen

def get : Action σ ε σ := fun s => ⟨.ok s, s, []⟩

def set (s : σ) : Action σ ε Unit := fun _ => ⟨.ok (), s, []⟩

def modify (f : σ → σ) : Action σ ε Unit := fun s => ⟨.ok (), f s, []⟩

def report (level : Level) (component : Component) (message : String) : Action σ ε Unit :=
  fun s => ⟨.ok (), s, [⟨level, component, message⟩]⟩

def ofExcept : Except ε α → Action σ ε α
  | .ok a => succeed a
  | .error e => fail e

def mapError (f : ε → δ) (x : Action σ ε α) : Action σ δ α := fun s =>
  let out := x s
  ⟨out.result.mapError f, out.state, out.events⟩

def attempt (x : Action σ ε α) : Action σ δ (Except ε α) := fun s =>
  let out := x s
  ⟨.ok out.result, out.state, out.events⟩

def onPart (view : τ → σ) (put : σ → τ → τ) (x : Action σ ε α) : Action τ ε α := fun t =>
  let out := x (view t)
  ⟨out.result, put out.state t, out.events⟩

@[simp] theorem run_pure (a : α) (s : σ) : (pure a : Action σ ε α).run s = ⟨.ok a, s, []⟩ := rfl

@[simp] theorem run_succeed (a : α) (s : σ) : (succeed a : Action σ ε α).run s = ⟨.ok a, s, []⟩ :=
  rfl

@[simp] theorem run_fail (e : ε) (s : σ) : (fail e : Action σ ε α).run s = ⟨.error e, s, []⟩ := rfl

@[simp] theorem run_get (s : σ) : (get : Action σ ε σ).run s = ⟨.ok s, s, []⟩ := rfl

@[simp] theorem run_set (s s' : σ) : (set s : Action σ ε Unit).run s' = ⟨.ok (), s, []⟩ := rfl

@[simp] theorem run_report (level : Level) (component : Component) (message : String) (s : σ) :
    (report level component message : Action σ ε Unit).run s =
      ⟨.ok (), s, [⟨level, component, message⟩]⟩ := rfl

theorem run_bind_ok {x : Action σ ε α} {f : α → Action σ ε β} {s s' : σ} {a : α}
    {events : List Event} (h : x.run s = ⟨.ok a, s', events⟩) :
    (x >>= f).run s =
      ⟨((f a).run s').result, ((f a).run s').state, events ++ ((f a).run s').events⟩ := by
  simp only [run] at h ⊢
  simp [bind, andThen, h]

theorem run_bind_error {x : Action σ ε α} {f : α → Action σ ε β} {s s' : σ} {e : ε}
    {events : List Event} (h : x.run s = ⟨.error e, s', events⟩) :
    (x >>= f).run s = ⟨.error e, s', events⟩ := by
  simp only [run] at h ⊢
  simp [bind, andThen, h]

@[simp] theorem run_mapError (f : ε → δ) (x : Action σ ε α) (s : σ) :
    (x.mapError f).run s = ⟨(x.run s).result.mapError f, (x.run s).state, (x.run s).events⟩ := rfl

@[simp] theorem run_attempt (x : Action σ ε α) (s : σ) :
    (x.attempt : Action σ δ (Except ε α)).run s =
      ⟨.ok (x.run s).result, (x.run s).state, (x.run s).events⟩ := rfl

@[simp] theorem run_onPart (view : τ → σ) (put : σ → τ → τ) (x : Action σ ε α) (t : τ) :
    (x.onPart view put).run t =
      ⟨(x.run (view t)).result, put (x.run (view t)).state t, (x.run (view t)).events⟩ := rfl

def Answers (x : Action σ ε α) (s : σ) (a : α) (s' : σ) : Prop :=
  (x.run s).result = .ok a ∧ (x.run s).state = s'

def Refuses (x : Action σ ε α) (s : σ) (e : ε) (s' : σ) : Prop :=
  (x.run s).result = .error e ∧ (x.run s).state = s'

theorem Answers.unique {x : Action σ ε α} {s one two : σ} {a b : α} (first : x.Answers s a one)
    (second : x.Answers s b two) : a = b ∧ one = two :=
  ⟨Except.ok.inj (first.1.symm.trans second.1), first.2.symm.trans second.2⟩

theorem run_bind (x : Action σ ε α) (f : α → Action σ ε β) (s : σ) :
    (x >>= f).run s = match x.run s with
      | ⟨.error e, s', events⟩ => ⟨.error e, s', events⟩
      | ⟨.ok a, s', events⟩ =>
        ⟨((f a).run s').result, ((f a).run s').state, events ++ ((f a).run s').events⟩ := by
  match found : x.run s with
  | ⟨.error e, s', events⟩ => exact run_bind_error found
  | ⟨.ok a, s', events⟩ => exact run_bind_ok found

theorem answers_bind {x : Action σ ε α} {f : α → Action σ ε β} {s s'' : σ} {b : β} :
    (x >>= f).Answers s b s'' ↔ ∃ a s', x.Answers s a s' ∧ (f a).Answers s' b s'' := by
  simp only [Answers, run_bind]
  match x.run s with
  | ⟨.error _, _, _⟩ => simp
  | ⟨.ok a, s', _⟩ =>
    constructor
    · intro later
      exact ⟨a, s', ⟨rfl, rfl⟩, later⟩
    · rintro ⟨_, _, ⟨⟨⟩, rfl⟩, later⟩
      exact later

theorem refuses_bind {x : Action σ ε α} {f : α → Action σ ε β} {s s'' : σ} {e : ε} :
    (x >>= f).Refuses s e s'' ↔
      x.Refuses s e s'' ∨ ∃ a s', x.Answers s a s' ∧ (f a).Refuses s' e s'' := by
  simp only [Answers, Refuses, run_bind]
  match x.run s with
  | ⟨.error _, _, _⟩ => simp
  | ⟨.ok a, s', _⟩ =>
    constructor
    · intro later
      exact Or.inr ⟨a, s', ⟨rfl, rfl⟩, later⟩
    · rintro (⟨⟨⟩, _⟩ | ⟨_, _, ⟨⟨⟩, rfl⟩, later⟩)
      exact later

@[simp] theorem answers_pure {a b : α} {s s' : σ} :
    (pure a : Action σ ε α).Answers s b s' ↔ b = a ∧ s' = s := by
  simp [Answers, eq_comm]

@[simp] theorem answers_fail {e : ε} {a : α} {s s' : σ} :
    ¬(fail e : Action σ ε α).Answers s a s' := by
  simp [Answers]

@[simp] theorem answers_get {s t s' : σ} :
    (get : Action σ ε σ).Answers s t s' ↔ t = s ∧ s' = s := by
  simp [Answers, eq_comm]

theorem answers_get_bind {f : σ → Action σ ε β} {s s'' : σ} {b : β} :
    (get >>= f).Answers s b s'' ↔ (f s).Answers s b s'' := by
  simp [answers_bind, and_assoc]

@[simp] theorem answers_set {s t s' : σ} {u : Unit} :
    (set t : Action σ ε Unit).Answers s u s' ↔ s' = t := by
  simp [Answers, eq_comm]

@[simp] theorem answers_report {level : Level} {component : Component} {message : String}
    {s s' : σ} {u : Unit} :
    (report level component message : Action σ ε Unit).Answers s u s' ↔ s' = s := by
  simp [Answers, eq_comm]

theorem answers_report_bind {level : Level} {component : Component} {message : String}
    {f : Unit → Action σ ε β} {s s'' : σ} {b : β} :
    (report level component message >>= f).Answers s b s'' ↔ (f ()).Answers s b s'' := by
  simp only [answers_bind, answers_report]
  constructor
  · rintro ⟨_, _, rfl, later⟩
    exact later
  · intro later
    exact ⟨(), s, rfl, later⟩

@[simp] theorem answers_ofExcept {r : Except ε α} {a : α} {s s' : σ} :
    (ofExcept r).Answers s a s' ↔ r = .ok a ∧ s' = s := by
  cases r <;> simp [Answers, ofExcept, eq_comm]

theorem bind_eq_ok {r : Except ε α} {f : α → Except ε β} {b : β} :
    (r >>= f) = .ok b ↔ ∃ a, r = .ok a ∧ f a = .ok b := by
  cases r <;> simp [bind, Except.bind]

theorem bind_eq_error {r : Except ε α} {f : α → Except ε β} {e : ε} :
    (r >>= f) = .error e ↔ r = .error e ∨ ∃ a, r = .ok a ∧ f a = .error e := by
  cases r <;> simp [bind, Except.bind]

theorem mapError_eq_ok {f : ε → δ} {r : Except ε α} {a : α} : r.mapError f = .ok a ↔ r = .ok a := by
  cases r with
  | ok =>
    constructor
    · rintro ⟨rfl⟩
      rfl
    · rintro ⟨rfl⟩
      rfl
  | error => exact ⟨nofun, nofun⟩

theorem mapError_eq_error {f : ε → δ} {r : Except ε α} {d : δ} :
    r.mapError f = .error d ↔ ∃ e, r = .error e ∧ f e = d := by
  cases r with
  | ok => exact ⟨nofun, nofun⟩
  | error e =>
    constructor
    · intro same
      exact ⟨e, rfl, Except.error.inj same⟩
    · rintro ⟨_, ⟨rfl⟩, rfl⟩
      rfl

theorem answers_ofExcept_bind_iff {r : Except ε α} {f : α → Action σ ε β} {s s'' : σ} {b : β} :
    (ofExcept r >>= f).Answers s b s'' ↔ ∃ a, r = .ok a ∧ (f a).Answers s b s'' := by
  cases r <;> simp [answers_bind, and_assoc]

theorem answers_ofExcept_bind {r : Except ε α} {f : α → Action σ ε β} {s s'' : σ} {a : α} {b : β}
    (answer : r = .ok a) : (ofExcept r >>= f).Answers s b s'' ↔ (f a).Answers s b s'' := by
  simp [answers_bind, answer, and_assoc]

@[simp] theorem refuses_pure {e : ε} {a : α} {s s' : σ} :
    ¬(pure a : Action σ ε α).Refuses s e s' := by
  simp [Refuses]

@[simp] theorem refuses_fail {e e' : ε} {s s' : σ} :
    (fail e : Action σ ε α).Refuses s e' s' ↔ e' = e ∧ s' = s := by
  simp [Refuses, eq_comm]

@[simp] theorem refuses_ofExcept {r : Except ε α} {e : ε} {s s' : σ} :
    (ofExcept r).Refuses s e s' ↔ r = .error e ∧ s' = s := by
  cases r <;> simp [Refuses, ofExcept, eq_comm]

theorem refuses_get_bind {f : σ → Action σ ε β} {s s' : σ} {e : ε} :
    (get >>= f).Refuses s e s' ↔ (f s).Refuses s e s' := by
  simp [Refuses, run_bind]

theorem refuses_report_bind {level : Level} {component : Component} {message : String}
    {f : Unit → Action σ ε β} {s s' : σ} {e : ε} :
    (report level component message >>= f).Refuses s e s' ↔ (f ()).Refuses s e s' := by
  simp [Refuses, run_bind]

theorem refuses_ofExcept_bind_iff {r : Except ε α} {f : α → Action σ ε β} {s s' : σ} {e : ε} :
    (ofExcept r >>= f).Refuses s e s' ↔
      (r = .error e ∧ s' = s) ∨ ∃ a, r = .ok a ∧ (f a).Refuses s e s' := by
  simp [refuses_bind, and_assoc]

@[simp] theorem answers_mapError {f : ε → δ} {x : Action σ ε α} {s s' : σ} {a : α} :
    (x.mapError f).Answers s a s' ↔ x.Answers s a s' := by
  simp only [Answers, run_mapError]
  rw [mapError_eq_ok]

@[simp] theorem refuses_mapError {f : ε → δ} {x : Action σ ε α} {s s' : σ} {d : δ} :
    (x.mapError f).Refuses s d s' ↔ ∃ e, x.Refuses s e s' ∧ f e = d := by
  simp only [Refuses, run_mapError]
  rw [mapError_eq_error]
  exact ⟨fun ⟨⟨e, failed, same⟩, state⟩ => ⟨e, ⟨failed, state⟩, same⟩,
    fun ⟨e, ⟨failed, state⟩, same⟩ => ⟨⟨e, failed, same⟩, state⟩⟩

@[simp] theorem answers_attempt {x : Action σ ε α} {s s' : σ} {r : Except ε α} :
    (x.attempt : Action σ δ (Except ε α)).Answers s r s' ↔
      (x.run s).result = r ∧ (x.run s).state = s' := by
  simp [Answers]

theorem answers_onPart {view : τ → σ} {put : σ → τ → τ} {x : Action σ ε α} {t t' : τ} {a : α} :
    (x.onPart view put).Answers t a t' ↔ ∃ s, x.Answers (view t) a s ∧ put s t = t' := by
  simp only [Answers, run_onPart]
  constructor
  · rintro ⟨answer, rfl⟩
    exact ⟨_, ⟨answer, rfl⟩, rfl⟩
  · rintro ⟨_, ⟨answer, rfl⟩, rfl⟩
    exact ⟨answer, rfl⟩

theorem refuses_onPart {view : τ → σ} {put : σ → τ → τ} {x : Action σ ε α} {t t' : τ} {e : ε} :
    (x.onPart view put).Refuses t e t' ↔ ∃ s, x.Refuses (view t) e s ∧ put s t = t' := by
  simp only [Refuses, run_onPart]
  constructor
  · rintro ⟨refusal, rfl⟩
    exact ⟨_, ⟨refusal, rfl⟩, rfl⟩
  · rintro ⟨_, ⟨refusal, rfl⟩, rfl⟩
    exact ⟨refusal, rfl⟩

end Action

end FirmwareTables
