import FirmwareTables.BootLog.Basic
import Mathlib

set_option autoImplicit false

namespace FirmwareTables.BootLog

theorem eq_of_retarget {log next : BootLog} {settings : LogSettings}
    (retargeted : log.retarget settings = .ok next) :
    { log with sink := next.sink, volume := next.volume } = next := by
  unfold retarget at retargeted
  split at retargeted
  · cases retargeted
  · unfold openFile at retargeted
    split at retargeted
    · cases retargeted
      rfl
    · split at retargeted <;> cases retargeted
      rfl
  all_goals
    cases retargeted
    rfl

theorem run_reconfigure (log : BootLog) (settings : LogSettings) :
    (reconfigure settings).run log = match log.configure settings with
      | .ok next => ⟨.ok (), next, []⟩
      | .error e => ⟨.error e, log, []⟩ := by
  rw [configure, reconfigure, Action.run_bind]
  simp only [Action.run_get]
  cases retargeted : log.retarget settings with
  | ok next =>
    have same := eq_of_retarget retargeted
    rw [← same]
    rfl
  | error e => rfl

theorem openFile_ne_conflicting (log : BootLog) (path : String) :
    log.openFile path ≠ .error .conflictingTargets := by
  unfold openFile
  split
  · exact nofun
  · split <;> exact nofun

theorem retarget_eq_conflicting {log : BootLog} {settings : LogSettings} :
    log.retarget settings = .error .conflictingTargets ↔
      settings.path.isSome ∧ settings.captureBuffer = some true := by
  rw [retarget]
  cases settings.path with
  | none => rcases settings.captureBuffer with _ | _ | _ <;> simp
  | some path =>
    have opened := log.openFile_ne_conflicting path
    rcases settings.captureBuffer with _ | _ | _ <;> simp [opened]

theorem configure_eq_conflicting {log : BootLog} {settings : LogSettings} :
    log.configure settings = .error .conflictingTargets ↔
      settings.path.isSome ∧ settings.captureBuffer = some true := by
  rw [← retarget_eq_conflicting, configure]
  cases log.retarget settings with
  | ok next => exact ⟨nofun, nofun⟩
  | error e => exact Iff.rfl

theorem path_of_retarget_error {log : BootLog} {settings : LogSettings} {e : LogError}
    (refused : log.retarget settings = .error e) : settings.path.isSome := by
  unfold retarget at refused
  split at refused
  next path _ named _ => rw [named, Option.isSome_some]
  next path _ named _ => rw [named, Option.isSome_some]
  all_goals cases refused

theorem path_of_retarget_buffer {log next : BootLog} {settings : LogSettings} {lines : List String}
    (retargeted : log.retarget settings = .ok next) (sink : next.sink = .buffer lines) :
    settings.path = none := by
  unfold retarget at retargeted
  split at retargeted
  · cases retargeted
  · unfold openFile at retargeted
    split at retargeted
    · cases retargeted
      cases sink
    · split at retargeted <;> cases retargeted
      cases sink
  all_goals assumption

inductive Call where
  | log (record : LogRecord)
  | flush
  | takeBuffer
  | configure (settings : LogSettings)
  deriving DecidableEq, Repr

def after (log : BootLog) : Call → BootLog
  | .log record => log.log record
  | .flush => log.flush
  | .takeBuffer => log.takeBuffer.2
  | .configure settings => ((reconfigure settings).run log).state

def handedOver (log : BootLog) : Call → String
  | .takeBuffer => log.takeBuffer.1
  | _ => ""

def afterAll (log : BootLog) (calls : List Call) : BootLog := calls.foldl after log

def moments : BootLog → List Call → List (BootLog × Call)
  | _, [] => []
  | log, call :: rest => (log, call) :: moments (log.after call) rest

def buffered (log : BootLog) : String :=
  match log.sink with
  | .buffer lines => String.join lines.reverse
  | _ => ""

def HasRoom (log : BootLog) (line : String) : Prop :=
  log.buffered.utf8ByteSize + line.utf8ByteSize ≤ 65536

instance (log : BootLog) (line : String) : Decidable (log.HasRoom line) := by
  unfold HasRoom
  infer_instance

def keptLine : BootLog × Call → Option String
  | (log, .log record) =>
    if log.accepts record ∧ log.HasRoom (log.render record) then some (log.render record) else none
  | _ => none

def Loses : BootLog × Call → Prop
  | (log, .log record) => log.accepts record ∧ ¬log.HasRoom (log.render record)
  | _ => False

instance : DecidablePred Loses := by
  rintro ⟨log, call⟩
  cases call <;> unfold Loses <;> infer_instance

def KeepsSink (log : BootLog) (call : Call) : Prop :=
  match call with
  | .configure _ => (log.after call).sink = log.sink
  | _ => True

def Steady (log : BootLog) (calls : List Call) : Prop :=
  ∀ moment ∈ moments log calls, moment.1.KeepsSink moment.2

structure Manner where
  level : LevelFilter
  module : Option String
  showLevel : Bool
  showOrigin : Bool
  deriving DecidableEq, Repr

def manner (log : BootLog) : Manner where
  level := log.level
  module := log.module
  showLevel := log.showLevel
  showOrigin := log.showOrigin

-- Settings that name a file are refused while the log stays in memory.
def Manner.after (manner : Manner) : Call → Manner
  | .configure settings =>
    if settings.path.isSome then manner
    else {
      level := settings.level.getD manner.level
      module := settings.module <|> manner.module
      showLevel := settings.showLevel.getD manner.showLevel
      showOrigin := settings.showOrigin.getD manner.showOrigin }
  | _ => manner

theorem join_concat (lines : List String) (line : String) :
    String.join (lines ++ [line]) = String.join lines ++ line := by
  rw [String.join_append, String.join_cons, String.join_nil, String.append_empty]

theorem bufferSize_eq (lines : List String) :
    bufferSize lines = (String.join lines.reverse).utf8ByteSize := by
  have added (start : Nat) : lines.foldl (fun size line => size + line.utf8ByteSize) start =
      start + (String.join lines.reverse).utf8ByteSize := by
    induction lines generalizing start with
    | nil => simp
    | cons line rest ih =>
      rw [List.foldl_cons, ih, List.reverse_cons, join_concat, String.utf8ByteSize_append]
      omega
  rw [bufferSize, added, Nat.zero_add]

theorem buffered_of_sink {log : BootLog} {lines : List String} (sink : log.sink = .buffer lines) :
    log.buffered = String.join lines.reverse := by
  rw [buffered, sink]

theorem write_of_sink {log : BootLog} {lines : List String} (sink : log.sink = .buffer lines)
    (line : String) : log.write line =
      if log.HasRoom line then { log with sink := .buffer (line :: lines) }
      else { log with dropped := log.dropped + 1 } := by
  have room : log.HasRoom line ↔ bufferSize lines + line.utf8ByteSize ≤ bufferCapacity := by
    rw [HasRoom, buffered_of_sink sink, bufferSize_eq]
    rfl
  rw [write, sink, if_congr room rfl rfl]

def InMemory (log : BootLog) : Prop :=
  ∃ lines, log.sink = .buffer lines ∧ (String.join lines.reverse).utf8ByteSize ≤ 65536

structure Step (log : BootLog) (call : Call) : Prop where
  inMemory : (log.after call).InMemory
  text : log.handedOver call ++ (log.after call).buffered =
    log.buffered ++ (keptLine (log, call)).getD ""
  dropped : (log.after call).dropped = log.dropped + if Loses (log, call) then 1 else 0
  manner : (log.after call).manner = log.manner.after call

-- A call that leaves the buffer as it is.
theorem Step.of_sink {log : BootLog} {call : Call} (inMemory : log.InMemory)
    (sink : (log.after call).sink = log.sink) (quiet : log.handedOver call = "")
    (noLine : keptLine (log, call) = none)
    (dropped : (log.after call).dropped = log.dropped + if Loses (log, call) then 1 else 0)
    (manner : (log.after call).manner = log.manner.after call) : log.Step call where
  inMemory := by
    rw [InMemory, sink]
    exact inMemory
  text := by
    rw [quiet, noLine, buffered, sink, buffered]
    simp
  dropped := dropped
  manner := manner

theorem step_log {log : BootLog} (inMemory : log.InMemory) (record : LogRecord) :
    log.Step (.log record) := by
  by_cases admitted : log.accepts record
  · obtain ⟨lines, sink, small⟩ := inMemory
    have written : log.after (.log record) = log.write (log.render record) := if_pos admitted
    rw [write_of_sink sink] at written
    by_cases room : log.HasRoom (log.render record)
    · rw [if_pos room] at written
      have text : String.join (log.render record :: lines).reverse =
          log.buffered ++ log.render record := by
        rw [List.reverse_cons, join_concat, buffered_of_sink sink]
      have kept : keptLine (log, .log record) = some (log.render record) := if_pos ⟨admitted, room⟩
      have taken : ¬Loses (log, .log record) := fun lost => lost.2 room
      constructor
      · rw [written]
        refine ⟨_, rfl, ?_⟩
        rw [text, String.utf8ByteSize_append]
        exact room
      · rw [written, kept, buffered_of_sink rfl, text]
        exact String.empty_append
      · rw [written, if_neg taken]
        rfl
      · rw [written]
        rfl
    · rw [if_neg room] at written
      refine .of_sink ⟨lines, sink, small⟩ ?_ rfl (if_neg fun kept => room kept.2) ?_ ?_
      · rw [written]
      · rw [written, if_pos ⟨admitted, room⟩]
      · rw [written]
        rfl
  · have same : log.after (.log record) = log := if_neg admitted
    refine .of_sink inMemory ?_ rfl (if_neg fun kept => admitted kept.1) ?_ ?_
    · rw [same]
    · rw [same, if_neg fun lost => admitted lost.1, Nat.add_zero]
    · rw [same]
      rfl

theorem step_flush {log : BootLog} (inMemory : log.InMemory) : log.Step .flush :=
  .of_sink inMemory rfl rfl rfl rfl rfl

theorem step_takeBuffer {log : BootLog} (inMemory : log.InMemory) : log.Step .takeBuffer := by
  obtain ⟨lines, sink, small⟩ := inMemory
  have taken : log.takeBuffer = (String.join lines.reverse, { log with sink := .buffer [] }) := by
    rw [takeBuffer, sink]
  have emptied : log.after .takeBuffer = { log with sink := .buffer [] } := congrArg Prod.snd taken
  have handed : log.handedOver .takeBuffer = String.join lines.reverse := congrArg Prod.fst taken
  constructor
  · rw [emptied]
    exact ⟨[], rfl, by simp⟩
  · rw [emptied, handed, buffered_of_sink sink]
    rfl
  · rw [emptied]
    rfl
  · rw [emptied]
    rfl

theorem after_configure_ok {log next : BootLog} {settings : LogSettings}
    (retargeted : log.retarget settings = .ok next) :
    log.after (.configure settings) = { log with
      sink := next.sink
      volume := next.volume
      level := settings.level.getD log.level
      showLevel := settings.showLevel.getD log.showLevel
      showOrigin := settings.showOrigin.getD log.showOrigin
      module := settings.module <|> log.module } := by
  rw [after, run_reconfigure, configure, retargeted, ← eq_of_retarget retargeted]
  rfl

theorem after_configure_error {log : BootLog} {settings : LogSettings} {e : LogError}
    (refused : log.retarget settings = .error e) : log.after (.configure settings) = log := by
  rw [after, run_reconfigure, configure, refused]
  rfl

theorem step_configure {log : BootLog} (inMemory : log.InMemory) {settings : LogSettings}
    (keeps : log.KeepsSink (.configure settings)) : log.Step (.configure settings) := by
  cases retargeted : log.retarget settings with
  | error e =>
    have same := after_configure_error retargeted
    have named := path_of_retarget_error retargeted
    refine .of_sink inMemory keeps rfl rfl ?_ ?_
    · rw [same]
      rfl
    · rw [same, Manner.after, if_pos named]
  | ok next =>
    have configured := after_configure_ok retargeted
    have unnamed : settings.path = none := by
      obtain ⟨lines, sink, _⟩ := inMemory
      rw [KeepsSink, configured, sink] at keeps
      exact path_of_retarget_buffer retargeted keeps
    refine .of_sink inMemory keeps rfl rfl ?_ ?_
    · rw [configured]
      rfl
    · rw [configured, Manner.after, unnamed]
      rfl

theorem step_of_keepsSink {log : BootLog} (inMemory : log.InMemory) {call : Call}
    (keeps : log.KeepsSink call) : log.Step call := by
  cases call with
  | log record => exact step_log inMemory record
  | flush => exact step_flush inMemory
  | takeBuffer => exact step_takeBuffer inMemory
  | configure settings => exact step_configure inMemory keeps

theorem afterAll_cons (log : BootLog) (call : Call) (rest : List Call) :
    log.afterAll (call :: rest) = (log.after call).afterAll rest := rfl

theorem moments_append (log : BootLog) (front back : List Call) :
    moments log (front ++ back) = moments log front ++ moments (log.afterAll front) back := by
  induction front generalizing log with
  | nil => rfl
  | cons call rest ih => exact congrArg (List.cons (log, call)) (ih (log.after call))

theorem Steady.of_prefix {log : BootLog} {front calls : List Call} (steady : Steady log calls)
    (begins : front <+: calls) : Steady log front := by
  obtain ⟨back, rfl⟩ := begins
  intro moment member
  apply steady moment
  rw [moments_append]
  exact List.mem_append_left _ member

structure Run (log : BootLog) (calls : List Call) : Prop where
  inMemory : (log.afterAll calls).InMemory
  text : String.join ((moments log calls).map fun (log, call) => log.handedOver call) ++
      (log.afterAll calls).buffered =
    log.buffered ++ String.join ((moments log calls).filterMap keptLine)
  dropped : (log.afterAll calls).dropped = log.dropped + (moments log calls).countP (Loses ·)
  manner : (log.afterAll calls).manner = calls.foldl Manner.after log.manner

theorem run_of_steady {log : BootLog} {calls : List Call} (inMemory : log.InMemory)
    (steady : Steady log calls) : log.Run calls := by
  induction calls generalizing log with
  | nil => exact ⟨inMemory, by simp [moments, afterAll], rfl, rfl⟩
  | cons call rest ih =>
    have first := step_of_keepsSink inMemory (steady (log, call) (List.mem_cons_self ..))
    have later := ih first.inMemory fun moment member => steady moment (List.mem_cons_of_mem _ member)
    constructor
    · exact later.inMemory
    · rw [afterAll_cons, moments, List.map_cons, String.join_cons, String.append_assoc, later.text,
        ← String.append_assoc, first.text, String.append_assoc, List.filterMap_cons]
      cases keptLine (log, call) <;> simp
    · rw [afterAll_cons, later.dropped, first.dropped, moments, List.countP_cons]
      simp only [decide_eq_true_eq]
      omega
    · rw [afterAll_cons, later.manner, first.manner, List.foldl_cons]

structure Accounted (before : BootLog) (calls : List Call) : Prop where
  bounded : (before.afterAll calls).buffered.utf8ByteSize ≤ 65536
  text : String.join ((moments before calls).map fun (log, call) => log.handedOver call) ++
      (before.afterAll calls).buffered = String.join ((moments before calls).filterMap keptLine)
  dropped : (before.afterAll calls).dropped =
    before.dropped + (moments before calls).countP (Loses ·)
  manner : (before.afterAll calls).manner = calls.foldl Manner.after before.manner

/-- At every point of a run that keeps its buffer, the buffer is within its capacity; what was handed
over and what waits are, in order, the lines of just those records that were admitted by the settings in
force and had room; and just the admitted ones that had no room were counted as dropped. Settings that
ask for two targets are refused, and settings that are refused change nothing. -/
theorem accounted_at_every_point :
    (∀ before calls, before.sink = .buffer [] → Steady before calls →
      ∀ front, front <+: calls → Accounted before front) ∧
    ∀ log settings, (log.configure settings = .error .conflictingTargets ↔
        settings.path.isSome ∧ settings.captureBuffer = some true) ∧
      (reconfigure settings).run log = match log.configure settings with
        | .ok next => ⟨.ok (), next, []⟩
        | .error e => ⟨.error e, log, []⟩ := by
  refine ⟨?_, fun log settings => ⟨configure_eq_conflicting, run_reconfigure log settings⟩⟩
  intro before calls empty steady front begins
  have inMemory : before.InMemory := ⟨[], empty, by simp⟩
  have ran := run_of_steady inMemory (steady.of_prefix begins)
  have none : before.buffered = "" := buffered_of_sink empty
  have text := ran.text
  rw [none, String.empty_append] at text
  obtain ⟨lines, sink, small⟩ := ran.inMemory
  exact ⟨buffered_of_sink sink ▸ small, text, ran.dropped, ran.manner⟩

theorem keepsSink_of_untargeted (log : BootLog) {settings : LogSettings} (unnamed : settings.path = none)
    (uncaptured : settings.captureBuffer = none) : log.KeepsSink (.configure settings) := by
  have same : log.retarget settings = .ok log := by
    rw [retarget, unnamed, uncaptured]
  rw [KeepsSink, after_configure_ok same]

theorem keepsSink_of_conflicting (log : BootLog) {settings : LogSettings}
    (named : settings.path.isSome) (captured : settings.captureBuffer = some true) :
    log.KeepsSink (.configure settings) := by
  rw [KeepsSink, after_configure_error (retarget_eq_conflicting.mpr ⟨named, captured⟩)]

theorem utf8ByteSize_replicate (n : Nat) :
    (String.ofList (List.replicate n 'x')).utf8ByteSize = n := by
  induction n with
  | zero => rfl
  | succ n ih =>
    rw [List.replicate_succ, String.ofList_cons, String.utf8ByteSize_append, ih]
    exact Nat.add_comm 1 n

def emptyLog : BootLog := { sink := .buffer [] }

-- A record for which no buffer has room.
def longRecord : LogRecord :=
  { level := .error, message := String.ofList (List.replicate 65536 'x') }

def shortRecord : LogRecord := { level := .warn, message := "short" }

def errorsOnly : LogSettings := { level := some (.upTo .error) }

def twoTargets : LogSettings :=
  { path := some "boot.log", captureBuffer := some true, level := some .off }

def session : List Call :=
  [.log longRecord, .log shortRecord, .configure errorsOnly, .takeBuffer, .log shortRecord,
    .configure twoTargets, .flush]

theorem accounted_at_every_point_session :
    emptyLog.sink = .buffer [] ∧ Steady emptyLog session ∧ Loses (emptyLog, .log longRecord) ∧
      session <+: session ∧ Accounted emptyLog session := by
  have steady : Steady emptyLog session := by
    intro moment member
    simp only [session, moments, List.mem_cons, List.not_mem_nil, or_false] at member
    rcases member with rfl | rfl | rfl | rfl | rfl | rfl | rfl
    case inr.inr.inl => exact keepsSink_of_untargeted _ rfl rfl
    case inr.inr.inr.inr.inr.inl => exact keepsSink_of_conflicting _ rfl rfl
    all_goals trivial
  have lost : Loses (emptyLog, .log longRecord) := by
    refine ⟨rfl, ?_⟩
    have long : longRecord.message.utf8ByteSize = 65536 := utf8ByteSize_replicate 65536
    have newline : "\n".utf8ByteSize = 1 := by decide
    simp only [HasRoom, render, String.utf8ByteSize_append, long, newline]
    omega
  exact ⟨rfl, steady, lost, List.prefix_rfl,
    accounted_at_every_point.1 emptyLog session rfl steady session List.prefix_rfl⟩

example : (emptyLog.afterAll [.log shortRecord, .configure errorsOnly, .log shortRecord]).buffered =
    "[platform-init] short\n" := by decide

end FirmwareTables.BootLog
