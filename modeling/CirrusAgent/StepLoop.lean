import CirrusAgent.BoundedCommands

/-! # The per-step loop of `RunBuild`

`RunBuild` walks the bounded commands once, keeping the flag `failedAtLeastOnce`. A command
whose execution behaviour does not admit the flag is queued as skipped; any other is queued
as executing, flushed, and handed to `performStep`, whose result is queued as completed or
failed. An error from `performStep` returns from `RunBuild` on the spot, and a loop that
runs to the end flushes the batcher once more.

The loop is modelled over any `performStep` with any state, so its facts hold for every
sequence of step outcomes. The observable behaviour is the list of calls the loop makes on
the update batcher and on `performStep`.
-/

namespace CirrusAgent

/-- `ErrStepExit`. -/
def errStepExit : String := "executor step requested to terminate execution"

/-- What `performStep` hands back to `RunBuild`: a step result with a nil error, a non-nil
error, or a panic unwinding through it. -/
inductive StepOutcome where
  | result (stepResult : StepResult)
  | error (message : String)
  | panic (p : Panic)
  deriving DecidableEq, Repr

/-- A call of the loop on the update batcher (`Queue`, `Flush`) or on `performStep`. -/
inductive LoopEvent where
  | queue (result : CommandResult)
  | flush
  | performStep (command : Command)
  deriving DecidableEq, Repr

/-- How the loop ends: past its final flush, by the `return` after a step error, or by a
panic out of `performStep`. -/
inductive LoopExit where
  | finished
  | returned
  | panicked (p : Panic)
  deriving DecidableEq, Repr

/-- A run of the loop: its calls in order, how it ended, and the executor state after it. -/
structure LoopRun (σ : Type) where
  events : List LoopEvent
  exit : LoopExit
  executor : σ

/-- The `shouldRun` expression of `RunBuild`. -/
def shouldRun (behaviour : ExecutionBehaviour) (failedAtLeastOnce : Bool) : Bool :=
  (behaviour == .onSuccess && !failedAtLeastOnce) ||
    (behaviour == .onFailure && failedAtLeastOnce) || behaviour == .always

/-- The calls made for a command that runs, before `performStep` returns. -/
def startedEvents (command : Command) : List LoopEvent :=
  [.queue { name := command.name, status := .executing }, .flush, .performStep command]

/-- The result queued for a step that returned. -/
def finishedResult (command : Command) (stepResult : StepResult) : CommandResult :=
  { name := command.name
    status := if stepResult.success then .completed else .failed
    durationInNanos := stepResult.duration
    signaledToExit := stepResult.signaledToExit }

variable {σ : Type} (performStep : Command → σ → StepOutcome × σ)

/-- The `for _, command := range BoundedCommands(...)` loop of `RunBuild` over the bounded
commands, with its final `ub.Flush`. -/
def runCommands : List Command → Bool → σ → LoopRun σ
  | [], _, executor => ⟨[.flush], .finished, executor⟩
  | command :: rest, failedAtLeastOnce, executor =>
    if !shouldRun command.executionBehaviour failedAtLeastOnce then
      let run := runCommands rest failedAtLeastOnce executor
      { run with events := .queue { name := command.name, status := .skipped } :: run.events }
    else
      match performStep command executor with
      | (.error _, executor) => ⟨startedEvents command, .returned, executor⟩
      | (.panic p, executor) => ⟨startedEvents command, .panicked p, executor⟩
      | (.result stepResult, executor) =>
        let failedAtLeastOnce := if !stepResult.success then true else failedAtLeastOnce
        let run := runCommands rest failedAtLeastOnce executor
        { run with
          events := startedEvents command ++ .queue (finishedResult command stepResult) ::
            run.events }

/-- The per-step phase of `RunBuild`: bound the commands, then run the loop. -/
def perStepLoop (commands : List Command) (commandFrom commandTo : String)
    (failedAtLeastOnce : Bool) (executor : σ) : LoopRun σ :=
  match boundedCommands commands commandFrom commandTo with
  | .error p => ⟨[], .panicked p, executor⟩
  | .ok bounded => runCommands performStep bounded failedAtLeastOnce executor

/-- What every step keeps, every run of the loop keeps: the state after a run is the state
after the last step it performed. -/
theorem runCommands_preserves (P : σ → Prop)
    (hstep : ∀ command executor, P executor → P (performStep command executor).2)
    (commands : List Command) (failed : Bool) {executor : σ} (h : P executor) :
    P (runCommands performStep commands failed executor).executor := by
  induction commands generalizing failed executor with
  | nil => exact h
  | cons command rest ih =>
    have hnext := hstep command executor h
    rw [runCommands]
    split
    · exact ih failed h
    · rcases hrun : performStep command executor with ⟨outcome, executor'⟩
      rw [hrun] at hnext
      cases outcome with
      | result => exact ih _ hnext
      | error => exact hnext
      | panic => exact hnext

/-! ## Runs over concatenated ranges

The flag the loop carries is not part of its run, but the queued results show it: the flag
after a run is the flag before it or a failed result among its events. So a run over
`l₁ ++ l₂` is the run over `l₁` and, when that one reaches its end, the run over `l₂` from
its state and its flag; the final flush of the first part is the one it drops.
-/

/-- Whether the loop queued a failed result. -/
def LoopEvent.isFailedResult : LoopEvent → Bool
  | .queue { status := .failed, .. } => true
  | _ => false

theorem runCommands_events_ne_nil (commands : List Command) (failed : Bool) (executor : σ) :
    (runCommands performStep commands failed executor).events ≠ [] := by
  cases commands with
  | nil => simp [runCommands]
  | cons command rest =>
    rw [runCommands]
    split
    · simp
    · split <;> simp [startedEvents]

theorem runCommands_append (l₁ l₂ : List Command) (failed : Bool) (executor : σ) :
    runCommands performStep (l₁ ++ l₂) failed executor =
      let first := runCommands performStep l₁ failed executor
      match first.exit with
      | .finished =>
        let second := runCommands performStep l₂
          (failed || first.events.any LoopEvent.isFailedResult) first.executor
        { second with events := first.events.dropLast ++ second.events }
      | _ => first := by
  induction l₁ generalizing failed executor with
  | nil => simp [runCommands, LoopEvent.isFailedResult]
  | cons command rest ih =>
    rw [List.cons_append, runCommands, runCommands]
    split
    · rw [ih]
      cases hexit : (runCommands performStep rest failed executor).exit <;>
        simp [hexit, List.dropLast_cons_of_ne_nil, runCommands_events_ne_nil,
          LoopEvent.isFailedResult]
    · rcases performStep command executor with ⟨outcome, executor'⟩
      cases outcome with
      | error => rfl
      | panic => rfl
      | result stepResult =>
        dsimp only
        rw [ih]
        have hflag : ∀ events : List LoopEvent, (failed || (startedEvents command ++
            .queue (finishedResult command stepResult) :: events).any LoopEvent.isFailedResult) =
            ((if !stepResult.success then true else failed) ||
              events.any LoopEvent.isFailedResult) := by
          intro events
          cases hsuccess : stepResult.success <;>
            simp [hsuccess, startedEvents, finishedResult, LoopEvent.isFailedResult]
        cases hexit : (runCommands performStep rest _ executor').exit <;>
          simp only [hexit, hflag, List.dropLast_append_of_ne_nil, List.dropLast_cons_of_ne_nil,
            List.cons_ne_nil, runCommands_events_ne_nil, ne_eq, not_false_eq_true,
            List.append_assoc, List.cons_append]

/-- A task split at a command named `m` makes, in a run bounded to `[a, m)` and a resumed
run bounded to `[m, b)` that starts from the first run's state and flag, the calls of one
run over `[a, b)`; a first run that does not reach its end is the whole run. -/
theorem perStepLoop_split {commands : List Command} (hunique : UniqueNames commands)
    {a m b : String} {k : Nat} (hm : m ≠ "") (hk : commands.findIdx? (·.name == m) = some k)
    (hak : nameIndex commands a 0 ≤ k) (hkb : k ≤ nameIndex commands b commands.length)
    (failed : Bool) (executor : σ) :
    perStepLoop performStep commands a b failed executor =
      let first := perStepLoop performStep commands a m failed executor
      match first.exit with
      | .finished =>
        let second := perStepLoop performStep commands m b
          (failed || first.events.any LoopEvent.isFailedResult) first.executor
        { second with events := first.events.dropLast ++ second.events }
      | _ => first := by
  obtain ⟨first, second, hfirst, hsecond, hwhole⟩ := boundedCommands_append hunique hm hk hak hkb
  simp only [perStepLoop, hfirst, hsecond, hwhole]
  exact runCommands_append performStep first second failed executor

/-- A task resumed at `c` after `a` failed: the resumed run gets the flag set, and the two
runs together make the calls of the single run. -/
theorem perStepLoop_split_resumed_at_c :
    let commands : List Command := [⟨"a", .always, .scriptInstruction⟩,
      ⟨"b", .onSuccess, .scriptInstruction⟩, ⟨"c", .onFailure, .scriptInstruction⟩,
      ⟨"d", .always, .scriptInstruction⟩]
    let step := fun (command : Command) (executor : Unit) =>
      (StepOutcome.result ⟨command.name != "a", false, 0⟩, executor)
    UniqueNames commands ∧
      (perStepLoop step commands "" "" false ()).events =
        (perStepLoop step commands "" "c" false ()).events.dropLast ++
          (perStepLoop step commands "c" "" true ()).events := by
  intro commands step
  have hunique : UniqueNames commands := by decide
  refine ⟨hunique, ?_⟩
  rw [@perStepLoop_split Unit step commands hunique "" "c" "" 2 (by decide) rfl (by decide)
    (by decide) false ()]
  rfl

/-! ## The specified trace -/

/-- The execution-behaviour table of the specification. -/
def behaviourTable : ExecutionBehaviour → Bool → Bool
  | .onSuccess, failed => !failed
  | .onFailure, failed => failed
  | .always, _ => true
  | .unrecognized _, _ => false

theorem shouldRun_eq_behaviourTable (behaviour : ExecutionBehaviour) (failed : Bool) :
    shouldRun behaviour failed = behaviourTable behaviour failed := by
  cases behaviour <;> cases failed <;> rfl

/-- The trace the specification prescribes for the bounded commands: walk them with the
flag `F`; a command the table rejects yields a `SKIPPED` result; any other yields an
`EXECUTING` result, a flush and the step, then either nothing more (the run stops) or a
`COMPLETED` or `FAILED` result with the step's duration and signal flag, and
`F := F || !success`; a walk that reaches the end flushes once. -/
def referenceTrace : List Command → Bool → σ → List LoopEvent
  | [], _, _ => [.flush]
  | command :: rest, failed, executor =>
    if behaviourTable command.executionBehaviour failed then
      let executing : List LoopEvent :=
        [.queue ⟨command.name, .executing, 0, false⟩, .flush, .performStep command]
      match performStep command executor with
      | (.result stepResult, executor) =>
        executing ++ .queue ⟨command.name, if stepResult.success then .completed else .failed,
            stepResult.duration, stepResult.signaledToExit⟩ ::
          referenceTrace rest (failed || !stepResult.success) executor
      | _ => executing
    else .queue ⟨command.name, .skipped, 0, false⟩ :: referenceTrace rest failed executor

theorem runCommands_events (commands : List Command) (failed : Bool) (executor : σ) :
    (runCommands performStep commands failed executor).events =
      referenceTrace performStep commands failed executor := by
  induction commands generalizing failed executor with
  | nil => rfl
  | cons command rest ih =>
    rw [runCommands, referenceTrace, ← shouldRun_eq_behaviourTable]
    cases shouldRun command.executionBehaviour failed with
    | false => simp [ih]
    | true =>
      obtain ⟨outcome, next⟩ := performStep command executor
      cases outcome with
      | result stepResult =>
        cases stepResult.success <;> cases failed <;> simp [ih, startedEvents, finishedResult]
      | error => rfl
      | panic => rfl

/-- The per-step loop emits exactly the specified trace of the bounded commands, for every
initial flag and every behaviour of `performStep`. -/
theorem perStepLoop_reference (commands : List Command) (commandFrom commandTo : String)
    (bounded : List Command) (hbounded : boundedCommands commands commandFrom commandTo = .ok bounded)
    (failed : Bool) (executor : σ) :
    (perStepLoop performStep commands commandFrom commandTo failed executor).events =
      referenceTrace performStep bounded failed executor := by
  rw [perStepLoop, hbounded]
  exact runCommands_events performStep bounded failed executor

/-- The specification's second scenario: `a` fails, so `b` (on success) is skipped and `c`
(on failure) runs. -/
theorem perStepLoop_reference_failure_fans_out :
    let commands : List Command := [⟨"a", .always, .scriptInstruction⟩,
      ⟨"b", .onSuccess, .scriptInstruction⟩, ⟨"c", .onFailure, .scriptInstruction⟩]
    let step := fun (command : Command) (executor : Unit) =>
      (StepOutcome.result ⟨command.name != "a", false, 0⟩, executor)
    boundedCommands commands "" "" = .ok commands ∧
      (perStepLoop step commands "" "" false ()).events = referenceTrace step commands false () :=
  by
  intro commands step
  exact ⟨rfl, perStepLoop_reference step commands "" "" commands rfl false ()⟩

end CirrusAgent
