import CirrusAgent.PerformStep
import CirrusAgent.Unboxing
import CirrusAgent.ScriptEnvironment

/-! # `RunBuild`

After the controller has answered `InitialCommands`, `RunBuild` checks the server token,
merges the script environment, unboxes Vault secrets, settles the HTTP cache host,
registers the secrets to mask, starts the terminal wrapper when some command waits for a
terminal, runs the per-step loop over the bounded commands and, when the loop runs to its
end, kills every background command, finalises its uploader, warns about the metrics it
could not gather and reports that the agent has finished, a second time when the first
report fails and the context survives the wait.

The loop returns from `RunBuild` on a step error, and that return skips the teardown.
-/

namespace CirrusAgent

/-! ## The terminal pre-scan -/

/-- The expiry `RunBuild` hands to `terminalwrapper.New`: fifteen minutes, or
`time.Duration(expireInInt) * time.Second` when `strconv.Atoi` accepts the value of
`CIRRUS_TERMINAL_EXPIRATION_WINDOW`. -/
def terminalExpiry (env : Environment) : Int :=
  let expireIn := 15 * minute
  match env.lookup "CIRRUS_TERMINAL_EXPIRATION_WINDOW" with
  | some expireInString =>
    match atoi expireInString with
    | (expireInInt, none) => toInt64 (expireInInt * second)
    | (_, some _) => expireIn
  | none => expireIn

/-- A window that `strconv.Atoi` accepts as `n` gives `n` seconds in `int64` nanoseconds,
wrapped as Go's `time.Duration` product wraps. -/
theorem terminalExpiry_of_atoi {env : Environment} {expireInString : String} {n : Int}
    (hwindow : env.lookup "CIRRUS_TERMINAL_EXPIRATION_WINDOW" = some expireInString)
    (hatoi : atoi expireInString = (n, none)) :
    terminalExpiry env = toInt64 (n * second) := by
  simp [terminalExpiry, hwindow, hatoi]

/-- The terminal pre-scan of `RunBuild`: the first command waiting for a terminal, over all
commands, starts the wrapper. -/
def terminalPrescan (commands : List Command) (agent : Agent) : Agent :=
  match commands.find? (·.instruction.isWaitForTerminal) with
  | none => agent
  | some command =>
    let terminalServerAddress := match command.instruction with
      | .waitForTerminalInstruction (some instruction) => instruction.terminalServerAddress
      | _ => ""
    { agent with executor := { agent.executor with
        terminalWrapper := some ⟨terminalServerAddress, terminalExpiry agent.executor.env⟩ } }

/-! ## Teardown -/

/-- The cleanup loop over `executor.backgroundCommands`, with the error `Process.Kill`
answers for each process. -/
def drainBackgroundCommands (kill : Nat → Option String) :
    List CommandAndLogs → Agent → Agent
  | [], agent => agent
  | backgroundCommand :: rest, agent =>
    let agent := agent.emit (.processKill backgroundCommand.cmd)
    let name := backgroundCommand.name
    let agent := match kill backgroundCommand.cmd with
      | some err => agent.write backgroundCommand.logs
          s!"\nFailed to stop background script {name}: {err}!"
      | none => agent
    drainBackgroundCommands kill rest (agent.emit (.logUploaderFinalized backgroundCommand.logs))

/-- Modelled from the spec: `ub.History()`, every result queued, in order. -/
def history (events : List LoopEvent) : List CommandResult :=
  events.filterMap fun | .queue result => some result | _ => none

theorem history_cons_queue (result : CommandResult) (events : List LoopEvent) :
    history (.queue result :: events) = result :: history events := rfl

theorem history_startedEvents (command : Command) :
    history (startedEvents command) = [{ name := command.name, status := .executing }] := rfl

theorem history_append (l₁ l₂ : List LoopEvent) :
    history (l₁ ++ l₂) = history l₁ ++ history l₂ :=
  List.filterMap_append _ _ _

/-- A run of the loop that reaches its end queues one final result per command, in the
order of the commands: the other results it queues are the executing results. -/
theorem runCommands_history {σ : Type} (performStep : Command → σ → StepOutcome × σ)
    (commands : List Command) (failed : Bool) (executor : σ)
    (hfinished : (runCommands performStep commands failed executor).exit = .finished) :
    ((history (runCommands performStep commands failed executor).events).filter
      (·.status != .executing)).map (·.name) = commands.map (·.name) := by
  induction commands generalizing failed executor with
  | nil => rfl
  | cons command rest ih =>
    rw [runCommands] at hfinished ⊢
    split <;> rename_i hskip
    · rw [if_pos hskip] at hfinished
      simp [history_cons_queue, ih _ _ hfinished]
    · rw [if_neg hskip] at hfinished
      rcases hrun : performStep command executor with ⟨outcome, executor'⟩
      rw [hrun] at hfinished
      cases outcome with
      | error => cases hfinished
      | panic => cases hfinished
      | result stepResult =>
        dsimp only at hfinished ⊢
        rw [history_append]
        cases hsuccess : stepResult.success <;> simp [hsuccess] at hfinished <;>
          simp [history_startedEvents, history_cons_queue, finishedResult, hsuccess,
            ih _ _ hfinished]

/-- Every result the loop queues is a marker of a command it skipped or began, never
signalled, or the result of one of its commands on a step that returned. -/
theorem mem_history_runCommands {σ : Type} {performStep : Command → σ → StepOutcome × σ}
    {commands : List Command} {failed : Bool} {executor : σ} {result : CommandResult}
    (hresult : result ∈ history (runCommands performStep commands failed executor).events) :
    result.signaledToExit = false ∨ ∃ command ∈ commands, ∃ executor stepResult executor',
      performStep command executor = (.result stepResult, executor') ∧
        result = finishedResult command stepResult := by
  induction commands generalizing failed executor with
  | nil => simp [runCommands, history] at hresult
  | cons command rest ih =>
    have hrest : ∀ {failed executor},
        result ∈ history (runCommands performStep rest failed executor).events →
          result.signaledToExit = false ∨
            ∃ c ∈ command :: rest, ∃ executor stepResult executor',
            performStep c executor = (.result stepResult, executor') ∧
              result = finishedResult c stepResult := fun h =>
      (ih h).imp_right fun ⟨c, hc, hstep⟩ => ⟨c, List.mem_cons_of_mem _ hc, hstep⟩
    rw [runCommands] at hresult
    split at hresult
    · rcases List.mem_cons.1 hresult with rfl | h
      · exact .inl rfl
      · exact hrest h
    · rcases hrun : performStep command executor with ⟨outcome, executor'⟩
      rw [hrun] at hresult
      cases outcome with
      | error | panic =>
        rw [history_startedEvents, List.mem_singleton] at hresult
        exact .inl (hresult ▸ rfl)
      | result stepResult =>
        dsimp only at hresult
        rw [history_append, history_startedEvents, history_cons_queue] at hresult
        rcases hresult with _ | ⟨_, _ | ⟨_, h⟩⟩
        · exact .inl rfl
        · exact .inr
            ⟨command, List.mem_cons_self _ _, executor, stepResult, executor', hrun, rfl⟩
        · exact hrest h

/-- Over any run of the loop, a result queued as signalled is the result of a step of a
command of the run with a script instruction, whose own runner, numbered by the step,
ended without an error and with its process killed by a signal. -/
theorem runCommands_signaledToExit (world : StepWorld) (commands : List Command) (failed : Bool)
    (agent : Agent) :
    ∀ result ∈ history (runCommands (performStep world) commands failed agent).events,
      result.signaledToExit = true → ∃ command ∈ commands, ∃ before stepResult after,
        performStep world command before = (.result stepResult, after) ∧
        result = finishedResult command stepResult ∧ command.instruction = .scriptInstruction ∧
        (world.runScript before.steps).err = none ∧
        (world.runScript before.steps).signaled = true := by
  intro result hresult hsignaled
  rcases mem_history_runCommands hresult with
    hfalse | ⟨command, hc, before, stepResult, after, hrun, rfl⟩
  · simp [hfalse] at hsignaled
  · obtain ⟨hscript, hrunner⟩ :=
      performStep_signaledToExit world (congrArg Prod.fst hrun) hsignaled
    exact ⟨command, hc, before, stepResult, after, hrun, rfl, hscript, hrunner⟩

/-! ## The build -/

/-- The answers of everything outside the executor during one build. An iteration order of
a map is a permutation of its entries. The metrics collector, once cancelled, hands over a
result with the errors it met, or nothing within three seconds (`none`); `ReportAgentFinished`
answers each attempt with an error or nil, and the context may be cancelled during the wait
after an attempt. -/
structure RunWorld where
  step : StepWorld
  kill : Nat → Option String
  host : Host
  fs : FileSystem
  vault : VaultApi
  newBoxedValue : String → Except BoxedValueError BoxedValue
  order : (env : Environment) → { entries // List.Perm entries env.items }
  httpCacheStart : String
  metrics : Option (List String)
  reportAgentFinished : Nat → Option String
  finishCancelled : Nat → Bool

/-- `api.CommandsResponse`, the fields `RunBuild` reads after the initial fetch. -/
structure CommandsResponse where
  serverToken : String
  environment : Option StringMap
  commands : List Command
  secretsToMask : List String
  failedAtLeastOnce : Bool

/-- How `RunBuild` ends: by a `return` before the per-step loop, by the `return` after a
step error, past the final report, or by a panic. -/
inductive BuildExit where
  | returnedBeforeLoop
  | returnedFromLoop
  | finished
  | panicked (p : Panic)
  deriving DecidableEq, Repr

/-- A run of `RunBuild`: the calls on the update batcher and `performStep`, how it ended,
and the agent after it. -/
structure BuildRun where
  updates : List LoopEvent
  exit : BuildExit
  agent : Agent

variable (world : RunWorld)

/-- The `ReportAgentWarning` messages of `RunBuild` after it reads the metrics: one per error
of the collector's result, or one when no result came in time. -/
def metricsWarnings : Option (List String) → List String
  | some errors => errors.map fun err =>
    s!"Encountered an error while gathering resource utilization metrics: {err}"
  | none => ["Failed to retrieve resource utilization metrics in time"]

/-- Modelled from the spec: the `retry.Do` loop around `ReportAgentFinished` from attempt `n`,
with `attempts` attempts left: one call per attempt, and after a failed attempt another one,
unless none is left or the context is cancelled during the ten-second wait. -/
def reportAgentFinishedLoop (commandResults : List CommandResult) : Nat → Nat → List Effect
  | 0, _ => []
  | attempts + 1, n =>
    .reportAgentFinished commandResults ::
      match world.reportAgentFinished n with
      | none => []
      | some _ =>
        if world.finishCancelled n then []
        else reportAgentFinishedLoop commandResults attempts (n + 1)

/-- The calls of the teardown after the cleanup loop: the metrics warnings, then
`ReportAgentFinished` with `retry.Attempts(2)`. -/
def teardownCalls (commandResults : List CommandResult) : List Effect :=
  (metricsWarnings world.metrics).map .reportAgentWarning ++
    reportAgentFinishedLoop world commandResults 2 0

/-- Every attempt of the loop calls `ReportAgentFinished` with the results it was given. -/
theorem mem_reportAgentFinishedLoop (commandResults : List CommandResult) (attempts n : Nat) :
    ∀ call ∈ reportAgentFinishedLoop world commandResults attempts n,
      call = .reportAgentFinished commandResults := by
  induction attempts generalizing n with
  | zero => simp [reportAgentFinishedLoop]
  | succ attempts ih =>
    intro call hcall
    rw [reportAgentFinishedLoop] at hcall
    rcases List.mem_cons.1 hcall with rfl | hcall
    · rfl
    · split at hcall
      · cases hcall
      · split at hcall
        · cases hcall
        · exact ih _ call hcall

/-- The last attempt left makes one call and no retry. -/
theorem reportAgentFinishedLoop_one (commandResults : List CommandResult) (n : Nat) :
    reportAgentFinishedLoop world commandResults 1 n = [.reportAgentFinished commandResults] := by
  rw [reportAgentFinishedLoop]
  split
  · rfl
  · split <;> rfl

/-- With `retry.Attempts(2)`, `ReportAgentFinished` is called once, and a second time exactly
when the first attempt fails and the context is not cancelled during the wait. -/
theorem reportAgentFinishedLoop_two_length (commandResults : List CommandResult) :
    (reportAgentFinishedLoop world commandResults 2 0).length =
      if (world.reportAgentFinished 0).isSome && !world.finishCancelled 0 then 2 else 1 := by
  rw [reportAgentFinishedLoop]
  cases world.reportAgentFinished 0 with
  | none => rfl
  | some _ => cases world.finishCancelled 0 <;> simp [reportAgentFinishedLoop_one]

/-- After the cleanup loop the teardown only reports to the controller: warnings, then
`ReportAgentFinished` with the results it is given. -/
theorem mem_teardownCalls {commandResults : List CommandResult} {call : Effect}
    (h : call ∈ teardownCalls world commandResults) :
    (∃ message, call = .reportAgentWarning message) ∨
      call = .reportAgentFinished commandResults := by
  rcases List.mem_append.1 h with h | h
  · obtain ⟨message, -, rfl⟩ := List.mem_map.1 h
    exact .inl ⟨message, rfl⟩
  · exact .inr (mem_reportAgentFinishedLoop world _ _ _ call h)

theorem teardownCalls_getLast? (commandResults : List CommandResult) :
    (teardownCalls world commandResults).getLast? = some (.reportAgentFinished commandResults) := by
  have hloop : reportAgentFinishedLoop world commandResults 2 0 ≠ [] := by
    rw [reportAgentFinishedLoop]
    exact List.cons_ne_nil _ _
  rw [teardownCalls, List.getLast?_append_of_ne_nil _ hloop, List.getLast?_eq_getLast _ hloop,
    mem_reportAgentFinishedLoop world _ _ _ _ (List.getLast_mem hloop)]

theorem teardownCalls_countP_finished (commandResults : List CommandResult) :
    (teardownCalls world commandResults).countP Effect.isReportAgentFinished =
      if (world.reportAgentFinished 0).isSome && !world.finishCancelled 0 then 2 else 1 := by
  have hwarnings : ((metricsWarnings world.metrics).map Effect.reportAgentWarning).countP
      Effect.isReportAgentFinished = 0 :=
    List.countP_eq_zero.2 fun call hcall => by
      obtain ⟨_, -, rfl⟩ := List.mem_map.1 hcall
      simp [Effect.isReportAgentFinished]
  have hloop : (reportAgentFinishedLoop world commandResults 2 0).countP
      Effect.isReportAgentFinished = (reportAgentFinishedLoop world commandResults 2 0).length :=
    List.countP_eq_length.2 fun call hcall => by
      rw [mem_reportAgentFinishedLoop world _ _ _ call hcall]
      rfl
  rw [teardownCalls, List.countP_append, hwarnings, hloop, reportAgentFinishedLoop_two_length,
    Nat.zero_add]

/-- `RunBuild` from the terminal pre-scan on, for a non-empty command list. -/
def executeCommands (commands : List Command) (failedAtLeastOnce : Bool) (agent : Agent) :
    BuildRun :=
  let agent := terminalPrescan commands agent
  let run := perStepLoop (performStep world.step) commands agent.executor.commandFrom
    agent.executor.commandTo failedAtLeastOnce agent
  match run.exit with
  | .returned => ⟨run.events, .returnedFromLoop, run.executor⟩
  | .panicked p => ⟨run.events, .panicked p, run.executor⟩
  | .finished =>
    let agent := drainBackgroundCommands world.kill run.executor.executor.backgroundCommands
      run.executor
    ⟨run.events, .finished, agent.emitAll (teardownCalls world (history run.events))⟩

/-- Ensure `CIRRUS_HTTP_CACHE_HOST`: the agent's own value wins, else the local cache
proxy's address. -/
def settleHttpCacheHost (agent : Agent) : Agent :=
  let agent := match world.host.lookupEnv "CIRRUS_HTTP_CACHE_HOST" with
    | some cacheHost => agent.setEnv (agent.executor.env.set "CIRRUS_HTTP_CACHE_HOST" cacheHost)
    | none => agent
  let agent := match agent.executor.env.lookup "CIRRUS_HTTP_CACHE_HOST" with
    | none => agent.setEnv (agent.executor.env.set "CIRRUS_HTTP_CACHE_HOST" world.httpCacheStart)
    | some _ => agent
  { agent with executor := { agent.executor with
      httpCacheHost := agent.executor.env.get "CIRRUS_HTTP_CACHE_HOST" } }

/-- `RunBuild`, once `InitialCommands` has answered `response`. A panic keeps the agent as it
was before the phase that panicked. -/
def runBuild (response : CommandsResponse) (agent : Agent) : BuildRun :=
  if response.serverToken ≠ agent.executor.serverToken then
    ⟨[], .panicked (.logPanic "Server token is incorrect!"), agent⟩
  else
    let agent := agent.setEnv (agent.executor.env.merge
      (getScriptEnvironment world.host world.fs agent.executor response.environment) false)
    match unboxLoop world.vault world.newBoxedValue (fun unboxer => unboxer.unbox world.vault)
        (world.order agent.executor.env).1 none agent with
    | .error p => ⟨[], .panicked p, agent⟩
    | .ok (.reported, agent) => ⟨[], .returnedBeforeLoop, agent⟩
    | .ok (.completed, agent) =>
      let agent := settleHttpCacheHost world agent
      let agent := agent.setEnv (agent.executor.env.addSensitiveValues response.secretsToMask)
      if response.commands.isEmpty then ⟨[], .returnedBeforeLoop, agent⟩
      else executeCommands world response.commands response.failedAtLeastOnce agent

/-! ## The terminal wrapper

The pre-scan looks at every command, and the loop runs a sub-list of them; a step leaves
the terminal wrapper as it found it. So every command of the bounded range that waits for
a terminal finds the wrapper set, and the loop never calls `Wait` on a nil wrapper.
-/

/-- Every command of `commands` that waits for a terminal finds the wrapper set. -/
def TerminalReady (commands : List Command) (executor : Executor) : Prop :=
  ∀ command ∈ commands, command.instruction.isWaitForTerminal = true →
    executor.terminalWrapper.isSome

theorem terminalPrescan_ready (commands : List Command) (agent : Agent) :
    TerminalReady commands (terminalPrescan commands agent).executor := by
  intro command hmem hwait
  unfold terminalPrescan
  split
  · rename_i hnone
    exact absurd hwait (by simpa using List.find?_eq_none.mp hnone command hmem)
  · rfl

/-- When some command waits for a terminal and `strconv.Atoi` accepts the expiration window
as `n` seconds, the wrapper starts with `n` seconds wrapped to `int64` nanoseconds, which is
`n` seconds exactly when `n` lies within `±9223372036`; larger windows wrap. -/
theorem terminalPrescan_expireIn (commands : List Command) (agent : Agent)
    {expireInString : String} {n : Int}
    (hwait : ∃ command ∈ commands, command.instruction.isWaitForTerminal = true)
    (hwindow : agent.executor.env.lookup "CIRRUS_TERMINAL_EXPIRATION_WINDOW" = some expireInString)
    (hatoi : atoi expireInString = (n, none)) :
    ∃ wrapper, (terminalPrescan commands agent).executor.terminalWrapper = some wrapper ∧
      wrapper.expireIn = toInt64 (n * second) ∧
      (wrapper.expireIn = n * second ↔ -9223372036 ≤ n ∧ n ≤ 9223372036) := by
  obtain ⟨command, hmem, hcommand⟩ := hwait
  unfold terminalPrescan
  split
  · rename_i hnone
    exact absurd hcommand (by simpa using List.find?_eq_none.mp hnone command hmem)
  · have hexpiry := terminalExpiry_of_atoi hwindow hatoi
    refine ⟨_, rfl, hexpiry, ?_⟩
    rw [hexpiry, toInt64_eq_self_iff]
    unfold second int64Cutoff
    omega

/-- A window of ten billion seconds, which `strconv.Atoi` accepts, wraps to a negative
expiry. -/
theorem terminalPrescan_expireIn_ten_billion_seconds :
    let agent : Agent := ⟨{ newExecutor 1 "" "" "" "" "" with
      env := Environment.newEmpty.set "CIRRUS_TERMINAL_EXPIRATION_WINDOW" "10000000000" }, [], 0⟩
    let commands : List Command := [⟨"terminal", .always, .waitForTerminalInstruction none⟩]
    ∃ wrapper, (terminalPrescan commands agent).executor.terminalWrapper = some wrapper ∧
      wrapper.expireIn = -8446744073709551616 ∧ wrapper.expireIn ≠ 10000000000 * second := by
  intro agent commands
  obtain ⟨wrapper, hwrapper, hexpiry, hexact⟩ :=
    @terminalPrescan_expireIn commands agent "10000000000" 10000000000
      ⟨_, List.mem_singleton_self _, rfl⟩ (Environment.lookup_set_self _ _ _) (by decide)
  exact ⟨wrapper, hwrapper, hexpiry.trans (by decide), fun h => absurd (hexact.mp h).2 (by decide)⟩

theorem terminalPrescan_bounds (commands : List Command) (agent : Agent) :
    (terminalPrescan commands agent).executor.commandFrom = agent.executor.commandFrom ∧
      (terminalPrescan commands agent).executor.commandTo = agent.executor.commandTo := by
  unfold terminalPrescan
  split <;> exact ⟨rfl, rfl⟩

/-- From a state where every waiting command finds the wrapper, the loop does not panic. -/
theorem runCommands_not_panicked (commands : List Command) (failed : Bool) (agent : Agent)
    (hready : TerminalReady commands agent.executor) (p : Panic) :
    (runCommands (performStep world.step) commands failed agent).exit ≠ .panicked p := by
  induction commands generalizing failed agent with
  | nil => simp [runCommands]
  | cons command rest ih =>
    have hrest : TerminalReady rest agent.executor := fun c hc => hready c (.tail _ hc)
    rw [runCommands]
    split
    · exact ih failed agent hrest
    · have hwrapper := (performStep_stepsTo world.step command agent).terminalWrapper_eq
      rcases hstep : performStep world.step command agent with ⟨outcome, agent'⟩
      rw [hstep] at hwrapper
      cases outcome with
      | error => simp
      | panic =>
        obtain ⟨hwait, hnone⟩ := performStep_panic world.step (congrArg Prod.fst hstep)
        simpa [hnone] using hready command (.head _) hwait
      | result => exact ih _ agent' fun c hc hwait => hwrapper ▸ hrest c hc hwait

/-- The loop from a state where every command waiting for a terminal finds the wrapper
panics only in `BoundedCommands`. -/
theorem perStepLoop_panicked {commands : List Command} {commandFrom commandTo : String}
    {failed : Bool} {agent : Agent} {p : Panic} (hready : TerminalReady commands agent.executor)
    (h : (perStepLoop (performStep world.step) commands commandFrom commandTo failed agent).exit =
      .panicked p) :
    boundedCommands commands commandFrom commandTo = .error p := by
  unfold perStepLoop at h
  split at h <;> rename_i hbounded
  · cases h
    exact hbounded
  · exact absurd h (runCommands_not_panicked world _ failed agent
      (fun c hc => hready c (mem_of_mem_boundedCommands hbounded c hc)) p)

/-- `RunBuild` from the pre-scan on panics only in `BoundedCommands`. -/
theorem executeCommands_panicked {commands : List Command} {failed : Bool} {agent : Agent}
    {p : Panic} (h : (executeCommands world commands failed agent).exit = .panicked p) :
    boundedCommands commands agent.executor.commandFrom agent.executor.commandTo = .error p := by
  obtain ⟨hfrom, hto⟩ := terminalPrescan_bounds commands agent
  unfold executeCommands at h
  dsimp only at h
  split at h <;> rename_i hexit
  · cases h
  · cases h
    rw [← hfrom, ← hto]
    exact perStepLoop_panicked world (terminalPrescan_ready commands agent) hexit
  · cases h

/-- The panics of `RunBuild`: the incorrect server token, a nil Vault secret, and the
reversed bounds of `BoundedCommands`. -/
theorem runBuild_panicked {response : CommandsResponse} {agent : Agent} {p : Panic}
    (h : (runBuild world response agent).exit = .panicked p) :
    p = .logPanic "Server token is incorrect!" ∨ p = .nilPointerDereference "secret" ∨
      ∃ left right, right < left ∧ p = .sliceBoundsOutOfRange left right := by
  unfold runBuild at h
  split at h
  · cases h
    exact .inl rfl
  · dsimp only at h
    split at h <;> rename_i hunbox
    · cases h
      obtain ⟨_, _, hpanic⟩ := unboxLoop_error world.vault world.newBoxedValue _ _ _ hunbox
      exact .inr (.inl (unbox_error world.vault hpanic))
    · cases h
    · split at h
      · cases h
      · exact .inr (.inr (boundedCommands_error (executeCommands_panicked world h)))

/-- Whatever the controller sends and whatever every step does, `RunBuild` never calls
`Wait` on a nil terminal wrapper: a command of the bounded range that waits for a terminal
is also a command of the whole list, which the pre-scan has seen. -/
theorem runBuild_terminalWrapper_set (response : CommandsResponse) (agent : Agent) :
    (runBuild world response agent).exit ≠ .panicked (.nilPointerDereference "terminalWrapper") := by
  intro h
  rcases runBuild_panicked world h with h | h | ⟨_, _, _, h⟩ <;>
    first | cases h | exact absurd h (by decide)

/-! ## Log uploaders left open -/

/-- Two builds that leave a log uploader open. A background command followed by an exit
instruction: `RunBuild` returns from the loop with the background command registered,
never killed, its uploader never finalised. A background command whose `CIRRUS_ENV` file
cannot be created: its uploader is never registered, so the build runs to its final report
with that uploader never finalised. -/
theorem background_uploader_left_open :
    let step : StepWorld := ⟨fun _ => .ok (), fun _ => .ok "/tmp/cirrus-env-task-1",
      fun _ => (∅, none), fun _ => ⟨none, true, false⟩, fun _ => .ok (), fun _ => true,
      fun _ text => text, fun _ _ => .ok (), fun _ => ([], true), fun _ => 0, default⟩
    let world : RunWorld := ⟨step, fun _ => none,
      ⟨fun _ => none, "linux", "amd64", "/tmp", fun dir elem => dir ++ "/" ++ elem, id,
        fun dir pattern => dir ++ "/" ++ pattern⟩,
      ⟨fun _ => true⟩, ⟨.ok (), fun _ => .ok (), fun _ _ => .ok (), fun _ _ => .ok none,
        fun _ _ => .ok ""⟩,
      fun _ => .error .notABoxedValue, fun env => ⟨env.items, .refl _⟩, "127.0.0.1:12321",
      some [], fun _ => none, fun _ => false⟩
    let server : Command := ⟨"server", .always, .backgroundScriptInstruction⟩
    let agent : Agent := ⟨newExecutor 1 "" "token" "" "" "", [], 0⟩
    let exited := runBuild world ⟨"token", none, [server, ⟨"stop", .always, .exitInstruction⟩], [],
      false⟩ agent
    let noCirrusEnv := runBuild { world with step := { step with
      cirrusEnvNew := fun _ => .error "no space left on device" } } ⟨"token", none, [server], [],
      false⟩ agent
    exited.exit = .returnedFromLoop ∧ exited.agent.executor.backgroundCommands = [⟨"server", 0, 0⟩] ∧
      Effect.processKill 0 ∉ exited.agent.effects ∧
      Effect.logUploaderFinalized 0 ∉ exited.agent.effects ∧
      noCirrusEnv.exit = .finished ∧ noCirrusEnv.agent.executor.backgroundCommands = [] ∧
      Effect.logUploaderCreated 0 ∈ noCirrusEnv.agent.effects ∧
      Effect.logUploaderFinalized 0 ∉ noCirrusEnv.agent.effects := by
  decide

/-! ## What the controller is told

`ReportAgentFinished` carries `ub.History()`, every result the loop queued. A build that runs
its loop to the end has queued, besides the executing results of the commands it ran, one
final result per command of the range the bounds select.
-/

theorem settleHttpCacheHost_bounds (agent : Agent) :
    (settleHttpCacheHost world agent).executor.commandFrom = agent.executor.commandFrom ∧
      (settleHttpCacheHost world agent).executor.commandTo = agent.executor.commandTo := by
  unfold settleHttpCacheHost
  dsimp only
  split <;> split <;> exact ⟨rfl, rfl⟩

/-- A build that runs its loop to the end went through `executeCommands` from an agent with
the bounds it started with. -/
theorem runBuild_finished_bounds {response : CommandsResponse} {agent : Agent}
    (hfinished : (runBuild world response agent).exit = .finished) :
    ∃ agent', agent'.executor.commandFrom = agent.executor.commandFrom ∧
      agent'.executor.commandTo = agent.executor.commandTo ∧
      runBuild world response agent =
        executeCommands world response.commands response.failedAtLeastOnce agent' := by
  unfold runBuild at hfinished ⊢
  split at hfinished <;> rename_i htoken
  · cases hfinished
  · rw [if_neg htoken]
    dsimp only at hfinished ⊢
    split at hfinished <;> rename_i hunbox
    · cases hfinished
    · cases hfinished
    · split at hfinished <;> rename_i hempty
      · cases hfinished
      · rw [if_neg hempty]
        rename_i unboxed
        obtain ⟨hfrom, hto⟩ := settleHttpCacheHost_bounds world unboxed
        obtain ⟨hfrom', hto'⟩ := unboxLoop_bounds _ _ hunbox
        refine ⟨_, ?_, ?_, rfl⟩
        · rw [Agent.setEnv_commandFrom, hfrom, hfrom', Agent.setEnv_commandFrom]
        · rw [Agent.setEnv_commandTo, hto, hto', Agent.setEnv_commandTo]

/-- In a build that runs its loop to the end, the last call is `ReportAgentFinished` with the
results the loop queued, and among them is one final result for each command of the range
the bounds select, in order. -/
theorem runBuild_reportAgentFinished (response : CommandsResponse) (agent : Agent)
    (hfinished : (runBuild world response agent).exit = .finished) :
    ∃ bounded, boundedCommands response.commands agent.executor.commandFrom
        agent.executor.commandTo = .ok bounded ∧
      (runBuild world response agent).agent.effects.getLast? =
        some (.reportAgentFinished (history (runBuild world response agent).updates)) ∧
      ((history (runBuild world response agent).updates).filter (·.status != .executing)).map
        (·.name) = bounded.map (·.name) := by
  obtain ⟨agent', hfrom, hto, heq⟩ := runBuild_finished_bounds world hfinished
  obtain ⟨hfrom', hto'⟩ := terminalPrescan_bounds response.commands agent'
  rw [heq] at hfinished ⊢
  unfold executeCommands at hfinished ⊢
  dsimp only at hfinished ⊢
  split at hfinished <;> rename_i hexit
  · cases hfinished
  · cases hfinished
  · unfold perStepLoop at hexit ⊢
    rw [hfrom', hto', hfrom, hto] at hexit ⊢
    split at hexit <;> rename_i bounded hbounded
    · cases hexit
    · simp only [hbounded] at hexit ⊢
      exact ⟨bounded, rfl, by simp [teardownCalls_getLast?],
        runCommands_history _ bounded _ _ hexit⟩

/-- A build of a skipped command and a script, from a fresh executor: the report names both,
in order. -/
theorem runBuild_reportAgentFinished_skip_and_script :
    let world : RunWorld := ⟨⟨fun _ => .ok (), fun _ => .ok "/tmp/cirrus-env-task-1",
      fun _ => (∅, none), fun _ => ⟨none, true, false⟩, fun _ => .ok (), fun _ => true,
      fun _ text => text, fun _ _ => .ok (), fun _ => ([], true), fun _ => 0, default⟩,
      fun _ => none,
      ⟨fun _ => none, "linux", "amd64", "/tmp", fun dir elem => dir ++ "/" ++ elem, id,
        fun dir pattern => dir ++ "/" ++ pattern⟩,
      ⟨fun _ => true⟩, ⟨.ok (), fun _ => .ok (), fun _ _ => .ok (), fun _ _ => .ok none,
        fun _ _ => .ok ""⟩,
      fun _ => .error .notABoxedValue, fun env => ⟨env.items, .refl _⟩, "127.0.0.1:12321",
      some [], fun _ => none, fun _ => false⟩
    let response : CommandsResponse := ⟨"token", none,
      [⟨"cleanup", .onFailure, .scriptInstruction⟩, ⟨"main", .always, .scriptInstruction⟩], [],
      false⟩
    let agent : Agent := ⟨newExecutor 1 "" "token" "" "" "", [], 0⟩
    (runBuild world response agent).exit = .finished ∧
      ∃ bounded, boundedCommands response.commands agent.executor.commandFrom
          agent.executor.commandTo = .ok bounded ∧
        (runBuild world response agent).agent.effects.getLast? =
          some (.reportAgentFinished (history (runBuild world response agent).updates)) ∧
        ((history (runBuild world response agent).updates).filter (·.status != .executing)).map
          (·.name) = bounded.map (·.name) := by
  intro world response agent
  have hfinished : (runBuild world response agent).exit = .finished := by decide
  exact ⟨hfinished, runBuild_reportAgentFinished world response agent hfinished⟩

theorem executeCommands_updates (commands : List Command) (failed : Bool) (agent : Agent) :
    (executeCommands world commands failed agent).updates =
      (perStepLoop (performStep world.step) commands
        (terminalPrescan commands agent).executor.commandFrom
        (terminalPrescan commands agent).executor.commandTo failed
        (terminalPrescan commands agent)).events := by
  unfold executeCommands
  dsimp only
  split <;> rfl

/-- What a build tells its update batcher is nothing, or the events of one run of the loop
over commands of the controller's list. -/
theorem runBuild_updates (response : CommandsResponse) (agent : Agent) :
    (runBuild world response agent).updates = [] ∨ ∃ bounded failed agent',
      (∀ command ∈ bounded, command ∈ response.commands) ∧
        (runBuild world response agent).updates =
          (runCommands (performStep world.step) bounded failed agent').events := by
  unfold runBuild
  split
  · exact .inl rfl
  · dsimp only
    split
    · exact .inl rfl
    · exact .inl rfl
    · split
      · exact .inl rfl
      · rw [executeCommands_updates]
        unfold perStepLoop
        split <;> rename_i hbounded
        · exact .inl rfl
        · exact .inr ⟨_, _, _, mem_of_mem_boundedCommands hbounded, rfl⟩

/-- The controller is told a command was killed by a signal only in the result of a step of a
script of its list whose own runner ended without an error and with a signal: never for a
background script, a clone, a file, a cache or a wait, and never for a script that timed
out. -/
theorem runBuild_signaledToExit (response : CommandsResponse) (agent : Agent) :
    ∀ result ∈ history (runBuild world response agent).updates, result.signaledToExit = true →
      ∃ command ∈ response.commands, ∃ before stepResult after,
        performStep world.step command before = (.result stepResult, after) ∧
        result = finishedResult command stepResult ∧ command.instruction = .scriptInstruction ∧
        (world.step.runScript before.steps).err = none ∧
        (world.step.runScript before.steps).signaled = true := by
  intro result hresult hsignaled
  rcases runBuild_updates world response agent with hnone | ⟨bounded, failed, agent', hmem, heq⟩
  · simp [hnone, history] at hresult
  · rw [heq] at hresult
    obtain ⟨command, hc, hrest⟩ :=
      runCommands_signaledToExit world.step bounded failed agent' result hresult hsignaled
    exact ⟨command, hmem command hc, hrest⟩

/-- A build of one script that a signal kills: the controller hears of it, for that script. -/
theorem runBuild_signaledToExit_killed_script :
    let world : RunWorld := ⟨⟨fun _ => .ok (), fun _ => .ok "/tmp/cirrus-env-task-1",
      fun _ => (∅, none), fun _ => ⟨none, false, true⟩, fun _ => .ok (), fun _ => true,
      fun _ text => text, fun _ _ => .ok (), fun _ => ([], true), fun _ => 0, default⟩,
      fun _ => none,
      ⟨fun _ => none, "linux", "amd64", "/tmp", fun dir elem => dir ++ "/" ++ elem, id,
        fun dir pattern => dir ++ "/" ++ pattern⟩,
      ⟨fun _ => true⟩, ⟨.ok (), fun _ => .ok (), fun _ _ => .ok (), fun _ _ => .ok none,
        fun _ _ => .ok ""⟩,
      fun _ => .error .notABoxedValue, fun env => ⟨env.items, .refl _⟩, "127.0.0.1:12321",
      some [], fun _ => none, fun _ => false⟩
    let response : CommandsResponse := ⟨"token", none, [⟨"main", .always, .scriptInstruction⟩],
      [], false⟩
    let agent : Agent := ⟨newExecutor 1 "" "token" "" "" "", [], 0⟩
    let result : CommandResult := ⟨"main", .failed, 0, true⟩
    result ∈ history (runBuild world response agent).updates ∧ result.signaledToExit = true ∧
      ∃ command ∈ response.commands, ∃ before stepResult after,
        performStep world.step command before = (.result stepResult, after) ∧
        result = finishedResult command stepResult ∧ command.instruction = .scriptInstruction ∧
        (world.step.runScript before.steps).err = none ∧
        (world.step.runScript before.steps).signaled = true := by
  intro world response agent result
  have hmem : result ∈ history (runBuild world response agent).updates := by decide
  exact ⟨hmem, rfl, runBuild_signaledToExit world response agent result hmem rfl⟩

/-- No call a step can make reports the end of the build. -/
theorem StepCalls.countP_finished {agent agent' : Agent} (h : StepCalls agent agent') :
    agent'.effects.countP Effect.isReportAgentFinished =
      agent.effects.countP Effect.isReportAgentFinished := by
  obtain ⟨calls, heq, hcalls⟩ := h
  have hnone : calls.countP Effect.isReportAgentFinished = 0 :=
    List.countP_eq_zero.2 fun call hcall => by
      have hstep := hcalls call hcall
      cases call <;> simp [Effect.isStepCall, Effect.isReportAgentFinished] at hstep ⊢
  rw [heq, List.countP_append, hnone, Nat.add_zero]

theorem unboxLoop_finished (vault : VaultApi)
    (newBoxedValue : String → Except BoxedValueError BoxedValue)
    (unbox : VaultUnboxer → BoxedValue → Except Panic (Except String String))
    (entries : List (Σ _ : String, String)) (unboxer : Option VaultUnboxer) {agent agent' : Agent}
    {exit : UnboxExit}
    (hrun : unboxLoop vault newBoxedValue unbox entries unboxer agent = .ok (exit, agent')) :
    agent'.effects.countP Effect.isReportAgentFinished =
      agent.effects.countP Effect.isReportAgentFinished := by
  induction entries generalizing unboxer agent with
  | nil =>
    cases hrun
    rfl
  | cons entry rest ih =>
    have hacquired : (acquireUnboxer vault unboxer agent).2.effects.countP
        Effect.isReportAgentFinished = agent.effects.countP Effect.isReportAgentFinished := by
      unfold acquireUnboxer
      split
      · rfl
      · simp [Effect.isReportAgentFinished]
    unfold unboxLoop at hrun
    split at hrun
    · exact ih _ hrun
    · cases hrun
      simp [Agent.reportError, Effect.isReportAgentFinished]
    · split at hrun <;> rename_i hacquire <;> rw [hacquire] at hacquired
      · cases hrun
        simpa [Agent.reportError, Effect.isReportAgentFinished] using hacquired
      · split at hrun
        · cases hrun
        · cases hrun
          simpa [Agent.reportError, Effect.isReportAgentFinished] using hacquired
        · exact (ih _ hrun).trans hacquired

/-- The cleanup loop reports nothing to the controller. -/
theorem drainBackgroundCommands_finished (kill : Nat → Option String)
    (entries : List CommandAndLogs) (agent : Agent) :
    (drainBackgroundCommands kill entries agent).effects.countP Effect.isReportAgentFinished =
      agent.effects.countP Effect.isReportAgentFinished := by
  induction entries generalizing agent with
  | nil => rfl
  | cons entry rest ih =>
    rw [drainBackgroundCommands, ih]
    split <;> simp [Agent.write, Effect.isReportAgentFinished]

/-- `RunBuild` from the pre-scan on calls `ReportAgentFinished` only when its loop runs to
the end, once or twice as the retry decides. -/
theorem executeCommands_finished (commands : List Command) (failed : Bool) (agent : Agent) :
    (executeCommands world commands failed agent).agent.effects.countP
        Effect.isReportAgentFinished =
      agent.effects.countP Effect.isReportAgentFinished +
        if (executeCommands world commands failed agent).exit = .finished then
          if (world.reportAgentFinished 0).isSome && !world.finishCancelled 0 then 2 else 1
        else 0 := by
  have hloop : ∀ commandFrom commandTo, StepCalls agent (perStepLoop (performStep world.step)
      commands commandFrom commandTo failed (terminalPrescan commands agent)).executor := by
    intro commandFrom commandTo
    have hprescan : StepCalls agent (terminalPrescan commands agent) := by
      unfold terminalPrescan
      split <;> exact .of_effects rfl
    unfold perStepLoop
    split
    · exact hprescan
    · exact runCommands_preserves (performStep world.step) (StepCalls agent)
        (fun command _ h => h.trans (performStep_stepCalls world.step command _)) _ failed
        hprescan
  unfold executeCommands
  dsimp only
  split
  · simpa using (hloop _ _).countP_finished
  · simpa using (hloop _ _).countP_finished
  · simp [drainBackgroundCommands_finished, (hloop _ _).countP_finished,
      teardownCalls_countP_finished]

/-- The controller is asked `ReportAgentFinished` only in a build whose loop runs to its end:
once, and a second time exactly when the first attempt fails and the context is not
cancelled during the wait; never in a build that stops before its loop, returns from it on
an exit instruction, or panics. -/
theorem runBuild_reportAgentFinished_attempts (response : CommandsResponse) (agent : Agent) :
    (runBuild world response agent).agent.effects.countP Effect.isReportAgentFinished =
      agent.effects.countP Effect.isReportAgentFinished +
        if (runBuild world response agent).exit = .finished then
          if (world.reportAgentFinished 0).isSome && !world.finishCancelled 0 then 2 else 1
        else 0 := by
  unfold runBuild
  split
  · simp
  · dsimp only
    split <;> rename_i hunbox
    · simp [Agent.setEnv]
    · simpa [Agent.setEnv] using unboxLoop_finished _ _ _ _ _ hunbox
    · rename_i unboxed
      have hunboxed := unboxLoop_finished _ _ _ _ _ hunbox
      have hsettled : (settleHttpCacheHost world unboxed).effects = unboxed.effects := by
        unfold settleHttpCacheHost
        dsimp only
        split <;> split <;> rfl
      split
      · simpa [Agent.setEnv, hsettled] using hunboxed
      · rw [executeCommands_finished]
        simpa [Agent.setEnv, hsettled] using hunboxed

end CirrusAgent
