import CirrusAgent.StepLoop
import CirrusAgent.Executor
import CirrusAgent.Clone

/-! # The instruction dispatcher

`performStep` opens a log uploader for the step, installs a fresh `CIRRUS_ENV` file into
the environment, dispatches on the instruction, and merges what the step wrote to the
`CIRRUS_ENV` file back into the environment. The uploader is finalised by a deferred call
for every instruction but a background script, whose uploader goes into the registry of
background commands with the process.

The log uploader, the `CIRRUS_ENV` file, the process runner and the remaining handlers are
collaborators outside the sources; a `StepWorld` gives their answers at every step.
-/

namespace CirrusAgent

/-- The errors of the script runner: `TimeOutError`, or any other. -/
inductive ScriptError where
  | timeOut
  | other (message : String)
  deriving DecidableEq, Repr

/-- What `ExecuteScriptsStreamLogsAndWait` hands back: its error, and the exit of the
process (`ProcessState.Success()`, `WaitStatus.Signaled()`). -/
structure ScriptRun where
  err : Option ScriptError
  success : Bool
  signaled : Bool
  deriving DecidableEq, Repr

/-- The answers of the collaborators of `performStep` at its `n`-th invocation. -/
structure StepWorld where
  newLogUploader : Nat → Except String Unit
  cirrusEnvNew : Nat → Except String String
  consume : Nat → StringMap × Option String
  runScript : Nat → ScriptRun
  startBackground : Nat → Except String Unit
  handlerSucceeds : Nat → Bool
  expandText : Environment → String → String
  writeFile : Nat → String → Except String Unit
  terminalSession : Nat → List String × Bool
  duration : Nat → Int
  git : Nat → GitWorld

variable (world : StepWorld)

namespace Agent

/-- Record a write to the step's log uploader. -/
def write (agent : Agent) (uploader : Nat) (text : String) : Agent :=
  agent.emit (.logUploaderWrite uploader text)

/-- Record writes to the step's log uploader, in order. -/
def writeAll (agent : Agent) (uploader : Nat) (texts : List String) : Agent :=
  texts.foldl (fun agent text => agent.write uploader text) agent

/-- Append a background command to the registry. -/
def addBackgroundCommand (agent : Agent) (command : CommandAndLogs) : Agent :=
  { agent with executor := { agent.executor with
      backgroundCommands := agent.executor.backgroundCommands ++ [command] } }

end Agent

/-- `CreateFile`, writing through the step's uploader `n`. -/
def createFile (n : Nat) (instruction : FileInstruction) (agent : Agent) : Bool × Agent :=
  match instruction.source with
  | .fromEnvironmentVariable envName =>
    match agent.executor.env.lookup envName with
    | none =>
      (true, agent.write n s!"Environment variable {envName} is not set! Skipping file creation...")
    | some content =>
      if content.startsWith "ENCRYPTED" then
        (true, agent.write n
          s!"Environment variable {envName} wasn't decrypted! Skipping file creation...")
      else
        let filePath := world.expandText agent.executor.env instruction.destinationPath
        match world.writeFile n filePath with
        | .error err => (false, agent.write n s!"Failed to write file {filePath}: {err}!")
        | .ok () => (true, agent.write n s!"Created file {filePath}!")
  | .unset => (false, agent)

/-- How the instruction switch of `performStep` ends. -/
inductive Dispatch where
  | exit
  | panic (p : Panic)
  | done (success signaledToExit : Bool)
  deriving DecidableEq, Repr

/-- The `switch instruction := currentStep.Instruction.(type)` of `performStep`, for the
step `n`. -/
def dispatch (n : Nat) (currentStep : Command) (agent : Agent) : Dispatch × Agent :=
  match currentStep.instruction with
  | .exitInstruction => (.exit, agent)
  | .cloneInstruction =>
    let (success, log) := cloneRepository (world.git n)
      (cloneSettings world.expandText agent.executor.env)
    (.done success false, agent.writeAll n log.writes)
  | .fileInstruction instruction =>
    let (success, agent) := createFile world n instruction agent
    (.done success false, agent)
  | .scriptInstruction =>
    let run := world.runScript n
    (.done (run.err.isNone && run.success) (run.err.isNone && run.signaled), agent)
  | .backgroundScriptInstruction =>
    match world.startBackground n with
    | .ok () => (.done true false, agent.addBackgroundCommand ⟨currentStep.name, n, n⟩)
    | .error err =>
      (.done false false,
        (agent.write n s!"Failed to create command line: {err}").emit (.logUploaderFinalized n))
  | .cacheInstruction | .uploadCacheInstruction | .artifactsInstruction =>
    (.done (world.handlerSucceeds n) false, agent)
  | .waitForTerminalInstruction _ =>
    match agent.executor.terminalWrapper with
    | none => (.panic (.nilPointerDereference "terminalWrapper"), agent)
    | some _ =>
      let (messages, success) := world.terminalSession n
      (.done success false, agent.writeAll n (messages.map (· ++ "\n")))
  | .unset => (.done false false, agent)

/-- `"CIRRUS_ENV_SENSITIVE"`. -/
def cirrusEnvSensitive : String := "CIRRUS_ENV_SENSITIVE"

/-- The epilogue of `performStep`: consume the `CIRRUS_ENV` file, then merge its variables,
sensitive when `CIRRUS_ENV_SENSITIVE` is set at the time of the lookup. -/
def performStepEpilogue (n : Nat) (agent : Agent) : Agent :=
  let (cirrusEnvVariables, err) := world.consume n
  let agent := match err with
    | some err => agent.write n (s!"Failed collect CIRRUS_ENV subsystem results: {err}" ++ "\n")
    | none => agent
  let isSensitive := (agent.executor.env.lookup cirrusEnvSensitive).isSome
  agent.setEnv (agent.executor.env.merge cirrusEnvVariables isSensitive)

/-- The deferred `logUploader.Finalize()` of `performStep`, registered for every instruction
but a background script. -/
def deferredFinalize (currentStep : Command) (n : Nat) (agent : Agent) : Agent :=
  if currentStep.instruction.isBackgroundScript then agent
  else agent.emit (.logUploaderFinalized n)

@[simp] theorem deferredFinalize_executor (currentStep : Command) (n : Nat) (agent : Agent) :
    (deferredFinalize currentStep n agent).executor = agent.executor := by
  unfold deferredFinalize
  split <;> rfl

/-- The part of `performStep` once the uploader and the `CIRRUS_ENV` file exist: the
instruction switch, then `return nil, ErrStepExit` for an exit instruction, or the epilogue
and the step result. -/
def runInstruction (n : Nat) (currentStep : Command) (agent : Agent) : StepOutcome × Agent :=
  match dispatch world n currentStep agent with
  | (.exit, agent) => (.error errStepExit, deferredFinalize currentStep n agent)
  | (.panic p, agent) => (.panic p, deferredFinalize currentStep n agent)
  | (.done success signaledToExit, agent) =>
    (.result ⟨success, signaledToExit, world.duration n⟩,
      deferredFinalize currentStep n (performStepEpilogue world n agent))

/-- `performStep`. The step's number names its uploader and its process; the deferred
finalisation runs on every return once the uploader exists. -/
def performStep (currentStep : Command) (agent : Agent) : StepOutcome × Agent :=
  let n := agent.steps
  let agent := { agent with steps := n + 1 }
  let failed : StepOutcome := .result ⟨false, false, world.duration n⟩
  match world.newLogUploader n with
  | .error err =>
    let message := s!"Failed to initialize command {currentStep.name} log upload: {err}"
    (failed, agent.emit (.reportAgentWarning message))
  | .ok () =>
    let agent := agent.emit (.logUploaderCreated n)
    match world.cirrusEnvNew n with
    | .error err =>
      (failed, deferredFinalize currentStep n
        (agent.write n (s!"Failed initialize CIRRUS_ENV subsystem: {err}" ++ "\n")))
    | .ok path =>
      runInstruction world n currentStep (agent.setEnv (agent.executor.env.set "CIRRUS_ENV" path))

/-! ## What a step can change

A step changes the executor only in its environment and by appending to the registry of
background commands; the terminal wrapper, the bounds of the run and the rest stay as
they were.
-/

/-- `executor'` differs from `executor` at most in the environment and by commands appended
to the registry. -/
def Executor.StepsTo (executor executor' : Executor) : Prop :=
  ∃ env added, executor' =
    { executor with env := env, backgroundCommands := executor.backgroundCommands ++ added }

namespace Executor.StepsTo

theorem refl (executor : Executor) : executor.StepsTo executor :=
  ⟨executor.env, [], by simp⟩

theorem trans {e₁ e₂ e₃ : Executor} (h₁ : e₁.StepsTo e₂) (h₂ : e₂.StepsTo e₃) : e₁.StepsTo e₃ := by
  obtain ⟨env₂, added₂, rfl⟩ := h₁
  obtain ⟨env₃, added₃, rfl⟩ := h₂
  exact ⟨env₃, added₂ ++ added₃, by simp⟩

theorem terminalWrapper_eq {e e' : Executor} (h : e.StepsTo e') :
    e'.terminalWrapper = e.terminalWrapper := by
  obtain ⟨_, _, rfl⟩ := h
  rfl

end Executor.StepsTo

@[simp] theorem Agent.write_executor (agent : Agent) (uploader : Nat) (text : String) :
    (agent.write uploader text).executor = agent.executor := rfl

@[simp] theorem Agent.write_effects (agent : Agent) (uploader : Nat) (text : String) :
    (agent.write uploader text).effects = agent.effects ++ [.logUploaderWrite uploader text] := rfl

@[simp] theorem Agent.write_steps (agent : Agent) (uploader : Nat) (text : String) :
    (agent.write uploader text).steps = agent.steps := rfl

theorem Agent.setEnv_stepsTo (agent : Agent) (env : Environment) :
    agent.executor.StepsTo (agent.setEnv env).executor :=
  ⟨env, [], by simp [Agent.setEnv]⟩

theorem Agent.addBackgroundCommand_stepsTo (agent : Agent) (command : CommandAndLogs) :
    agent.executor.StepsTo (agent.addBackgroundCommand command).executor :=
  ⟨agent.executor.env, [command], rfl⟩

@[simp] theorem Agent.writeAll_executor (agent : Agent) (n : Nat) (texts : List String) :
    (agent.writeAll n texts).executor = agent.executor := by
  induction texts generalizing agent with
  | nil => rfl
  | cons text rest ih => exact ih _

@[simp] theorem Agent.writeAll_steps (agent : Agent) (n : Nat) (texts : List String) :
    (agent.writeAll n texts).steps = agent.steps := by
  induction texts generalizing agent with
  | nil => rfl
  | cons text rest ih => exact ih _

@[simp] theorem Agent.writeAll_effects (agent : Agent) (n : Nat) (texts : List String) :
    (agent.writeAll n texts).effects = agent.effects ++ texts.map (.logUploaderWrite n) := by
  induction texts generalizing agent with
  | nil => simp [Agent.writeAll]
  | cons text rest ih =>
    rw [Agent.writeAll, List.foldl_cons, ← Agent.writeAll, ih]
    simp

theorem createFile_executor (n : Nat) (instruction : FileInstruction) (agent : Agent) :
    (createFile world n instruction agent).2.executor = agent.executor := by
  unfold createFile
  split
  · split
    · rfl
    · split
      · rfl
      · dsimp only
        split <;> rfl
  · rfl

theorem dispatch_stepsTo (n : Nat) (currentStep : Command) (agent : Agent) :
    agent.executor.StepsTo (dispatch world n currentStep agent).2.executor := by
  unfold dispatch
  cases currentStep.instruction with
  | fileInstruction instruction =>
    show agent.executor.StepsTo (createFile world n instruction agent).2.executor
    rw [createFile_executor]
    exact .refl _
  | backgroundScriptInstruction =>
    dsimp only
    split
    · exact agent.addBackgroundCommand_stepsTo _
    · exact .refl _
  | cloneInstruction =>
    show agent.executor.StepsTo (agent.writeAll n _).executor
    rw [Agent.writeAll_executor]
    exact .refl _
  | waitForTerminalInstruction _ =>
    dsimp only
    split
    · exact .refl _
    · rw [Agent.writeAll_executor]
      exact .refl _
  | _ => exact .refl _

theorem performStepEpilogue_stepsTo (n : Nat) (agent : Agent) :
    agent.executor.StepsTo (performStepEpilogue world n agent).executor := by
  unfold performStepEpilogue
  split
  next _ err _ => cases err <;> exact Agent.setEnv_stepsTo _ _

theorem runInstruction_stepsTo (n : Nat) (currentStep : Command) (agent : Agent) :
    agent.executor.StepsTo (runInstruction world n currentStep agent).2.executor := by
  have hdispatch := dispatch_stepsTo world n currentStep agent
  unfold runInstruction
  split <;> rename_i heq <;> rw [heq] at hdispatch <;> simp only [deferredFinalize_executor]
  · exact hdispatch
  · exact hdispatch
  · exact hdispatch.trans (performStepEpilogue_stepsTo world _ _)

theorem performStep_stepsTo (currentStep : Command) (agent : Agent) :
    agent.executor.StepsTo (performStep world currentStep agent).2.executor := by
  unfold performStep
  dsimp only
  split
  · exact .refl _
  · split
    · rw [deferredFinalize_executor]
      exact .refl _
    · exact (Agent.setEnv_stepsTo _ _).trans (runInstruction_stepsTo world _ _ _)

theorem createFile_steps (n : Nat) (instruction : FileInstruction) (agent : Agent) :
    (createFile world n instruction agent).2.steps = agent.steps := by
  unfold createFile
  split
  · split
    · rfl
    · split
      · rfl
      · dsimp only
        split <;> rfl
  · rfl

theorem dispatch_steps (n : Nat) (currentStep : Command) (agent : Agent) :
    (dispatch world n currentStep agent).2.steps = agent.steps := by
  unfold dispatch
  cases currentStep.instruction with
  | fileInstruction instruction => exact createFile_steps world n instruction agent
  | backgroundScriptInstruction =>
    dsimp only
    split <;> rfl
  | cloneInstruction => exact Agent.writeAll_steps _ _ _
  | waitForTerminalInstruction _ =>
    dsimp only
    split
    · rfl
    · exact Agent.writeAll_steps _ _ _
  | _ => rfl

theorem runInstruction_steps (n : Nat) (currentStep : Command) (agent : Agent) :
    (runInstruction world n currentStep agent).2.steps = agent.steps := by
  have hdispatch := dispatch_steps world n currentStep agent
  unfold runInstruction performStepEpilogue deferredFinalize
  split <;> rename_i heq <;> rw [heq] at hdispatch <;> dsimp only
  · split <;> exact hdispatch
  · split <;> exact hdispatch
  · split <;> split <;> exact hdispatch

/-- A step takes the next step number, whatever it does. -/
theorem performStep_steps (currentStep : Command) (agent : Agent) :
    (performStep world currentStep agent).2.steps = agent.steps + 1 := by
  unfold performStep
  dsimp only
  split
  · rfl
  · split
    · unfold deferredFinalize
      split <;> rfl
    · exact runInstruction_steps world _ _ _

/-! ## Panics

The only panic of a step is `executor.terminalWrapper.Wait()` on a nil wrapper.
-/

theorem dispatch_panic {n : Nat} {currentStep : Command} {agent : Agent} {p : Panic}
    (h : (dispatch world n currentStep agent).1 = .panic p) :
    currentStep.instruction.isWaitForTerminal = true ∧ agent.executor.terminalWrapper = none := by
  unfold dispatch at h
  cases hinstruction : currentStep.instruction <;> simp only [hinstruction] at h
  case waitForTerminalInstruction =>
    split at h
    · exact ⟨rfl, ‹_›⟩
    · cases h
  all_goals first | cases h | (split at h <;> cases h)

theorem runInstruction_panic {n : Nat} {currentStep : Command} {agent : Agent} {p : Panic}
    (h : (runInstruction world n currentStep agent).1 = .panic p) :
    currentStep.instruction.isWaitForTerminal = true ∧ agent.executor.terminalWrapper = none := by
  unfold runInstruction at h
  split at h <;> rename_i heq
  · cases h
  · exact dispatch_panic world (congrArg Prod.fst heq)
  · cases h

/-- A step panics only on a command waiting for a terminal, with no terminal wrapper. -/
theorem performStep_panic {currentStep : Command} {agent : Agent} {p : Panic}
    (h : (performStep world currentStep agent).1 = .panic p) :
    currentStep.instruction.isWaitForTerminal = true ∧ agent.executor.terminalWrapper = none := by
  unfold performStep at h
  dsimp only at h
  split at h
  · cases h
  · split at h
    · cases h
    · have hpanic := runInstruction_panic world h
      exact hpanic

/-! ## Signals

`StepResult.SignaledToExit` comes from the script runner alone: only the script instruction
reads it, and only when the runner returned no error.
-/

/-- Only a script instruction whose runner ended without an error, and with a process killed
by a signal, ends the switch signalled. -/
theorem dispatch_signaledToExit {n : Nat} {currentStep : Command} {agent : Agent}
    {success : Bool} (h : (dispatch world n currentStep agent).1 = .done success true) :
    currentStep.instruction = .scriptInstruction ∧ (world.runScript n).err = none ∧
      (world.runScript n).signaled = true := by
  unfold dispatch at h
  cases hinstruction : currentStep.instruction <;> rw [hinstruction] at h <;> dsimp only at h
  case scriptInstruction =>
    simp only [Dispatch.done.injEq, Bool.and_eq_true, Option.isNone_iff_eq_none] at h
    exact ⟨rfl, h.2⟩
  case backgroundScriptInstruction => split at h <;> cases h
  case waitForTerminalInstruction => split at h <;> cases h
  all_goals simp at h

/-- A step reports a process killed by a signal only for a script instruction whose runner
returned no error, so never for a script that timed out. -/
theorem performStep_signaledToExit {currentStep : Command} {agent : Agent}
    {stepResult : StepResult} (h : (performStep world currentStep agent).1 = .result stepResult)
    (hsignaled : stepResult.signaledToExit = true) :
    currentStep.instruction = .scriptInstruction ∧ (world.runScript agent.steps).err = none ∧
      (world.runScript agent.steps).signaled = true := by
  unfold performStep at h
  dsimp only at h
  split at h
  · cases h
    cases hsignaled
  · split at h
    · cases h
      cases hsignaled
    · unfold runInstruction at h
      split at h <;> rename_i hdispatch
      · cases h
      · cases h
      · cases h
        cases hsignaled
        exact dispatch_signaledToExit world (congrArg Prod.fst hdispatch)

/-! ## The calls of a step

A step calls `ReportAgentWarning` and the log uploaders, and nothing else the model records:
in particular it reports no error and no end of the build.
-/

/-- `CreateFile` only writes to the step's uploader. -/
theorem createFile_writes (n : Nat) (instruction : FileInstruction) (agent : Agent) :
    ∃ texts, (createFile world n instruction agent).2 = agent.writeAll n texts := by
  unfold createFile
  split
  · split
    · exact ⟨[_], rfl⟩
    · split
      · exact ⟨[_], rfl⟩
      · dsimp only
        split <;> exact ⟨[_], rfl⟩
  · exact ⟨[], rfl⟩

/-- Every case of the switch but the background script only writes to the step's
uploader. -/
theorem dispatch_writes {n : Nat} {currentStep : Command} (agent : Agent)
    (hbackground : currentStep.instruction.isBackgroundScript = false) :
    ∃ texts, (dispatch world n currentStep agent).2 = agent.writeAll n texts := by
  unfold dispatch
  cases hinstruction : currentStep.instruction <;> rw [hinstruction] at hbackground
  case fileInstruction instruction => exact createFile_writes world n instruction agent
  case cloneInstruction => exact ⟨_, rfl⟩
  case waitForTerminalInstruction =>
    dsimp only
    split
    · exact ⟨[], rfl⟩
    · exact ⟨_, rfl⟩
  case backgroundScriptInstruction => cases hbackground
  all_goals exact ⟨[], rfl⟩

/-- The epilogue writes to the step's uploader only when the `CIRRUS_ENV` file cannot be
read back, and replaces the environment. -/
theorem performStepEpilogue_writes (n : Nat) (agent : Agent) :
    ∃ texts env, performStepEpilogue world n agent = (agent.writeAll n texts).setEnv env ∧
      ((world.consume n).2 = none → texts = []) := by
  unfold performStepEpilogue
  split
  next cirrusEnvVariables err hconsume =>
    cases err with
    | none => exact ⟨[], _, rfl, fun _ => rfl⟩
    | some err => exact ⟨[_], _, rfl, fun h => by simp [hconsume] at h⟩

/-- The calls a step can make: `ReportAgentWarning`, and the calls on a log uploader. -/
def Effect.isStepCall : Effect → Bool
  | .reportAgentWarning _ | .logUploaderCreated _ | .logUploaderWrite _ _
  | .logUploaderFinalized _ => true
  | _ => false

/-- `agent'` is `agent` after calls that a step can make. -/
def StepCalls (agent agent' : Agent) : Prop :=
  ∃ calls, agent'.effects = agent.effects ++ calls ∧ ∀ call ∈ calls, call.isStepCall = true

namespace StepCalls

theorem of_effects {agent agent' : Agent} (h : agent'.effects = agent.effects) :
    StepCalls agent agent' :=
  ⟨[], by rw [h, List.append_nil], fun _ hcall => absurd hcall (List.not_mem_nil _)⟩

theorem trans {a₁ a₂ a₃ : Agent} (h₁ : StepCalls a₁ a₂) (h₂ : StepCalls a₂ a₃) :
    StepCalls a₁ a₃ := by
  obtain ⟨calls₁, heq₁, hcalls₁⟩ := h₁
  obtain ⟨calls₂, heq₂, hcalls₂⟩ := h₂
  refine ⟨calls₁ ++ calls₂, by rw [heq₂, heq₁, List.append_assoc], fun call hcall => ?_⟩
  rcases List.mem_append.1 hcall with hcall | hcall
  · exact hcalls₁ call hcall
  · exact hcalls₂ call hcall

theorem emit (agent : Agent) {call : Effect} (h : call.isStepCall = true) :
    StepCalls agent (agent.emit call) :=
  ⟨[call], rfl, fun _ hcall => List.mem_singleton.1 hcall ▸ h⟩

theorem writeAll (agent : Agent) (n : Nat) (texts : List String) :
    StepCalls agent (agent.writeAll n texts) :=
  ⟨_, Agent.writeAll_effects agent n texts, by simp [Effect.isStepCall]⟩

end StepCalls

theorem dispatch_stepCalls (n : Nat) (currentStep : Command) (agent : Agent) :
    StepCalls agent (dispatch world n currentStep agent).2 := by
  cases hbackground : currentStep.instruction.isBackgroundScript
  · obtain ⟨texts, heq⟩ := dispatch_writes world agent hbackground
    rw [heq]
    exact .writeAll agent n texts
  · unfold dispatch
    revert hbackground
    cases currentStep.instruction <;> intro hbackground <;> try cases hbackground
    dsimp only
    split
    · exact .of_effects rfl
    · exact (StepCalls.writeAll agent n [_]).trans (.emit _ rfl)

theorem performStepEpilogue_stepCalls (n : Nat) (agent : Agent) :
    StepCalls agent (performStepEpilogue world n agent) := by
  obtain ⟨texts, env, heq, -⟩ := performStepEpilogue_writes world n agent
  rw [heq]
  exact (StepCalls.writeAll agent n texts).trans (.of_effects rfl)

theorem deferredFinalize_stepCalls (currentStep : Command) (n : Nat) (agent : Agent) :
    StepCalls agent (deferredFinalize currentStep n agent) := by
  unfold deferredFinalize
  split
  · exact .of_effects rfl
  · exact .emit agent rfl

theorem runInstruction_stepCalls (n : Nat) (currentStep : Command) (agent : Agent) :
    StepCalls agent (runInstruction world n currentStep agent).2 := by
  have hdispatch := dispatch_stepCalls world n currentStep agent
  unfold runInstruction
  split <;> rename_i heq <;> rw [heq] at hdispatch
  · exact hdispatch.trans (deferredFinalize_stepCalls _ _ _)
  · exact hdispatch.trans (deferredFinalize_stepCalls _ _ _)
  · exact hdispatch.trans ((performStepEpilogue_stepCalls world n _).trans
      (deferredFinalize_stepCalls _ _ _))

/-- A step makes only calls on log uploaders and `ReportAgentWarning`. -/
theorem performStep_stepCalls (currentStep : Command) (agent : Agent) :
    StepCalls agent (performStep world currentStep agent).2 := by
  unfold performStep
  dsimp only
  split
  · exact StepCalls.emit { agent with steps := agent.steps + 1 } rfl
  · have hcreated := StepCalls.emit { agent with steps := agent.steps + 1 }
      (show (Effect.logUploaderCreated agent.steps).isStepCall = true from rfl)
    split
    · exact hcreated.trans ((StepCalls.writeAll _ _ [_]).trans (deferredFinalize_stepCalls _ _ _))
    · exact hcreated.trans
        ((StepCalls.of_effects rfl).trans (runInstruction_stepCalls world _ _ _))

/-! ## The `CIRRUS_ENV` epilogue -/

/-- The epilogue merges the `CIRRUS_ENV` file into the environment, as sensitive values when
the flag is set before the merge. -/
theorem performStepEpilogue_env (n : Nat) (agent : Agent) :
    (performStepEpilogue world n agent).executor.env = agent.executor.env.merge (world.consume n).1
      (agent.executor.env.lookup cirrusEnvSensitive).isSome := by
  unfold performStepEpilogue
  rcases world.consume n with ⟨_, _ | _⟩ <;> rfl

/-- The epilogue marks the variables of the `CIRRUS_ENV` file sensitive exactly when
`CIRRUS_ENV_SENSITIVE` was set before the merge; after it, the flag is set when it was
before or the file sets it, so a flag from the file marks the files of later steps. -/
theorem performStepEpilogue_sensitive (n : Nat) (agent : Agent) :
    let after := performStepEpilogue world n agent
    after.executor.env.sensitiveValues = agent.executor.env.sensitiveValues ++
        (if (agent.executor.env.lookup cirrusEnvSensitive).isSome then
          (world.consume n).1.entries.map Sigma.snd else []) ∧
      (after.executor.env.lookup cirrusEnvSensitive).isSome =
        (((world.consume n).1.lookup cirrusEnvSensitive).isSome ||
          (agent.executor.env.lookup cirrusEnvSensitive).isSome) := by
  intro after
  have henv : after.executor.env = agent.executor.env.merge (world.consume n).1
      (agent.executor.env.lookup cirrusEnvSensitive).isSome := performStepEpilogue_env world n agent
  refine ⟨?_, ?_⟩
  · rw [henv, Environment.merge_sensitiveValues]
  · rw [henv, Environment.lookup_merge]
    cases (world.consume n).1.lookup cirrusEnvSensitive <;> simp

/-- A step whose `CIRRUS_ENV` file sets `CIRRUS_ENV_SENSITIVE` together with a secret: the
flag is set afterwards, and the secret is not among the sensitive values. -/
theorem cirrusEnv_flag_in_same_file_unmasked :
    let world : StepWorld := ⟨fun _ => .ok (), fun _ => .ok "/tmp/cirrus-env-task-1",
      fun _ => (((∅ : StringMap).insert cirrusEnvSensitive "true").insert "TOKEN" "s3cr3t", none),
      fun _ => ⟨none, true, false⟩, fun _ => .ok (), fun _ => true, fun _ text => text,
      fun _ _ => .ok (), fun _ => ([], true), fun _ => 0, default⟩
    let after := (performStep world ⟨"main", .always, .scriptInstruction⟩
      ⟨newExecutor 1 "" "" "" "" "", [], 0⟩).2
    (after.executor.env.lookup cirrusEnvSensitive).isSome = true ∧
      "s3cr3t" ∉ after.executor.env.sensitiveValues := by
  decide

/-! ## Exit instructions -/

/-- With an uploader and a `CIRRUS_ENV` file, an exit instruction returns `ErrStepExit`. -/
theorem performStep_exitInstruction (command : Command) (agent : Agent)
    (hexit : command.instruction = .exitInstruction)
    (huploader : world.newLogUploader agent.steps = .ok ())
    (hcirrusEnv : ∃ path, world.cirrusEnvNew agent.steps = .ok path) :
    (performStep world command agent).1 = .error errStepExit := by
  obtain ⟨path, hpath⟩ := hcirrusEnv
  simp [performStep, huploader, hpath, runInstruction, dispatch, hexit]

theorem dispatch_exit {n : Nat} {currentStep : Command} {agent : Agent}
    (h : (dispatch world n currentStep agent).1 = .exit) :
    currentStep.instruction = .exitInstruction := by
  unfold dispatch at h
  cases hinstruction : currentStep.instruction <;> simp only [hinstruction] at h
  case exitInstruction => rfl
  all_goals first | cases h | (split at h <;> cases h)

/-- A step returns an error only for an exit instruction, and the error is `ErrStepExit`. -/
theorem performStep_error {currentStep : Command} {agent : Agent} {message : String}
    (h : (performStep world currentStep agent).1 = .error message) :
    currentStep.instruction = .exitInstruction ∧ message = errStepExit := by
  unfold performStep at h
  dsimp only at h
  split at h
  · cases h
  · split at h
    · cases h
    · unfold runInstruction at h
      split at h <;> rename_i heq
      · cases h
        exact ⟨dispatch_exit world (congrArg Prod.fst heq), rfl⟩
      · cases h
      · cases h

/-- When every step can open its uploader and its `CIRRUS_ENV` file, an exit instruction the
loop runs ends the loop: it returns, and the exit step is the last call it makes. -/
theorem runCommands_exit_last
    (hsetup : ∀ n, world.newLogUploader n = .ok () ∧ ∃ path, world.cirrusEnvNew n = .ok path)
    (command : Command) (hexit : command.instruction = .exitInstruction)
    (commands : List Command) (failed : Bool) (agent : Agent)
    (hran : LoopEvent.performStep command ∈
      (runCommands (performStep world) commands failed agent).events) :
    let run := runCommands (performStep world) commands failed agent
    run.exit = .returned ∧ run.events.getLast? = some (.performStep command) := by
  induction commands generalizing failed agent with
  | nil => simp [runCommands] at hran
  | cons current rest ih =>
    rw [runCommands] at hran ⊢
    split <;> rename_i hskip
    · rw [if_pos hskip] at hran
      simp only [List.mem_cons, reduceCtorEq, false_or] at hran
      obtain ⟨hreturned, hlast⟩ := ih failed agent hran
      simp [hreturned, List.getLast?_cons, hlast]
    · rw [if_neg hskip] at hran
      have hstep := performStep_exitInstruction world current agent
      rcases hrun : performStep world current agent with ⟨outcome, agent'⟩
      rw [hrun] at hran hstep
      cases outcome with
      | error =>
        have hcurrent : command = current := by simpa [startedEvents] using hran
        subst hcurrent
        exact ⟨rfl, rfl⟩
      | panic =>
        simp only [startedEvents, List.mem_cons, LoopEvent.performStep.injEq] at hran
        have hcurrent : command = current := by simpa using hran
        cases (hstep (hcurrent ▸ hexit) (hsetup _).1 (hsetup _).2)
      | result stepResult =>
        simp only [startedEvents, List.cons_append, List.mem_cons, LoopEvent.performStep.injEq,
          List.nil_append, reduceCtorEq, false_or] at hran
        rcases hran with hcurrent | hran
        · cases (hstep (hcurrent ▸ hexit) (hsetup _).1 (hsetup _).2)
        · obtain ⟨hreturned, hlast⟩ := ih _ agent' hran
          refine ⟨hreturned, ?_⟩
          simp only [List.getLast?_append, List.getLast?_cons, hlast, Option.getD_some,
            Option.or_some]

/-- An exit instruction ahead of a script, every uploader and file at hand: the loop
returns at the exit step, its last call. -/
theorem runCommands_exit_last_before_script :
    let world : StepWorld := ⟨fun _ => .ok (), fun _ => .ok "/tmp/cirrus-env-task-1",
      fun _ => (∅, none), fun _ => ⟨none, true, false⟩, fun _ => .ok (), fun _ => true,
      fun _ text => text, fun _ _ => .ok (), fun _ => ([], true), fun _ => 0, default⟩
    let exitCommand : Command := ⟨"exit", .always, .exitInstruction⟩
    let commands := [exitCommand, ⟨"after", .always, .scriptInstruction⟩]
    let run := runCommands (performStep world) commands false ⟨newExecutor 1 "" "" "" "" "", [], 0⟩
    (∀ n, world.newLogUploader n = .ok () ∧ ∃ path, world.cirrusEnvNew n = .ok path) ∧
      LoopEvent.performStep exitCommand ∈ run.events ∧
      run.exit = .returned ∧ run.events.getLast? = some (.performStep exitCommand) := by
  intro world exitCommand commands run
  have hsetup : ∀ n, world.newLogUploader n = .ok () ∧ ∃ path, world.cirrusEnvNew n = .ok path :=
    fun _ => ⟨rfl, _, rfl⟩
  have hran : LoopEvent.performStep exitCommand ∈ run.events := by decide
  exact ⟨hsetup, hran, runCommands_exit_last world hsetup exitCommand rfl commands false _ hran⟩

/-- The loop returns only from an exit instruction, which is then its last call. -/
theorem runCommands_returned (commands : List Command) (failed : Bool) (agent : Agent)
    (hreturned : (runCommands (performStep world) commands failed agent).exit = .returned) :
    ∃ command ∈ commands, command.instruction = .exitInstruction ∧
      (runCommands (performStep world) commands failed agent).events.getLast? =
        some (.performStep command) := by
  induction commands generalizing failed agent with
  | nil => cases hreturned
  | cons current rest ih =>
    rw [runCommands] at hreturned ⊢
    split <;> rename_i hskip
    · rw [if_pos hskip] at hreturned
      obtain ⟨command, hmem, hexit, hlast⟩ := ih failed agent hreturned
      exact ⟨command, .tail _ hmem, hexit, by simp [List.getLast?_cons, hlast]⟩
    · rw [if_neg hskip] at hreturned
      rcases hrun : performStep world current agent with ⟨outcome, agent'⟩
      rw [hrun] at hreturned
      cases outcome with
      | error =>
        exact ⟨current, .head _, (performStep_error world (congrArg Prod.fst hrun)).1, rfl⟩
      | panic => cases hreturned
      | result =>
        obtain ⟨command, hmem, hexit, hlast⟩ := ih _ agent' hreturned
        refine ⟨command, .tail _ hmem, hexit, ?_⟩
        simp only [List.getLast?_append, List.getLast?_cons, hlast, Option.getD_some,
          Option.or_some]

/-- The same loop returns, and the exit instruction is its last call. -/
theorem runCommands_returned_at_exit :
    let world : StepWorld := ⟨fun _ => .ok (), fun _ => .ok "/tmp/cirrus-env-task-1",
      fun _ => (∅, none), fun _ => ⟨none, true, false⟩, fun _ => .ok (), fun _ => true,
      fun _ text => text, fun _ _ => .ok (), fun _ => ([], true), fun _ => 0, default⟩
    let commands : List Command := [⟨"exit", .always, .exitInstruction⟩,
      ⟨"after", .always, .scriptInstruction⟩]
    let run := runCommands (performStep world) commands false ⟨newExecutor 1 "" "" "" "" "", [], 0⟩
    run.exit = .returned ∧ ∃ command ∈ commands, command.instruction = .exitInstruction ∧
      run.events.getLast? = some (.performStep command) := by
  intro world commands run
  have hreturned : run.exit = .returned := by decide
  exact ⟨hreturned, runCommands_returned world commands false _ hreturned⟩

/-- The first step's uploader cannot be created: the exit instruction reports a failed step,
and the loop runs the command after it. -/
theorem exit_lost_on_log_upload_failure :
    let world : StepWorld := ⟨fun n => if n = 0 then .error "unavailable" else .ok (),
      fun _ => .ok "/tmp/cirrus-env-task-1", fun _ => (∅, none), fun _ => ⟨none, true, false⟩,
      fun _ => .ok (), fun _ => true, fun _ text => text, fun _ _ => .ok (), fun _ => ([], true),
      fun _ => 0, default⟩
    let exitCommand : Command := ⟨"exit", .always, .exitInstruction⟩
    let after : Command := ⟨"after", .always, .scriptInstruction⟩
    let run := perStepLoop (performStep world) [exitCommand, after] "" "" false
      ⟨newExecutor 1 "" "" "" "" "", [], 0⟩
    LoopEvent.queue (finishedResult exitCommand ⟨false, false, 0⟩) ∈ run.events ∧
      LoopEvent.performStep after ∈ run.events := by
  decide

end CirrusAgent
