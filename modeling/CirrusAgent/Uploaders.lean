import CirrusAgent.RunBuild

/-! # Log uploaders over a whole build

A step that opens a log uploader hands it on exactly once: to its deferred `Finalize`, to
the explicit `Finalize` after a failed background launch, or to the registry of background
commands, whose cleanup loop finalises it once the per-step loop has run to its end.

The ledger counts, per uploader, how often it was created and how often it was settled
(finalised, or handed to the registry). A step settles what it creates, with one exception:
a background step whose `CIRRUS_ENV` file cannot be created leaves its uploader open. In a
build where every `CIRRUS_ENV` file can be created and the loop runs to its end, every
uploader is therefore finalised exactly once and every background process is killed.
-/

namespace CirrusAgent

namespace Agent

/-- How often uploader `m` has been created. -/
def created (agent : Agent) (m : Nat) : Nat :=
  agent.effects.count (.logUploaderCreated m)

/-- How often uploader `m` has been finalised or handed to the registry of background
commands. -/
def settled (agent : Agent) (m : Nat) : Nat :=
  agent.effects.count (.logUploaderFinalized m) +
    (agent.executor.backgroundCommands.map CommandAndLogs.logs).count m

variable (agent : Agent) (m : Nat)

@[simp] theorem emit_created (effect : Effect) :
    (agent.emit effect).created m =
      agent.created m + if effect = .logUploaderCreated m then 1 else 0 := by
  simp [created, List.count_singleton]

@[simp] theorem emit_settled (effect : Effect) :
    (agent.emit effect).settled m =
      agent.settled m + if effect = .logUploaderFinalized m then 1 else 0 := by
  simp only [settled, emit_effects, emit_executor, List.count_append, List.count_singleton,
    beq_iff_eq]
  omega

@[simp] theorem write_created (uploader : Nat) (text : String) :
    (agent.write uploader text).created m = agent.created m := by
  simp [write]

@[simp] theorem write_settled (uploader : Nat) (text : String) :
    (agent.write uploader text).settled m = agent.settled m := by
  simp [write]

@[simp] theorem writeAll_created (uploader : Nat) (texts : List String) :
    (agent.writeAll uploader texts).created m = agent.created m := by
  simp [created, List.count_eq_zero_of_not_mem]

@[simp] theorem writeAll_settled (uploader : Nat) (texts : List String) :
    (agent.writeAll uploader texts).settled m = agent.settled m := by
  simp [settled, List.count_eq_zero_of_not_mem]

@[simp] theorem setEnv_created (env : Environment) : (agent.setEnv env).created m = agent.created m :=
  rfl

@[simp] theorem setEnv_settled (env : Environment) : (agent.setEnv env).settled m = agent.settled m :=
  rfl

/-- The step counter does not enter the ledger. -/
@[simp] theorem created_withSteps (steps : Nat) : { agent with steps := steps }.created m = agent.created m :=
  rfl

@[simp] theorem settled_withSteps (steps : Nat) : { agent with steps := steps }.settled m = agent.settled m :=
  rfl

@[simp] theorem addBackgroundCommand_steps (command : CommandAndLogs) :
    (agent.addBackgroundCommand command).steps = agent.steps :=
  rfl

@[simp] theorem addBackgroundCommand_created (command : CommandAndLogs) :
    (agent.addBackgroundCommand command).created m = agent.created m :=
  rfl

@[simp] theorem addBackgroundCommand_settled (command : CommandAndLogs) :
    (agent.addBackgroundCommand command).settled m =
      agent.settled m + if command.logs = m then 1 else 0 := by
  simp only [settled, addBackgroundCommand, List.map_append, List.count_append, List.map_cons,
    List.map_nil, List.count_singleton, beq_iff_eq]
  omega

end Agent

/-! ## What each part of a step does to the ledger -/

section Step

variable (world : StepWorld) (n m : Nat) (agent : Agent)

theorem createFile_ledger (instruction : FileInstruction) :
    let after := (createFile world n instruction agent).2
    after.steps = agent.steps ∧ after.created m = agent.created m ∧
      after.settled m = agent.settled m := by
  unfold createFile
  split
  · split
    · simp
    · split
      · simp
      · dsimp only
        split <;> simp
  · simp

/-- The instruction switch settles the uploader of a background script (by the registry or
by the explicit `Finalize`) and leaves every other uploader alone. -/
theorem dispatch_ledger (currentStep : Command) :
    let after := (dispatch world n currentStep agent).2
    after.steps = agent.steps ∧ after.created m = agent.created m ∧
      after.settled m = agent.settled m +
        if m = n ∧ currentStep.instruction.isBackgroundScript = true then 1 else 0 := by
  unfold dispatch
  cases hinstruction : currentStep.instruction
  case fileInstruction instruction =>
    simpa [Instruction.isBackgroundScript] using createFile_ledger world n m agent instruction
  case backgroundScriptInstruction =>
    dsimp only
    split
    · simp [Instruction.isBackgroundScript, @eq_comm _ n m]
    · simp [Instruction.isBackgroundScript, @eq_comm _ n m]
  case cloneInstruction => simp [Instruction.isBackgroundScript]
  case waitForTerminalInstruction =>
    dsimp only
    split <;> simp [Instruction.isBackgroundScript]
  all_goals simp [Instruction.isBackgroundScript]

theorem performStepEpilogue_ledger :
    let after := performStepEpilogue world n agent
    after.steps = agent.steps ∧ after.created m = agent.created m ∧
      after.settled m = agent.settled m := by
  unfold performStepEpilogue
  split
  next _ err _ => cases err <;> simp

theorem deferredFinalize_ledger (currentStep : Command) :
    let after := deferredFinalize currentStep n agent
    after.steps = agent.steps ∧ after.created m = agent.created m ∧
      after.settled m = agent.settled m +
        if m = n ∧ currentStep.instruction.isBackgroundScript = false then 1 else 0 := by
  unfold deferredFinalize
  split <;> simp [*, @eq_comm _ n m]

/-- Once the uploader `n` exists, the rest of the step settles it exactly once: the switch
settles the uploader of a background script, the deferred call that of any other. -/
theorem runInstruction_ledger (currentStep : Command) :
    let after := (runInstruction world n currentStep agent).2
    after.steps = agent.steps ∧ after.created m = agent.created m ∧
      after.settled m = agent.settled m + if m = n then 1 else 0 := by
  have hfinalize : ∀ switched : Agent, switched.steps = agent.steps →
      switched.created m = agent.created m →
      switched.settled m = agent.settled m +
        (if m = n ∧ currentStep.instruction.isBackgroundScript = true then 1 else 0) →
      let after := deferredFinalize currentStep n switched
      after.steps = agent.steps ∧ after.created m = agent.created m ∧
        after.settled m = agent.settled m + if m = n then 1 else 0 := by
    intro switched hsteps hcreated hsettled
    obtain ⟨hsteps', hcreated', hsettled'⟩ := deferredFinalize_ledger n m switched currentStep
    refine ⟨hsteps'.trans hsteps, hcreated'.trans hcreated, ?_⟩
    rw [hsettled', hsettled, Nat.add_assoc]
    by_cases hm : m = n <;> cases currentStep.instruction.isBackgroundScript <;> simp [hm]
  obtain ⟨hsteps, hcreated, hsettled⟩ := dispatch_ledger world n m agent currentStep
  unfold runInstruction
  split <;> rename_i heq <;> rw [heq] at hsteps hcreated hsettled
  · exact hfinalize _ hsteps hcreated hsettled
  · exact hfinalize _ hsteps hcreated hsettled
  · obtain ⟨hsteps', hcreated', hsettled'⟩ := performStepEpilogue_ledger world n m _
    exact hfinalize _ (hsteps'.trans hsteps) (hcreated'.trans hcreated) (hsettled'.trans hsettled)

/-- What a step does to the ledger: it creates the uploader named by its number when
`NewLogUploader` succeeds, and settles it then, unless it is a background script whose
`CIRRUS_ENV` file cannot be created; every other uploader is left alone. -/
theorem performStep_ledger (currentStep : Command) :
    let n := agent.steps
    let after := (performStep world currentStep agent).2
    let opened := (world.newLogUploader n).isOk
    after.steps = n + 1 ∧
      after.created m = agent.created m + (if m = n ∧ opened = true then 1 else 0) ∧
      after.settled m = agent.settled m + (if m = n ∧ opened = true ∧
        ((world.cirrusEnvNew n).isOk = true ∨
          currentStep.instruction.isBackgroundScript = false) then 1 else 0) := by
  unfold performStep
  dsimp only
  split <;> rename_i hopened
  · simp [hopened, Except.isOk, Except.toBool]
  · split <;> rename_i hcirrusEnv
    · obtain ⟨hsteps, hcreated, hsettled⟩ := deferredFinalize_ledger agent.steps m _ currentStep
      rw [hsteps, hcreated, hsettled]
      simp [hopened, hcirrusEnv, Except.isOk, Except.toBool, @eq_comm _ agent.steps m]
    · obtain ⟨hsteps, hcreated, hsettled⟩ := runInstruction_ledger world agent.steps m _ currentStep
      rw [hsteps, hcreated, hsettled]
      simp [hopened, hcirrusEnv, Except.isOk, Except.toBool, @eq_comm _ agent.steps m]

end Step

/-! ## The ledger over a build -/

/-- The uploaders of a state are accounted for: each was created at most once and settled
as often as it was created, and none of a step still to come was created. -/
def UploadersAccounted (agent : Agent) : Prop :=
  ∀ m, agent.settled m = agent.created m ∧ agent.created m ≤ 1 ∧
    (agent.steps ≤ m → agent.created m = 0)

/-- An agent fresh from `NewExecutor` has created no uploader. -/
theorem newExecutor_accounted (taskId : Int)
    (clientToken serverToken commandFrom commandTo preCreatedWorkingDir : String) :
    UploadersAccounted ⟨newExecutor taskId clientToken serverToken commandFrom commandTo
      preCreatedWorkingDir, [], 0⟩ :=
  fun m => by simp [newExecutor, Agent.created, Agent.settled]

/-- What leaves the step counter and the ledger alone keeps the uploaders accounted for. -/
theorem UploadersAccounted.of_ledger {agent agent' : Agent} (h : UploadersAccounted agent)
    (hsteps : agent'.steps = agent.steps)
    (hledger : ∀ m, agent'.created m = agent.created m ∧ agent'.settled m = agent.settled m) :
    UploadersAccounted agent' := by
  intro m
  rw [hsteps, (hledger m).1, (hledger m).2]
  exact h m

theorem UploadersAccounted.setEnv {agent : Agent} (h : UploadersAccounted agent)
    (env : Environment) : UploadersAccounted (agent.setEnv env) :=
  h.of_ledger rfl fun _ => ⟨rfl, rfl⟩

/-- A step keeps the uploaders accounted for when its `CIRRUS_ENV` file can be created. -/
theorem performStep_accounted (world : StepWorld) (currentStep : Command) {agent : Agent}
    (h : UploadersAccounted agent) (hcirrusEnv : (world.cirrusEnvNew agent.steps).isOk = true) :
    UploadersAccounted (performStep world currentStep agent).2 := by
  intro m
  obtain ⟨hsteps, hcreated, hsettled⟩ := performStep_ledger world m agent currentStep
  obtain ⟨hbalance, hatMost, hfresh⟩ := h m
  rw [hsteps, hcreated, hsettled]
  by_cases hm : m = agent.steps
  · have hnone := hfresh hm.ge
    simp only [hm, hcirrusEnv, true_or, and_true, true_and] at hnone hbalance ⊢
    rw [hnone] at hbalance ⊢
    refine ⟨by rw [hbalance], by split <;> simp, by omega⟩
  · simp only [hm, false_and, if_false, Nat.add_zero]
    exact ⟨hbalance, hatMost, fun hle => hfresh (by omega)⟩

/-- The per-step loop keeps the uploaders accounted for, whatever its commands, when every
`CIRRUS_ENV` file can be created. -/
theorem runCommands_accounted (world : StepWorld)
    (hcirrusEnv : ∀ n, (world.cirrusEnvNew n).isOk = true) (commands : List Command)
    (failed : Bool) {agent : Agent} (h : UploadersAccounted agent) :
    UploadersAccounted (runCommands (performStep world) commands failed agent).executor := by
  induction commands generalizing failed agent with
  | nil => exact h
  | cons command rest ih =>
    have hstep := performStep_accounted world command h (hcirrusEnv _)
    rw [runCommands]
    split
    · exact ih failed h
    · rcases hrun : performStep world command agent with ⟨outcome, agent'⟩
      rw [hrun] at hstep
      cases outcome with
      | result => exact ih _ hstep
      | error => exact hstep
      | panic => exact hstep

theorem perStepLoop_accounted (world : StepWorld)
    (hcirrusEnv : ∀ n, (world.cirrusEnvNew n).isOk = true) (commands : List Command)
    (commandFrom commandTo : String) (failed : Bool) {agent : Agent} (h : UploadersAccounted agent) :
    UploadersAccounted
      (perStepLoop (performStep world) commands commandFrom commandTo failed agent).executor := by
  unfold perStepLoop
  split
  · exact h
  · exact runCommands_accounted world hcirrusEnv _ failed h

/-! ## The cleanup loop -/

/-- The cleanup loop finalises every uploader of the entries it walks, once per entry, and
creates none. -/
theorem drainBackgroundCommands_ledger (kill : Nat → Option String)
    (entries : List CommandAndLogs) (agent : Agent) (m : Nat) :
    let after := drainBackgroundCommands kill entries agent
    after.executor = agent.executor ∧ after.created m = agent.created m ∧
      after.effects.count (.logUploaderFinalized m) =
        agent.effects.count (.logUploaderFinalized m) +
          (entries.map CommandAndLogs.logs).count m := by
  induction entries generalizing agent with
  | nil => simp [drainBackgroundCommands]
  | cons entry rest ih =>
    rw [drainBackgroundCommands]
    dsimp only
    obtain ⟨hexecutor, hcreated, hfinalized⟩ := ih _
    rw [hexecutor, hcreated, hfinalized]
    split <;> simp [Agent.created, List.count_cons, @eq_comm _ entry.logs m] <;> omega

/-- The cleanup loop keeps every earlier effect and requests `Kill` for every entry. -/
theorem drainBackgroundCommands_kills (kill : Nat → Option String)
    (entries : List CommandAndLogs) (agent : Agent) :
    ∀ effect ∈ agent.effects ++ entries.map (fun entry => .processKill entry.cmd),
      effect ∈ (drainBackgroundCommands kill entries agent).effects := by
  induction entries generalizing agent with
  | nil => simp [drainBackgroundCommands]
  | cons entry rest ih =>
    intro effect hmem
    rw [drainBackgroundCommands]
    apply ih
    simp only [List.map_cons, List.mem_append, List.mem_cons] at hmem
    rcases hmem with hmem | rfl | hmem <;> split <;> simp [*]

/-- The cleanup loop leaves the executor, and so the registry, as it found it; a second
pass over the same entries finalises each of their uploaders once more. The loop is not
idempotent. -/
theorem drainBackgroundCommands_twice (kill : Nat → Option String)
    (entries : List CommandAndLogs) (agent : Agent) (m : Nat) :
    (drainBackgroundCommands kill entries agent).executor = agent.executor ∧
      (drainBackgroundCommands kill entries
          (drainBackgroundCommands kill entries agent)).effects.count (.logUploaderFinalized m) =
        agent.effects.count (.logUploaderFinalized m) +
          2 * (entries.map CommandAndLogs.logs).count m := by
  obtain ⟨honce, -, hfinalized⟩ := drainBackgroundCommands_ledger kill entries agent m
  obtain ⟨-, -, hfinalized'⟩ := drainBackgroundCommands_ledger kill entries
    (drainBackgroundCommands kill entries agent) m
  refine ⟨honce, ?_⟩
  rw [hfinalized', hfinalized]
  omega

/-- The reports after the cleanup loop neither create nor finalise an uploader. -/
theorem teardownCalls_quiet (world : RunWorld) (commandResults : List CommandResult) (m : Nat) :
    (teardownCalls world commandResults).count (.logUploaderCreated m) = 0 ∧
      (teardownCalls world commandResults).count (.logUploaderFinalized m) = 0 := by
  constructor <;> refine List.count_eq_zero_of_not_mem fun h => ?_ <;>
    rcases mem_teardownCalls world h with ⟨_, h⟩ | h <;> cases h

/-- The teardown of a loop that ran to its end, from a state whose uploaders are accounted
for: every uploader created is finalised exactly once and every registered process has
had `Kill` requested. -/
theorem teardown_uploaders (world : RunWorld) {agent : Agent}
    (h : UploadersAccounted agent) (commandResults : List CommandResult) :
    let after := (drainBackgroundCommands world.kill agent.executor.backgroundCommands
      agent).emitAll (teardownCalls world commandResults)
    (∀ m, after.effects.count (.logUploaderFinalized m) = after.created m ∧ after.created m ≤ 1) ∧
      ∀ entry ∈ after.executor.backgroundCommands, Effect.processKill entry.cmd ∈ after.effects := by
  obtain ⟨hexecutor, -, -⟩ := drainBackgroundCommands_ledger world.kill
    agent.executor.backgroundCommands agent 0
  refine ⟨fun m => ?_, fun entry hentry => ?_⟩
  · obtain ⟨-, hcreated, hfinalized⟩ :=
      drainBackgroundCommands_ledger world.kill agent.executor.backgroundCommands agent m
    obtain ⟨hbalance, hatMost, -⟩ := h m
    obtain ⟨hquietCreated, hquietFinalized⟩ := teardownCalls_quiet world commandResults m
    simp only [Agent.created] at hcreated hatMost
    simp only [Agent.settled, Agent.created] at hbalance
    simp only [Agent.emitAll_effects, List.count_append, hfinalized, Agent.created, hcreated,
      hquietCreated, hquietFinalized]
    omega
  · rw [Agent.emitAll_executor, hexecutor] at hentry
    rw [Agent.emitAll_effects]
    exact List.mem_append_left _ (drainBackgroundCommands_kills world.kill _ agent _
      (List.mem_append_right _ (List.mem_map_of_mem _ hentry)))

theorem terminalPrescan_accounted (commands : List Command) {agent : Agent}
    (h : UploadersAccounted agent) : UploadersAccounted (terminalPrescan commands agent) := by
  unfold terminalPrescan
  split
  · exact h
  · exact h.of_ledger rfl fun _ => ⟨rfl, rfl⟩

/-- A build whose loop runs to its end, where every `CIRRUS_ENV` file can be created,
finalises every uploader it created exactly once and requests `Kill` for every background
process. -/
theorem executeCommands_uploaders (world : RunWorld)
    (hcirrusEnv : ∀ n, (world.step.cirrusEnvNew n).isOk = true) (commands : List Command)
    (failed : Bool) {agent : Agent} (h : UploadersAccounted agent)
    (hfinished : (executeCommands world commands failed agent).exit = .finished) :
    let after := (executeCommands world commands failed agent).agent
    (∀ m, after.effects.count (.logUploaderFinalized m) = after.created m ∧ after.created m ≤ 1) ∧
      ∀ entry ∈ after.executor.backgroundCommands, Effect.processKill entry.cmd ∈ after.effects := by
  have hloop := perStepLoop_accounted world.step hcirrusEnv commands
    (terminalPrescan commands agent).executor.commandFrom
    (terminalPrescan commands agent).executor.commandTo failed (terminalPrescan_accounted commands h)
  unfold executeCommands at hfinished ⊢
  dsimp only at hfinished ⊢
  split at hfinished <;> rename_i hexit
  · cases hfinished
  · cases hfinished
  · exact teardown_uploaders world hloop _

/-! ## Before the loop

The merge, the unbox loop, the cache host and the secrets to mask touch no uploader.
-/

theorem acquireUnboxer_accounted (vault : VaultApi) (unboxer : Option VaultUnboxer)
    {agent : Agent} (h : UploadersAccounted agent) :
    UploadersAccounted (acquireUnboxer vault unboxer agent).2 := by
  unfold acquireUnboxer
  split
  · exact h
  · exact h.of_ledger rfl fun _ => by simp

theorem unboxLoop_accounted (vault : VaultApi)
    (newBoxedValue : String → Except BoxedValueError BoxedValue)
    (unbox : VaultUnboxer → BoxedValue → Except Panic (Except String String))
    (entries : List (Σ _ : String, String)) (unboxer : Option VaultUnboxer) {agent agent' : Agent}
    {exit : UnboxExit}
    (hrun : unboxLoop vault newBoxedValue unbox entries unboxer agent = .ok (exit, agent'))
    (h : UploadersAccounted agent) : UploadersAccounted agent' := by
  have hreport : ∀ {agent : Agent} (message : String), UploadersAccounted agent →
      UploadersAccounted (agent.reportError message) := fun _ hagent =>
    hagent.of_ledger rfl fun _ => by simp [Agent.reportError]
  induction entries generalizing unboxer agent with
  | nil =>
    cases hrun
    exact h
  | cons entry rest ih =>
    unfold unboxLoop at hrun
    split at hrun
    · exact ih _ hrun h
    · cases hrun
      exact hreport _ h
    · have hacquired := acquireUnboxer_accounted vault unboxer h
      split at hrun <;> rename_i hacquire <;> rw [hacquire] at hacquired
      · cases hrun
        exact hreport _ hacquired
      · split at hrun
        · cases hrun
        · cases hrun
          exact hreport _ hacquired
        · exact ih _ hrun (hacquired.setEnv _)

section Build

variable (world : RunWorld)

theorem settleHttpCacheHost_accounted {agent : Agent} (h : UploadersAccounted agent) :
    UploadersAccounted (settleHttpCacheHost world agent) := by
  unfold settleHttpCacheHost
  dsimp only
  split <;> split <;> exact h.of_ledger rfl fun _ => ⟨rfl, rfl⟩

/-- A build that runs past its final report went through `executeCommands` from a state
the phases before the loop reached without touching an uploader. -/
theorem runBuild_finished {response : CommandsResponse} {agent : Agent}
    (h : UploadersAccounted agent) (hfinished : (runBuild world response agent).exit = .finished) :
    ∃ agent', UploadersAccounted agent' ∧
      runBuild world response agent =
        executeCommands world response.commands response.failedAtLeastOnce agent' := by
  unfold runBuild at hfinished ⊢
  split at hfinished <;> rename_i htoken
  · cases hfinished
  · rw [if_neg htoken]
    dsimp only at hfinished ⊢
    split at hfinished <;> rename_i hunbox
    · cases hfinished
    · cases hfinished
    · split at hfinished <;> rename_i hempty
      · cases hfinished
      · rw [if_neg hempty]
        exact ⟨_, (settleHttpCacheHost_accounted world
          (unboxLoop_accounted _ _ _ _ _ hunbox (h.setEnv _))).setEnv _, rfl⟩

/-- In a build that runs its loop to the end, where every `CIRRUS_ENV` file can be
created, every log uploader is finalised exactly as often as it was created, which is at
most once, and every background process has had `Kill` requested. -/
theorem runBuild_uploaders_finalized
    (hcirrusEnv : ∀ n, (world.step.cirrusEnvNew n).isOk = true) (response : CommandsResponse)
    {agent : Agent} (h : UploadersAccounted agent)
    (hfinished : (runBuild world response agent).exit = .finished) :
    let after := (runBuild world response agent).agent
    (∀ m, after.effects.count (.logUploaderFinalized m) = after.created m ∧ after.created m ≤ 1) ∧
      ∀ entry ∈ after.executor.backgroundCommands, Effect.processKill entry.cmd ∈ after.effects := by
  obtain ⟨agent', h', heq⟩ := runBuild_finished world h hfinished
  rw [heq] at hfinished ⊢
  exact executeCommands_uploaders world hcirrusEnv _ _ h' hfinished

/-- A background command and a script: a build that runs to its end, from a fresh
executor. -/
theorem runBuild_uploaders_finalized_background_and_script :
    let world : RunWorld := ⟨⟨fun _ => .ok (), fun _ => .ok "/tmp/cirrus-env-task-1",
      fun _ => (∅, none), fun _ => ⟨none, true, false⟩, fun _ => .ok (), fun _ => true,
      fun _ text => text, fun _ _ => .ok (), fun _ => ([], true), fun _ => 0, default⟩,
      fun _ => none,
      ⟨fun _ => none, "linux", "amd64", "/tmp", fun dir elem => dir ++ "/" ++ elem, id,
        fun dir pattern => dir ++ "/" ++ pattern⟩,
      ⟨fun _ => true⟩, ⟨.ok (), fun _ => .ok (), fun _ _ => .ok (), fun _ _ => .ok none,
        fun _ _ => .ok ""⟩,
      fun _ => .error .notABoxedValue, fun env => ⟨env.items, .refl _⟩, "127.0.0.1:12321",
      some [], fun _ => none, fun _ => false⟩
    let response : CommandsResponse := ⟨"token", none,
      [⟨"server", .always, .backgroundScriptInstruction⟩, ⟨"main", .always, .scriptInstruction⟩],
      [], false⟩
    let agent : Agent := ⟨newExecutor 1 "" "token" "" "" "", [], 0⟩
    (∀ n, (world.step.cirrusEnvNew n).isOk = true) ∧ UploadersAccounted agent ∧
      (runBuild world response agent).exit = .finished ∧
      let after := (runBuild world response agent).agent
      (∀ m, after.effects.count (.logUploaderFinalized m) = after.created m ∧
        after.created m ≤ 1) ∧
      ∀ entry ∈ after.executor.backgroundCommands,
        Effect.processKill entry.cmd ∈ after.effects := by
  intro world response agent
  have hcirrusEnv : ∀ n, (world.step.cirrusEnvNew n).isOk = true := fun _ => rfl
  have h : UploadersAccounted agent := newExecutor_accounted 1 "" "token" "" "" ""
  have hfinished : (runBuild world response agent).exit = .finished := by decide
  exact ⟨hcirrusEnv, h, hfinished,
    runBuild_uploaders_finalized world hcirrusEnv response h hfinished⟩

end Build

end CirrusAgent
