import CirrusAgent.Uploaders

/-! # The log-uploader protocol

A log uploader is created by `NewLogUploader`, written to, and finalised once, at the end
of its step or, for a background script, at the cleanup after the loop. The protocol below
states this lifecycle one effect at a time, as an automaton over the effects the model
records: it accepts a trace in which every uploader is created once, and is written to and
finalised only while it is open.

A build keeps the protocol with one exception. When a background script cannot be
launched, the switch of `performStep` finalises the step's uploader at once; if the step's
`CIRRUS_ENV` file then cannot be read back, the epilogue writes its error message to that
finalised uploader. Where no step meets both failures, every build, whatever its exit,
leaves a trace the protocol accepts.
-/

namespace CirrusAgent

/-- The uploaders open, and those finalised, so far. -/
structure UploaderState where
  opened : List Nat
  finalized : List Nat
  deriving DecidableEq, Repr

/-- One effect of the uploader protocol: `NewLogUploader` opens an uploader never opened
before, a write and `Finalize` need their uploader open, and `Finalize` closes it for
good; `none` is a breach. Every other effect leaves the uploaders alone. -/
def uploaderStep (s : UploaderState) : Effect → Option UploaderState
  | .logUploaderCreated m =>
    if m ∈ s.opened ∨ m ∈ s.finalized then none else some ⟨m :: s.opened, s.finalized⟩
  | .logUploaderWrite m _ => if m ∈ s.opened then some s else none
  | .logUploaderFinalized m =>
    if m ∈ s.opened then some ⟨s.opened.erase m, m :: s.finalized⟩ else none
  | _ => some s

/-- The protocol over a trace, from no uploader at all. -/
def uploaderTrace (effects : List Effect) : Option UploaderState :=
  effects.foldlM uploaderStep ⟨[], []⟩

theorem uploaderTrace_append (effects : List Effect) (effect : Effect) :
    uploaderTrace (effects ++ [effect]) =
      (uploaderTrace effects).bind (uploaderStep · effect) := by
  simp [uploaderTrace, List.foldlM_append]

theorem uploaderTrace_emit {effects : List Effect} {s s' : UploaderState} {effect : Effect}
    (htrace : uploaderTrace effects = some s) (hstep : uploaderStep s effect = some s') :
    uploaderTrace (effects ++ [effect]) = some s' := by
  rw [uploaderTrace_append, htrace]
  exact hstep

/-- Effects the protocol lets through unchanged keep an accepted trace accepted. -/
theorem uploaderTrace_append_of_quiet {effects : List Effect} {s : UploaderState}
    (htrace : uploaderTrace effects = some s) {calls : List Effect}
    (hquiet : ∀ call ∈ calls, uploaderStep s call = some s) :
    uploaderTrace (effects ++ calls) = some s := by
  induction calls generalizing effects with
  | nil => rwa [List.append_nil]
  | cons call rest ih =>
    rw [← List.singleton_append, ← List.append_assoc]
    exact ih (uploaderTrace_emit htrace (hquiet call (.head _)))
      fun call hcall => hquiet call (.tail _ hcall)

/-- The protocol rejects a write to an uploader after its creation and its
`Finalize`, whatever came before. -/
theorem uploaderTrace_write_after_finalize (effects : List Effect) (n : Nat)
    (text text' : String) :
    uploaderTrace (effects ++ [.logUploaderCreated n, .logUploaderWrite n text,
      .logUploaderFinalized n, .logUploaderWrite n text']) = none := by
  rw [uploaderTrace, List.foldlM_append]
  cases effects.foldlM uploaderStep ⟨[], []⟩ with
  | none => rfl
  | some s =>
    by_cases hnew : n ∈ s.opened ∨ n ∈ s.finalized
    · simp [uploaderStep, hnew]
    · simp only [not_or] at hnew
      simp [uploaderStep, hnew]

/-- A state keeps the protocol: its effects are a trace the protocol accepts, ending in
`s`; the uploaders of the registry are distinct and open; and every uploader created so far
is numbered below the step counter, so that the next step's uploader is a new one. -/
structure FollowsProtocol (agent : Agent) (s : UploaderState) : Prop where
  trace : uploaderTrace agent.effects = some s
  registry_nodup : (agent.executor.backgroundCommands.map CommandAndLogs.logs).Nodup
  registry_open : ∀ entry ∈ agent.executor.backgroundCommands, entry.logs ∈ s.opened
  below : ∀ m, m ∈ s.opened ∨ m ∈ s.finalized → m < agent.steps

/-- An agent fresh from `NewExecutor` keeps the protocol. -/
theorem newExecutor_followsProtocol (taskId : Int)
    (clientToken serverToken commandFrom commandTo preCreatedWorkingDir : String) :
    FollowsProtocol ⟨newExecutor taskId clientToken serverToken commandFrom commandTo
      preCreatedWorkingDir, [], 0⟩ ⟨[], []⟩ :=
  ⟨rfl, by simp [newExecutor], by simp [newExecutor], by simp⟩

namespace FollowsProtocol

variable {agent : Agent} {s : UploaderState}

/-- What changes neither the effects, the registry nor the step counter keeps the
protocol. -/
theorem of_executor (h : FollowsProtocol agent s) {agent' : Agent}
    (heffects : agent'.effects = agent.effects) (hsteps : agent'.steps = agent.steps)
    (hregistry : agent'.executor.backgroundCommands = agent.executor.backgroundCommands) :
    FollowsProtocol agent' s :=
  ⟨heffects ▸ h.trace, hregistry ▸ h.registry_nodup, hregistry ▸ h.registry_open,
    hsteps ▸ h.below⟩

theorem setEnv (h : FollowsProtocol agent s) (env : Environment) :
    FollowsProtocol (agent.setEnv env) s :=
  h.of_executor rfl rfl rfl

/-- An effect the protocol lets through unchanged keeps it. -/
theorem emit (h : FollowsProtocol agent s) {effect : Effect}
    (heffect : uploaderStep s effect = some s) : FollowsProtocol (agent.emit effect) s :=
  ⟨uploaderTrace_emit h.trace heffect, h.registry_nodup, h.registry_open, h.below⟩

/-- Moving the step counter on keeps the protocol. -/
theorem tick (h : FollowsProtocol agent s) :
    FollowsProtocol { agent with steps := agent.steps + 1 } s :=
  ⟨h.trace, h.registry_nodup, h.registry_open, fun m hm => Nat.lt_succ_of_lt (h.below m hm)⟩

theorem write (h : FollowsProtocol agent s) {n : Nat} (hn : n ∈ s.opened) (text : String) :
    FollowsProtocol (agent.write n text) s :=
  h.emit (by simp [uploaderStep, hn])

theorem writeAll (h : FollowsProtocol agent s) {n : Nat} (hn : n ∈ s.opened)
    (texts : List String) : FollowsProtocol (agent.writeAll n texts) s := by
  induction texts generalizing agent with
  | nil => exact h
  | cons text rest ih => exact ih (h.write hn text)

/-- A step opens the uploader named by the counter, and moves the counter past it. -/
theorem create (h : FollowsProtocol agent s) :
    FollowsProtocol ({ agent with steps := agent.steps + 1 }.emit
      (.logUploaderCreated agent.steps)) ⟨agent.steps :: s.opened, s.finalized⟩ := by
  have hnew : ¬(agent.steps ∈ s.opened ∨ agent.steps ∈ s.finalized) :=
    fun hmem => Nat.lt_irrefl _ (h.below _ hmem)
  refine ⟨uploaderTrace_emit h.trace (by simp only [uploaderStep, if_neg hnew]), h.registry_nodup,
    fun entry hentry => .tail _ (h.registry_open entry hentry), ?_⟩
  intro m hm
  simp only [List.mem_cons] at hm
  rw [Agent.emit_steps]
  rcases hm with (rfl | hm) | hm
  · exact Nat.lt_succ_self _
  · exact Nat.lt_succ_of_lt (h.below m (.inl hm))
  · exact Nat.lt_succ_of_lt (h.below m (.inr hm))

/-- `Finalize` of an open uploader that the registry does not hold. -/
theorem finalize (h : FollowsProtocol agent s) {n : Nat} (hn : n ∈ s.opened)
    (hregistry : n ∉ agent.executor.backgroundCommands.map CommandAndLogs.logs) :
    FollowsProtocol (agent.emit (.logUploaderFinalized n))
      ⟨s.opened.erase n, n :: s.finalized⟩ := by
  refine ⟨uploaderTrace_emit h.trace (by simp only [uploaderStep, if_pos hn]), h.registry_nodup,
    fun entry hentry => ?_, ?_⟩
  · have hne : entry.logs ≠ n := fun heq => hregistry (heq ▸ List.mem_map_of_mem _ hentry)
    exact (List.mem_erase_of_ne hne).2 (h.registry_open entry hentry)
  · intro m hm
    simp only [List.mem_cons] at hm
    rcases hm with hm | rfl | hm
    · exact h.below m (.inl (List.mem_of_mem_erase hm))
    · exact h.below m (.inl hn)
    · exact h.below m (.inr hm)

/-- A background command registered on an open uploader that the registry does not hold. -/
theorem addBackgroundCommand (h : FollowsProtocol agent s) {n : Nat} (hn : n ∈ s.opened)
    (hregistry : n ∉ agent.executor.backgroundCommands.map CommandAndLogs.logs)
    (name : String) (cmd : Nat) :
    FollowsProtocol (agent.addBackgroundCommand ⟨name, cmd, n⟩) s := by
  refine ⟨h.trace, ?_, fun entry hentry => ?_, h.below⟩
  · simpa [Agent.addBackgroundCommand] using h.registry_nodup.concat hregistry
  · simp only [Agent.addBackgroundCommand, List.mem_append, List.mem_singleton] at hentry
    rcases hentry with hentry | rfl
    · exact h.registry_open entry hentry
    · exact hn

end FollowsProtocol

/-! ## A step -/

section Step

variable (world : StepWorld)

variable {world}

/-- The deferred `Finalize` closes the step's open uploader, unless the step is a
background script. -/
theorem deferredFinalize_protocol {n : Nat} {agent : Agent} {s : UploaderState}
    (h : FollowsProtocol agent s) (hn : n ∈ s.opened)
    (hregistry : n ∉ agent.executor.backgroundCommands.map CommandAndLogs.logs)
    (currentStep : Command) :
    ∃ s', FollowsProtocol (deferredFinalize currentStep n agent) s' := by
  unfold deferredFinalize
  split
  · exact ⟨s, h⟩
  · exact ⟨_, h.finalize hn hregistry⟩

/-- Once the step's uploader is open and outside the registry, the rest of the step keeps
the protocol, unless the step is a background script that cannot be launched and whose
`CIRRUS_ENV` file cannot be read back. -/
theorem runInstruction_protocol {n : Nat} {agent : Agent} {s : UploaderState}
    (h : FollowsProtocol agent s) (hn : n ∈ s.opened)
    (hregistry : n ∉ agent.executor.backgroundCommands.map CommandAndLogs.logs)
    (hlaunch : (world.startBackground n).isOk = true ∨ (world.consume n).2 = none)
    (currentStep : Command) :
    ∃ s', FollowsProtocol (runInstruction world n currentStep agent).2 s' := by
  have hepilogue : ∀ {agent : Agent}, FollowsProtocol agent s →
      FollowsProtocol (performStepEpilogue world n agent) s := fun h' => by
    obtain ⟨texts, env, heq, -⟩ := performStepEpilogue_writes world n _
    rw [heq]
    exact (h'.writeAll hn texts).setEnv env
  cases hbackground : currentStep.instruction.isBackgroundScript
  case false =>
    obtain ⟨texts, hdispatch⟩ := dispatch_writes world agent hbackground
    have hwritten := h.writeAll hn texts
    unfold runInstruction
    have hregistry' : n ∉ (agent.writeAll n texts).executor.backgroundCommands.map
        CommandAndLogs.logs := by simpa using hregistry
    split <;> rename_i agent' hd <;>
      rw [show agent' = agent.writeAll n texts from (congrArg Prod.snd hd).symm.trans hdispatch]
    · exact deferredFinalize_protocol hwritten hn hregistry' currentStep
    · exact deferredFinalize_protocol hwritten hn hregistry' currentStep
    · obtain ⟨texts', env, heq, -⟩ :=
        performStepEpilogue_writes world n (agent.writeAll n texts)
      rw [heq]
      exact deferredFinalize_protocol ((hwritten.writeAll hn texts').setEnv env) hn
        (by simpa using hregistry') currentStep
  case true =>
    have hinstruction : currentStep.instruction = .backgroundScriptInstruction := by
      revert hbackground
      cases currentStep.instruction <;> simp [Instruction.isBackgroundScript]
    have hkept : ∀ agent : Agent, deferredFinalize currentStep n agent = agent :=
      fun _ => if_pos hbackground
    unfold runInstruction dispatch
    rw [hinstruction]
    dsimp only
    cases hstart : world.startBackground n <;> dsimp only
    case ok =>
      exact ⟨s, by rw [hkept]; exact hepilogue (h.addBackgroundCommand hn hregistry _ _)⟩
    case error err =>
      have hconsume : (world.consume n).2 = none :=
        hlaunch.resolve_left (by simp [hstart, Except.isOk, Except.toBool])
      obtain ⟨texts, env, heq, hnone⟩ := performStepEpilogue_writes world n
        ((agent.write n s!"Failed to create command line: {err}").emit (.logUploaderFinalized n))
      rw [hkept, heq, hnone hconsume]
      exact ⟨_, ((h.write hn _).finalize hn hregistry).setEnv env⟩

/-- A step keeps the protocol, unless it is a background script that cannot be launched
and whose `CIRRUS_ENV` file cannot be read back. -/
theorem performStep_protocol {agent : Agent} {s : UploaderState} (h : FollowsProtocol agent s)
    (hlaunch : (world.startBackground agent.steps).isOk = true ∨
      (world.consume agent.steps).2 = none)
    (currentStep : Command) :
    ∃ s', FollowsProtocol (performStep world currentStep agent).2 s' := by
  have hregistry : agent.steps ∉ agent.executor.backgroundCommands.map CommandAndLogs.logs :=
    fun hmem => by
      obtain ⟨entry, hentry, heq⟩ := List.mem_map.1 hmem
      exact Nat.lt_irrefl _ (heq ▸ h.below _ (.inl (h.registry_open entry hentry)))
  have hcreated := h.create
  have hn : agent.steps ∈ (⟨agent.steps :: s.opened, s.finalized⟩ : UploaderState).opened :=
    List.mem_cons_self _ _
  unfold performStep
  dsimp only
  split
  · exact ⟨s, h.tick.emit rfl⟩
  · split
    · exact deferredFinalize_protocol (hcreated.write hn _) hn hregistry currentStep
    · exact runInstruction_protocol (hcreated.setEnv _) hn (by simpa using hregistry) hlaunch
        currentStep

/-- The switch and the epilogue of a background script that cannot be launched, in a step
whose `CIRRUS_ENV` file cannot be read back. -/
theorem performStep_launch_failure_effects {currentStep : Command} {agent : Agent}
    {path launchError consumeError : String} {cirrusEnvVariables : StringMap}
    (hbackground : currentStep.instruction = .backgroundScriptInstruction)
    (hopened : world.newLogUploader agent.steps = .ok ())
    (hcirrusEnv : world.cirrusEnvNew agent.steps = .ok path)
    (hlaunch : world.startBackground agent.steps = .error launchError)
    (hconsume : world.consume agent.steps = (cirrusEnvVariables, some consumeError)) :
    (performStep world currentStep agent).2.effects = agent.effects ++
      [.logUploaderCreated agent.steps,
        .logUploaderWrite agent.steps s!"Failed to create command line: {launchError}",
        .logUploaderFinalized agent.steps,
        .logUploaderWrite agent.steps
          (s!"Failed collect CIRRUS_ENV subsystem results: {consumeError}" ++ "\n")] := by
  unfold performStep runInstruction dispatch performStepEpilogue deferredFinalize
  simp [hopened, hcirrusEnv, hbackground, hlaunch, hconsume, Instruction.isBackgroundScript]

/-- The per-step loop keeps the protocol, whatever its commands, when no background script
that cannot be launched has a `CIRRUS_ENV` file that cannot be read back. -/
theorem runCommands_protocol
    (hlaunch : ∀ n, (world.startBackground n).isOk = true ∨ (world.consume n).2 = none)
    (commands : List Command) (failed : Bool) {agent : Agent} (h : ∃ s, FollowsProtocol agent s) :
    ∃ s, FollowsProtocol (runCommands (performStep world) commands failed agent).executor s :=
  runCommands_preserves (performStep world) (fun agent => ∃ s, FollowsProtocol agent s)
    (fun currentStep _ ⟨_, h⟩ => performStep_protocol h (hlaunch _) currentStep) commands
    failed h

end Step

/-! ## The cleanup loop and the build -/

/-- The cleanup loop, over entries whose uploaders are distinct and open, writes to each
uploader before it finalises it, and so keeps the protocol; it leaves the entries in the
registry. -/
theorem drainBackgroundCommands_trace (kill : Nat → Option String)
    (entries : List CommandAndLogs) {agent : Agent} {s : UploaderState}
    (htrace : uploaderTrace agent.effects = some s)
    (hnodup : (entries.map CommandAndLogs.logs).Nodup)
    (hopen : ∀ entry ∈ entries, entry.logs ∈ s.opened) :
    ∃ s', uploaderTrace (drainBackgroundCommands kill entries agent).effects = some s' := by
  induction entries generalizing agent s with
  | nil => exact ⟨s, htrace⟩
  | cons entry rest ih =>
    rw [List.map_cons, List.nodup_cons] at hnodup
    have hentry := hopen entry (.head _)
    have hrest : ∀ other ∈ rest, other.logs ∈ s.opened.erase entry.logs := fun other hother =>
      (List.mem_erase_of_ne fun heq : other.logs = entry.logs =>
        hnodup.1 (heq ▸ List.mem_map_of_mem CommandAndLogs.logs hother)).2
        (hopen other (.tail _ hother))
    have hfinalized : ∀ {agent : Agent}, uploaderTrace agent.effects = some s →
        ∃ s', uploaderTrace (drainBackgroundCommands kill rest
          (agent.emit (.logUploaderFinalized entry.logs))).effects = some s' := fun htrace' =>
      ih (uploaderTrace_emit htrace' (show uploaderStep s (.logUploaderFinalized entry.logs) =
        some ⟨s.opened.erase entry.logs, entry.logs :: s.finalized⟩ by
          simp [uploaderStep, hentry])) hnodup.2 hrest
    have hkilled : uploaderTrace (agent.emit (.processKill entry.cmd)).effects = some s :=
      uploaderTrace_emit htrace rfl
    rw [drainBackgroundCommands]
    split
    · exact hfinalized (uploaderTrace_emit hkilled (by simp [uploaderStep, hentry]))
    · exact hfinalized hkilled

section Build

variable (world : RunWorld)

theorem unboxLoop_protocol (vault : VaultApi)
    (newBoxedValue : String → Except BoxedValueError BoxedValue)
    (unbox : VaultUnboxer → BoxedValue → Except Panic (Except String String))
    (entries : List (Σ _ : String, String)) (unboxer : Option VaultUnboxer) {agent agent' : Agent}
    {exit : UnboxExit} {s : UploaderState}
    (hrun : unboxLoop vault newBoxedValue unbox entries unboxer agent = .ok (exit, agent'))
    (h : FollowsProtocol agent s) : FollowsProtocol agent' s := by
  induction entries generalizing unboxer agent with
  | nil =>
    cases hrun
    exact h
  | cons entry rest ih =>
    have hacquired : FollowsProtocol (acquireUnboxer vault unboxer agent).2 s := by
      unfold acquireUnboxer
      split
      · exact h
      · exact h.emit rfl
    unfold unboxLoop at hrun
    split at hrun
    · exact ih _ hrun h
    · cases hrun
      exact h.emit rfl
    · split at hrun <;> rename_i hacquire <;> rw [hacquire] at hacquired
      · cases hrun
        exact hacquired.emit rfl
      · split at hrun
        · cases hrun
        · cases hrun
          exact hacquired.emit rfl
        · exact ih _ hrun (hacquired.setEnv _)

theorem settleHttpCacheHost_protocol {agent : Agent} {s : UploaderState}
    (h : FollowsProtocol agent s) : FollowsProtocol (settleHttpCacheHost world agent) s := by
  unfold settleHttpCacheHost
  dsimp only
  split <;> split <;> exact h.of_executor rfl rfl rfl

/-- `RunBuild` from the pre-scan on leaves a trace the protocol accepts. -/
theorem executeCommands_uploaderTrace
    (hlaunch : ∀ n, (world.step.startBackground n).isOk = true ∨
      (world.step.consume n).2 = none)
    (commands : List Command) (failed : Bool) {agent : Agent} {s : UploaderState}
    (h : FollowsProtocol agent s) :
    ∃ s', uploaderTrace (executeCommands world commands failed agent).agent.effects =
      some s' := by
  have hprescan : FollowsProtocol (terminalPrescan commands agent) s := by
    unfold terminalPrescan
    split
    · exact h
    · exact h.of_executor rfl rfl rfl
  have hloop : ∃ s, FollowsProtocol (perStepLoop (performStep world.step) commands
      (terminalPrescan commands agent).executor.commandFrom
      (terminalPrescan commands agent).executor.commandTo failed
      (terminalPrescan commands agent)).executor s := by
    unfold perStepLoop
    split
    · exact ⟨s, hprescan⟩
    · exact runCommands_protocol hlaunch _ failed ⟨s, hprescan⟩
  obtain ⟨s₁, h₁⟩ := hloop
  unfold executeCommands
  dsimp only
  split
  · exact ⟨s₁, h₁.trace⟩
  · exact ⟨s₁, h₁.trace⟩
  · obtain ⟨s₂, h₂⟩ :=
      drainBackgroundCommands_trace world.kill _ h₁.trace h₁.registry_nodup h₁.registry_open
    exact ⟨s₂, uploaderTrace_append_of_quiet h₂ fun call hcall => by
      rcases mem_teardownCalls world hcall with ⟨_, rfl⟩ | rfl <;> rfl⟩

/-- Every build from a state that keeps the uploader protocol, whatever its exit, leaves a
trace the protocol accepts: every uploader is created once, and is written to and finalised
only while it is open. This holds when no background script that cannot be launched has a
`CIRRUS_ENV` file that cannot be read back. -/
theorem runBuild_uploaderTrace
    (hlaunch : ∀ n, (world.step.startBackground n).isOk = true ∨
      (world.step.consume n).2 = none)
    (response : CommandsResponse) {agent : Agent} {s : UploaderState}
    (h : FollowsProtocol agent s) :
    ∃ s', uploaderTrace (runBuild world response agent).agent.effects = some s' := by
  unfold runBuild
  split
  · exact ⟨s, h.trace⟩
  · dsimp only
    split <;> rename_i hunbox
    · exact ⟨s, (h.setEnv _).trace⟩
    · exact ⟨s, (unboxLoop_protocol _ _ _ _ _ hunbox (h.setEnv _)).trace⟩
    · have hunboxed := settleHttpCacheHost_protocol world
        (unboxLoop_protocol _ _ _ _ _ hunbox (h.setEnv _))
      split
      · exact ⟨s, (hunboxed.setEnv _).trace⟩
      · exact executeCommands_uploaderTrace world hlaunch _ _ (hunboxed.setEnv _)

/-- The hypothesis of the build theorem is needed: a background script that cannot be
launched, in a step whose `CIRRUS_ENV` file cannot be read back, has its launch error
written to its uploader, which the switch then finalises, and the epilogue writes the
`CIRRUS_ENV` error to the finalised uploader, a trace the protocol rejects whatever came
before. -/
theorem performStep_write_after_finalize {currentStep : Command} {agent : Agent}
    {path launchError consumeError : String} {cirrusEnvVariables : StringMap}
    (hbackground : currentStep.instruction = .backgroundScriptInstruction)
    (hopened : world.step.newLogUploader agent.steps = .ok ())
    (hcirrusEnv : world.step.cirrusEnvNew agent.steps = .ok path)
    (hlaunch : world.step.startBackground agent.steps = .error launchError)
    (hconsume : world.step.consume agent.steps = (cirrusEnvVariables, some consumeError)) :
    uploaderTrace (performStep world.step currentStep agent).2.effects = none := by
  rw [performStep_launch_failure_effects hbackground hopened hcirrusEnv hlaunch hconsume]
  exact uploaderTrace_write_after_finalize _ _ _ _

/-- A background server whose binary cannot be started and whose `CIRRUS_ENV` file cannot be
read back: the build writes to a finalised uploader. -/
example :
    let world : RunWorld := ⟨⟨fun _ => .ok (), fun _ => .ok "/tmp/cirrus-env-task-1",
      fun _ => (∅, some "permission denied"), fun _ => ⟨none, true, false⟩,
      fun _ => .error "exec format error", fun _ => true, fun _ text => text, fun _ _ => .ok (),
      fun _ => ([], true), fun _ => 0, default⟩,
      fun _ => none,
      ⟨fun _ => none, "linux", "amd64", "/tmp", fun dir elem => dir ++ "/" ++ elem, id,
        fun dir pattern => dir ++ "/" ++ pattern⟩,
      ⟨fun _ => true⟩, ⟨.ok (), fun _ => .ok (), fun _ _ => .ok (), fun _ _ => .ok none,
        fun _ _ => .ok ""⟩,
      fun _ => .error .notABoxedValue, fun env => ⟨env.items, .refl _⟩, "127.0.0.1:12321",
      some [], fun _ => none, fun _ => false⟩
    let response : CommandsResponse := ⟨"token", none,
      [⟨"server", .always, .backgroundScriptInstruction⟩], [], false⟩
    uploaderTrace
      (runBuild world response ⟨newExecutor 1 "" "token" "" "" "", [], 0⟩).agent.effects = none := by
  decide

/-- A background server whose binary cannot be started, then a script, from a fresh
executor: every `CIRRUS_ENV` file is read back, and the build keeps the protocol. -/
theorem runBuild_uploaderTrace_failed_server :
    let world : RunWorld := ⟨⟨fun _ => .ok (), fun _ => .ok "/tmp/cirrus-env-task-1",
      fun _ => (∅, none), fun _ => ⟨none, true, false⟩, fun _ => .error "exec format error",
      fun _ => true, fun _ text => text, fun _ _ => .ok (), fun _ => ([], true), fun _ => 0,
      default⟩,
      fun _ => none,
      ⟨fun _ => none, "linux", "amd64", "/tmp", fun dir elem => dir ++ "/" ++ elem, id,
        fun dir pattern => dir ++ "/" ++ pattern⟩,
      ⟨fun _ => true⟩, ⟨.ok (), fun _ => .ok (), fun _ _ => .ok (), fun _ _ => .ok none,
        fun _ _ => .ok ""⟩,
      fun _ => .error .notABoxedValue, fun env => ⟨env.items, .refl _⟩, "127.0.0.1:12321",
      some [], fun _ => none, fun _ => false⟩
    let response : CommandsResponse := ⟨"token", none,
      [⟨"server", .always, .backgroundScriptInstruction⟩,
        ⟨"main", .always, .scriptInstruction⟩], [], false⟩
    let agent : Agent := ⟨newExecutor 1 "" "token" "" "" "", [], 0⟩
    (∀ n, (world.step.startBackground n).isOk = true ∨ (world.step.consume n).2 = none) ∧
      FollowsProtocol agent ⟨[], []⟩ ∧
      ∃ s', uploaderTrace (runBuild world response agent).agent.effects = some s' := by
  intro world response agent
  have hlaunch : ∀ n, (world.step.startBackground n).isOk = true ∨
      (world.step.consume n).2 = none := fun _ => .inr rfl
  have h : FollowsProtocol agent ⟨[], []⟩ := newExecutor_followsProtocol 1 "" "token" "" "" ""
  exact ⟨hlaunch, h, runBuild_uploaderTrace world hlaunch response h⟩

end Build

end CirrusAgent
