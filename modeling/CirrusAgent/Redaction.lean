import CirrusAgent.Uploaders
import CirrusAgent.Masking
import Mathlib.Data.List.Infix

/-! # The redaction list over a build

The environment's sensitive values are what the log uploaders redact. `RunBuild` adds to
them in three places: the secret of each variable the unbox loop fetches from Vault, the
secrets the controller asks to mask, and, when `CIRRUS_ENV_SENSITIVE` is set, the values of
a step's `CIRRUS_ENV` file. No phase of a build removes one: each only appends to the list.
So a build that gets as far as its update batcher ends with, after the values that were
sensitive before it and the secrets it unboxed, every secret the controller named.
-/

namespace CirrusAgent

/-- A step only appends to the sensitive values. -/
theorem performStep_sensitiveValues (world : StepWorld) (currentStep : Command) (agent : Agent) :
    agent.executor.env.sensitiveValues <+:
      (performStep world currentStep agent).2.executor.env.sensitiveValues := by
  rcases performStep_env world currentStep agent with hafter | ⟨path, -, hafter | hafter⟩ <;>
    simp [hafter, Environment.merge_sensitiveValues]

/-- Every run of the per-step loop only appends to the sensitive values. -/
theorem runCommands_sensitiveValues (world : StepWorld) (commands : List Command) (failed : Bool)
    (agent : Agent) :
    agent.executor.env.sensitiveValues <+: (runCommands (performStep world) commands failed
      agent).executor.executor.env.sensitiveValues :=
  runCommands_preserves (performStep world)
    (fun a => agent.executor.env.sensitiveValues <+: a.executor.env.sensitiveValues)
    (fun command a h => h.trans (performStep_sensitiveValues world command a)) commands failed
    (List.prefix_refl _)

/-- The unbox loop only appends to the sensitive values, whatever the store answers. -/
theorem unboxLoop_sensitiveValues (vault : VaultApi)
    (newBoxedValue : String → Except BoxedValueError BoxedValue)
    (unbox : VaultUnboxer → BoxedValue → Except Panic (Except String String))
    (entries : List (Σ _ : String, String)) (unboxer : Option VaultUnboxer) {agent agent' : Agent}
    {exit : UnboxExit}
    (hrun : unboxLoop vault newBoxedValue unbox entries unboxer agent = .ok (exit, agent')) :
    agent.executor.env.sensitiveValues <+: agent'.executor.env.sensitiveValues := by
  induction entries generalizing unboxer agent with
  | nil =>
    cases hrun
    exact List.prefix_refl _
  | cons entry rest ih =>
    unfold unboxLoop at hrun
    split at hrun
    · exact ih _ hrun
    · cases hrun
      exact List.prefix_refl _
    · have hacquired : (acquireUnboxer vault unboxer agent).2.executor = agent.executor := by
        cases unboxer <;> rfl
      split at hrun <;> rename_i hacquire <;> rw [hacquire] at hacquired
      · cases hrun
        exact hacquired ▸ List.prefix_refl _
      · split at hrun
        · cases hrun
        · cases hrun
          exact hacquired ▸ List.prefix_refl _
        · exact hacquired ▸ (List.prefix_append _ _).trans (ih _ hrun)

theorem settleHttpCacheHost_sensitiveValues (world : RunWorld) (agent : Agent) :
    (settleHttpCacheHost world agent).executor.env.sensitiveValues =
      agent.executor.env.sensitiveValues := by
  unfold settleHttpCacheHost
  dsimp only
  split <;> split <;> rfl

/-- `RunBuild` from the pre-scan on only appends to the sensitive values. -/
theorem executeCommands_sensitiveValues (world : RunWorld) (commands : List Command)
    (failed : Bool) (agent : Agent) :
    agent.executor.env.sensitiveValues <+:
      (executeCommands world commands failed agent).agent.executor.env.sensitiveValues := by
  have hprescan : (terminalPrescan commands agent).executor.env = agent.executor.env := by
    unfold terminalPrescan
    split <;> rfl
  have hloop : ∀ commandFrom commandTo, agent.executor.env.sensitiveValues <+:
      (perStepLoop (performStep world.step) commands commandFrom commandTo failed
        (terminalPrescan commands agent)).executor.executor.env.sensitiveValues := by
    intro commandFrom commandTo
    unfold perStepLoop
    split
    · exact hprescan ▸ List.prefix_refl _
    · exact hprescan ▸ runCommands_sensitiveValues world.step _ failed _
  unfold executeCommands
  dsimp only
  split
  · exact hloop _ _
  · exact hloop _ _
  · rw [Agent.emitAll_executor, (drainBackgroundCommands_ledger world.kill _ _ 0).1]
    exact hloop _ _

/-- A build never takes a value off the redaction list; and a build that makes a call on
its update batcher, so that its loop has begun, ends with a redaction list that starts with
the values that were sensitive before the build, then the secrets the unbox loop fetched (one
per boxed variable of the merged environment, in the loop's order, read with the client
built from that environment), then every secret the controller asked to mask. -/
theorem runBuild_sensitiveValues (world : RunWorld) (response : CommandsResponse) (agent : Agent) :
    let run := runBuild world response agent
    let merged := agent.executor.env.merge
      (getScriptEnvironment world.host world.fs agent.executor response.environment) false
    agent.executor.env.sensitiveValues <+: run.agent.executor.env.sensitiveValues ∧
      (run.updates ≠ [] → agent.executor.env.sensitiveValues ++
        unboxedSecrets world.newBoxedValue (fun unboxer => unboxer.unboxAnswer world.vault)
          (newFromEnvironment world.vault merged) (world.order merged).1 ++
        response.secretsToMask <+: run.agent.executor.env.sensitiveValues) := by
  unfold runBuild
  split
  · exact ⟨List.prefix_refl _, fun h => absurd rfl h⟩
  · dsimp only
    have hmerge : ∀ other : StringMap, (agent.executor.env.merge other false).sensitiveValues =
        agent.executor.env.sensitiveValues :=
      fun other => by simp [Environment.merge_sensitiveValues]
    split <;> rename_i hunbox
    · refine ⟨?_, fun h => absurd rfl h⟩
      rw [Agent.setEnv_env, hmerge]
    · refine ⟨?_, fun h => absurd rfl h⟩
      simpa [hmerge] using unboxLoop_sensitiveValues _ _ _ _ _ hunbox
    · rename_i unboxed
      have hsecrets := unboxLoop_completed_sensitiveValues world.vault world.newBoxedValue
        (fun unboxer => unboxer.unboxAnswer world.vault) _ _ (world.order _).2
        (unboxLoop_pure_of_ok world.vault world.newBoxedValue
          (fun _ _ _ h => unboxAnswer_of_unbox world.vault h) hunbox)
      rw [Agent.setEnv_env, hmerge] at hsecrets
      have hbefore : agent.executor.env.sensitiveValues ++ unboxedSecrets world.newBoxedValue
            (fun unboxer => unboxer.unboxAnswer world.vault)
            (newFromEnvironment world.vault (agent.executor.env.merge
              (getScriptEnvironment world.host world.fs agent.executor response.environment) false))
            (world.order (agent.executor.env.merge
              (getScriptEnvironment world.host world.fs agent.executor response.environment)
                false)).1 ++ response.secretsToMask <+:
          ((settleHttpCacheHost world unboxed).setEnv ((settleHttpCacheHost world
            unboxed).executor.env.addSensitiveValues
              response.secretsToMask)).executor.env.sensitiveValues := by
        rw [Agent.setEnv_env, Environment.addSensitiveValues_sensitiveValues,
          settleHttpCacheHost_sensitiveValues, hsecrets]
      split
      · exact ⟨(List.prefix_append _ _).trans ((List.prefix_append _ _).trans hbefore),
          fun h => absurd rfl h⟩
      · have hrun := hbefore.trans (executeCommands_sensitiveValues world response.commands
          response.failedAtLeastOnce _)
        exact ⟨(List.prefix_append _ _).trans ((List.prefix_append _ _).trans hrun),
          fun _ => hrun⟩

/-- A build of one script whose controller asks to mask a token: the loop runs, and the token
is on the redaction list at the end. -/
theorem runBuild_sensitiveValues_masks_token :
    let world : RunWorld := ⟨⟨fun _ => .ok (), fun _ => .ok "/tmp/cirrus-env-task-1",
      fun _ => (∅, none), fun _ => ⟨none, true, false⟩, fun _ => .ok (), fun _ => true,
      fun _ text => text, fun _ _ => .ok (), fun _ => ([], true), fun _ => 0, default⟩,
      fun _ => none,
      ⟨fun _ => none, "linux", "amd64", "/tmp", fun dir elem => dir ++ "/" ++ elem, id,
        fun dir pattern => dir ++ "/" ++ pattern⟩,
      ⟨fun _ => true⟩, ⟨.ok (), fun _ => .ok (), fun _ _ => .ok (), fun _ _ => .ok none,
        fun _ _ => .ok ""⟩,
      fun _ => .error .notABoxedValue, fun env => ⟨env.items, .refl _⟩, "127.0.0.1:12321",
      some [], fun _ => none, fun _ => false⟩
    let response : CommandsResponse := ⟨"token", none, [⟨"main", .always, .scriptInstruction⟩],
      ["s3cr3t"], false⟩
    let agent : Agent := ⟨newExecutor 1 "" "token" "" "" "", [], 0⟩
    let merged := agent.executor.env.merge
      (getScriptEnvironment world.host world.fs agent.executor response.environment) false
    (runBuild world response agent).updates ≠ [] ∧
      agent.executor.env.sensitiveValues ++
        unboxedSecrets world.newBoxedValue (fun unboxer => unboxer.unboxAnswer world.vault)
          (newFromEnvironment world.vault merged) (world.order merged).1 ++
        response.secretsToMask <+:
          (runBuild world response agent).agent.executor.env.sensitiveValues := by
  intro world response agent merged
  have hupdates : (runBuild world response agent).updates ≠ [] := by decide
  exact ⟨hupdates, (runBuild_sensitiveValues world response agent).2 hupdates⟩

end CirrusAgent
