import CirrusAgent.PerformStep

/-! # Masking of `CIRRUS_ENV` values over a run

A step changes the environment in two places only: it points `CIRRUS_ENV` at the step's
file, and its epilogue merges what the step wrote there, as sensitive values when
`CIRRUS_ENV_SENSITIVE` is set before the merge. Once the flag is set it stays set, so from
then on every value a step propagates through its file is masked: every variable is the
`CIRRUS_ENV` path, a masked value, or the value it had when the flag was already set.
-/

namespace CirrusAgent

variable (world : StepWorld)

/-- The instruction switch leaves the environment alone. -/
theorem dispatch_env (n : Nat) (currentStep : Command) (agent : Agent) :
    (dispatch world n currentStep agent).2.executor.env = agent.executor.env := by
  unfold dispatch
  cases currentStep.instruction with
  | fileInstruction instruction =>
    show (createFile world n instruction agent).2.executor.env = _
    rw [createFile_executor]
  | backgroundScriptInstruction =>
    dsimp only
    split <;> rfl
  | cloneInstruction =>
    show (agent.writeAll n _).executor.env = _
    rw [Agent.writeAll_executor]
  | waitForTerminalInstruction _ =>
    dsimp only
    split
    · rfl
    · rw [Agent.writeAll_executor]
  | _ => rfl

/-- Once the uploader and the file exist, a step ends with the environment as it found it
(an exit or a panic) or with the file merged in its epilogue. -/
theorem runInstruction_env (n : Nat) (currentStep : Command) (agent : Agent) :
    let after := (runInstruction world n currentStep agent).2.executor.env
    after = agent.executor.env ∨ after = agent.executor.env.merge (world.consume n).1
      (agent.executor.env.lookup cirrusEnvSensitive).isSome := by
  have hdispatch := dispatch_env world n currentStep agent
  unfold runInstruction
  split <;> rename_i heq <;> rw [heq] at hdispatch <;> rw [deferredFinalize_executor]
  · exact .inl hdispatch
  · exact .inl hdispatch
  · rw [performStepEpilogue_env, hdispatch]
    exact .inr rfl

/-- A step leaves the environment as it was, or points `CIRRUS_ENV` at the file that
`cirrusEnvNew` gave it, or does that and then merges the file in its epilogue. -/
theorem performStep_env (currentStep : Command) (agent : Agent) :
    let env := agent.executor.env
    let after := (performStep world currentStep agent).2.executor.env
    after = env ∨ ∃ path, world.cirrusEnvNew agent.steps = .ok path ∧
      (after = env.set "CIRRUS_ENV" path ∨
        after = (env.set "CIRRUS_ENV" path).merge (world.consume agent.steps).1
          ((env.set "CIRRUS_ENV" path).lookup cirrusEnvSensitive).isSome) := by
  unfold performStep
  dsimp only
  split
  · exact .inl rfl
  · split <;> rename_i hpath
    · exact .inl (by rw [deferredFinalize_executor]; rfl)
    · exact .inr ⟨_, hpath, runInstruction_env world _ currentStep _⟩

/-- `value` is the path of the `CIRRUS_ENV` file that `cirrusEnvNew` gave a step numbered from
`first` to below `last`. -/
def CirrusEnvPath (first last : Nat) (value : String) : Prop :=
  ∃ n, first ≤ n ∧ n < last ∧ world.cirrusEnvNew n = .ok value

theorem CirrusEnvPath.mono {first last last' : Nat} {value : String}
    (h : CirrusEnvPath world first last value) (hle : last ≤ last') :
    CirrusEnvPath world first last' value :=
  let ⟨n, hfirst, hlast, hn⟩ := h
  ⟨n, hfirst, by omega, hn⟩

/-- Every variable of `env` is `CIRRUS_ENV` holding the path of the file of a step numbered
from `first` to below `last`, a masked value, or the value it had in `start`; and the flag is
set. -/
def MaskedSince (start : Environment) (first last : Nat) (env : Environment) : Prop :=
  (env.lookup cirrusEnvSensitive).isSome ∧ ∀ key value, env.lookup key = some value →
    key = "CIRRUS_ENV" ∧ CirrusEnvPath world first last value ∨ value ∈ env.sensitiveValues ∨
      start.lookup key = some value

theorem MaskedSince.refl {env : Environment} (hflag : (env.lookup cirrusEnvSensitive).isSome)
    (n : Nat) : MaskedSince world env n n env :=
  ⟨hflag, fun _ _ h => .inr (.inr h)⟩

theorem MaskedSince.mono {start env : Environment} {first last last' : Nat}
    (h : MaskedSince world start first last env) (hle : last ≤ last') :
    MaskedSince world start first last' env :=
  ⟨h.1, fun key value hkey => (h.2 key value hkey).imp_left fun ⟨hkey, hpath⟩ =>
    ⟨hkey, hpath.mono world hle⟩⟩

/-- Pointing `CIRRUS_ENV` at the file of a step of the range keeps every variable masked. -/
theorem MaskedSince.set {start env : Environment} {first last : Nat}
    (h : MaskedSince world start first last env) {path : String}
    (hpath : CirrusEnvPath world first last path) :
    MaskedSince world start first last (env.set "CIRRUS_ENV" path) := by
  refine ⟨by rw [Environment.lookup_set_ne _ _ (by decide)]; exact h.1, fun key value hkey => ?_⟩
  rcases Environment.lookup_set_eq_some hkey with ⟨rfl, rfl⟩ | ⟨-, hkey⟩
  · exact .inl ⟨rfl, hpath⟩
  · exact h.2 key value hkey

/-- A merge with the flag set masks every value it brings in. -/
theorem MaskedSince.merge {start env : Environment} {first last : Nat}
    (h : MaskedSince world start first last env) (file : StringMap) :
    MaskedSince world start first last (env.merge file (env.lookup cirrusEnvSensitive).isSome) := by
  obtain ⟨hflag, hvalues⟩ := h
  rw [hflag]
  refine ⟨by rw [Environment.lookup_merge]; cases file.lookup cirrusEnvSensitive <;> simp [hflag],
    fun key value hkey => ?_⟩
  rw [Environment.merge_sensitiveValues, if_pos rfl, List.mem_append]
  rw [Environment.lookup_merge] at hkey
  cases hfile : file.lookup key with
  | some fileValue =>
    rw [hfile] at hkey
    cases hkey
    exact .inr (.inl (.inr (List.mem_map_of_mem _ (AList.mem_lookup_iff.mp hfile))))
  | none =>
    rw [hfile] at hkey
    rcases hvalues key value hkey with hpath | hmasked | hstart
    · exact .inl hpath
    · exact .inr (.inl (.inl hmasked))
    · exact .inr (.inr hstart)

/-- A step keeps every variable masked since `start`, its own file taking the step's
number. -/
theorem performStep_maskedSince {start : Environment} {first : Nat} (currentStep : Command)
    {agent : Agent} (hfirst : first ≤ agent.steps)
    (h : MaskedSince world start first agent.steps agent.executor.env) :
    MaskedSince world start first (agent.steps + 1)
      (performStep world currentStep agent).2.executor.env := by
  have hnext := h.mono world (Nat.le_succ agent.steps)
  rcases performStep_env world currentStep agent with hafter | ⟨path, hpath, hafter | hafter⟩ <;>
    rw [hafter]
  · exact hnext
  · exact hnext.set world ⟨_, hfirst, Nat.lt_succ_self _, hpath⟩
  · exact (hnext.set world ⟨_, hfirst, Nat.lt_succ_self _, hpath⟩).merge world _

/-- From a state where `CIRRUS_ENV_SENSITIVE` is set, the per-step loop keeps it set, and
afterwards every variable is `CIRRUS_ENV` holding the path of the file of a step the loop
performed, a masked value, or the value it had before the loop: no value a step propagates
through its `CIRRUS_ENV` file escapes masking. -/
theorem runCommands_maskedSince (commands : List Command) (failed : Bool) (agent : Agent)
    (hflag : (agent.executor.env.lookup cirrusEnvSensitive).isSome) :
    let after := (runCommands (performStep world) commands failed agent).executor
    MaskedSince world agent.executor.env agent.steps after.steps after.executor.env :=
  (runCommands_preserves (performStep world)
    (fun a => agent.steps ≤ a.steps ∧
      MaskedSince world agent.executor.env agent.steps a.steps a.executor.env)
    (fun command _ h => by
      dsimp only at h ⊢
      rw [performStep_steps]
      exact ⟨by omega, performStep_maskedSince world command h.1 h.2⟩)
    commands failed ⟨le_rfl, MaskedSince.refl world hflag _⟩).2

/-- The flag set before a step whose file brings a token: afterwards the token is masked. -/
theorem runCommands_maskedSince_token_file :
    let world : StepWorld := ⟨fun _ => .ok (), fun _ => .ok "/tmp/cirrus-env-task-1",
      fun _ => ((∅ : StringMap).insert "TOKEN" "s3cr3t", none), fun _ => ⟨none, true, false⟩,
      fun _ => .ok (), fun _ => true, fun _ text => text, fun _ _ => .ok (), fun _ => ([], true),
      fun _ => 0, default⟩
    let agent : Agent := ⟨{ newExecutor 1 "" "" "" "" "" with
      env := Environment.newEmpty.set cirrusEnvSensitive "true" }, [], 0⟩
    let after := (runCommands (performStep world) [⟨"main", .always, .scriptInstruction⟩] false
      agent).executor
    (agent.executor.env.lookup cirrusEnvSensitive).isSome ∧
      MaskedSince world agent.executor.env agent.steps after.steps after.executor.env := by
  intro world agent
  have hflag : (agent.executor.env.lookup cirrusEnvSensitive).isSome := rfl
  exact ⟨hflag, runCommands_maskedSince world _ false agent hflag⟩

/-! ## Where the values come from

Whether or not the flag is set, a step brings values into the environment only through its
own `CIRRUS_ENV` file, so after any run of the loop every variable holds its value from
before the loop, the path of the file of a step the loop performed, or a value that the file
of such a step supplied.
-/

/-- Every variable of `env` holds its value in `start`, or is `CIRRUS_ENV` holding the path of
the file of a step numbered from `first` to below `last`, or holds a value that the
`CIRRUS_ENV` file of such a step supplied. -/
def ValuesFrom (start : Environment) (first last : Nat) (env : Environment) : Prop :=
  ∀ key value, env.lookup key = some value →
    key = "CIRRUS_ENV" ∧ CirrusEnvPath world first last value ∨ start.lookup key = some value ∨
      ∃ n, first ≤ n ∧ n < last ∧ (world.consume n).1.lookup key = some value

theorem ValuesFrom.mono {start env : Environment} {first last last' : Nat}
    (h : ValuesFrom world start first last env) (hle : last ≤ last') :
    ValuesFrom world start first last' env := fun key value hkey =>
  (h key value hkey).imp (fun ⟨hkey, hpath⟩ => ⟨hkey, hpath.mono world hle⟩)
    (Or.imp_right fun ⟨n, hfirst, hlast, hn⟩ => ⟨n, hfirst, by omega, hn⟩)

/-- A step keeps every value accounted for, its own file taking the step's number. -/
theorem performStep_valuesFrom {start : Environment} {first : Nat} (currentStep : Command)
    {agent : Agent} (hfirst : first ≤ agent.steps)
    (h : ValuesFrom world start first agent.steps agent.executor.env) :
    ValuesFrom world start first (agent.steps + 1)
      (performStep world currentStep agent).2.executor.env := by
  have hnext := h.mono world (Nat.le_succ agent.steps)
  have hset : ∀ path, world.cirrusEnvNew agent.steps = .ok path →
      ValuesFrom world start first (agent.steps + 1)
        (agent.executor.env.set "CIRRUS_ENV" path) := fun path hpath key value hkey => by
    rcases Environment.lookup_set_eq_some hkey with ⟨rfl, rfl⟩ | ⟨-, hkey⟩
    · exact .inl ⟨rfl, _, hfirst, Nat.lt_succ_self _, hpath⟩
    · exact hnext key value hkey
  rcases performStep_env world currentStep agent with hafter | ⟨path, hpath, hafter | hafter⟩ <;>
    rw [hafter]
  · exact hnext
  · exact hset path hpath
  · intro key value hkey
    rw [Environment.lookup_merge] at hkey
    cases hfile : (world.consume agent.steps).1.lookup key with
    | some fileValue =>
      rw [hfile] at hkey
      cases hkey
      exact .inr (.inr ⟨agent.steps, hfirst, Nat.lt_succ_self _, hfile⟩)
    | none =>
      rw [hfile] at hkey
      exact hset path hpath key value hkey

/-- Over any run of the per-step loop, whatever its commands and whatever each step does,
every variable ends up with its value from before the loop, or is `CIRRUS_ENV` holding the
path that `cirrusEnvNew` gave a step the loop performed, or holds a value that the
`CIRRUS_ENV` file of such a step supplied; the loop's steps are numbered from the step
counter before it to below the one after it. -/
theorem runCommands_valuesFrom (commands : List Command) (failed : Bool) (agent : Agent) :
    let after := (runCommands (performStep world) commands failed agent).executor
    agent.steps ≤ after.steps ∧
      ValuesFrom world agent.executor.env agent.steps after.steps after.executor.env :=
  runCommands_preserves (performStep world)
    (fun a => agent.steps ≤ a.steps ∧
      ValuesFrom world agent.executor.env agent.steps a.steps a.executor.env)
    (fun command _ h => by
      dsimp only at h ⊢
      rw [performStep_steps]
      exact ⟨by omega, performStep_valuesFrom world command h.1 h.2⟩)
    commands failed ⟨le_rfl, fun _ _ hkey => .inr (.inl hkey)⟩

/-- The flag set before the step: the secret of the step's file is masked. -/
example :
    let world : StepWorld := ⟨fun _ => .ok (), fun _ => .ok "/tmp/cirrus-env-task-1",
      fun _ => ((∅ : StringMap).insert "TOKEN" "s3cr3t", none), fun _ => ⟨none, true, false⟩,
      fun _ => .ok (), fun _ => true, fun _ text => text, fun _ _ => .ok (), fun _ => ([], true),
      fun _ => 0, default⟩
    let agent : Agent := ⟨{ newExecutor 1 "" "" "" "" "" with
      env := Environment.newEmpty.set cirrusEnvSensitive "true" }, [], 0⟩
    "s3cr3t" ∈ (runCommands (performStep world) [⟨"main", .always, .scriptInstruction⟩] false
      agent).executor.executor.env.sensitiveValues := by
  decide

end CirrusAgent
