import CirrusAgent.Vault
import Mathlib.Data.List.Sigma

/-! # The unbox loop of `RunBuild`

`for key, value := range executor.env.Items()` visits every variable once, in an order Go
leaves unspecified. The loop only ever sets the variable it is visiting, so the values of
the variables still ahead are those of the map when the loop began: the loop is modelled
over that snapshot, in any order, i.e. any permutation of the environment's entries.

The outcome is decided by the environment alone: the loop reports an error exactly when
some value is malformed, or some value is boxed and either the client cannot be built from
the environment or the store refuses that value; otherwise every boxed variable ends up
holding its secret, unboxed with the one client built from the original environment.
-/

namespace CirrusAgent

/-- How the unbox loop ends: every variable handled, or an error reported, after which
`RunBuild` returns. -/
inductive UnboxExit where
  | completed
  | reported
  deriving DecidableEq, Repr

variable (vault : VaultApi) (newBoxedValue : String → Except BoxedValueError BoxedValue)

/-- `if vaultUnboxer == nil { vaultUnboxer, err = NewFromEnvironment(ctx, executor.env) }`. -/
def acquireUnboxer (vaultUnboxer : Option VaultUnboxer) (agent : Agent) :
    Except String VaultUnboxer × Agent :=
  match vaultUnboxer with
  | some unboxer => (.ok unboxer, agent)
  | none => (newFromEnvironment vault agent.executor.env, agent.emit .newVaultClient)

/-- The unbox loop of `RunBuild`, over the entries in iteration order. -/
def unboxLoop (unbox : VaultUnboxer → BoxedValue → Except Panic (Except String String)) :
    List (Σ _ : String, String) → Option VaultUnboxer → Agent → Except Panic (UnboxExit × Agent)
  | [], _, agent => pure (.completed, agent)
  | ⟨key, value⟩ :: rest, vaultUnboxer, agent =>
    match newBoxedValue value with
    | .error .notABoxedValue => unboxLoop unbox rest vaultUnboxer agent
    | .error (.other err) =>
      pure (.reported, agent.reportError s!"failed to parse a Vault-boxed value {value}: {err}")
    | .ok boxedValue =>
      match acquireUnboxer vault vaultUnboxer agent with
      | (.error err, agent) =>
        pure (.reported, agent.reportError s!"failed to initialize a Vault client: {err}")
      | (.ok unboxer, agent) =>
        match unbox unboxer boxedValue with
        | .error p => throw p
        | .ok (.error err) =>
          pure (.reported, agent.reportError s!"failed to unbox a Vault-boxed value {value}: {err}")
        | .ok (.ok unboxedValue) =>
          unboxLoop unbox rest (some unboxer)
            (agent.setEnv ((agent.executor.env.set key unboxedValue).addSensitiveValues
              [unboxedValue]))

/-- A panic of the unbox loop is a panic of `Unbox`. -/
theorem unboxLoop_error {unbox : VaultUnboxer → BoxedValue → Except Panic (Except String String)}
    {p : Panic} (l : List (Σ _ : String, String)) (unboxer : Option VaultUnboxer) (agent : Agent)
    (h : unboxLoop vault newBoxedValue unbox l unboxer agent = .error p) :
    ∃ client boxedValue, unbox client boxedValue = .error p := by
  induction l generalizing unboxer agent with
  | nil => cases h
  | cons entry rest ih =>
    unfold unboxLoop at h
    split at h
    · exact ih _ _ h
    · cases h
    · split at h
      · cases h
      · split at h
        · cases h
          exact ⟨_, _, ‹_›⟩
        · cases h
        · exact ih _ _ h

/-- The unbox loop changes nothing of the executor but its environment. -/
theorem unboxLoop_executor {unbox : VaultUnboxer → BoxedValue → Except Panic (Except String String)}
    {exit : UnboxExit} (l : List (Σ _ : String, String)) (unboxer : Option VaultUnboxer)
    {agent agent' : Agent}
    (h : unboxLoop vault newBoxedValue unbox l unboxer agent = .ok (exit, agent')) :
    agent'.executor = { agent.executor with env := agent'.executor.env } := by
  induction l generalizing unboxer agent with
  | nil =>
    cases h
    rfl
  | cons entry rest ih =>
    have hacquired : (acquireUnboxer vault unboxer agent).2.executor = agent.executor := by
      cases unboxer <;> rfl
    unfold unboxLoop at h
    split at h
    · exact ih _ h
    · cases h
      rfl
    · split at h <;> rename_i hacquire <;> rw [hacquire] at hacquired
      · cases h
        exact hacquired ▸ rfl
      · split at h
        · cases h
        · cases h
          exact hacquired ▸ rfl
        · dsimp only at hacquired
          rw [ih _ h]
          simp [Agent.setEnv, hacquired]

/-- The unbox loop keeps the bounds of the run. -/
theorem unboxLoop_bounds {unbox : VaultUnboxer → BoxedValue → Except Panic (Except String String)}
    {exit : UnboxExit} {l : List (Σ _ : String, String)} {unboxer : Option VaultUnboxer}
    {agent agent' : Agent}
    (h : unboxLoop vault newBoxedValue unbox l unboxer agent = .ok (exit, agent')) :
    agent'.executor.commandFrom = agent.executor.commandFrom ∧
      agent'.executor.commandTo = agent.executor.commandTo := by
  rw [unboxLoop_executor vault newBoxedValue l unboxer h]
  exact ⟨rfl, rfl⟩

/-- On a run that does not panic, the loop over an `Unbox` that may panic is the loop over
its answers. -/
theorem unboxLoop_pure_of_ok
    {unbox : VaultUnboxer → BoxedValue → Except Panic (Except String String)}
    {f : VaultUnboxer → BoxedValue → Except String String}
    (hf : ∀ unboxer boxedValue answer, unbox unboxer boxedValue = .ok answer →
      f unboxer boxedValue = answer)
    {l : List (Σ _ : String, String)} {unboxer : Option VaultUnboxer} {agent : Agent}
    {result : UnboxExit × Agent}
    (h : unboxLoop vault newBoxedValue unbox l unboxer agent = .ok result) :
    unboxLoop vault newBoxedValue (fun c b => pure (f c b)) l unboxer agent = .ok result := by
  induction l generalizing unboxer agent with
  | nil => exact h
  | cons entry rest ih =>
    obtain ⟨key, value⟩ := entry
    rw [unboxLoop] at h ⊢
    cases hv : newBoxedValue value with
    | error err =>
      rw [hv] at h
      cases err with
      | notABoxedValue => exact ih h
      | other => exact h
    | ok boxedValue =>
      rw [hv] at h
      dsimp only at h ⊢
      rcases hacquire : acquireUnboxer vault unboxer agent with ⟨_ | c, acquired⟩ <;>
        rw [hacquire] at h
      · exact h
      · dsimp only at h ⊢
        cases hu : unbox c boxedValue with
        | error p =>
          rw [hu] at h
          cases h
        | ok answer =>
          rw [hu] at h
          rw [hf c boxedValue answer hu]
          cases answer with
          | error => exact h
          | ok => exact ih h

section Spec

variable (f : VaultUnboxer → BoxedValue → Except String String)

/-- One value survives unboxing with the client result `client`: it is not boxed, or it is
and the client unboxes it. -/
def UnboxesWith (client : Except String VaultUnboxer) (value : String) : Prop :=
  match newBoxedValue value, client with
  | .error .notABoxedValue, _ => True
  | .error (.other _), _ => False
  | .ok _, .error _ => False
  | .ok boxedValue, .ok unboxer => ∃ secret, f unboxer boxedValue = .ok secret

/-- The value a variable holds after unboxing with the client result `client`. -/
def unboxedValue (client : Except String VaultUnboxer) (value : String) : String :=
  match newBoxedValue value, client with
  | .ok boxedValue, .ok unboxer =>
    match f unboxer boxedValue with
    | .ok secret => secret
    | .error _ => value
  | _, _ => value

/-- The secrets added to the sensitive values, one per boxed entry, in order. -/
def unboxedSecrets (client : Except String VaultUnboxer) (entries : List (Σ _ : String, String)) :
    List String :=
  entries.filterMap fun entry =>
    match newBoxedValue entry.2 with
    | .ok _ => some (unboxedValue newBoxedValue f client entry.2)
    | .error _ => none

/-- The failure condition, in the words of the specification: a value rejected by the
parser with an error other than `ErrNotABoxedValue`, or a boxed value together with a
client that cannot be built, or a boxed value the client cannot unbox. -/
def UnboxFails (env : Environment) : Prop :=
  (∃ key value message, env.lookup key = some value ∧
    newBoxedValue value = .error (.other message)) ∨
  ((∃ key value boxedValue, env.lookup key = some value ∧ newBoxedValue value = .ok boxedValue) ∧
    ∀ unboxer, newFromEnvironment vault env = .ok unboxer →
      ∃ key value boxedValue message, env.lookup key = some value ∧
        newBoxedValue value = .ok boxedValue ∧ f unboxer boxedValue = .error message)

end Spec

section Run

variable (f : VaultUnboxer → BoxedValue → Except String String) (E : Environment)

/-- The loop state before a variable: no client yet and the environment as it was, or the
client built from the original environment. -/
def UnboxerReady (unboxer : Option VaultUnboxer) (agent : Agent) : Prop :=
  (unboxer = none → agent.executor.env = E) ∧
    ∀ c, unboxer = some c → newFromEnvironment vault E = .ok c

theorem acquireUnboxer_eq {unboxer : Option VaultUnboxer} {agent : Agent}
    (h : UnboxerReady vault E unboxer agent) :
    acquireUnboxer vault unboxer agent =
      (newFromEnvironment vault E, if unboxer = none then agent.emit .newVaultClient else agent) := by
  cases unboxer with
  | none => simp [acquireUnboxer, h.1 rfl]
  | some c => simp [acquireUnboxer, h.2 c rfl]

/-- The agent after the client is acquired: one more effect, a client creation, exactly when
there was no client yet. -/
theorem acquired_agent (unboxer : Option VaultUnboxer) (agent : Agent) :
    let acquired := if unboxer = none then agent.emit .newVaultClient else agent
    acquired.executor = agent.executor ∧ ∃ pre, acquired.effects = agent.effects ++ pre ∧
      pre.countP Effect.isReportError = 0 ∧
      pre.count .newVaultClient ≤ (if unboxer = none then 1 else 0) := by
  cases unboxer with
  | none => exact ⟨rfl, [.newVaultClient], rfl, rfl, le_refl _⟩
  | some _ => exact ⟨rfl, [], by simp, rfl, le_refl _⟩

/-- A reported error adds one `ReportAgentError` call to what the iteration did so far. -/
theorem reported_effects {acquired agent : Agent} {pre : List Effect} {bound : Nat}
    (hpre : acquired.effects = agent.effects ++ pre) (hreport : pre.countP Effect.isReportError = 0)
    (hclient : pre.count .newVaultClient ≤ bound) (message : String) :
    ∃ new, (acquired.reportError message).effects = agent.effects ++ new ∧
      new.countP Effect.isReportError = 1 ∧
      new.count .newVaultClient ≤ bound :=
  ⟨pre ++ [.reportError message], by simp [Agent.reportError, hpre],
    by simp [hreport, Effect.isReportError], by simpa using hclient⟩

/-- The lookup after the loop has handled `⟨key, value⟩` and then `rest`, from the lookup
after `rest` and the step on `key` alone. -/
theorem lookup_after_entry {g : String → String} {key value : String}
    {rest : List (Σ _ : String, String)} {before mid after : Environment} (hkey : key ∉ rest.keys)
    (hafter : ∀ k, after.lookup k = ((rest.dlookup k).map g).or (mid.lookup k))
    (hmid : mid.lookup key = some (g value)) (hframe : ∀ k, k ≠ key → mid.lookup k = before.lookup k)
    (k : String) :
    after.lookup k = (((⟨key, value⟩ :: rest).dlookup k).map g).or (before.lookup k) := by
  by_cases hk : k = key
  · subst hk
    simp [hafter, List.dlookup_eq_none.mpr hkey, hmid]
  · simp [hafter, List.dlookup_cons_ne rest ⟨key, value⟩ hk, hframe k hk]

theorem unboxLoop_run (l : List (Σ _ : String, String)) (hl : l.NodupKeys)
    (unboxer : Option VaultUnboxer) (agent : Agent) (hready : UnboxerReady vault E unboxer agent)
    (hpresent : ∀ e ∈ l, agent.executor.env.lookup e.1 = some e.2) :
    ∃ exit agent', unboxLoop vault newBoxedValue (fun c b => pure (f c b)) l unboxer agent =
        .ok (exit, agent') ∧
      (exit = .reported ↔
        ∃ e ∈ l, ¬ UnboxesWith newBoxedValue f (newFromEnvironment vault E) e.2) ∧
      (∃ new, agent'.effects = agent.effects ++ new ∧
        new.countP Effect.isReportError = (if exit = .reported then 1 else 0) ∧
        new.count .newVaultClient ≤ (if unboxer = none then 1 else 0)) ∧
      (exit = .completed →
        (∀ key, agent'.executor.env.lookup key =
          ((l.dlookup key).map (unboxedValue newBoxedValue f (newFromEnvironment vault E))).or
            (agent.executor.env.lookup key)) ∧
        agent'.executor.env.sensitiveValues = agent.executor.env.sensitiveValues ++
          unboxedSecrets newBoxedValue f (newFromEnvironment vault E) l) := by
  induction l generalizing unboxer agent with
  | nil =>
    exact ⟨.completed, agent, rfl, by simp, ⟨[], by simp⟩,
      fun _ => ⟨fun key => by simp, by simp [unboxedSecrets]⟩⟩
  | cons entry rest ih =>
    obtain ⟨key, value⟩ := entry
    have hkey : key ∉ rest.keys := List.not_mem_keys_of_nodupKeys_cons hl
    have hrest : rest.NodupKeys := (List.nodupKeys_cons.mp hl).2
    have hvalue : agent.executor.env.lookup key = some value := hpresent _ (List.mem_cons_self _ _)
    cases hv : newBoxedValue value with
    | error err =>
      cases err with
      | notABoxedValue =>
        obtain ⟨exit, agent', hrun, hiff, heff, henv⟩ :=
          ih hrest unboxer agent hready (fun e he => hpresent e (List.mem_cons_of_mem _ he))
        refine ⟨exit, agent', by simp [unboxLoop, hv, hrun], by simp [hiff, UnboxesWith, hv],
          heff, fun hc => ?_⟩
        obtain ⟨hlookup, hsens⟩ := henv hc
        exact ⟨lookup_after_entry hkey hlookup (by simp [hvalue, unboxedValue, hv]) fun _ _ => rfl,
          by simp [hsens, unboxedSecrets, hv]⟩
      | other message =>
        rw [unboxLoop, hv]
        exact ⟨_, _, rfl, by simp [UnboxesWith, hv],
          @reported_effects agent agent [] _ (by simp) rfl (Nat.zero_le _) _, by simp⟩
    | ok boxedValue =>
      obtain ⟨hexec, pre, hpre, hpreReport, hpreClient⟩ := acquired_agent unboxer agent
      rw [unboxLoop, hv]
      simp only
      rw [acquireUnboxer_eq vault E hready]
      generalize (if unboxer = none then agent.emit .newVaultClient else agent) = acquired
        at hexec hpre ⊢
      cases hc : newFromEnvironment vault E with
      | error err =>
        exact ⟨_, _, rfl, by simp [UnboxesWith, hv, hc],
          reported_effects hpre hpreReport hpreClient _, by simp⟩
      | ok unboxer' =>
        dsimp only
        cases hs : f unboxer' boxedValue with
        | error err =>
          exact ⟨_, _, rfl, by simp [UnboxesWith, hv, hs],
            reported_effects hpre hpreReport hpreClient _, by simp⟩
        | ok secret =>
          have hpresent' : ∀ e ∈ rest, ((acquired.executor.env.set key secret).addSensitiveValues
              [secret]).lookup e.1 = some e.2 := by
            intro e he
            have hne : e.1 ≠ key := fun heq => hkey (heq ▸ List.mem_keys_of_mem he)
            simp [hexec, hne, hpresent e (List.mem_cons_of_mem _ he)]
          obtain ⟨exit, agent', hrun, hiff, ⟨new, hnew, hnewReport, hnewClient⟩, henv⟩ :=
            ih hrest (some unboxer') (acquired.setEnv ((acquired.executor.env.set key secret).addSensitiveValues
              [secret])) ⟨by simp, by simp [hc]⟩ hpresent'
          refine ⟨exit, agent', hrun, by simp [hiff, UnboxesWith, hv, hs, hc],
            ⟨pre ++ new, by simp [hnew, hpre], by simp [hpreReport, hnewReport],
              by simpa using Nat.add_le_add hpreClient hnewClient⟩, fun hdone => ?_⟩
          obtain ⟨hlookup, hsens⟩ := henv hdone
          rw [hc] at hlookup
          exact ⟨lookup_after_entry hkey hlookup (by simp [unboxedValue, hv, hs, hc])
              fun _ hk => by simp [hk, hexec],
            by simp [hsens, hexec, unboxedSecrets, hv, unboxedValue, hs, hc]⟩

end Run

section Outcome

variable (f : VaultUnboxer → BoxedValue → Except String String)

/-- An iteration order of the environment has distinct keys and holds exactly its
entries. -/
theorem nodupKeys_of_perm_items {env : Environment} {order : List (Σ _ : String, String)}
    (horder : order.Perm env.items) :
    order.NodupKeys ∧ ∀ e, e ∈ order ↔ env.lookup e.1 = some e.2 :=
  ⟨(horder.map Sigma.fst).nodup_iff.mpr env.env.nodupKeys,
    fun _ => horder.mem_iff.trans Environment.mem_items⟩

/-- A loop over an iteration order of the environment that completes appends to the
sensitive values the secrets of the boxed variables, in that order, read with the client
built from the environment. -/
theorem unboxLoop_completed_sensitiveValues (agent : Agent) (order : List (Σ _ : String, String))
    (horder : order.Perm agent.executor.env.items) {agent' : Agent}
    (h : unboxLoop vault newBoxedValue (fun c b => pure (f c b)) order none agent =
      .ok (.completed, agent')) :
    agent'.executor.env.sensitiveValues = agent.executor.env.sensitiveValues ++
      unboxedSecrets newBoxedValue f (newFromEnvironment vault agent.executor.env) order := by
  obtain ⟨hnodup, hmem⟩ := nodupKeys_of_perm_items horder
  obtain ⟨exit, agent'', hrun, -, -, henv⟩ :=
    unboxLoop_run vault newBoxedValue f agent.executor.env order hnodup none agent
      ⟨fun _ => rfl, fun _ h => by cases h⟩ (fun e he => (hmem e).mp he)
  rw [h] at hrun
  cases hrun
  exact (henv rfl).2

theorem unboxFails_iff (env : Environment) :
    UnboxFails vault newBoxedValue f env ↔ ∃ key value, env.lookup key = some value ∧
      ¬ UnboxesWith newBoxedValue f (newFromEnvironment vault env) value := by
  constructor
  · rintro (⟨key, value, message, hlookup, hv⟩ | ⟨⟨key, value, boxedValue, hlookup, hv⟩, hall⟩)
    · exact ⟨key, value, hlookup, by simp [UnboxesWith, hv]⟩
    · cases hc : newFromEnvironment vault env with
      | error => exact ⟨key, value, hlookup, by simp [UnboxesWith, hv]⟩
      | ok unboxer =>
        obtain ⟨key', value', boxedValue', message, hlookup', hv', hf⟩ := hall unboxer hc
        exact ⟨key', value', hlookup', by simp [UnboxesWith, hv', hf]⟩
  · rintro ⟨key, value, hlookup, hnot⟩
    cases hv : newBoxedValue value with
    | error err =>
      cases err with
      | notABoxedValue => simp [UnboxesWith, hv] at hnot
      | other message => exact .inl ⟨key, value, message, hlookup, hv⟩
    | ok boxedValue =>
      refine .inr ⟨⟨key, value, boxedValue, hlookup, hv⟩, fun unboxer hc => ?_⟩
      cases hf : f unboxer boxedValue with
      | error message => exact ⟨key, value, boxedValue, message, hlookup, hv, hf⟩
      | ok secret => simp [UnboxesWith, hv, hc, hf] at hnot

theorem mem_unboxedSecrets {client : Except String VaultUnboxer}
    {entries : List (Σ _ : String, String)} {secret : String} :
    secret ∈ unboxedSecrets newBoxedValue f client entries ↔ ∃ e ∈ entries, ∃ boxedValue,
      newBoxedValue e.2 = .ok boxedValue ∧ unboxedValue newBoxedValue f client e.2 = secret := by
  rw [unboxedSecrets, List.mem_filterMap]
  constructor
  · rintro ⟨e, he, hsome⟩
    cases hv : newBoxedValue e.2 with
    | error => simp [hv] at hsome
    | ok boxedValue => exact ⟨e, he, boxedValue, hv, by simpa [hv] using hsome⟩
  · rintro ⟨e, he, boxedValue, hv, rfl⟩
    exact ⟨e, he, by simp [hv]⟩

/-- What the unbox loop did, started from `agent` and ended in `exit` with `agent'`: it
reported an error exactly when the environment makes unboxing fail, and then only once;
it built at most one client; and when it completed, every boxed variable holds the secret
read with the client built from the original environment, that secret is sensitive, and
every other variable is unchanged. -/
structure UnboxResult (agent agent' : Agent) (exit : UnboxExit) : Prop where
  reported_iff : exit = .reported ↔ UnboxFails vault newBoxedValue f agent.executor.env
  effects : ∃ new, agent'.effects = agent.effects ++ new ∧
    new.countP Effect.isReportError = (if exit = .reported then 1 else 0) ∧
    new.count .newVaultClient ≤ 1
  unboxed : exit = .completed → ∀ key, agent'.executor.env.lookup key =
    (agent.executor.env.lookup key).map
      (unboxedValue newBoxedValue f (newFromEnvironment vault agent.executor.env))
  sensitive : exit = .completed → ∀ secret, secret ∈ agent'.executor.env.sensitiveValues ↔
    secret ∈ agent.executor.env.sensitiveValues ∨ ∃ key value boxedValue unboxer,
      agent.executor.env.lookup key = some value ∧ newBoxedValue value = .ok boxedValue ∧
      newFromEnvironment vault agent.executor.env = .ok unboxer ∧ f unboxer boxedValue = .ok secret

/-- The unbox loop, over any iteration order of the environment, does what `UnboxResult`
says; in particular its outcome does not depend on the order. -/
theorem unboxLoop_outcome (agent : Agent) (order : List (Σ _ : String, String))
    (horder : order.Perm agent.executor.env.items) :
    ∃ exit agent', unboxLoop vault newBoxedValue (fun c b => pure (f c b)) order none agent =
      .ok (exit, agent') ∧ UnboxResult vault newBoxedValue f agent agent' exit := by
  obtain ⟨hnodup, hmem⟩ := nodupKeys_of_perm_items horder
  obtain ⟨exit, agent', hrun, hiff, ⟨new, hnew, hreport, hclient⟩, henv⟩ :=
    unboxLoop_run vault newBoxedValue f agent.executor.env order hnodup none agent
      ⟨fun _ => rfl, fun _ h => by cases h⟩ (fun e he => (hmem e).mp he)
  have hall : exit = .completed → ∀ e ∈ order,
      UnboxesWith newBoxedValue f (newFromEnvironment vault agent.executor.env) e.2 := by
    intro hdone e he
    by_contra hnot
    exact absurd (hiff.mpr ⟨e, he, hnot⟩) (by simp [hdone])
  refine ⟨exit, agent', hrun, ⟨?_, ⟨new, hnew, hreport, by simpa using hclient⟩, ?_, ?_⟩⟩
  · rw [hiff, unboxFails_iff]
    exact ⟨fun ⟨e, he, hnot⟩ => ⟨e.1, e.2, (hmem e).mp he, hnot⟩,
      fun ⟨key, value, hlookup, hnot⟩ => ⟨⟨key, value⟩, (hmem _).mpr hlookup, hnot⟩⟩
  · intro hdone key
    have hentries : agent.executor.env.env.entries.dlookup key = agent.executor.env.lookup key := rfl
    rw [(henv hdone).1, List.perm_dlookup key hnodup agent.executor.env.env.nodupKeys horder,
      hentries]
    cases agent.executor.env.lookup key <;> rfl
  · intro hdone secret
    rw [(henv hdone).2, List.mem_append, mem_unboxedSecrets]
    refine or_congr_right ⟨?_, ?_⟩
    · rintro ⟨e, he, boxedValue, hv, rfl⟩
      have hok := hall hdone e he
      unfold UnboxesWith at hok
      rw [hv] at hok
      cases hc : newFromEnvironment vault agent.executor.env with
      | error => simp [hc] at hok
      | ok unboxer =>
        simp only [hc] at hok
        obtain ⟨secret, hf⟩ := hok
        exact ⟨e.1, e.2, boxedValue, unboxer, (hmem e).mp he, hv, rfl, by
          simp [unboxedValue, hv, hc, hf]⟩
    · rintro ⟨key, value, boxedValue, unboxer, hlookup, hv, hc, hf⟩
      exact ⟨⟨key, value⟩, (hmem _).mpr hlookup, boxedValue, hv, by
        simp [unboxedValue, hv, hc, hf]⟩

theorem unboxLoop_outcome_vault_secret :
    let vault : VaultApi := ⟨.ok (), fun _ => .ok (), fun _ _ => .ok (),
      fun _ _ => .ok (some ⟨none⟩), fun _ _ => .ok "s3cr3t"⟩
    let parse : String → Except BoxedValueError BoxedValue := fun value =>
      if value = "VAULT[kv/data/my#field]" then .ok ⟨"kv/data/my", "field"⟩
      else .error .notABoxedValue
    let f : VaultUnboxer → BoxedValue → Except String String := fun _ _ => .ok "s3cr3t"
    let agent : Agent := ⟨{ newExecutor 1 "" "" "" "" "" with
      env := (Environment.newEmpty.set "KEY" "VAULT[kv/data/my#field]").set envCirrusVaultURL
        "https://vault" }, [], 0⟩
    agent.executor.env.items.Perm agent.executor.env.items ∧
      ∃ exit agent', unboxLoop vault parse (fun c b => pure (f c b)) agent.executor.env.items none
        agent = .ok (exit, agent') ∧ UnboxResult vault parse f agent agent' exit := by
  intro vault parse f agent
  exact ⟨.refl _, unboxLoop_outcome vault parse f agent _ (.refl _)⟩

end Outcome

/-- A boxed variable whose path holds no secret: the store answers no secret and no error,
and the loop panics on `secret.Data` instead of reporting the failure. -/
theorem unboxLoop_missing_secret_panics :
    let vault : VaultApi := ⟨.ok (), fun _ => .ok (), fun _ _ => .ok (),
      fun _ _ => .ok none, fun _ _ => .ok "s3cr3t"⟩
    let parse : String → Except BoxedValueError BoxedValue := fun value =>
      if value = "VAULT[kv/data/missing#field]" then .ok ⟨"kv/data/missing", "field"⟩
      else .error .notABoxedValue
    let agent : Agent := ⟨{ newExecutor 1 "" "" "" "" "" with
      env := (Environment.newEmpty.set "KEY" "VAULT[kv/data/missing#field]").set
        envCirrusVaultURL "https://vault" }, [], 0⟩
    unboxLoop vault parse (fun unboxer => unboxer.unbox vault) agent.executor.env.items none agent =
      .error (.nilPointerDereference "secret") := by
  intro vault parse agent
  rfl

/-- In any order, the loop panics at its first boxed variable when the client can be built
and the store answers no secret and no error for the variable's path: `Unbox` dereferences
the missing secret instead of reporting the failure. -/
theorem unboxLoop_nil_secret_panics {before rest : List (Σ _ : String, String)}
    {key value : String} {boxedValue : BoxedValue} {unboxer : VaultUnboxer} {agent : Agent}
    (hbefore : ∀ e ∈ before, newBoxedValue e.2 = .error .notABoxedValue)
    (hv : newBoxedValue value = .ok boxedValue)
    (hclient : newFromEnvironment vault agent.executor.env = .ok unboxer)
    (hread : vault.read unboxer.client boxedValue.vaultPath = .ok none) :
    unboxLoop vault newBoxedValue (fun unboxer => unboxer.unbox vault)
        (before ++ ⟨key, value⟩ :: rest) none agent =
      .error (.nilPointerDereference "secret") := by
  induction before with
  | nil =>
    rw [List.nil_append, unboxLoop, hv]
    simp only [acquireUnboxer, hclient, unbox_nil_secret_panics vault _ _ hread]
    rfl
  | cons entry before ih =>
    rw [List.cons_append, unboxLoop, hbefore entry (List.mem_cons_self _ _)]
    exact ih fun e he => hbefore e (List.mem_cons_of_mem _ he)

end CirrusAgent
