import CirrusAgent.Executor

/-! # Vault-boxed variables

A variable whose value reads `VAULT[path selector]` holds a reference into a Vault store.
`RunBuild` walks the environment once; for every boxed value it builds the Vault client
on first need (`NewFromEnvironment`), reads the secret at the path, applies the selector,
and puts the result back into the environment as a sensitive value. A parse error, a
client that cannot be built or a failed read is reported through `reportError` and ends
the task.

The Vault API and the parser of boxed values are not part of the sources: their answers
are parameters.
-/

namespace CirrusAgent

/-- `EnvCirrusVaultURL`. -/
def envCirrusVaultURL : String := "CIRRUS_VAULT_URL"

/-- `EnvCirrusVaultNamespace`. -/
def envCirrusVaultNamespace : String := "CIRRUS_VAULT_NAMESPACE"

/-- `EnvCirrusVaultRole`. -/
def envCirrusVaultRole : String := "CIRRUS_VAULT_ROLE"

/-- Modelled from the spec: `vaultunboxer.BoxedValue` (absent from the sources), the path
read from the store and the selector applied to the secret. -/
structure BoxedValue where
  vaultPath : String
  selector : String
  deriving DecidableEq, Repr

/-- The errors of `vaultunboxer.NewBoxedValue`: `ErrNotABoxedValue`, or any other. -/
inductive BoxedValueError where
  | notABoxedValue
  | other (message : String)
  deriving DecidableEq, Repr

/-- `JWTAuth`. -/
structure JWTAuth where
  token : String
  role : String
  deriving DecidableEq, Repr

/-- A Vault client as `NewFromEnvironment` leaves it. -/
structure VaultClient where
  address : String
  vaultNamespace : Option String
  login : Option JWTAuth
  deriving DecidableEq, Repr

/-- `*vault.Secret`; a nil `Data` map is `none`. -/
structure Secret where
  data : Option StringMap

/-- The answers of the Vault API (`github.com/hashicorp/vault/api`) and of
`BoxedValue.Select`. A read answers an error, a secret, or no secret and no error (what
the client returns for a path that holds no secret). -/
structure VaultApi where
  newClient : Except String Unit
  setAddress : String → Except String Unit
  login : VaultClient → JWTAuth → Except String Unit
  read : VaultClient → String → Except String (Option Secret)
  select : BoxedValue → Option StringMap → Except String String

/-- `VaultUnboxer`. -/
structure VaultUnboxer where
  client : VaultClient
  deriving DecidableEq, Repr

variable (vault : VaultApi)

/-- `NewFromEnvironment`. -/
def newFromEnvironment (env : Environment) : Except String VaultUnboxer := do
  vault.newClient
  let some url := env.lookup envCirrusVaultURL
    | .error s!"found Vault-protected environment variables, but no {envCirrusVaultURL} variable was provided"
  vault.setAddress url
  let client : VaultClient := ⟨url, env.lookup envCirrusVaultNamespace, none⟩
  match env.lookup "CIRRUS_OIDC_TOKEN" with
  | some jwtToken =>
    let auth : JWTAuth := ⟨jwtToken, env.get envCirrusVaultRole⟩
    vault.login client auth
    pure ⟨{ client with login := some auth }⟩
  | none => pure ⟨client⟩

/-- `VaultUnboxer.Unbox`: `secret.Data` dereferences the secret even when the read
returned none. -/
def VaultUnboxer.unbox (unboxer : VaultUnboxer) (selector : BoxedValue) :
    Except Panic (Except String String) :=
  match vault.read unboxer.client selector.vaultPath with
  | .error err => pure (.error err)
  | .ok none => throw (.nilPointerDereference "secret")
  | .ok (some secret) => pure (vault.select selector secret.data)

/-- `NewFromEnvironment` reads the environment only through the four Vault variables. -/
theorem newFromEnvironment_congr {env env' : Environment}
    (h : ∀ key ∈ [envCirrusVaultURL, envCirrusVaultNamespace, "CIRRUS_OIDC_TOKEN",
      envCirrusVaultRole], env.lookup key = env'.lookup key) :
    newFromEnvironment vault env = newFromEnvironment vault env' := by
  simp only [List.mem_cons, List.mem_singleton, forall_eq_or_imp, forall_eq,
    List.not_mem_nil, or_false] at h
  obtain ⟨hurl, hns, htoken, hrole⟩ := h
  simp only [newFromEnvironment, Environment.get, hurl, hns, htoken, hrole]

/-- A variable besides the four Vault variables, here `PATH`, does not change the client. -/
theorem newFromEnvironment_congr_path :
    let vault : VaultApi := ⟨.ok (), fun _ => .ok (), fun _ _ => .ok (), fun _ _ => .ok none,
      fun _ _ => .ok ""⟩
    let env := Environment.newEmpty.set envCirrusVaultURL "https://vault.example.com"
    let env' := env.set "PATH" "/usr/bin"
    (∀ key ∈ [envCirrusVaultURL, envCirrusVaultNamespace, "CIRRUS_OIDC_TOKEN",
      envCirrusVaultRole], env.lookup key = env'.lookup key) ∧
      newFromEnvironment vault env = newFromEnvironment vault env' := by
  intro vault env env'
  have h : ∀ key ∈ [envCirrusVaultURL, envCirrusVaultNamespace, "CIRRUS_OIDC_TOKEN",
      envCirrusVaultRole], env.lookup key = env'.lookup key := by decide
  exact ⟨h, newFromEnvironment_congr vault h⟩

/-- A read that answers no secret and no error panics instead of returning an error. -/
theorem unbox_nil_secret_panics (unboxer : VaultUnboxer) (selector : BoxedValue)
    (hread : vault.read unboxer.client selector.vaultPath = .ok none) :
    unboxer.unbox vault selector = .error (.nilPointerDereference "secret") := by
  simp [VaultUnboxer.unbox, hread, throw, throwThe, MonadExceptOf.throw]

/-- The only panic of `Unbox` is the dereference of a nil secret. -/
theorem unbox_error {unboxer : VaultUnboxer} {selector : BoxedValue} {p : Panic}
    (h : unboxer.unbox vault selector = .error p) : p = .nilPointerDereference "secret" := by
  unfold VaultUnboxer.unbox at h
  split at h <;> cases h
  rfl

/-- What `Unbox` answers, its panic read as an error: the loop of `RunBuild` stops at a
panic, so on a run that does not panic it only ever sees these answers. -/
def VaultUnboxer.unboxAnswer (unboxer : VaultUnboxer) (selector : BoxedValue) :
    Except String String :=
  match unboxer.unbox vault selector with
  | .ok answer => answer
  | .error _ => .error "panic"

theorem unboxAnswer_of_unbox {unboxer : VaultUnboxer} {selector : BoxedValue}
    {answer : Except String String} (h : unboxer.unbox vault selector = .ok answer) :
    unboxer.unboxAnswer vault selector = answer := by
  rw [VaultUnboxer.unboxAnswer, h]

end CirrusAgent
