import Mathlib.Data.List.AList

/-! # The task environment

The executor keeps its variables in an `environment.Environment`: a map from names to
values, and the list of values that the log uploader must redact. The package itself is
not part of the sources, so its operations follow the contract the specification gives
them (`lookup`, `get`, `set`, `merge`, `items`, `addSensitiveValues`). Go maps have unique
keys and no order; `AList` has the same two properties, and an iteration order is a
permutation of its entries.
-/

namespace CirrusAgent

/-- A Go `map[string]string`. -/
abbrev StringMap := AList (fun _ : String => String)

/-- Modelled from the spec: `environment.Environment` (internal/environment, absent from
the sources), a mapping and its sensitive values. -/
structure Environment where
  env : StringMap
  sensitiveValues : List String

namespace Environment

/-- `environment.NewEmpty`. -/
def newEmpty : Environment := ⟨∅, []⟩

/-- Modelled from the spec: `Environment.Lookup`. -/
def lookup (e : Environment) (key : String) : Option String := e.env.lookup key

/-- Modelled from the spec: `Environment.Get`, the empty string for a missing key. -/
def get (e : Environment) (key : String) : String := (e.lookup key).getD ""

/-- Modelled from the spec: `Environment.Set`. -/
def set (e : Environment) (key value : String) : Environment :=
  { e with env := e.env.insert key value }

/-- Modelled from the spec: `Environment.AddSensitiveValues`. -/
def addSensitiveValues (e : Environment) (values : List String) : Environment :=
  { e with sensitiveValues := e.sensitiveValues ++ values }

/-- Modelled from the spec: `Environment.Merge`. The merged map wins over the current
one, and its values become sensitive when `isSensitive` holds. -/
def merge (e : Environment) (other : StringMap) (isSensitive : Bool) : Environment :=
  { env := other ∪ e.env
    sensitiveValues :=
      if isSensitive then e.sensitiveValues ++ other.entries.map Sigma.snd
      else e.sensitiveValues }

/-- Modelled from the spec: `Environment.Items`, in one of its iteration orders. -/
def items (e : Environment) : List (Σ _ : String, String) := e.env.entries

@[simp] theorem lookup_set_self (e : Environment) (key value : String) :
    (e.set key value).lookup key = some value := AList.lookup_insert _

@[simp] theorem lookup_set_ne (e : Environment) {key key' : String} (value : String)
    (h : key' ≠ key) : (e.set key value).lookup key' = e.lookup key' :=
  AList.lookup_insert_ne h

/-- What a variable of `e.set key value` holds: `value` at `key`, and elsewhere what it held
in `e`. -/
theorem lookup_set_eq_some {e : Environment} {key value key' value' : String}
    (h : (e.set key value).lookup key' = some value') :
    key' = key ∧ value' = value ∨ key' ≠ key ∧ e.lookup key' = some value' := by
  by_cases hkey : key' = key
  · subst hkey
    rw [lookup_set_self] at h
    exact .inl ⟨rfl, (Option.some.inj h).symm⟩
  · rw [lookup_set_ne _ _ hkey] at h
    exact .inr ⟨hkey, h⟩

@[simp] theorem set_sensitiveValues (e : Environment) (key value : String) :
    (e.set key value).sensitiveValues = e.sensitiveValues := rfl

@[simp] theorem addSensitiveValues_lookup (e : Environment) (values : List String) :
    (e.addSensitiveValues values).lookup = e.lookup := rfl

@[simp] theorem addSensitiveValues_sensitiveValues (e : Environment) (values : List String) :
    (e.addSensitiveValues values).sensitiveValues = e.sensitiveValues ++ values := rfl

theorem lookup_merge (e : Environment) (other : StringMap) (isSensitive : Bool)
    (key : String) :
    (e.merge other isSensitive).lookup key = (other.lookup key).or (e.lookup key) := by
  by_cases h : key ∈ other
  · obtain ⟨value, hvalue⟩ := Option.isSome_iff_exists.mp (AList.lookup_isSome.mpr h)
    simp [lookup, merge, AList.lookup_union_left h, hvalue]
  · simp [lookup, merge, AList.lookup_union_right h, AList.lookup_eq_none.mpr h]

theorem merge_sensitiveValues (e : Environment) (other : StringMap) (isSensitive : Bool) :
    (e.merge other isSensitive).sensitiveValues =
      e.sensitiveValues ++ if isSensitive then other.entries.map Sigma.snd else [] := by
  cases isSensitive <;> simp [merge]

theorem mem_items {e : Environment} {key value : String} :
    ⟨key, value⟩ ∈ e.items ↔ e.lookup key = some value :=
  AList.mem_lookup_iff.symm

end Environment

end CirrusAgent
