import CirrusAgent.Command
import Mathlib.Data.List.Nodup

/-! # Bounded resumption

`BoundedCommands` restricts a task to the half-open range `[fromName, toName)` of its
commands by one scan that records the index of every command matching either name. With
unique names the two bounds are the names' positions, and the result is the slice
between them; when `toName` comes before `fromName` the Go slice expression panics.
-/

namespace CirrusAgent

/-- The `for i, command := range commands` loop of `BoundedCommands`, from index `i` on,
with the bounds found so far. -/
def boundsScan (fromName toName : String) : Nat → Nat × Nat → List Command → Nat × Nat
  | _, bounds, [] => bounds
  | i, (left, right), command :: rest =>
    boundsScan fromName toName (i + 1)
      (if fromName != "" && command.name == fromName then i else left,
        if toName != "" && command.name == toName then i else right) rest

/-- `BoundedCommands`: the slice `commands[left:right]`, a panic when `left > right`. -/
def boundedCommands (commands : List Command) (fromName toName : String) :
    Except Panic (List Command) :=
  let (left, right) := boundsScan fromName toName 0 (0, commands.length) commands
  if left ≤ right then .ok ((commands.take right).drop left)
  else .error (.sliceBoundsOutOfRange left right)

/-- The bound a name selects: the position of the command it names, or `default` when the
name is empty or names no command. -/
def nameIndex (commands : List Command) (name : String) (default : Nat) : Nat :=
  if name = "" then default else (commands.findIdx? (·.name == name)).getD default

/-- Unique command names, the contract `BoundedCommands` is documented with. -/
def UniqueNames (commands : List Command) : Prop := (commands.map Command.name).Nodup

instance : DecidablePred UniqueNames := fun commands =>
  inferInstanceAs (Decidable (commands.map Command.name).Nodup)

section Scan

variable {fromName toName : String}

theorem UniqueNames.tail {command : Command} {rest : List Command}
    (h : UniqueNames (command :: rest)) : UniqueNames rest :=
  (List.nodup_cons.mp h).2

theorem UniqueNames.not_mem {command : Command} {rest : List Command}
    (h : UniqueNames (command :: rest)) : ∀ c ∈ rest, c.name ≠ command.name :=
  fun _ hc heq => (List.nodup_cons.mp h).1 (heq ▸ List.mem_map_of_mem _ hc)

/-- One step of the scan, for one bound: the index found from `i` on. -/
theorem findIdx?_getD_cons {name : String} {command : Command} {rest : List Command}
    (hunique : UniqueNames (command :: rest)) (hname : name ≠ "") (i default : Nat) :
    (rest.findIdx? (·.name == name) (i + 1)).getD
        (if name != "" && command.name == name then i else default) =
      ((command :: rest).findIdx? (·.name == name) i).getD default := by
  by_cases hc : command.name = name
  · have hnone : rest.findIdx? (·.name == name) = none := by
      rw [List.findIdx?_eq_none_iff]
      intro c hmem
      simpa [← hc] using hunique.not_mem c hmem
    simp [hnone, hc, hname]
  · simp [hc]

theorem boundsScan_eq {commands : List Command} (hunique : UniqueNames commands)
    (i left right : Nat) :
    boundsScan fromName toName i (left, right) commands =
      (if fromName = "" then left else (commands.findIdx? (·.name == fromName) i).getD left,
        if toName = "" then right else (commands.findIdx? (·.name == toName) i).getD right) := by
  induction commands generalizing i left right with
  | nil => simp [boundsScan]
  | cons command rest ih =>
    rw [boundsScan, ih hunique.tail]
    congr 1
    · by_cases hf : fromName = ""
      · simp [hf]
      · simp only [hf, if_false, findIdx?_getD_cons hunique hf]
    · by_cases ht : toName = ""
      · simp [ht]
      · simp only [ht, if_false, findIdx?_getD_cons hunique ht]

/-- With unique names, `BoundedCommands` is the slice between the two names' positions,
and panics exactly when the upper bound precedes the lower one. -/
theorem boundedCommands_eq {commands : List Command} (hunique : UniqueNames commands) :
    boundedCommands commands fromName toName =
      let left := nameIndex commands fromName 0
      let right := nameIndex commands toName commands.length
      if left ≤ right then .ok ((commands.take right).drop left)
      else .error (.sliceBoundsOutOfRange left right) := by
  simp only [boundedCommands, boundsScan_eq hunique, nameIndex]

end Scan

section Slice

variable {commands : List Command} {fromName toName : String}

theorem nameIndex_of_findIdx? {name : String} {default i : Nat} (hname : name ≠ "")
    (h : commands.findIdx? (·.name == name) = some i) : nameIndex commands name default = i := by
  simp [nameIndex, hname, h]

theorem boundedCommands_of_le (hunique : UniqueNames commands)
    (hle : nameIndex commands fromName 0 ≤ nameIndex commands toName commands.length) :
    boundedCommands commands fromName toName =
      .ok ((commands.take (nameIndex commands toName commands.length)).drop
        (nameIndex commands fromName 0)) := by
  rw [boundedCommands_eq hunique]
  exact if_pos hle

/-- The precondition of the documented range: a `fromName` command at or before the
`toName` command. -/
theorem nameIndex_le_of_ordered
    (hordered : ∀ i j, commands.findIdx? (·.name == fromName) = some i →
      commands.findIdx? (·.name == toName) = some j → i ≤ j) :
    nameIndex commands fromName 0 ≤ nameIndex commands toName commands.length := by
  by_cases hf : fromName = ""
  · simp [nameIndex, hf]
  cases hi : commands.findIdx? (·.name == fromName) with
  | none => simp [nameIndex, hf, hi]
  | some i =>
    have hlt := (List.findIdx?_eq_some_iff_findIdx_eq.mp hi).1
    rw [nameIndex_of_findIdx? hf hi]
    by_cases ht : toName = ""
    · simp [nameIndex, ht, hlt.le]
    cases hj : commands.findIdx? (·.name == toName) with
    | none => simp [nameIndex, ht, hj, hlt.le]
    | some j => rw [nameIndex_of_findIdx? ht hj]; exact hordered i j hi hj

theorem boundedCommands_empty_names (commands : List Command) :
    boundedCommands commands "" "" = .ok commands := by
  have hscan : ∀ i left right, boundsScan "" "" i (left, right) commands = (left, right) := by
    induction commands with
    | nil => intros; rfl
    | cons command rest ih => intro i left right; simp [boundsScan, ih]
  simp [boundedCommands, hscan]

/-- The slice never reaches the command named `toName`. -/
theorem not_mem_boundedCommands (hunique : UniqueNames commands) (hto : toName ≠ "")
    {result : List Command} (h : boundedCommands commands fromName toName = .ok result) :
    ∀ command ∈ result, command.name ≠ toName := by
  rw [boundedCommands_eq hunique] at h
  simp only at h
  split at h
  · cases h
    intro command hmem
    have htake := List.mem_of_mem_drop hmem
    cases hj : commands.findIdx? (·.name == toName) with
    | none =>
      have := List.findIdx?_eq_none_iff.mp hj command (List.mem_of_mem_take htake)
      simpa using this
    | some j =>
      rw [nameIndex_of_findIdx? hto hj] at htake
      obtain ⟨k, hk, hkj, rfl⟩ := List.mem_take_iff_getElem.mp htake
      obtain ⟨_, -, hbefore⟩ := List.findIdx?_eq_some_iff_getElem.mp hj
      simpa using hbefore k (by omega)
  · cases h

/-- The slice starts with the command named `fromName` when it lies below the upper bound. -/
theorem boundedCommands_head? (hunique : UniqueNames commands) (hfrom : fromName ≠ "")
    {i : Nat} (hi : commands.findIdx? (·.name == fromName) = some i)
    (hlt : i < nameIndex commands toName commands.length) :
    ∃ result, boundedCommands commands fromName toName = .ok result ∧
      result.head? = commands[i]? := by
  rw [← @nameIndex_of_findIdx? _ _ 0 _ hfrom hi] at hlt ⊢
  refine ⟨_, boundedCommands_of_le hunique hlt.le, ?_⟩
  rw [List.head?_drop, List.getElem?_take_of_lt hlt]

/-- Adjacent ranges glue: `[a, m) ++ [m, b) = [a, b)` for a command named `m` between. -/
theorem boundedCommands_append (hunique : UniqueNames commands) {a m b : String} {k : Nat}
    (hm : m ≠ "") (hk : commands.findIdx? (·.name == m) = some k)
    (hak : nameIndex commands a 0 ≤ k) (hkb : k ≤ nameIndex commands b commands.length) :
    ∃ first second, boundedCommands commands a m = .ok first ∧
      boundedCommands commands m b = .ok second ∧
      boundedCommands commands a b = .ok (first ++ second) := by
  have hmk := @nameIndex_of_findIdx? _ _ commands.length _ hm hk
  have hmk0 := @nameIndex_of_findIdx? _ _ 0 _ hm hk
  have hklen := (List.findIdx?_eq_some_iff_findIdx_eq.mp hk).1
  refine ⟨_, _, boundedCommands_of_le hunique (hmk ▸ hak),
    boundedCommands_of_le hunique (hmk0 ▸ hkb), ?_⟩
  rw [boundedCommands_of_le hunique (hak.trans hkb), hmk, hmk0]
  congr 1
  conv_lhs => rw [← List.take_append_drop k (commands.take _)]
  rw [List.take_take, Nat.min_eq_left hkb, List.drop_append_of_le_length (by simp; omega)]

/-- Every bounded command is a command of the list. -/
theorem mem_of_mem_boundedCommands {result : List Command}
    (h : boundedCommands commands fromName toName = .ok result) :
    ∀ command ∈ result, command ∈ commands := by
  unfold boundedCommands at h
  split at h
  split at h
  · cases h
    exact fun _ hmem => List.mem_of_mem_take (List.mem_of_mem_drop hmem)
  · cases h

/-- The only panic of `BoundedCommands` is the slice expression with reversed bounds. -/
theorem boundedCommands_error {p : Panic} (h : boundedCommands commands fromName toName = .error p) :
    ∃ left right, right < left ∧ p = .sliceBoundsOutOfRange left right := by
  unfold boundedCommands at h
  split at h
  split at h
  · cases h
  · cases h
    exact ⟨_, _, Nat.gt_of_not_le ‹_›, rfl⟩

end Slice

/-- What `BoundedCommands` promises for one command list: the half-open range between the
two names' positions, the whole list for two empty names, never the `toName` command, a
first element named `fromName`, and adjacent ranges that glue. -/
structure BoundedRangeLaws (commands : List Command) : Prop where
  slice : ∀ fromName toName,
    (∀ i j, commands.findIdx? (·.name == fromName) = some i →
      commands.findIdx? (·.name == toName) = some j → i ≤ j) →
    boundedCommands commands fromName toName =
      .ok ((commands.take (nameIndex commands toName commands.length)).drop
        (nameIndex commands fromName 0))
  unbounded : boundedCommands commands "" "" = .ok commands
  excludes_to : ∀ fromName toName result, toName ≠ "" →
    boundedCommands commands fromName toName = .ok result →
    ∀ command ∈ result, command.name ≠ toName
  starts_at_from : ∀ fromName toName i, fromName ≠ "" →
    commands.findIdx? (·.name == fromName) = some i →
    i < nameIndex commands toName commands.length →
    ∃ result, boundedCommands commands fromName toName = .ok result ∧
      result.head? = commands[i]?
  append : ∀ a m b k, m ≠ "" → commands.findIdx? (·.name == m) = some k →
    nameIndex commands a 0 ≤ k → k ≤ nameIndex commands b commands.length →
    ∃ first second, boundedCommands commands a m = .ok first ∧
      boundedCommands commands m b = .ok second ∧
      boundedCommands commands a b = .ok (first ++ second)

theorem boundedCommands_laws (commands : List Command) (hunique : UniqueNames commands) :
    BoundedRangeLaws commands where
  slice _ _ hordered := boundedCommands_of_le hunique (nameIndex_le_of_ordered hordered)
  unbounded := boundedCommands_empty_names commands
  excludes_to _ _ _ hto h := not_mem_boundedCommands hunique hto h
  starts_at_from _ _ _ hfrom hi hlt := boundedCommands_head? hunique hfrom hi hlt
  append _ _ _ _ hm hk hak hkb := boundedCommands_append hunique hm hk hak hkb

theorem boundedCommands_laws_abcd :
    let commands : List Command := [⟨"a", .always, .cloneInstruction⟩,
      ⟨"b", .onSuccess, .scriptInstruction⟩, ⟨"c", .onFailure, .scriptInstruction⟩,
      ⟨"d", .always, .exitInstruction⟩]
    UniqueNames commands ∧ BoundedRangeLaws commands :=
  ⟨by decide, boundedCommands_laws _ (by decide)⟩

/-- A `toName` command listed before the `fromName` command makes the slice expression
`commands[1:0]` panic instead of yielding the empty range. -/
theorem boundedCommands_reversed_panics :
    boundedCommands [⟨"a", .always, .scriptInstruction⟩, ⟨"b", .always, .scriptInstruction⟩]
      "b" "a" = .error (.sliceBoundsOutOfRange 1 0) := rfl

end CirrusAgent
