import CirrusAgent.Executor

/-! # The synthesised script environment

`getScriptEnvironment` completes the environment the controller sent: `OS` when neither
side sets it, the platform's `CIRRUS_OS` and `CIRRUS_ARCH`, and a working directory taken
from the server, from the persistent worker, from the shared `cirrus-ci-build` temporary
directory, or from a fresh `cirrus-task-<taskId>` directory.

A resumed run skips the existence check of the shared directory altogether: it always
takes `cirrus-ci-build`. The original run takes it only when it is missing, and otherwise
a directory `os.MkdirTemp` creates under a new name, so the two agree exactly on machines
where no earlier task left that directory behind.
-/

namespace CirrusAgent

/-- The host as `getScriptEnvironment` sees it: the agent's own variables, the platform,
the temporary directory, the path functions of `path/filepath`, and the directory
`os.MkdirTemp` creates (with its random suffix); that its name is new in the file system of
a run is `MkdirTempFresh`. -/
structure Host where
  lookupEnv : String → Option String
  goos : String
  goarch : String
  tempDir : String
  join : String → String → String
  toSlash : String → String
  mkdirTemp : String → String → String

/-- The file system, through `os.IsNotExist(err)` for the error of `os.Stat(path)`. -/
structure FileSystem where
  notExist : String → Bool

/-- `"CIRRUS_WORKING_DIR"`. -/
def cirrusWorkingDir : String := "CIRRUS_WORKING_DIR"

variable (host : Host)

/-- The working-directory part of `getScriptEnvironment`, once the server and the
persistent worker have had their say. -/
def defaultWorkingDir (fs : FileSystem) (executor : Executor) (env : StringMap) : StringMap :=
  if cirrusWorkingDir ∈ env then env
  else
    let defaultTempDirPath := host.join host.tempDir "cirrus-ci-build"
    if fs.notExist defaultTempDirPath then
      env.insert cirrusWorkingDir (host.toSlash defaultTempDirPath)
    else if executor.commandFrom != "" then
      env.insert cirrusWorkingDir (host.toSlash defaultTempDirPath)
    else
      let taskId := executor.taskIdentification.taskId
      env.insert cirrusWorkingDir (host.toSlash (host.mkdirTemp host.tempDir s!"cirrus-task-{taskId}"))

/-- `getScriptEnvironment`; a nil response map is `none`. -/
def getScriptEnvironment (fs : FileSystem) (executor : Executor)
    (responseEnvironment : Option StringMap) : StringMap :=
  let env := responseEnvironment.getD ∅
  let env := if "OS" ∉ env ∧ host.lookupEnv "OS" = none then env.insert "OS" host.goos else env
  let env := (env.insert "CIRRUS_OS" host.goos).insert "CIRRUS_ARCH" host.goarch
  let env := if cirrusWorkingDir ∉ env ∧ executor.preCreatedWorkingDir ≠ "" then
      env.insert cirrusWorkingDir executor.preCreatedWorkingDir
    else env
  defaultWorkingDir host fs executor env

/-- The working directory `getScriptEnvironment` chooses for a response without one and
no persistent-worker directory. -/
theorem getScriptEnvironment_workingDir (fs : FileSystem) (executor : Executor)
    (responseEnvironment : Option StringMap)
    (hresponse : ∀ env, responseEnvironment = some env → cirrusWorkingDir ∉ env)
    (hpre : executor.preCreatedWorkingDir = "") :
    (getScriptEnvironment host fs executor responseEnvironment).lookup cirrusWorkingDir =
      let defaultTempDirPath := host.join host.tempDir "cirrus-ci-build"
      let taskId := executor.taskIdentification.taskId
      some (if fs.notExist defaultTempDirPath || executor.commandFrom != "" then
        host.toSlash defaultTempDirPath
      else host.toSlash (host.mkdirTemp host.tempDir s!"cirrus-task-{taskId}")) := by
  have hnone : cirrusWorkingDir ∉ responseEnvironment.getD ∅ := by
    cases responseEnvironment with
    | none => exact AList.not_mem_empty _
    | some env => exact hresponse env rfl
  have hinsert : ∀ (env : StringMap) key value, key ≠ cirrusWorkingDir →
      cirrusWorkingDir ∉ env → cirrusWorkingDir ∉ env.insert key value := fun _ _ _ hkey h hmem =>
    ((AList.mem_insert _).mp hmem).elim (fun heq => hkey heq.symm) h
  have hos : cirrusWorkingDir ∉ (if "OS" ∉ responseEnvironment.getD ∅ ∧
      host.lookupEnv "OS" = none then (responseEnvironment.getD ∅).insert "OS" host.goos
      else responseEnvironment.getD ∅) := by
    split
    · exact hinsert _ _ _ (by decide) hnone
    · exact hnone
  simp only [getScriptEnvironment, hpre, defaultWorkingDir, ne_eq, not_true_eq_false, and_false,
    if_false]
  rw [if_neg (hinsert _ _ _ (by decide) (hinsert _ _ _ (by decide) hos))]
  by_cases hmissing : fs.notExist (host.join host.tempDir "cirrus-ci-build") <;>
    by_cases hfrom : executor.commandFrom = "" <;> simp [hmissing, hfrom]

/-! ## What the script environment keeps

Every assignment of `getScriptEnvironment` but the two platform variables is made only to a
variable that is absent, so what the controller sent survives, and nothing beyond the four
variables it fills in is added.
-/

/-- The lookup after an assignment made under a condition. -/
theorem lookup_ite_insert (env : StringMap) (k v : String) (c : Prop) [Decidable c]
    (key : String) :
    (if c then env.insert k v else env).lookup key =
      if key = k ∧ c then some v else env.lookup key := by
  by_cases hcond : c
  · by_cases hkey : key = k
    · subst hkey
      simp [hcond, AList.lookup_insert]
    · simp [hcond, hkey, AList.lookup_insert_ne hkey]
  · simp [hcond]

theorem mem_ite_insert (env : StringMap) (k v : String) (c : Prop) [Decidable c]
    (key : String) :
    key ∈ (if c then env.insert k v else env) ↔ key = k ∧ c ∨ key ∈ env := by
  by_cases hcond : c <;> simp [hcond, AList.mem_insert]

/-- An assignment made only to a variable that is absent keeps the value of every variable
that is set. -/
theorem lookup_ite_insert_of_lookup {env : StringMap} {k v key value : String} {c : Prop}
    [Decidable c] (hc : c → k ∉ env) (h : env.lookup key = some value) :
    (if c then env.insert k v else env).lookup key = some value := by
  rw [lookup_ite_insert]
  split_ifs with hkey
  · rw [← hkey.1] at hc
    exact absurd (AList.lookup_isSome.mp (by rw [h]; rfl)) (hc hkey.2)
  · exact h

/-- The working-directory part assigns the directory when it is missing, and nothing else. -/
theorem defaultWorkingDir_eq (fs : FileSystem) (executor : Executor) (env : StringMap) :
    defaultWorkingDir host fs executor env =
      if cirrusWorkingDir ∉ env then env.insert cirrusWorkingDir
        (let defaultTempDirPath := host.join host.tempDir "cirrus-ci-build"
        let taskId := executor.taskIdentification.taskId
        if fs.notExist defaultTempDirPath || executor.commandFrom != "" then
          host.toSlash defaultTempDirPath
        else host.toSlash (host.mkdirTemp host.tempDir s!"cirrus-task-{taskId}"))
      else env := by
  unfold defaultWorkingDir
  by_cases h : cirrusWorkingDir ∈ env
  · simp [h]
  · rw [if_neg h, if_pos h]
    by_cases hmissing : fs.notExist (host.join host.tempDir "cirrus-ci-build") <;>
      by_cases hfrom : executor.commandFrom = "" <;> simp [hmissing, hfrom]

/-- The script environment sets `CIRRUS_OS` and `CIRRUS_ARCH` to the platform's, always
defines a working directory, defines `OS` exactly when the controller sent it or the agent's
own environment lacks it, keeps every other variable the controller sent as it was sent, and
adds no variable besides these four. -/
theorem getScriptEnvironment_completes_response (fs : FileSystem) (executor : Executor)
    (responseEnvironment : Option StringMap) :
    let response := responseEnvironment.getD ∅
    let env := getScriptEnvironment host fs executor responseEnvironment
    env.lookup "CIRRUS_OS" = some host.goos ∧ env.lookup "CIRRUS_ARCH" = some host.goarch ∧
      cirrusWorkingDir ∈ env ∧ ("OS" ∈ env ↔ "OS" ∈ response ∨ host.lookupEnv "OS" = none) ∧
      (∀ key value, key ≠ "CIRRUS_OS" → key ≠ "CIRRUS_ARCH" →
        response.lookup key = some value → env.lookup key = some value) ∧
      ∀ key ∈ env, key ∈ response ∨ key ∈ ["OS", "CIRRUS_OS", "CIRRUS_ARCH", cirrusWorkingDir] := by
  intro response env
  set withOS := if "OS" ∉ response ∧ host.lookupEnv "OS" = none then
    response.insert "OS" host.goos else response with hwithOS
  set platform := (withOS.insert "CIRRUS_OS" host.goos).insert "CIRRUS_ARCH" host.goarch
    with hplatform
  set withPre := if cirrusWorkingDir ∉ platform ∧ executor.preCreatedWorkingDir ≠ "" then
    platform.insert cirrusWorkingDir executor.preCreatedWorkingDir else platform with hwithPre
  obtain ⟨dir, hdir⟩ : ∃ dir, env =
      if cirrusWorkingDir ∉ withPre then withPre.insert cirrusWorkingDir dir else withPre :=
    ⟨_, defaultWorkingDir_eq host fs executor withPre⟩
  have hplatformOS : platform.lookup "CIRRUS_OS" = some host.goos := by
    rw [hplatform, AList.lookup_insert_ne (by decide), AList.lookup_insert]
  have hplatformArch : platform.lookup "CIRRUS_ARCH" = some host.goarch := AList.lookup_insert _
  have hlater : ∀ {key value}, platform.lookup key = some value → env.lookup key = some value :=
    fun h => hdir ▸ lookup_ite_insert_of_lookup id (lookup_ite_insert_of_lookup And.left h)
  have hmemEnv : ∀ key, key ≠ cirrusWorkingDir → (key ∈ env ↔ key ∈ platform) := fun key hkey => by
    simp only [hdir, hwithPre, mem_ite_insert, hkey, false_and, false_or]
  refine ⟨hlater hplatformOS, hlater hplatformArch, ?_, ?_, fun key value hos harch h => hlater ?_,
    fun key hkey => ?_⟩
  · rw [hdir, mem_ite_insert]
    exact (em (cirrusWorkingDir ∈ withPre)).elim .inr fun h => .inl ⟨rfl, h⟩
  · rw [hmemEnv "OS" (by decide), hplatform, AList.mem_insert, AList.mem_insert, hwithOS,
      mem_ite_insert]
    by_cases hos : "OS" ∈ response <;> simp [hos]
  · rw [hplatform, AList.lookup_insert_ne harch, AList.lookup_insert_ne hos]
    exact lookup_ite_insert_of_lookup And.left h
  · by_cases hcwd : key = cirrusWorkingDir
    · simp [hcwd]
    · rw [hmemEnv key hcwd, hplatform, AList.mem_insert, AList.mem_insert, hwithOS,
        mem_ite_insert] at hkey
      rcases hkey with rfl | rfl | ⟨rfl, -⟩ | hresponse
      · simp
      · simp
      · simp
      · exact .inl hresponse

/-- A machine where `cirrus-ci-build` is left over from another task: the original run
works in a fresh `cirrus-task-42…` directory, which exists when the task is resumed, and
the resumed run works in `cirrus-ci-build` instead. -/
theorem resumed_run_leaves_working_dir :
    let host : Host := ⟨fun _ => none, "linux", "amd64", "/tmp", fun dir elem => dir ++ "/" ++ elem,
      id, fun dir pattern => dir ++ "/" ++ pattern ++ "1234567"⟩
    let fs : FileSystem := ⟨fun _ => false⟩
    (getScriptEnvironment host fs (newExecutor 42 "" "" "" "" "") none).lookup cirrusWorkingDir =
        some "/tmp/cirrus-task-421234567" ∧
      fs.notExist "/tmp/cirrus-task-421234567" = false ∧
      (getScriptEnvironment host fs (newExecutor 42 "" "" "b" "" "") none).lookup cirrusWorkingDir =
        some "/tmp/cirrus-ci-build" := by
  decide

/-- What `os.MkdirTemp` guarantees of the directory it creates in the file system `fs`: its
name is new, so it is none of the paths that exist there, not even written with the other
separator, which is all `filepath.ToSlash` changes. -/
def MkdirTempFresh (fs : FileSystem) (dir pattern : String) : Prop :=
  ∀ path, fs.notExist path = false → host.toSlash (host.mkdirTemp dir pattern) ≠ host.toSlash path

/-- Two runs of one task, with no working directory from the server or the persistent
worker: the resumed run takes `cirrus-ci-build` whatever the file system holds, the
original run takes it when it is missing and a fresh `cirrus-task-<taskId>` directory
otherwise; so the runs share a directory exactly when `cirrus-ci-build` was missing at
first. -/
theorem resumed_run_working_dir (fs fs' : FileSystem) (taskId : Int)
    (clientToken serverToken commandFrom commandTo commandTo' : String) (hfrom : commandFrom ≠ "")
    (responseEnvironment : Option StringMap)
    (hresponse : ∀ env, responseEnvironment = some env → cirrusWorkingDir ∉ env)
    (hfresh : MkdirTempFresh host fs host.tempDir s!"cirrus-task-{taskId}") :
    let defaultTempDirPath := host.join host.tempDir "cirrus-ci-build"
    let original := (getScriptEnvironment host fs
      (newExecutor taskId clientToken serverToken "" commandTo "") responseEnvironment).lookup
        cirrusWorkingDir
    let resumed := (getScriptEnvironment host fs'
      (newExecutor taskId clientToken serverToken commandFrom commandTo' "")
        responseEnvironment).lookup cirrusWorkingDir
    resumed = some (host.toSlash defaultTempDirPath) ∧
      original = some (if fs.notExist defaultTempDirPath then host.toSlash defaultTempDirPath
        else host.toSlash (host.mkdirTemp host.tempDir s!"cirrus-task-{taskId}")) ∧
      (resumed = original ↔ fs.notExist defaultTempDirPath = true) := by
  intro defaultTempDirPath original resumed
  have hresumed : resumed = some (host.toSlash defaultTempDirPath) := by
    simp only [resumed, getScriptEnvironment_workingDir host fs'
      (newExecutor taskId clientToken serverToken commandFrom commandTo' "") _ hresponse rfl]
    simp [newExecutor, hfrom, defaultTempDirPath]
  have horiginal : original = some (if fs.notExist defaultTempDirPath then
      host.toSlash defaultTempDirPath
      else host.toSlash (host.mkdirTemp host.tempDir s!"cirrus-task-{taskId}")) := by
    simp only [original, getScriptEnvironment_workingDir host fs
      (newExecutor taskId clientToken serverToken "" commandTo "") _ hresponse rfl]
    simp [newExecutor, defaultTempDirPath]
  refine ⟨hresumed, horiginal, ?_⟩
  rw [hresumed, horiginal]
  cases hmissing : fs.notExist defaultTempDirPath with
  | true => simp
  | false => simpa using (hfresh defaultTempDirPath hmissing).symm

/-- A machine where `cirrus-ci-build` is left over and `os.MkdirTemp` picks a new name: the
runs work in different directories. -/
theorem resumed_run_working_dir_leftover_default :
    let host : Host := ⟨fun _ => none, "linux", "amd64", "/tmp", fun dir elem => dir ++ "/" ++ elem,
      id, fun dir pattern => dir ++ "/" ++ pattern ++ "1234567"⟩
    let fs : FileSystem := ⟨fun path => path != "/tmp/cirrus-ci-build"⟩
    let defaultTempDirPath := host.join host.tempDir "cirrus-ci-build"
    let original := (getScriptEnvironment host fs (newExecutor 42 "" "" "" "" "") none).lookup
      cirrusWorkingDir
    let resumed := (getScriptEnvironment host fs (newExecutor 42 "" "" "b" "" "")
      none).lookup cirrusWorkingDir
    ("b" ≠ "" ∧ (∀ env, (none : Option StringMap) = some env → cirrusWorkingDir ∉ env) ∧
        MkdirTempFresh host fs host.tempDir s!"cirrus-task-{(42 : Int)}") ∧
      resumed = some (host.toSlash defaultTempDirPath) ∧
      original = some (if fs.notExist defaultTempDirPath then host.toSlash defaultTempDirPath
        else host.toSlash (host.mkdirTemp host.tempDir s!"cirrus-task-{(42 : Int)}")) ∧
      (resumed = original ↔ fs.notExist defaultTempDirPath = true) := by
  intro host fs
  have hfresh : MkdirTempFresh host fs host.tempDir s!"cirrus-task-{(42 : Int)}" := by
    intro path hpath
    rw [show path = "/tmp/cirrus-ci-build" by simpa [fs] using hpath]
    decide
  exact ⟨⟨by decide, (fun _ h => by cases h), hfresh⟩, resumed_run_working_dir host fs fs 42
    "" "" "b" "" "" (by decide) none (fun _ h => by cases h) hfresh⟩

end CirrusAgent
