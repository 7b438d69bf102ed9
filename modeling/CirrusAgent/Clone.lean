import CirrusAgent.Environment
import CirrusAgent.GoLibrary

/-! # `CloneRepository`

The clone instruction materialises the repository in the working directory: for a pull
request it initialises an empty repository, fetches the head ref (falling back to the merge
ref, one commit deeper, when the head ref is missing) and checks out the target commit;
otherwise it clones the branch or the tag. A fetch or a clone that fails with a retryable
error is tried once more. The `HEAD` is then hard-reset to the target commit when it is
elsewhere, and submodules are updated on request.

go-git, the certificate bundle and the file system are collaborators: a `GitWorld` gives
their answers, the fetches and the clones by attempt. The model records what the code
writes to the step's log uploader and every call it makes on them.
-/

namespace CirrusAgent

/-- `retryableCloneError` on the text of a non-nil error. -/
def retryableCloneError (err : String) : Bool :=
  let errorMessage := toLower err
  contains errorMessage "timeout" || contains errorMessage "tls" ||
    contains errorMessage "connection" || contains errorMessage "authentication" ||
    contains errorMessage "not found"

/-- A call of `CloneRepository` on go-git or on the file system. A clone through
`PlainCloneContext` is cancellable by the step's context, one through `PlainClone` is not. -/
inductive CloneCall where
  | plainInit (path : String)
  | createRemote (url : String)
  | fetch (refSpec : String) (depth : Int)
  | checkout (hash : String)
  | plainClone (cancellable : Bool) (path url referenceName : String) (noTags : Bool)
      (depth : Int)
  | removeAll (path : String)
  | ensureFolderExists (path : String)
  | reset (hash : String)
  | updateSubmodule (name : String)
  deriving DecidableEq, Repr

/-- The answers of the certificate bundle and of go-git during one clone; an error is its
text. Fetches and clones answer by attempt, counted from zero. `newHash` prints
`plumbing.NewHash(s)`, `head` the hash of `HEAD`, and `quote` is `strconv.Quote`, which
`%q` prints. -/
structure GitWorld where
  caCerts : Option String
  plainInit : Option String
  createRemote : Option String
  fetch : Nat → Option String
  worktree : Option String
  checkout : Option String
  plainClone : Nat → Option String
  head : Except String String
  newHash : String → String
  reset : Option String
  submodules : Except String (List String)
  updateSubmodule : String → Option String
  quote : String → String
  deriving Inhabited

/-- The variables `CloneRepository` reads from the environment. -/
structure CloneSettings where
  workingDir : String
  change : String
  branch : String
  prNumber : Option String
  tag : Option String
  cloneModules : Bool
  cloneUrl : String
  cloneDepth : Int
  deriving DecidableEq, Repr

/-- The head of `CloneRepository`, reading its settings; `expandText` is
`Environment.ExpandText`. The clone depth is the value `strconv.Atoi` returns, whether or
not it also returns an error. -/
def cloneSettings (expandText : Environment → String → String) (env : Environment) :
    CloneSettings where
  workingDir := env.get "CIRRUS_WORKING_DIR"
  change := env.get "CIRRUS_CHANGE_IN_REPO"
  branch := env.get "CIRRUS_BRANCH"
  prNumber := env.lookup "CIRRUS_PR"
  tag := env.lookup "CIRRUS_TAG"
  cloneModules := env.get "CIRRUS_CLONE_SUBMODULES" == "true"
  cloneUrl := match env.lookup "CIRRUS_REPO_CLONE_TOKEN" with
    | some _ => expandText env
        "https://x-access-token:${CIRRUS_REPO_CLONE_TOKEN}@${CIRRUS_REPO_CLONE_HOST}/${CIRRUS_REPO_FULL_NAME}.git"
    | none => env.get "CIRRUS_REPO_CLONE_URL"
  cloneDepth := match env.lookup "CIRRUS_CLONE_DEPTH" with
    | some depthStr => (atoi depthStr).1
    | none => 0

/-- What `CloneRepository` wrote to the step's uploader, and the calls it made. -/
structure CloneLog where
  writes : List String
  calls : List CloneCall

namespace CloneLog

/-- `logUploader.Write`. -/
def write (log : CloneLog) (text : String) : CloneLog := { log with writes := log.writes ++ [text] }

/-- A call on go-git or on the file system. -/
def call (log : CloneLog) (c : CloneCall) : CloneLog := { log with calls := log.calls ++ [c] }

end CloneLog

/-- Go on with `k` after a phase that did not `return false`. -/
def andThen : Bool × CloneLog → (CloneLog → Bool × CloneLog) → Bool × CloneLog
  | (true, log), k => k log
  | (false, log), _ => (false, log)

@[simp] theorem andThen_fst (r : Bool × CloneLog) (k : CloneLog → Bool × CloneLog) :
    (andThen r k).1 = (r.1 && (k r.2).1) := by
  rcases r with ⟨_ | _, _⟩ <;> rfl

variable (git : GitWorld)

/-- The fetch of a pull request: the head ref, the merge ref one commit deeper when the head
ref is missing, and one more try of the last fetch after a retryable error. The error of
the last fetch. -/
def fetchPullRequest (prNumber : String) (cloneDepth : Int) (log : CloneLog) :
    Option String × CloneLog :=
  let headRefSpec := s!"+refs/pull/{prNumber}/head:refs/remotes/origin/pull/{prNumber}"
  let log := (log.write s!"\nFetching {headRefSpec}...\n").call (.fetch headRefSpec cloneDepth)
  let (refSpec, depth, attempts, err, log) : String × Int × Nat × Option String × CloneLog :=
    match git.fetch 0 with
    | some err =>
      if contains err "couldn't find remote ref" then
        let mergeRefSpec := s!"+refs/pull/{prNumber}/merge:refs/remotes/origin/pull/{prNumber}"
        let depth := if cloneDepth > 0 then toInt64 (cloneDepth + 1) else cloneDepth
        let log := (log.write "\nFailed to fetch head ref! Trying to fall back to merge ref...").call
          (.fetch mergeRefSpec depth)
        (mergeRefSpec, depth, 2, git.fetch 1, log)
      else (headRefSpec, cloneDepth, 1, some err, log)
    | none => (headRefSpec, cloneDepth, 1, none, log)
  match err with
  | some err =>
    if retryableCloneError err then
      (git.fetch attempts, ((log.write s!"\nFetch failed: {err}!").write
        "\nRe-trying to fetch...").call (.fetch refSpec depth))
    else (some err, log)
  | none => (none, log)

/-- The pull-request branch of `CloneRepository`: an empty repository, the remote, the
fetch, and the checkout of the target commit. -/
def fetchAndCheckout (settings : CloneSettings) (prNumber : String) (log : CloneLog) :
    Bool × CloneLog :=
  let workingDir := settings.workingDir
  let cloneUrl := settings.cloneUrl
  let log := log.call (.plainInit workingDir)
  match git.plainInit with
  | some err => (false, log.write s!"\nFailed to init repository: {err}!")
  | none =>
    let log := log.call (.createRemote cloneUrl)
    match git.createRemote with
    | some err => (false, log.write s!"\nFailed to create remote: {err}!")
    | none =>
      match fetchPullRequest git prNumber settings.cloneDepth log with
      | (some err, log) => (false, log.write s!"\nFailed fetch: {err}!")
      | (none, log) =>
        match git.worktree with
        | some err => (false, log.write s!"\nFailed to get work tree: {err}!")
        | none =>
          let hash := git.newHash settings.change
          let log := (log.write s!"\nChecking out {hash}...").call (.checkout hash)
          match git.checkout with
          | some err => (false, log.write s!"\nFailed to checkout {hash}: {err}!")
          | none => (true, log)

/-- `cloneOptions.ReferenceName`: the tag when there is one, else the branch. -/
def referenceName (settings : CloneSettings) : String :=
  let branch := settings.branch
  match settings.tag with
  | some tag => s!"refs/tags/{tag}"
  | none => s!"refs/heads/{branch}"

/-- The clone with the options of `CloneRepository`, through `PlainCloneContext`
(`cancellable`) or through `PlainClone`. -/
def plainCloneCall (settings : CloneSettings) (cancellable : Bool) : CloneCall :=
  .plainClone cancellable settings.workingDir settings.cloneUrl (referenceName settings)
    settings.tag.isNone settings.cloneDepth

/-- The other branch of `CloneRepository`: a single-branch clone of the tag or the branch,
tried once more after a retryable error in a wiped working directory. -/
def cloneBranch (settings : CloneSettings) (log : CloneLog) : Bool × CloneLog :=
  let workingDir := settings.workingDir
  let name := referenceName settings
  let clone := plainCloneCall settings
  let log := (log.write s!"\nCloning {name}...\n").call (clone true)
  let (err, log) := match git.plainClone 0 with
    | some err =>
      if retryableCloneError err then
        (git.plainClone 1,
          ((((log.write s!"\nRetryable error '{err}' while cloning! Trying again...").call
            (.removeAll workingDir)).call (.ensureFolderExists workingDir)).call (clone false)))
      else (some err, log)
    | none => (none, log)
  match err with
  | some err =>
    let lower := toLower err
    if contains lower "timeout" || contains lower "timed out" then
      (false, log.write "\nFailed to clone because of a timeout from Git server!")
    else (false, log.write s!"\nFailed to clone: {err}!")
  | none => (true, log)

/-- The hard reset to the target commit when `HEAD` is elsewhere. -/
def alignHead (settings : CloneSettings) (log : CloneLog) : Bool × CloneLog :=
  match git.head with
  | .error _ => (false, log.write "\nFailed to get HEAD information!")
  | .ok headHash =>
    let change := settings.change
    let target := git.newHash change
    if headHash ≠ target then
      let log := (log.write s!"\nHEAD is at {headHash}.").write s!"\nHard resetting to {change}..."
      match git.worktree with
      | some err => (false, log.write s!"\nFailed to get work tree: {err}!")
      | none =>
        let log := log.call (.reset target)
        match git.reset with
        | some err => (false, log.write s!"\nFailed to force reset to {change}: {err}!")
        | none => (true, log)
    else (true, log)

/-- The loop over the submodules, stopping at the first that fails to update. -/
def updateEach : List String → CloneLog → Bool × CloneLog
  | [], log => (true, log)
  | name :: rest, log =>
    let log := log.call (.updateSubmodule name)
    match git.updateSubmodule name with
    | some err =>
      let quoted := git.quote name
      (false, log.write s!"\nFailed to update submodule {quoted}: {err}!")
    | none => updateEach rest log

/-- The submodule update of `CloneRepository`. -/
def updateSubmodules (log : CloneLog) : Bool × CloneLog :=
  let log := log.write "\nUpdating submodules..."
  match git.worktree with
  | some err => (false, log.write s!"\nFailed to get work tree: {err}!")
  | none =>
    match git.submodules with
    | .error err => (false, log.write s!"\nFailed to get submodules: {err}!")
    | .ok names =>
      andThen (updateEach git names log) fun log =>
        (true, log.write "\nSucessfully updated submodules!")

/-- `CloneRepository`: whether it succeeded, what it wrote and what it called. -/
def cloneRepository (settings : CloneSettings) : Bool × CloneLog :=
  let log : CloneLog := ⟨["Using built-in Git...\n"], []⟩
  let cloneDepth := settings.cloneDepth
  let log := if cloneDepth > 0 then log.write s!"\nLimiting clone depth to {cloneDepth}!" else log
  match git.caCerts with
  | some err => (false, log.write s!"\nFailed to get CA certificates: {err}!")
  | none =>
    let materialised := match settings.prNumber with
      | some prNumber => fetchAndCheckout git settings prNumber log
      | none => cloneBranch git settings log
    andThen materialised fun log =>
      andThen (alignHead git settings log) fun log =>
        andThen (if settings.cloneModules then updateSubmodules git log else (true, log))
          fun log =>
            let change := settings.change
            let branch := settings.branch
            (true, (log.write s!"\nChecked out {change} on {branch} branch.").write
              "\nSuccessfully cloned!")

/-! ## Retries

Each fetch and each clone is tried at most twice, the second time only after a retryable
error; the pull request's merge ref is fetched only when its head ref is missing.
-/

/-- The fetches of a pull request and the error they end with: the head ref; the merge ref,
one commit deeper for a shallow clone, when the head ref is missing; and the last of these
once more after a retryable error. -/
theorem fetchPullRequest_eq (prNumber : String) (depth : Int) (log : CloneLog) :
    let headRefSpec := s!"+refs/pull/{prNumber}/head:refs/remotes/origin/pull/{prNumber}"
    let mergeRefSpec := s!"+refs/pull/{prNumber}/merge:refs/remotes/origin/pull/{prNumber}"
    let mergeDepth := if depth > 0 then toInt64 (depth + 1) else depth
    let fallback := (git.fetch 0).any (contains · "couldn't find remote ref")
    let fetched := fetchPullRequest git prNumber depth log
    fetched.2.calls = log.calls ++ .fetch headRefSpec depth ::
      (if fallback then
        .fetch mergeRefSpec mergeDepth ::
          if (git.fetch 1).any retryableCloneError then [.fetch mergeRefSpec mergeDepth] else []
      else if (git.fetch 0).any retryableCloneError then [.fetch headRefSpec depth] else []) ∧
    fetched.1 = if fallback then
        (if (git.fetch 1).any retryableCloneError then git.fetch 2 else git.fetch 1)
      else if (git.fetch 0).any retryableCloneError then git.fetch 1 else git.fetch 0 := by
  intro headRefSpec mergeRefSpec mergeDepth fallback fetched
  simp only [fetched, fetchPullRequest]
  cases h0 : git.fetch 0 with
  | none => simp [fallback, h0, CloneLog.call, CloneLog.write]
  | some err =>
    by_cases hmissing : contains err "couldn't find remote ref" = true
    · cases h1 : git.fetch 1 with
      | none => simp [fallback, h0, h1, hmissing, CloneLog.call, CloneLog.write, mergeDepth]
      | some err' =>
        cases hretry : retryableCloneError err' <;>
          simp [fallback, h0, h1, hmissing, hretry, CloneLog.call, CloneLog.write, mergeDepth]
    · cases hretry : retryableCloneError err <;>
        simp [fallback, h0, hmissing, hretry, CloneLog.call, CloneLog.write]

/-- The clone of a branch or a tag: once through the cancellable clone, and once more, in a
wiped and recreated working directory and through the clone the step's context cannot
cancel, exactly when the first attempt failed with a retryable error. It succeeds when one
of its attempts does. -/
theorem cloneBranch_eq (settings : CloneSettings) (log : CloneLog) :
    let retry := (git.plainClone 0).any retryableCloneError
    (cloneBranch git settings log).2.calls = log.calls ++ plainCloneCall settings true ::
      (if retry then
        [.removeAll settings.workingDir, .ensureFolderExists settings.workingDir,
          plainCloneCall settings false]
      else []) ∧
    (cloneBranch git settings log).1 =
      ((git.plainClone 0).isNone || retry && (git.plainClone 1).isNone) := by
  intro retry
  unfold cloneBranch
  cases h0 : git.plainClone 0 with
  | none => simp [retry, h0, CloneLog.call, CloneLog.write]
  | some err =>
    cases hretry : retryableCloneError err
    · simp only [retry, h0, hretry, Option.any_some, Bool.false_eq_true, if_false]
      split <;> simp [CloneLog.call, CloneLog.write]
    · cases h1 : git.plainClone 1 <;>
        simp only [retry, h0, hretry, h1, Option.any_some, if_true, Option.isNone_some,
          Option.isNone_none] <;>
        (try split) <;> simp [CloneLog.call, CloneLog.write]

/-- Whether the fetches of a pull request fail does not depend on what was written before. -/
theorem fetchPullRequest_fst_log (prNumber : String) (depth : Int) (log log' : CloneLog) :
    (fetchPullRequest git prNumber depth log).1 = (fetchPullRequest git prNumber depth log').1 := by
  rw [(fetchPullRequest_eq git prNumber depth log).2, (fetchPullRequest_eq git prNumber depth log').2]

/-- The pull-request branch succeeds when the repository is initialised, the remote created,
the fetches end without error, and the work tree and the checkout are at hand. -/
theorem fetchAndCheckout_fst (settings : CloneSettings) (prNumber : String) (log : CloneLog) :
    (fetchAndCheckout git settings prNumber log).1 = (git.plainInit.isNone &&
      git.createRemote.isNone &&
      (fetchPullRequest git prNumber settings.cloneDepth ⟨[], []⟩).1.isNone &&
      git.worktree.isNone && git.checkout.isNone) := by
  unfold fetchAndCheckout
  cases git.plainInit <;> cases git.createRemote <;> simp only [Option.isNone_some,
    Option.isNone_none, Bool.false_and, Bool.true_and]
  rw [fetchPullRequest_fst_log git prNumber settings.cloneDepth ⟨[], []⟩
    ((log.call (.plainInit settings.workingDir)).call (.createRemote settings.cloneUrl))]
  split <;> rename_i heq <;> rw [heq]
  · rfl
  · cases git.worktree <;> cases git.checkout <;> rfl

/-! ## Head and submodules -/

/-- `HEAD` is hard-reset exactly when it is known, is elsewhere than the target commit, and
the work tree is at hand; the alignment succeeds when `HEAD` is known and is the target or
the reset succeeds. -/
theorem alignHead_eq (settings : CloneSettings) (log : CloneLog) :
    let target := git.newHash settings.change
    (alignHead git settings log).2.calls = log.calls ++ (match git.head with
      | .ok headHash => if headHash ≠ target ∧ git.worktree = none then [.reset target] else []
      | .error _ => []) ∧
    (alignHead git settings log).1 = (match git.head with
      | .ok headHash => decide (headHash = target) || git.worktree.isNone && git.reset.isNone
      | .error _ => false) := by
  intro target
  unfold alignHead
  cases git.head with
  | error => simp [CloneLog.write]
  | ok headHash =>
    by_cases hsame : headHash = target
    · simp [show headHash = git.newHash settings.change from hsame]
    · cases git.worktree <;> cases git.reset <;> simp [target, hsame, CloneLog.write, CloneLog.call]

/-- The submodules are updated in order up to the first that fails, which ends the loop; the
loop succeeds when every update does. -/
theorem updateEach_eq (names : List String) (log : CloneLog) :
    let updated := names.takeWhile fun name => (git.updateSubmodule name).isNone
    (updateEach git names log).2.calls =
      log.calls ++ (names.take (updated.length + 1)).map .updateSubmodule ∧
    (updateEach git names log).1 = names.all fun name => (git.updateSubmodule name).isNone := by
  induction names generalizing log with
  | nil => simp [updateEach]
  | cons name rest ih =>
    obtain ⟨hcalls, hok⟩ := ih (log.call (.updateSubmodule name))
    cases h : git.updateSubmodule name with
    | some err => simp [updateEach, h, CloneLog.call, CloneLog.write]
    | none =>
      simp only [updateEach, h]
      rw [hcalls, hok]
      simp [CloneLog.call, List.takeWhile_cons, h]

/-- The submodule phase succeeds when the work tree and the submodule list are at hand and
every submodule updates. -/
theorem updateSubmodules_fst (log : CloneLog) :
    (updateSubmodules git log).1 = (git.worktree.isNone && match git.submodules with
      | .ok names => names.all fun name => (git.updateSubmodule name).isNone
      | .error _ => false) := by
  unfold updateSubmodules
  cases git.worktree with
  | some => rfl
  | none =>
    cases git.submodules with
    | error => rfl
    | ok names => simp [(updateEach_eq git names _).2]

/-! ## The whole clone -/

/-- `CloneRepository` succeeds exactly when the certificate bundle loads, the repository is
materialised (by the pull request's fetches and checkout, or by a clone of the branch or the
tag), `HEAD` is aligned with the target commit, and the submodules, when asked for, are
updated. -/
theorem cloneRepository_fst (settings : CloneSettings) :
    (cloneRepository git settings).1 = (git.caCerts.isNone &&
      (match settings.prNumber with
        | some prNumber => git.plainInit.isNone && git.createRemote.isNone &&
            (fetchPullRequest git prNumber settings.cloneDepth ⟨[], []⟩).1.isNone &&
            git.worktree.isNone && git.checkout.isNone
        | none => (git.plainClone 0).isNone ||
            (git.plainClone 0).any retryableCloneError && (git.plainClone 1).isNone) &&
      (match git.head with
        | .ok headHash => decide (headHash = git.newHash settings.change) ||
            git.worktree.isNone && git.reset.isNone
        | .error _ => false) &&
      (!settings.cloneModules || git.worktree.isNone && match git.submodules with
        | .ok names => names.all fun name => (git.updateSubmodule name).isNone
        | .error _ => false)) := by
  unfold cloneRepository
  cases git.caCerts with
  | some => rfl
  | none =>
    cases settings.prNumber <;> cases settings.cloneModules <;>
      simp [fetchAndCheckout_fst, (cloneBranch_eq git settings _).2,
        (alignHead_eq git settings _).2, updateSubmodules_fst, Bool.and_assoc]

/-! ## What the clone deletes

The only deletion `CloneRepository` makes is the `os.RemoveAll` of the working directory
before the second attempt of a clone.
-/

@[simp] theorem CloneLog.write_calls (log : CloneLog) (text : String) :
    (log.write text).calls = log.calls := rfl

@[simp] theorem CloneLog.call_calls (log : CloneLog) (c : CloneCall) :
    (log.call c).calls = log.calls ++ [c] := rfl

/-- A phase that goes on only after a success wipes what its continuation wipes. -/
theorem andThen_removeAll {r : Bool × CloneLog} {k : CloneLog → Bool × CloneLog} {d : String}
    (hk : ∀ log, .removeAll d ∈ (k log).2.calls ↔ .removeAll d ∈ log.calls) :
    .removeAll d ∈ (andThen r k).2.calls ↔ .removeAll d ∈ r.2.calls := by
  rcases r with ⟨_ | _, log⟩
  · rfl
  · exact hk log

/-- The pull-request branch never wipes a directory. -/
theorem fetchAndCheckout_removeAll (settings : CloneSettings) (prNumber : String) (log : CloneLog)
    (d : String) :
    .removeAll d ∈ (fetchAndCheckout git settings prNumber log).2.calls ↔
      .removeAll d ∈ log.calls := by
  have hfetch : ∀ {log err log'}, fetchPullRequest git prNumber settings.cloneDepth log =
      (err, log') → (.removeAll d ∈ log'.calls ↔ .removeAll d ∈ log.calls) :=
    fun {_ _ log'} heq => by
    rw [show log' = _ from (congrArg Prod.snd heq).symm,
      (fetchPullRequest_eq git prNumber settings.cloneDepth _).1]
    split_ifs <;> simp
  unfold fetchAndCheckout
  cases git.plainInit with
  | some => simp
  | none =>
    cases git.createRemote with
    | some => simp
    | none =>
      dsimp only
      split <;> rename_i heq
      · simpa using hfetch heq
      · cases git.worktree <;> cases git.checkout <;> simpa using hfetch heq

theorem alignHead_removeAll (settings : CloneSettings) (log : CloneLog) (d : String) :
    .removeAll d ∈ (alignHead git settings log).2.calls ↔ .removeAll d ∈ log.calls := by
  rw [(alignHead_eq git settings log).1]
  split
  · split_ifs <;> simp
  · simp

theorem updateSubmodules_removeAll (log : CloneLog) (d : String) :
    .removeAll d ∈ (updateSubmodules git log).2.calls ↔ .removeAll d ∈ log.calls := by
  unfold updateSubmodules
  cases git.worktree with
  | some => simp [CloneLog.write]
  | none =>
    cases git.submodules with
    | error => simp [CloneLog.write]
    | ok names =>
      dsimp only
      rw [andThen_removeAll fun _ => Iff.rfl, (updateEach_eq git names _).1, List.mem_append]
      exact or_iff_left fun h => by
        obtain ⟨_, _, h⟩ := List.mem_map.mp h
        cases h

/-- `CloneRepository` wipes a directory only in one place: the clone of a branch or a tag
removes the working directory before its second attempt, which it makes exactly when the
first failed with a retryable error. A pull request's fetches, the reset of `HEAD` and the
submodule updates never delete anything. -/
theorem cloneRepository_removeAll (settings : CloneSettings) (d : String) :
    .removeAll d ∈ (cloneRepository git settings).2.calls ↔
      git.caCerts = none ∧ settings.prNumber = none ∧
        (git.plainClone 0).any retryableCloneError ∧ d = settings.workingDir := by
  unfold cloneRepository
  cases git.caCerts with
  | some =>
    dsimp only
    split <;> simp [CloneLog.write]
  | none =>
    dsimp only
    rw [andThen_removeAll]
    swap
    · intro log
      rw [andThen_removeAll, alignHead_removeAll]
      intro log
      split
      · rw [andThen_removeAll, updateSubmodules_removeAll]
        exact fun _ => Iff.rfl
      · exact Iff.rfl
    cases settings.prNumber with
    | some prNumber =>
      dsimp only
      rw [fetchAndCheckout_removeAll]
      split <;> simp [CloneLog.write]
    | none =>
      dsimp only
      rw [(cloneBranch_eq git settings _).1]
      split <;> split_ifs <;> simp [plainCloneCall, CloneLog.write, @eq_comm _ d, *]

end CirrusAgent
