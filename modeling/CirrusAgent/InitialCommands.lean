import CirrusAgent.RunBuild

/-! # The initial fetch of `RunBuild`

Before anything else `RunBuild` asks the controller for its commands through `retry.Do`:
one more attempt after each failure, five seconds apart, at most `math.MaxUint32` attempts,
and none once the context is cancelled during the wait. Its `OnRetry` hook counts the failed
attempts, and a request says it is a retry when that count is not zero. A fetch that gives up
returns from `RunBuild` before any other phase.

The `retry-go` package is not part of the sources: the loop follows the options `RunBuild`
passes it and the contract the specification gives it.
-/

namespace CirrusAgent

/-- `api.InitialCommandsRequest`. -/
structure InitialCommandsRequest where
  taskIdentification : TaskIdentification
  localTimestamp : Int
  continueFromCommand : String
  retry : Bool
  deriving DecidableEq, Repr

/-- The controller and the clock during the initial fetch, by attempt: the answer to
`InitialCommands` (an error is its text), `time.Now().Unix()` when the request is built, and
whether the context is cancelled during the wait after a failed attempt. -/
structure FetchWorld where
  initialCommands : Nat → Except String CommandsResponse
  now : Nat → Int
  cancelled : Nat → Bool

/-- `math.MaxUint32`, the attempts `RunBuild` allows. -/
def maxUint32 : Nat := 4294967295

variable (fetch : FetchWorld) (executor : Executor)

/-- Modelled from the spec: the `retry.Do` loop around `InitialCommands` from attempt `n`,
`numRetries` being the count its `OnRetry` hook keeps, with `attempts` attempts left: the
requests made, and the response, or none when the context was cancelled or the attempts ran
out. -/
def initialCommandsLoop : Nat → Nat → Nat → List InitialCommandsRequest × Option CommandsResponse
  | 0, _, _ => ([], none)
  | attempts + 1, n, numRetries =>
    let request : InitialCommandsRequest :=
      ⟨executor.taskIdentification, fetch.now n, executor.commandFrom, numRetries != 0⟩
    match fetch.initialCommands n with
    | .ok response => ([request], some response)
    | .error _ =>
      let numRetries := numRetries + 1
      if fetch.cancelled n then ([request], none)
      else
        let next := initialCommandsLoop attempts (n + 1) numRetries
        (request :: next.1, next.2)

/-- `RunBuild` from its first line: the initial fetch, then the build on the controller's
answer. -/
def runBuildFromStart (world : RunWorld) (agent : Agent) :
    List InitialCommandsRequest × BuildRun :=
  match initialCommandsLoop fetch agent.executor maxUint32 0 0 with
  | (requests, none) => (requests, ⟨[], .returnedBeforeLoop, agent⟩)
  | (requests, some response) => (requests, runBuild world response agent)

/-- The loop ends with a response exactly when some attempt within its attempts is answered
with it, after attempts that all failed with no cancellation during their waits; whatever
the count of failures it starts from. -/
theorem initialCommandsLoop_eq_some_iff {attempts n numRetries : Nat}
    {response : CommandsResponse} :
    (initialCommandsLoop fetch executor attempts n numRetries).2 = some response ↔
      ∃ k, n ≤ k ∧ k < n + attempts ∧ fetch.initialCommands k = .ok response ∧
        ∀ j, n ≤ j → j < k → (∃ err, fetch.initialCommands j = .error err) ∧
          fetch.cancelled j = false := by
  induction attempts generalizing n numRetries with
  | zero => simp only [initialCommandsLoop, reduceCtorEq, false_iff]; omega
  | succ attempts ih =>
    unfold initialCommandsLoop
    cases hanswer : fetch.initialCommands n with
    | ok answer =>
      refine ⟨fun h => ⟨n, le_rfl, by omega, by cases h; exact hanswer,
        fun j hj hjk => absurd hjk (by omega)⟩, fun ⟨k, hnk, _, hk, hbefore⟩ => ?_⟩
      rcases Nat.eq_or_lt_of_le hnk with rfl | hlt
      · rw [hanswer] at hk
        cases hk
        rfl
      · obtain ⟨⟨err, herr⟩, -⟩ := hbefore n le_rfl hlt
        rw [hanswer] at herr
        cases herr
    | error err =>
      dsimp only
      split <;> rename_i hcancelled
      · simp only [reduceCtorEq, false_iff, not_exists, not_and]
        intro k hnk _ hk hbefore
        rcases Nat.eq_or_lt_of_le hnk with rfl | hlt
        · rw [hanswer] at hk
          cases hk
        · exact absurd (hbefore n le_rfl hlt).2 (by simp [hcancelled])
      · rw [ih]
        refine ⟨fun ⟨k, hnk, hka, hk, hbefore⟩ =>
            ⟨k, by omega, by omega, hk, fun j hj hjk => ?_⟩,
          fun ⟨k, hnk, hka, hk, hbefore⟩ =>
            ⟨k, ?_, by omega, hk, fun j hj => hbefore j (by omega)⟩⟩
        · rcases Nat.eq_or_lt_of_le hj with rfl | hlt
          · exact ⟨⟨err, hanswer⟩, by simpa using hcancelled⟩
          · exact hbefore j hlt hjk
        · rcases Nat.eq_or_lt_of_le hnk with rfl | hlt
          · rw [hanswer] at hk
            cases hk
          · exact hlt

end CirrusAgent
