import CirrusAgent.GoLibrary
import CirrusAgent.InitialCommands

/-! # The agent's entry point

`main` reads its flags, opens its own log file, dials the API until a connection opens, and
then either reports a stop hook and exits, or waits on the ports the task names, starts the
heartbeat, runs the build and uploads its own log. A panic of the build is recovered by a
deferred call that reports it as an agent problem; the upload after the build is then
skipped. `os.Exit` skips the deferred calls, so the connection is closed only when `main`
returns.

`main.go` is of another revision than the executor: it calls `NewExecutor` with five
arguments, without the pre-created working directory, and `RunBuild` with no context. The
model runs the executor's `RunBuild`, from its initial fetch, on the executor `NewExecutor`
builds from the flags with no pre-created working directory; a panic of that build is what
the deferred `recover` reports. The signal handler and the heartbeat run beside the build;
the heartbeat's own loop is modelled on its own.
-/

namespace CirrusAgent

/-! ## Dialling -/

/-- The status codes `dialWithTimeout` retries a unary call on (`codes.Code`). -/
inductive Code where
  | unavailable
  | internal
  | unknown
  | resourceExhausted
  | deadlineExceeded
  deriving DecidableEq, Repr

/-- The transport of a connection: TLS 1.3 or later over the embedded root certificates,
or `grpc.WithInsecure()`. -/
inductive TransportSecurity where
  | tls13
  | insecure
  deriving DecidableEq, Repr

/-- The options `dialWithTimeout` passes to `grpc.DialContext`, which blocks until the
connection is up or the timeout passes. -/
structure DialOptions where
  target : String
  transportSecurity : TransportSecurity
  timeout : Int
  maxRetries : Nat
  retryCodes : List Code
  perRetryTimeout : Int
  deriving DecidableEq, Repr

/-- `transportSettings`: the dial target and whether the transport is insecure. -/
def transportSettings (apiEndpoint : String) : String × Bool :=
  -- Insecure by default to preserve backwards compatibility
  let insecure :=
    if contains apiEndpoint "https://" || !contains apiEndpoint "://" then false else true
  let target := trimPrefix (trimPrefix apiEndpoint "http://") "https://"
  (target, insecure)

/-! ### The transport table

`transportSettings` looks for `https://` and `://` anywhere in the endpoint, not only at its
start, so each row of the table holds of the rest of the endpoint only as far as that rest
cannot create or hide those texts. An `https://` endpoint is TLS whatever follows; an
`http://` endpoint is insecure when its host names no scheme; an endpoint without `://` is
TLS verbatim; and a `unix://` endpoint is dialled verbatim, insecurely only when its path
does not contain `https://`.
-/

theorem transportSettings_https (rest : String) :
    transportSettings ("https://" ++ rest) = (rest, false) := by
  have hhttp : hasPrefix ("https://" ++ rest) "http://" = false := rfl
  simp [transportSettings, contains_append_left, trimPrefix_of_hasPrefix_eq_false hhttp]

theorem transportSettings_http {host : String} (hhost : contains host "://" = false) :
    transportSettings ("http://" ++ host) = (host, true) := by
  have hhttps : contains host "https://" = false := contains_eq_false_of hhost (by decide)
  -- no `https://` can start inside the `http://` prefix
  have hsecure : contains ("http://" ++ host) "https://" = false := hhttps
  have hscheme : contains ("http://" ++ host) "://" = true := contains_append_of_left (by decide)
  simp [transportSettings, hsecure, hscheme,
    trimPrefix_of_hasPrefix_eq_false (hasPrefix_eq_false_of hhttps)]

theorem transportSettings_unix (path : String) :
    transportSettings ("unix://" ++ path) = ("unix://" ++ path, !contains path "https://") := by
  -- no `https://` can start inside the `unix://` prefix
  have hsecure : contains ("unix://" ++ path) "https://" = contains path "https://" := rfl
  have hscheme : contains ("unix://" ++ path) "://" = true := contains_append_of_left (by decide)
  have hhttp : hasPrefix ("unix://" ++ path) "http://" = false := rfl
  have hhttps : hasPrefix ("unix://" ++ path) "https://" = false := rfl
  cases h : contains path "https://" <;>
    simp [transportSettings, hsecure, h, hscheme, trimPrefix_of_hasPrefix_eq_false hhttp,
      trimPrefix_of_hasPrefix_eq_false hhttps]

theorem transportSettings_no_scheme {endpoint : String} (h : contains endpoint "://" = false) :
    transportSettings endpoint = (endpoint, false) := by
  have hhttps : contains endpoint "https://" = false := contains_eq_false_of h (by decide)
  have hhttp : contains endpoint "http://" = false := contains_eq_false_of h (by decide)
  simp [transportSettings, h, hhttps, trimPrefix_of_hasPrefix_eq_false (hasPrefix_eq_false_of hhttp),
    trimPrefix_of_hasPrefix_eq_false (hasPrefix_eq_false_of hhttps)]

/-- The transport table as `transportSettings` computes it, for every remainder, host, path
and endpoint; the second component is `insecure`. -/
theorem transportSettings_table (rest host path endpoint : String) :
    transportSettings ("https://" ++ rest) = (rest, false) ∧
    (contains host "://" = false → transportSettings ("http://" ++ host) = (host, true)) ∧
    transportSettings ("unix://" ++ path) = ("unix://" ++ path, !contains path "https://") ∧
    (contains endpoint "://" = false → transportSettings endpoint = (endpoint, false)) :=
  ⟨transportSettings_https rest, transportSettings_http, transportSettings_unix path,
    transportSettings_no_scheme⟩

/-- The rows at the default endpoint, a local insecure endpoint, and a socket path holding
`https://`, which is dialled over TLS. -/
theorem transportSettings_table_socket_path_with_https :
    contains "/tmp/https://agent.sock" "https://" = true ∧
    transportSettings ("https://" ++ "grpc.cirrus-ci.com:443") = ("grpc.cirrus-ci.com:443", false) ∧
    transportSettings ("http://" ++ "localhost:8080") = ("localhost:8080", true) ∧
    transportSettings ("unix://" ++ "/tmp/https://agent.sock") =
      ("unix://" ++ "/tmp/https://agent.sock", false) ∧
    transportSettings "localhost:8080" = ("localhost:8080", false) :=
  have table := transportSettings_table "grpc.cirrus-ci.com:443" "localhost:8080"
    "/tmp/https://agent.sock" "localhost:8080"
  ⟨by decide, table.1, table.2.1 (by decide), table.2.2.1, table.2.2.2 (by decide)⟩

/-- `dialWithTimeout`, by the options of its dial. -/
def dialWithTimeout (apiEndpoint : String) : DialOptions :=
  let (target, insecure) := transportSettings apiEndpoint
  { target
    transportSecurity := if insecure then .insecure else .tls13
    timeout := minute
    maxRetries := 3
    retryCodes := [.unavailable, .internal, .unknown, .resourceExhausted, .deadlineExceeded]
    perRetryTimeout := 10 * second }

/-- The dial loop of `main` from attempt `start`, for at most `fuel` attempts: the attempt
whose dial opened the connection. The loop of the source has no bound. -/
def connect (dial : Nat → Option String) : Nat → Nat → Option Nat
  | 0, _ => none
  | fuel + 1, start =>
    match dial start with
    | none => some start
    | some _ => connect dial fuel (start + 1)

/-- The dial loop connects at the first attempt whose dial succeeds. -/
theorem connect_eq_some_iff {dial : Nat → Option String} {fuel start k : Nat} :
    connect dial fuel start = some k ↔ start ≤ k ∧ k < start + fuel ∧ dial k = none ∧
      ∀ j, start ≤ j → j < k → (dial j).isSome := by
  induction fuel generalizing start with
  | zero => simp only [connect, reduceCtorEq, false_iff]; omega
  | succ fuel ih =>
    unfold connect
    cases hstart : dial start with
    | none =>
      refine ⟨fun h => ?_, fun ⟨hle, _, hk, hbefore⟩ => ?_⟩
      · cases h
        exact ⟨le_rfl, by omega, hstart, fun j hj hjk => absurd hjk (by omega)⟩
      · rcases Nat.eq_or_lt_of_le hle with rfl | hlt
        · rfl
        · simpa [hstart] using hbefore start le_rfl hlt
    | some _ =>
      rw [ih]
      refine ⟨fun ⟨hle, hfuel, hk, hbefore⟩ => ⟨by omega, by omega, hk, fun j hj hjk => ?_⟩,
        fun ⟨hle, hfuel, hk, hbefore⟩ => ⟨?_, by omega, hk, fun j hj => hbefore j (by omega)⟩⟩
      · rcases Nat.eq_or_lt_of_le hj with rfl | hlt
        · simp [hstart]
        · exact hbefore j hlt hjk
      · rcases Nat.eq_or_lt_of_le hle with rfl | hlt
        · simp [hstart] at hk
        · exact hlt

/-- The dial loop runs out of attempts exactly when every dial within them fails. -/
theorem connect_eq_none_iff {dial : Nat → Option String} {fuel start : Nat} :
    connect dial fuel start = none ↔ ∀ j, start ≤ j → j < start + fuel → (dial j).isSome := by
  induction fuel generalizing start with
  | zero => simp only [connect, true_iff]; omega
  | succ fuel ih =>
    unfold connect
    cases hstart : dial start with
    | none => simpa using ⟨start, le_rfl, by omega, hstart⟩
    | some _ =>
      rw [ih]
      refine ⟨fun h j hj hjk => ?_, fun h j hj hjk => h j (by omega) (by omega)⟩
      rcases Nat.eq_or_lt_of_le hj with rfl | hlt
      · simp [hstart]
      · exact h j hlt (by omega)

/-- The flags of `main`. -/
structure Flags where
  apiEndpoint : String
  taskId : Int
  clientToken : String
  serverToken : String
  help : Bool
  stopHook : Bool
  commandFrom : String
  commandTo : String

/-- The name of the agent's log file in the temporary directory. -/
def logFileName (taskId : Int) (stopHook : Bool) : String :=
  if stopHook then
    -- In case of a failure the log file will be persisted on the machine for debugging
    -- purposes, and a stop hook must not override it.
    s!"cirrus-agent-{taskId}-hook.log"
  else s!"cirrus-agent-{taskId}.log"

/-- A stop hook keeps its log in another file than the run of the same task. -/
theorem logFileName_hook_ne (taskId : Int) : logFileName taskId true ≠ logFileName taskId false := by
  intro h
  have hlength := congrArg String.length h
  simp only [logFileName, ↓reduceIte, Bool.false_eq_true, String.length_append,
    Nat.add_left_cancel_iff] at hlength
  exact absurd hlength (by decide)

/-- The ports `main` waits on: the entries of `CIRRUS_PORTS_WAIT_FOR` that `strconv.Atoi`
accepts, in order. -/
def portsToWaitFor (portsToWait : String) : List Int :=
  (portsToWait.split (· == ',')).filterMap fun port =>
    match atoi port with
    | (portNumber, none) => some portNumber
    | (_, some _) => none

/-- The answers of everything `main` talks to: the dials by attempt, the stop-hook report,
the process environment, the world of the build (its initial fetch, then the rest), the
read of the log file and its upload. An error is its text. -/
structure MainWorld where
  dial : Nat → Option String
  reportStopHook : Option String
  lookupEnv : String → Option String
  fetch : FetchWorld
  build : RunWorld
  readLogFile : Except String String
  reportAgentLogs : Option String

/-- A call of `main` on the file system, the API or the build. -/
inductive MainEffect where
  | printDefaults
  | openLogFile (path : String)
  | dial (options : DialOptions)
  | reportStopHook (task : TaskIdentification)
  | closeLogFile
  | removeLogFile (path : String)
  | waitForLocalPort (port timeout : Int)
  | startHeartbeat (task : TaskIdentification)
  | runBuild (task : TaskIdentification) (serverToken commandFrom commandTo : String)
  | reportAgentError (task : TaskIdentification) (panic : Panic)
  | reportAgentLogs (task : TaskIdentification) (logs : String)
  | closeConnection
  deriving DecidableEq, Repr

/-- How `main` ends: still in the dial loop when the attempts ran out, by `os.Exit`, or by
returning. -/
inductive MainExit where
  | dialing
  | exited (code : Nat)
  | returned
  deriving DecidableEq, Repr

/-- A run of `main`: its calls, and how it ended. -/
structure MainRun where
  effects : List MainEffect
  exit : MainExit

variable (world : MainWorld)

/-- `uploadAgentLogs`: the log file is removed once the server has its contents. -/
def uploadAgentLogs (logFilePath : String) (task : TaskIdentification) : List MainEffect :=
  match world.readLogFile with
  | .error _ => []
  | .ok logContents =>
    match world.reportAgentLogs with
    | none => [.reportAgentLogs task logContents, .removeLogFile logFilePath]
    | some _ => [.reportAgentLogs task logContents]

/-- The build of `main`: `NewExecutor` on the flags, with no pre-created working directory,
then `RunBuild` from its initial fetch. -/
def mainBuild (flags : Flags) : List InitialCommandsRequest × BuildRun :=
  runBuildFromStart world.fetch world.build ⟨newExecutor flags.taskId flags.clientToken
    flags.serverToken flags.commandFrom flags.commandTo "", [], 0⟩

/-- `main`, with at most `fuel` dial attempts. -/
def agentMain (flags : Flags) (fuel : Nat) : MainRun :=
  if flags.help then ⟨[.printDefaults], .exited 0⟩
  else
    let logFilePath := logFileName flags.taskId flags.stopHook
    let options := dialWithTimeout flags.apiEndpoint
    match connect world.dial fuel 0 with
    | none => ⟨.openLogFile logFilePath :: List.replicate fuel (.dial options), .dialing⟩
    | some attempt =>
      let effects := .openLogFile logFilePath :: List.replicate (attempt + 1) (.dial options)
      let task : TaskIdentification := ⟨flags.taskId, flags.clientToken⟩
      if flags.stopHook then
        let effects := effects ++ [.reportStopHook task]
        match world.reportStopHook with
        | some _ => ⟨effects, .exited 0⟩
        | none => ⟨effects ++ [.closeLogFile, .removeLogFile logFilePath], .exited 0⟩
      else
        let ports := match world.lookupEnv "CIRRUS_PORTS_WAIT_FOR" with
          | some portsToWait => portsToWaitFor portsToWait
          | none => []
        let effects := effects ++ ports.map (fun port => .waitForLocalPort port (60 * second)) ++
          [.startHeartbeat task,
            .runBuild task flags.serverToken flags.commandFrom flags.commandTo]
        match (mainBuild world flags).2.exit with
        | .panicked p => ⟨effects ++ [.reportAgentError task p, .closeConnection], .returned⟩
        | _ =>
          ⟨effects ++ .closeLogFile :: uploadAgentLogs world logFilePath task ++
            [.closeConnection], .returned⟩

/-- `main` stays in its dial loop exactly when it was not asked for help and every dial
within its attempts failed; given attempts past the first dial that succeeds, it leaves
the loop. -/
theorem agentMain_dialing (flags : Flags) (fuel : Nat) :
    (agentMain world flags fuel).exit = .dialing ↔
      flags.help = false ∧ ∀ j < fuel, (world.dial j).isSome := by
  have hnone : connect world.dial fuel 0 = none ↔ ∀ j < fuel, (world.dial j).isSome := by
    simpa using @connect_eq_none_iff world.dial fuel 0
  unfold agentMain
  cases flags.help with
  | true => simp
  | false =>
    simp only [Bool.false_eq_true, if_false, true_and, ← hnone]
    cases connect world.dial fuel 0 with
    | none => simp
    | some attempt =>
      dsimp only
      split <;> split <;> simp

/-- `connectivity.State`. -/
inductive ConnectivityState where
  | idle
  | connecting
  | ready
  | transientFailure
  | shutdown
  deriving DecidableEq, Repr

/-- A call of `runHeartbeat` on the API or on the connection. -/
inductive HeartbeatCall where
  | heartbeat (task : TaskIdentification)
  | getState
  | resetConnectBackoff
  deriving DecidableEq, Repr

/-- One round of `runHeartbeat`: the heartbeat and, when it fails, the connection's state,
whose transient failure resets the connection's backoff. -/
def heartbeatRound (task : TaskIdentification) (answer : Option String)
    (connectionState : ConnectivityState) : List HeartbeatCall :=
  .heartbeat task :: match answer with
    | some _ =>
      .getState :: if connectionState = .transientFailure then [.resetConnectBackoff] else []
    | none => []

/-- The first `rounds` rounds of the endless loop of `runHeartbeat`: round `r` is answered
`heartbeat r`, and reads the state `connectionState r` after a failure. -/
def runHeartbeat (task : TaskIdentification) (heartbeat : Nat → Option String)
    (connectionState : Nat → ConnectivityState) : Nat → List HeartbeatCall
  | 0 => []
  | rounds + 1 => runHeartbeat task heartbeat connectionState rounds ++
      heartbeatRound task (heartbeat rounds) (connectionState rounds)

/-- Over any number of rounds the heartbeat is sent once a round, and the backoff is reset
once for each round whose heartbeat failed while the connection was in a transient
failure, and never otherwise. -/
theorem runHeartbeat_count (task : TaskIdentification) (heartbeat : Nat → Option String)
    (connectionState : Nat → ConnectivityState) (rounds : Nat) :
    let calls := runHeartbeat task heartbeat connectionState rounds
    calls.count (.heartbeat task) = rounds ∧
    calls.count .resetConnectBackoff = ((List.range rounds).filter fun r =>
      (heartbeat r).isSome && connectionState r = .transientFailure).length := by
  induction rounds with
  | zero => simp [runHeartbeat]
  | succ rounds ih =>
    obtain ⟨hbeats, hresets⟩ := ih
    simp only [runHeartbeat, List.count_append, hbeats, hresets, List.range_succ,
      List.filter_append, List.length_append]
    cases hbeat : heartbeat rounds <;>
      by_cases hstate : connectionState rounds = .transientFailure <;>
      simp [heartbeatRound, hbeat, hstate]

end CirrusAgent
