import CirrusAgent.Environment
import CirrusAgent.Command

/-! # The executor and what it does to the outside world

`Executor` holds the task identification, the bounds of a resumed run, the environment,
the registry of background commands and the terminal wrapper. Log uploaders, processes
and RPC calls live outside the executor; each call the code makes on them is recorded as
an `Effect`, in the order the code makes it, so that "finalised exactly once" or "kill
requested" are statements about the effect log.
-/

namespace CirrusAgent

/-- `api.TaskIdentification`. -/
structure TaskIdentification where
  taskId : Int
  secret : String
  deriving DecidableEq, Repr

/-- Modelled from the spec: `terminalwrapper.Wrapper` (absent from the sources), as
started by `terminalwrapper.New` with the server address and the expiry. -/
structure TerminalWrapper where
  terminalServerAddress : String
  expireIn : Int
  deriving DecidableEq, Repr

/-- `CommandAndLogs`: a background command, its process and its log uploader. Processes
and uploaders are named by the number of the step that created them. -/
structure CommandAndLogs where
  name : String
  cmd : Nat
  logs : Nat
  deriving DecidableEq, Repr

/-- A call of the executor on a collaborator outside it. -/
inductive Effect where
  | reportError (message : String)
  | reportAgentWarning (message : String)
  | newVaultClient
  | logUploaderCreated (uploader : Nat)
  | logUploaderWrite (uploader : Nat) (text : String)
  | logUploaderFinalized (uploader : Nat)
  | processKill (process : Nat)
  | reportAgentFinished (commandResults : List CommandResult)
  deriving DecidableEq, Repr

/-- Whether an effect is a `ReportAgentError` call. -/
def Effect.isReportError : Effect → Bool
  | .reportError _ => true
  | _ => false

/-- Whether an effect is a `ReportAgentFinished` call. -/
def Effect.isReportAgentFinished : Effect → Bool
  | .reportAgentFinished _ => true
  | _ => false

/-- `Executor`. The cache-attempt tally is left out: no modelled function reads it. -/
structure Executor where
  taskIdentification : TaskIdentification
  serverToken : String
  backgroundCommands : List CommandAndLogs
  httpCacheHost : String
  commandFrom : String
  commandTo : String
  preCreatedWorkingDir : String
  env : Environment
  terminalWrapper : Option TerminalWrapper

/-- `NewExecutor`. -/
def newExecutor (taskId : Int)
    (clientToken serverToken commandFrom commandTo preCreatedWorkingDir : String) : Executor where
  taskIdentification := ⟨taskId, clientToken⟩
  serverToken := serverToken
  backgroundCommands := []
  httpCacheHost := ""
  commandFrom := commandFrom
  commandTo := commandTo
  preCreatedWorkingDir := preCreatedWorkingDir
  env := Environment.newEmpty
  terminalWrapper := none

/-- The state the model threads through `RunBuild`: the executor, the effects so far, and
the number of steps performed, which names the next log uploader. -/
structure Agent where
  executor : Executor
  effects : List Effect
  steps : Nat

namespace Agent

/-- Record one effect. -/
def emit (agent : Agent) (effect : Effect) : Agent :=
  { agent with effects := agent.effects ++ [effect] }

/-- Record several effects, in order. -/
def emitAll (agent : Agent) (effects : List Effect) : Agent :=
  { agent with effects := agent.effects ++ effects }

/-- Replace the environment. -/
def setEnv (agent : Agent) (env : Environment) : Agent :=
  { agent with executor := { agent.executor with env := env } }

/-- `Executor.reportError`: one `ReportAgentError` call. -/
def reportError (agent : Agent) (message : String) : Agent :=
  agent.emit (.reportError message)

@[simp] theorem emit_effects (agent : Agent) (effect : Effect) :
    (agent.emit effect).effects = agent.effects ++ [effect] := rfl

@[simp] theorem emit_executor (agent : Agent) (effect : Effect) :
    (agent.emit effect).executor = agent.executor := rfl

@[simp] theorem emit_steps (agent : Agent) (effect : Effect) :
    (agent.emit effect).steps = agent.steps := rfl

@[simp] theorem emitAll_effects (agent : Agent) (effects : List Effect) :
    (agent.emitAll effects).effects = agent.effects ++ effects := rfl

@[simp] theorem emitAll_executor (agent : Agent) (effects : List Effect) :
    (agent.emitAll effects).executor = agent.executor := rfl

@[simp] theorem emitAll_steps (agent : Agent) (effects : List Effect) :
    (agent.emitAll effects).steps = agent.steps := rfl

@[simp] theorem setEnv_env (agent : Agent) (env : Environment) :
    (agent.setEnv env).executor.env = env := rfl

@[simp] theorem setEnv_effects (agent : Agent) (env : Environment) :
    (agent.setEnv env).effects = agent.effects := rfl

@[simp] theorem setEnv_steps (agent : Agent) (env : Environment) :
    (agent.setEnv env).steps = agent.steps := rfl

@[simp] theorem setEnv_backgroundCommands (agent : Agent) (env : Environment) :
    (agent.setEnv env).executor.backgroundCommands = agent.executor.backgroundCommands := rfl

@[simp] theorem setEnv_terminalWrapper (agent : Agent) (env : Environment) :
    (agent.setEnv env).executor.terminalWrapper = agent.executor.terminalWrapper := rfl

@[simp] theorem setEnv_commandFrom (agent : Agent) (env : Environment) :
    (agent.setEnv env).executor.commandFrom = agent.executor.commandFrom := rfl

@[simp] theorem setEnv_commandTo (agent : Agent) (env : Environment) :
    (agent.setEnv env).executor.commandTo = agent.executor.commandTo := rfl

end Agent

end CirrusAgent
