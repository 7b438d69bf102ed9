import Mathlib.Data.List.AList

/-! # Commands, results and panics

The controller sends a task as an ordered list of `api.Command`s. The generated `api`
package is not part of the sources; only the fields the executor reads are kept, and an
instruction handler's payload is kept only where the executor looks inside it.
-/

namespace CirrusAgent

/-- `api.Command_CommandExecutionBehaviour`. The enumeration is an `int32` in Go, so a
value other than the three named constants is kept as `unrecognized`. -/
inductive ExecutionBehaviour where
  | onSuccess
  | onFailure
  | always
  | unrecognized (value : Int)
  deriving DecidableEq, Repr

/-- `api.FileInstruction.Source`: the one-of field of a file instruction. -/
inductive FileSource where
  | fromEnvironmentVariable (name : String)
  | unset
  deriving DecidableEq, Repr

/-- `api.FileInstruction`. -/
structure FileInstruction where
  source : FileSource
  destinationPath : String
  deriving DecidableEq, Repr

/-- `api.WaitForTerminalInstruction`. -/
structure WaitForTerminalInstruction where
  terminalServerAddress : String
  deriving DecidableEq, Repr

/-- `api.Command.Instruction`, the one-of field dispatched by `performStep`. A
wait-for-terminal wrapper may hold a nil inner message, and `unset` is a nil one-of. -/
inductive Instruction where
  | exitInstruction
  | cloneInstruction
  | fileInstruction (instruction : FileInstruction)
  | scriptInstruction
  | backgroundScriptInstruction
  | cacheInstruction
  | uploadCacheInstruction
  | artifactsInstruction
  | waitForTerminalInstruction (instruction : Option WaitForTerminalInstruction)
  | unset
  deriving DecidableEq, Repr

namespace Instruction

/-- The type assertion `Instruction.(*api.Command_WaitForTerminalInstruction)`. -/
def isWaitForTerminal : Instruction → Bool
  | waitForTerminalInstruction _ => true
  | _ => false

/-- The type assertion `Instruction.(*api.Command_BackgroundScriptInstruction)`. -/
def isBackgroundScript : Instruction → Bool
  | backgroundScriptInstruction => true
  | _ => false

end Instruction

/-- `api.Command`. -/
structure Command where
  name : String
  executionBehaviour : ExecutionBehaviour
  instruction : Instruction
  deriving DecidableEq, Repr

/-- `api.Status`, restricted to the four values the executor reports. -/
inductive Status where
  | executing
  | completed
  | failed
  | skipped
  deriving DecidableEq, Repr

/-- `api.CommandResult`; omitted fields keep Go's zero values. -/
structure CommandResult where
  name : String
  status : Status
  durationInNanos : Int := 0
  signaledToExit : Bool := false
  deriving DecidableEq, Repr

/-- `StepResult`; a `time.Duration` is a count of nanoseconds. -/
structure StepResult where
  success : Bool
  signaledToExit : Bool
  duration : Int
  deriving DecidableEq, Repr

/-- The Go runtime panics and `log.Panic` calls the executor can raise. -/
inductive Panic where
  | sliceBoundsOutOfRange (low high : Nat)
  | nilPointerDereference (receiver : String)
  | logPanic (message : String)
  deriving DecidableEq, Repr

end CirrusAgent
