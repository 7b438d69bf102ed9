import CirrusAgent.Environment
import CirrusAgent.Command
import CirrusAgent.GoLibrary
import CirrusAgent.BoundedCommands
import CirrusAgent.StepLoop
import CirrusAgent.Executor
import CirrusAgent.Vault
import CirrusAgent.Unboxing
import CirrusAgent.ScriptEnvironment
import CirrusAgent.Clone
import CirrusAgent.PerformStep
import CirrusAgent.Masking
import CirrusAgent.RunBuild
import CirrusAgent.InitialCommands
import CirrusAgent.Uploaders
import CirrusAgent.Redaction
import CirrusAgent.UploaderProtocol
import CirrusAgent.Main
