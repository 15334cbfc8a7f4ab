import LineShell.Builtin
import LineShell.Errno
import LineShell.Invocation
import LineShell.Launch
import LineShell.SearchPath
import LineShell.Signal
import LineShell.Text.Quoted
import LineShell.Text.Utf8
import LineShell.Text.Whitespace
import LineShell.Token
import LineShell.Input.Bounded
import LineShell.Text.Cluster
import LineShell.Input.Edited
import LineShell.Session
import LineShell.Machine.FileTree
import LineShell.Machine.State
import LineShell.Machine.Script.Parser
import LineShell.Machine.Script.Expansion
import LineShell.Machine.Script.Format
import LineShell.Machine.Terminal
import LineShell.Machine.Tools
import LineShell.Machine.Script.Commands
import LineShell.Machine.Execution
import LineShell.CommandLine
import LineShell.Machine.Host
import LineShell.Machine.Program
import LineShell.Machine.Boot
import LineShell.Sink
import LineShell.Main
import LineShell.Proofs.Input.Delivery
import LineShell.Proofs.Input.Bounded
import LineShell.Proofs.Token.Scan
import LineShell.Proofs.Session.Line
import LineShell.Proofs.Session.Run
import LineShell.Proofs.Token.Spelling
import LineShell.Proofs.Session.Course
import LineShell.Proofs.Session.Status
import LineShell.Proofs.Session.Output
import LineShell.Proofs.Session.FullSink
import LineShell.Proofs.Builtin.Output
import LineShell.Proofs.Launch.Rebind
import LineShell.Proofs.Launch.Verdict
import LineShell.Proofs.Token.Unquoted
import LineShell.Proofs.Text.Utf8
import LineShell.Proofs.Invocation.Quoted
import LineShell.Proofs.Session.Frame
import LineShell.Proofs.Session.Interrupt
import LineShell.Proofs.Session.Directory
import LineShell.Proofs.Launch.Deeds
import LineShell.Proofs.Session.Pipeline
import LineShell.Proofs.Invocation.ZeroByte
import LineShell.Proofs.Session.Reported
import LineShell.Proofs.Token.Trailing
import LineShell.Proofs.Session.SingleLine
import LineShell.Proofs.Invocation.Faults
import LineShell.Proofs.Input.Edited
import LineShell.Proofs.Session.Receiver
import LineShell.Proofs.Session.Split
import LineShell.Proofs.Session.Prompt
import LineShell.Proofs.Invocation.InMemory
import LineShell.Proofs.SearchPath.Directories
import LineShell.Proofs.SearchPath.Resolve
import LineShell.Proofs.Token.Separator
import LineShell.Proofs.Session.Blank
import LineShell.Proofs.SearchPath.Written
import LineShell.Proofs.Builtin.Call
import LineShell.Proofs.Launch.Table
import LineShell.Proofs.Machine.Descriptors
import LineShell.Proofs.Machine.Editor
import LineShell.Proofs.Machine.History
import LineShell.Proofs.Launch.Replace
import LineShell.Proofs.CommandLine.Places
import LineShell.Proofs.Input.Window
import LineShell.Proofs.Input.History
import LineShell.Proofs.Input.Typed
import LineShell.Proofs.Token.Progress
import LineShell.Proofs.Launch.Report
