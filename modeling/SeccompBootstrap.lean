import SeccompBootstrap.Activation
import SeccompBootstrap.Binary64
import SeccompBootstrap.Bootstrap
import SeccompBootstrap.Cli.Arguments
import SeccompBootstrap.Cli.Help
import SeccompBootstrap.Cli.Start
import SeccompBootstrap.Enforcement
import SeccompBootstrap.Environment
import SeccompBootstrap.Host.Execution
import SeccompBootstrap.Host.FileTree
import SeccompBootstrap.Host.Linking
import SeccompBootstrap.Json.Numeral
import SeccompBootstrap.Json.Reader
import SeccompBootstrap.Json.StringLiteral
import SeccompBootstrap.Json.Value
import SeccompBootstrap.Launch.Config
import SeccompBootstrap.Launch.Handoff
import SeccompBootstrap.Linker
import SeccompBootstrap.Main
import SeccompBootstrap.Outcome
import SeccompBootstrap.Parameters
import SeccompBootstrap.Probe
import SeccompBootstrap.Session
import SeccompBootstrap.StepTree
import SeccompBootstrap.Text.Characters
import SeccompBootstrap.Text.Quoted
import SeccompBootstrap.Text.Terminal
import SeccompBootstrap.Proofs.Session
import SeccompBootstrap.Proofs.Bootstrap
import SeccompBootstrap.Proofs.Json.Grammar
import SeccompBootstrap.Proofs.Text.Utf8
import SeccompBootstrap.Proofs.Text.Decimal
import SeccompBootstrap.Proofs.Json.Numeral
import SeccompBootstrap.Proofs.Json.StringLiteral
import SeccompBootstrap.Proofs.Json.Structure
import SeccompBootstrap.Proofs.Json.Reader
import SeccompBootstrap.Proofs.Json.Skip
import SeccompBootstrap.Proofs.CapabilityOptions
import SeccompBootstrap.Proofs.Environment
import SeccompBootstrap.Proofs.CapturedEnvironment
import SeccompBootstrap.Proofs.Text.Blank
import SeccompBootstrap.Proofs.Launch
import SeccompBootstrap.Proofs.Json.Typed
import SeccompBootstrap.Proofs.ChildEnvironment
import SeccompBootstrap.Proofs.Parameters
import SeccompBootstrap.Proofs.CommandLine
import SeccompBootstrap.Proofs.Cli.Values
import SeccompBootstrap.Proofs.Stream
import SeccompBootstrap.Proofs.Report
import SeccompBootstrap.Proofs.OptOut
import SeccompBootstrap.Proofs.Cli.Program
import SeccompBootstrap.Proofs.DegradationDetail
import SeccompBootstrap.Proofs.DiagnosticLines
import SeccompBootstrap.Proofs.IdRange
import SeccompBootstrap.Proofs.NativeCall
import SeccompBootstrap.Proofs.SingleCall
import SeccompBootstrap.Proofs.EntryCall
import SeccompBootstrap.Proofs.FailOpen
import SeccompBootstrap.Proofs.Handoff
import SeccompBootstrap.Proofs.Independence
import SeccompBootstrap.Proofs.LaunchSettings
import SeccompBootstrap.Proofs.LinkerMessages
import SeccompBootstrap.Proofs.Nesting
import SeccompBootstrap.Proofs.Probe
import SeccompBootstrap.Proofs.RunTrace
import SeccompBootstrap.Proofs.RuntimeFlag
import SeccompBootstrap.Proofs.SharedLatches
