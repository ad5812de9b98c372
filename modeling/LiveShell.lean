import LiveShell.Completion.Menu
import LiveShell.Main
import LiveShell.Proofs.LocatedNode
import LiveShell.Proofs.SilentCalls
import LiveShell.Value.Supplied
import LiveShell.Proofs.Exchanges
import LiveShell.Proofs.RequestProtocol
import LiveShell.Proofs.NameCompletion
import LiveShell.Proofs.HandleHistory
import LiveShell.Proofs.HandleEvents
import LiveShell.Proofs.HandleLifecycle
import LiveShell.Proofs.PathText
import LiveShell.Proofs.PathContinuation
import LiveShell.Proofs.CursorClamping
import LiveShell.Proofs.ReportedFailures
import LiveShell.Proofs.EscapingErrors
import LiveShell.Proofs.ModuleLoading
import LiveShell.Proofs.LoadOutcome
import LiveShell.Proofs.CandidateList
import LiveShell.Proofs.PrimaryNode
import LiveShell.Proofs.CallSilence
import LiveShell.Proofs.LiteralEnds
import LiveShell.Proofs.ArithmeticLimits
import LiveShell.Proofs.BracketedTexts
import LiveShell.Proofs.FaithfulDescriptions
import LiveShell.Proofs.ShellOutput
import LiveShell.Proofs.OpenLiterals
import LiveShell.Proofs.LinePositions
import LiveShell.Proofs.DirectoryNames
import LiveShell.Proofs.StablePaths
import LiveShell.Proofs.RepeatedCompletion
import LiveShell.Proofs.SettingsFaults
import LiveShell.Proofs.RegisteredHints
import LiveShell.Proofs.OpenBrackets
import LiveShell.Proofs.PrimaryChain
import LiveShell.Proofs.ArgumentPieces
import LiveShell.Proofs.MergedSettings
import LiveShell.Proofs.SilentTraces
