import CommandShell.Main
import CommandShell.Input.Responder
import CommandShell.Proofs.Input.Responder
import CommandShell.Proofs.Script.Opener
import CommandShell.Proofs.Text.ScriptLines
import CommandShell.Proofs.Script.RoundTrip
import CommandShell.Proofs.Token.Cut
import CommandShell.Proofs.Command.Registry
import CommandShell.Proofs.Command.Registration
import CommandShell.Proofs.Match.Resolution
import CommandShell.Proofs.Number.Binary64
import CommandShell.Proofs.Match.Choice
import CommandShell.Proofs.Shell.Decision
import CommandShell.Proofs.Shell.Evolution
import CommandShell.Proofs.History
import CommandShell.Proofs.Shell.Listing
import CommandShell.Proofs.Shell.Reachable
import CommandShell.Proofs.Shell.Retrigger
import CommandShell.Proofs.Command.Program
import CommandShell.Proofs.Shell.Printing
import CommandShell.Proofs.Script.Replay
import CommandShell.Proofs.Command.Requests
import CommandShell.Proofs.Shell.Hidden
import CommandShell.Proofs.Shell.Dispatch
import CommandShell.Proofs.Shell.Following
import CommandShell.Proofs.Shell.Depth
import CommandShell.Proofs.Shell.Guard
import CommandShell.Proofs.Input.Terminal
import CommandShell.Proofs.Shell.Interaction
import CommandShell.Proofs.Input.Upcoming
import CommandShell.Proofs.Input.Alike
import CommandShell.Proofs.Command.Exchange
import CommandShell.Proofs.Command.LineReads
import CommandShell.Proofs.Script.Performance
import CommandShell.Proofs.Script.Supply
import CommandShell.Proofs.Shell.Alike
import CommandShell.Proofs.Script.Isolation
import CommandShell.Proofs.Shell.Outcome
import CommandShell.Proofs.Token.Written
import CommandShell.Proofs.Shell.Repetition
import CommandShell.Proofs.Input.Occupancy
import CommandShell.Proofs.Script.Refusal
import CommandShell.Proofs.Text.LineEnds
import CommandShell.Proofs.Script.Progress
import CommandShell.Proofs.Script.Unclosed
import CommandShell.Proofs.Script.Defect
import CommandShell.Proofs.Token.Quoting
import CommandShell.Proofs.Token.Runs
import CommandShell.Proofs.Token.Unquoting
import CommandShell.Proofs.Shell.Forms
import CommandShell.Proofs.Logging
import CommandShell.Proofs.Script.Typing
import CommandShell.Proofs.History.Log
import CommandShell.Proofs.Text.Numeral
import CommandShell.Proofs.Shell.Recall
import CommandShell.Proofs.Files.Path
import CommandShell.Proofs.CommandLine
import CommandShell.Input.Mailbox
import CommandShell.Proofs.Input.Mailbox
import CommandShell.Proofs.Text.Segments
import CommandShell.Proofs.Match.Distance
import CommandShell.Proofs.Match.Rules
import CommandShell.Proofs.Match.Worth
import CommandShell.Proofs.Match.Threshold
import CommandShell.Proofs.Text.Case
import CommandShell.Proofs.Match.NameParts
import CommandShell.Proofs.Match.Edits
import CommandShell.Proofs.Arguments.Reading
import CommandShell.Proofs.Output.BlankLines
import CommandShell.Proofs.Shell.Catalogue
