import LineJoin.Invocation
import LineJoin.Main
import LineJoin.Proofs.Command.InPlace
import LineJoin.Proofs.Join.Regrouping
import LineJoin.Session
import LineJoin.Proofs.Command.Greedy
import LineJoin.Proofs.Document.RoundTrip
import LineJoin.Proofs.CommandLine.Actions
import LineJoin.Proofs.CommandLine.AllOrNothing
import LineJoin.Proofs.Json.RoundTrip
import LineJoin.Proofs.Service.Requests
import LineJoin.Proofs.Client.Calls
import LineJoin.Proofs.CommandLine.Remote
import LineJoin.Proofs.Scan.Ending
import LineJoin.Proofs.Session.Changes
import LineJoin.Proofs.CommandLine.LocalRun
import LineJoin.Proofs.Command.OneByOne
import LineJoin.Proofs.Document.LineBreaks
import LineJoin.Proofs.Scan.RegionEnd
import LineJoin.Proofs.Service.Answers
import LineJoin.Proofs.Join.CommentBlocks
import LineJoin.Proofs.Scan.OpenLiteral
import LineJoin.Proofs.RuleSet.MarkerOrder
import LineJoin.Proofs.Command.SelectionOrder
import LineJoin.Proofs.Selection.Grammar
import LineJoin.Proofs.Client.Replies
import LineJoin.Proofs.CommandLine.SkipReport
