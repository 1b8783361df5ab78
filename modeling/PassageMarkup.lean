import PassageMarkup.Main
import PassageMarkup.Proofs.Scan.Coverage
import PassageMarkup.Proofs.Scan.Flat
import PassageMarkup.Proofs.Scan.Formation
import PassageMarkup.Regex.Source
import PassageMarkup.Proofs.Rule.Closer
import PassageMarkup.Proofs.Scan.Horizon
import PassageMarkup.Proofs.Scan.Progress
import PassageMarkup.Proofs.Scan.Prefilter
import PassageMarkup.Proofs.Scan.Room
import PassageMarkup.Proofs.Scan.Safety
import PassageMarkup.Proofs.Regex.Starts
import PassageMarkup.Proofs.Regex.Greedy
import PassageMarkup.Proofs.Rule.Written
import PassageMarkup.Proofs.Document.Basic
import PassageMarkup.Proofs.Document.Plain
import PassageMarkup.Proofs.Scan.Writes
import PassageMarkup.Proofs.Document.Parts
import PassageMarkup.Proofs.Document.Delimiters
import PassageMarkup.Proofs.Document.RoundTrip
import PassageMarkup.Proofs.Regex.Longer
import PassageMarkup.Proofs.Rule.Settled
import PassageMarkup.Proofs.Scan.Replay
import PassageMarkup.Proofs.Rule.Alone
import PassageMarkup.Proofs.Scan.Relex
import PassageMarkup.Proofs.Scan.Depth
import PassageMarkup.Proofs.Scan.HookBacks
import PassageMarkup.Proofs.Document.Quoting
import PassageMarkup.Proofs.Scan.Texts
import PassageMarkup.Proofs.Scan.Refusal
import PassageMarkup.Proofs.Scan.Tokens
import PassageMarkup.Proofs.Token.Shift
import PassageMarkup.Proofs.Scan.Translation
import PassageMarkup.Proofs.Scan.InnerTexts
import PassageMarkup.Proofs.Scan.Verbatim
import PassageMarkup.Proofs.Rule.Block
import PassageMarkup.Proofs.Scan.Lines
import PassageMarkup.Proofs.Scan.Limit
import PassageMarkup.Proofs.Scan.Levels
import PassageMarkup.Proofs.Scan.Lookup
import PassageMarkup.Proofs.Scan.FrontStack
import PassageMarkup.Proofs.Text.Uncased
import PassageMarkup.Proofs.Regex.Uncased
import PassageMarkup.Proofs.Token.Uncased
import PassageMarkup.Proofs.Rule.Uncased
import PassageMarkup.Proofs.Scan.Recast
import PassageMarkup.Proofs.Scan.Uncased
import PassageMarkup.Proofs.Scan.Canonical
import PassageMarkup.Proofs.Scan.Errors
import PassageMarkup.Proofs.Scan.Json
import PassageMarkup.Proofs.Scan.Arity
import PassageMarkup.Proofs.Regex.Folding
import PassageMarkup.Proofs.Scan.Origin
import PassageMarkup.Proofs.Rule.Script
import PassageMarkup.Proofs.Scan.Scripts
import PassageMarkup.Proofs.Rule.Word
import PassageMarkup.Proofs.Scan.Words
import PassageMarkup.Proofs.Rule.Link
import PassageMarkup.Proofs.Scan.Links
import PassageMarkup.Proofs.Scan.Lasting
import PassageMarkup.Proofs.Token.Literal
import PassageMarkup.Proofs.Scan.Literals
import PassageMarkup.Proofs.Token.Paths
import PassageMarkup.Proofs.Token.Outline
import PassageMarkup.Proofs.Rule.Name
import PassageMarkup.Proofs.Scan.Outline
import PassageMarkup.Proofs.Token.Traversal
import PassageMarkup.Proofs.Text.Forms
import PassageMarkup.Proofs.Rule.Ending
import PassageMarkup.Proofs.Token.WordStarts
import PassageMarkup.Proofs.Scan.WordStarts
import PassageMarkup.Proofs.Document.Unclosed
import PassageMarkup.Proofs.Token.Ranges
import PassageMarkup.Proofs.Line
import PassageMarkup.Proofs.Diagnostic
import PassageMarkup.Proofs.Scan.Sightings
import PassageMarkup.Proofs.Scan.Nodes
import PassageMarkup.Proofs.Scan.Indexed
import PassageMarkup.Proofs.Scan.Bookkeeping
import PassageMarkup.Proofs.Regex.Source
