import ParseFlow.Dynamic.Catalogue
import ParseFlow.Segment
import ParseFlow.Proofs.Parser.Conservation
import ParseFlow.Proofs.Parser.Locality
import ParseFlow.Proofs.Pipeline.Composition
import ParseFlow.Proofs.Parser.Repetition
import ParseFlow.Proofs.Grammar.ClosingMarker
import ParseFlow.Proofs.Grammar.BlockComment
import ParseFlow.Proofs.Grammar.CommentRun
import ParseFlow.Proofs.Grammar.Description
import ParseFlow.Proofs.Grammar.TagLines
import ParseFlow.Proofs.Pipeline.Course
import ParseFlow.Proofs.Pipeline.Pace
import ParseFlow.Proofs.Pipeline.Prompt
import ParseFlow.Proofs.Pipeline.Demand
import ParseFlow.Proofs.View.Narrowing
import ParseFlow.Proofs.Segment.History
import ParseFlow.Proofs.Pipeline.SingleValue
import ParseFlow.Proofs.Parser.Threading
import ParseFlow.Proofs.Regex.Fitting
import ParseFlow.Proofs.Regex.Searching
import ParseFlow.Proofs.Parser.Expression
import ParseFlow.Proofs.Parser.Sequencing
import ParseFlow.Proofs.Parser.ExactRepetition
import ParseFlow.Proofs.Pipeline.Windows
import ParseFlow.Proofs.View.Slicing
import ParseFlow.Proofs.View.Reading
import ParseFlow.Proofs.Regex.Matches
import ParseFlow.Proofs.Regex.Slots
import ParseFlow.Proofs.Pipeline.Ration
import ParseFlow.Proofs.Pipeline.SettingUp
import ParseFlow.Proofs.Parser.Piping
import ParseFlow.Proofs.Parser.SingleItems
import ParseFlow.Proofs.Parser.Literal
import ParseFlow.Proofs.Value.Order
import ParseFlow.Proofs.Pipeline.Sorting
import ParseFlow.Proofs.Pipeline.Duplicates
import ParseFlow.Proofs.Pipeline.Folding
import ParseFlow.Proofs.Segment.Storage
import ParseFlow.Proofs.Pipeline.Ending
import ParseFlow.Proofs.Parser.Account
