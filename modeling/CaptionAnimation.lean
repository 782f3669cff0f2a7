import CaptionAnimation.Cache.Fingerprint
import CaptionAnimation.Cache.KeyOrder
import CaptionAnimation.Cache.Recent
import CaptionAnimation.Chain
import CaptionAnimation.Evaluation.Context
import CaptionAnimation.Evaluation.Evaluator
import CaptionAnimation.Evaluation.Failure
import CaptionAnimation.Evaluation.Operators
import CaptionAnimation.Expression.Analysis
import CaptionAnimation.Expression.Failure
import CaptionAnimation.Expression.Lexer
import CaptionAnimation.Expression.Parser
import CaptionAnimation.Expression.Source
import CaptionAnimation.Expression.Syntax
import CaptionAnimation.Expression.Token
import CaptionAnimation.Fault
import CaptionAnimation.Helper.Numeric
import CaptionAnimation.Helper.Registry
import CaptionAnimation.Helper.Sequence
import CaptionAnimation.Helper.Standard
import CaptionAnimation.Helper.Text
import CaptionAnimation.Number.Arithmetic
import CaptionAnimation.Number.Basic
import CaptionAnimation.Number.Double
import CaptionAnimation.Number.Notation
import CaptionAnimation.Number.Power
import CaptionAnimation.Number.Reading
import CaptionAnimation.Number.Shortest
import CaptionAnimation.Pattern.Alternatives
import CaptionAnimation.Pattern.CharClass
import CaptionAnimation.Pattern.Matcher
import CaptionAnimation.Pattern.Parser
import CaptionAnimation.Pattern.Syntax
import CaptionAnimation.Proofs.Cache.Atoms
import CaptionAnimation.Proofs.Cache.Canonical
import CaptionAnimation.Proofs.Cache.Fingerprint
import CaptionAnimation.Proofs.Cache.History
import CaptionAnimation.Proofs.Cache.Recent
import CaptionAnimation.Proofs.Evaluation.Blame
import CaptionAnimation.Proofs.Evaluation.Dependence
import CaptionAnimation.Proofs.Evaluation.Depth
import CaptionAnimation.Proofs.Evaluation.Equivalence
import CaptionAnimation.Proofs.Evaluation.Escape
import CaptionAnimation.Proofs.Evaluation.Frames
import CaptionAnimation.Proofs.Evaluation.Meaning
import CaptionAnimation.Proofs.Evaluation.Offsets
import CaptionAnimation.Proofs.Evaluation.Origin
import CaptionAnimation.Proofs.Evaluation.Reaching
import CaptionAnimation.Proofs.Evaluation.Refusals
import CaptionAnimation.Proofs.Evaluation.Resolution
import CaptionAnimation.Proofs.Evaluation.Respelling
import CaptionAnimation.Proofs.Expression.Acceptance
import CaptionAnimation.Proofs.Expression.Clauses
import CaptionAnimation.Proofs.Expression.Completeness
import CaptionAnimation.Proofs.Expression.Completion
import CaptionAnimation.Proofs.Expression.Cuts
import CaptionAnimation.Proofs.Expression.FirstOffence
import CaptionAnimation.Proofs.Expression.Grammar
import CaptionAnimation.Proofs.Expression.Lexing
import CaptionAnimation.Proofs.Expression.Lookahead
import CaptionAnimation.Proofs.Expression.Nodes
import CaptionAnimation.Proofs.Expression.Partition
import CaptionAnimation.Proofs.Expression.Rendering
import CaptionAnimation.Proofs.Expression.RoundTrip
import CaptionAnimation.Proofs.Expression.Seams
import CaptionAnimation.Proofs.Expression.Soundness
import CaptionAnimation.Proofs.Expression.Spelling
import CaptionAnimation.Proofs.Expression.Walks
import CaptionAnimation.Proofs.Expression.Written
import CaptionAnimation.Proofs.Helper.Casing
import CaptionAnimation.Proofs.Helper.Membership
import CaptionAnimation.Proofs.Helper.Outcomes
import CaptionAnimation.Proofs.Number.Faults
import CaptionAnimation.Proofs.Number.Nearest
import CaptionAnimation.Proofs.Number.Order
import CaptionAnimation.Proofs.Number.Undefined
import CaptionAnimation.Proofs.Selection.Accounting
import CaptionAnimation.Proofs.Selection.Bookkeeping
import CaptionAnimation.Proofs.Selection.Concatenation
import CaptionAnimation.Proofs.Selection.Delivery
import CaptionAnimation.Proofs.Selection.Isolation
import CaptionAnimation.Proofs.Selection.Omission
import CaptionAnimation.Proofs.Selection.OncePerWord
import CaptionAnimation.Proofs.Selection.Options
import CaptionAnimation.Proofs.Selection.Places
import CaptionAnimation.Proofs.Selection.Positions
import CaptionAnimation.Proofs.Selection.Precedence
import CaptionAnimation.Proofs.Selection.References
import CaptionAnimation.Proofs.Selection.Rejection
import CaptionAnimation.Proofs.Selection.Run
import CaptionAnimation.Proofs.Selection.Statistics
import CaptionAnimation.Proofs.Selection.Strength
import CaptionAnimation.Proofs.Selection.Transparency
import CaptionAnimation.Proofs.Selection.VariableScope
import CaptionAnimation.Proofs.Selection.Variables
import CaptionAnimation.Proofs.Selection.Winners
import CaptionAnimation.Proofs.Selection.WordIds
import CaptionAnimation.Proofs.Service.Bodies
import CaptionAnimation.Proofs.Service.Options
import CaptionAnimation.Proofs.Service.Reading
import CaptionAnimation.Proofs.Service.Routes
import CaptionAnimation.Proofs.Template.Compilation
import CaptionAnimation.Proofs.Template.Data
import CaptionAnimation.Proofs.Template.WellFormed
import CaptionAnimation.Proofs.Value.Equivalence
import CaptionAnimation.Proofs.Value.Reading
import CaptionAnimation.Proofs.Value.Regular
import CaptionAnimation.Proofs.Value.Sameness
import CaptionAnimation.Proofs.Value.Writable
import CaptionAnimation.Selection.Options
import CaptionAnimation.Selection.Output
import CaptionAnimation.Selection.Run
import CaptionAnimation.Selection.Session
import CaptionAnimation.Selection.Statistics
import CaptionAnimation.Selection.Variables
import CaptionAnimation.Selection.Verdict
import CaptionAnimation.Service.Address
import CaptionAnimation.Service.Body
import CaptionAnimation.Service.Routes
import CaptionAnimation.Service.Shape
import CaptionAnimation.Service.Transport
import CaptionAnimation.Settings
import CaptionAnimation.Template.Basic
import CaptionAnimation.Template.Compiled
import CaptionAnimation.Template.Issue
import CaptionAnimation.Template.Object
import CaptionAnimation.Template.Reading
import CaptionAnimation.Template.Validation
import CaptionAnimation.Text.Alphanumeric
import CaptionAnimation.Text.Blank
import CaptionAnimation.Text.Case
import CaptionAnimation.Text.CaseTable
import CaptionAnimation.Text.CharName
import CaptionAnimation.Text.CharName.Alias
import CaptionAnimation.Text.CharName.From0000
import CaptionAnimation.Text.CharName.From0590
import CaptionAnimation.Text.CharName.From1000
import CaptionAnimation.Text.CharName.From11000
import CaptionAnimation.Text.CharName.From12000
import CaptionAnimation.Text.CharName.From16000
import CaptionAnimation.Text.CharName.From1D000
import CaptionAnimation.Text.CharName.From1E000
import CaptionAnimation.Text.CharName.From1F300
import CaptionAnimation.Text.CharName.From2000
import CaptionAnimation.Text.CharName.From2C00
import CaptionAnimation.Text.CharName.FromA000
import CaptionAnimation.Text.CharName.FromF900
import CaptionAnimation.Text.Digest
import CaptionAnimation.Text.Digit
import CaptionAnimation.Text.Identifier
import CaptionAnimation.Text.Letter
import CaptionAnimation.Text.Printable
import CaptionAnimation.Text.Quoted
import CaptionAnimation.Text.Range
import CaptionAnimation.Text.Search
import CaptionAnimation.Transcript.Reading
import CaptionAnimation.Value.Basic
import CaptionAnimation.Value.Conversion
import CaptionAnimation.Value.Display
import CaptionAnimation.Value.Equality
import CaptionAnimation.Value.Field
import CaptionAnimation.Value.Place
