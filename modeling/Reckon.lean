import Reckon.Text
import Reckon.Text.Printable
import Reckon.Text.Alphanumeric
import Reckon.Text.Width
import Reckon.Text.Quoted
import Reckon.Excerpt
import Reckon.Decimal.Shortest
import Reckon.Decimal.Notation
import Reckon.Decimal.Numeral
import Reckon.Quantity.Arithmetic
import Reckon.Quantity.Power
import Reckon.Quantity.Functions
import Reckon.Value
import Reckon.Pattern
import Reckon.Catalog
import Reckon.Options
import Reckon.Token.Scan
import Reckon.Parse
import Reckon.Outcome
import Reckon.Toml.Document
import Reckon.Settings
import Reckon.Command.Run
import Reckon.Command.Screen
import Reckon.Main
import Reckon.Proofs.Evaluation
import Reckon.Proofs.Shape.Groups
import Reckon.Proofs.Shape.Marks
import Reckon.Proofs.Shape.Runs
import Reckon.Proofs.Shape.Forms
import Reckon.Proofs.Levels
import Reckon.Proofs.Grammar
import Reckon.Proofs.Decimal.Bits
import Reckon.Proofs.Decimal.Nearest
import Reckon.Proofs.Decimal.Shortest
import Reckon.Proofs.Decimal.Reading
import Reckon.Proofs.Literals
import Reckon.Proofs.Rendering.Trees
import Reckon.Proofs.Rendering.Spelling
import Reckon.Proofs.Rendering.Scanning
import Reckon.Proofs.Rendering.RoundTrip
import Reckon.Proofs.Safety
import Reckon.Proofs.Limits
import Reckon.Proofs.Worlds
import Reckon.Proofs.Tokens.Reading
import Reckon.Proofs.Tokens.Tiling
import Reckon.Proofs.Tokens.Brackets
import Reckon.Proofs.Tokens.Regions
import Reckon.Proofs.Tokens.Balance
import Reckon.Proofs.Tokens.Verdict
import Reckon.Proofs.Shape.Order
import Reckon.Proofs.Shape.Places
import Reckon.Proofs.Tokens.Displacement
import Reckon.Proofs.Tokens.Spacing
import Reckon.Proofs.Composition
import Reckon.Proofs.Exactness.Rules
import Reckon.Proofs.Exactness.Trees
import Reckon.Proofs.Layout
import Reckon.Proofs.Recursion
import Reckon.Proofs.Variables
import Reckon.Proofs.Options.Building
import Reckon.Proofs.Options.Reachable
import Reckon.Proofs.Tokens.Order
import Reckon.Proofs.Screen
import Reckon.Proofs.Commands
import Reckon.Proofs.Substitution
import Reckon.Proofs.Halving
import Reckon.Proofs.Sequence
import Reckon.Proofs.Tokens.Hidden
import Reckon.Proofs.Shape.Parts
import Reckon.Proofs.Shape.Flaws
import Reckon.Proofs.Descent
import Reckon.Proofs.Excerpts
import Reckon.Proofs.Precedence
import Reckon.Proofs.Decimal.Values
import Reckon.Proofs.Exactness.Powers
import Reckon.Proofs.Exactness.Rounding
import Reckon.Proofs.Arity
import Reckon.Proofs.WholeLiterals
import Reckon.Proofs.Preorder
import Reckon.Proofs.Store.Entries
import Reckon.Proofs.Store.Asking
import Reckon.Proofs.Store.Histories
import Reckon.Proofs.Decimal.Language
import Reckon.Proofs.Decimal.Notation
import Reckon.Proofs.Rendering.Doubles
