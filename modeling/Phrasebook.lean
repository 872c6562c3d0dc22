import Phrasebook.Language.Lint
import Phrasebook.Language.Load
import Phrasebook.Render
import Phrasebook.Proofs.Expr.Names
import Phrasebook.Proofs.Expr.Lexing
import Phrasebook.Proofs.Expr.Grammar
import Phrasebook.Proofs.Expr.StrictReading
import Phrasebook.Proofs.Expr.Printing
import Phrasebook.Proofs.Eval.Yields
import Phrasebook.Proofs.Number.Arithmetic
import Phrasebook.Proofs.Plural.Condition
import Phrasebook.Proofs.Text.Splitting
import Phrasebook.Proofs.Plural.Writing
import Phrasebook.Proofs.Plural.Evaluation
import Phrasebook.Proofs.Label.Kinds
import Phrasebook.Proofs.Label.Scanning
import Phrasebook.Proofs.Label.Pieces
import Phrasebook.Proofs.Label.Extraction
import Phrasebook.Proofs.Label.Filling
import Phrasebook.Proofs.Markup.Fragments
import Phrasebook.Proofs.Markup.RoundTrip
import Phrasebook.Proofs.Eval.Notices
import Phrasebook.Proofs.Lint.Operators
import Phrasebook.Proofs.Lint.Rendering
import Phrasebook.Proofs.Lint.Languages
import Phrasebook.Proofs.Label.Reading
import Phrasebook.Proofs.Label.PluralToken
import Phrasebook.Proofs.Eval.Assigned
import Phrasebook.Proofs.Eval.Correspondence
import Phrasebook.Proofs.Eval.Operations
import Phrasebook.Proofs.Eval.Reading
import Phrasebook.Proofs.Eval.Frame
import Phrasebook.Proofs.Value.Alike
import Phrasebook.Proofs.Eval.CountText
import Phrasebook.Proofs.Text.Cutting
import Phrasebook.Proofs.Label.Seams
import Phrasebook.Proofs.Label.Declared
import Phrasebook.Proofs.Render.Restriction
import Phrasebook.Proofs.Label.Order
import Phrasebook.Proofs.Markup.OpenElements
import Phrasebook.Proofs.Markup.Ending
import Phrasebook.Proofs.Label.Stretches
import Phrasebook.Proofs.Case.Pieces
import Phrasebook.Proofs.Expr.Spelling
import Phrasebook.Proofs.Case.Scan
import Phrasebook.Proofs.Label.Bars
import Phrasebook.Proofs.Markup.Content
import Phrasebook.Proofs.Table.Entries
import Phrasebook.Proofs.Text.Template
import Phrasebook.Proofs.Render.Passes
import Phrasebook.Proofs.Markup.DefaultDecoration
import Phrasebook.Proofs.Label.Mapping
import Phrasebook.Proofs.Label.Phrases
import Phrasebook.Proofs.Eval.Calls
import Phrasebook.Proofs.Value.Coherence
import Phrasebook.Proofs.Eval.MissingOperand
import Phrasebook.Proofs.Label.Braces
import Phrasebook.Proofs.Label.Inert
import Phrasebook.Proofs.Markup.MarkFree
import Phrasebook.Proofs.Render.Idempotence
import Phrasebook.Proofs.Eval.Negation
import Phrasebook.Proofs.Eval.ExactArithmetic
import Phrasebook.Proofs.Lint.Quoted
import Phrasebook.Proofs.Text.ByteOrder
import Phrasebook.Proofs.Suggestion.EditDistance
import Phrasebook.Proofs.Suggestion.Ranking
import Phrasebook.Proofs.Suggestion.Relisting
import Phrasebook.Proofs.Markup.Names
import Phrasebook.Proofs.Lint.Keywords
import Phrasebook.Proofs.Expr.Coverage
