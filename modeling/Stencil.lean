import Stencil.Text.Escaping
import Stencil.Text.Casing
import Stencil.Number.Notation
import Stencil.Number.Reading
import Stencil.Value.Coercion
import Stencil.Json.Data
import Stencil.Template.Block
import Stencil.Evaluation.Render
import Stencil.Evaluation.Check
import Stencil.Session
import Stencil.CommandLine.Run
import Stencil.Main
import Stencil.Proofs.Rendering.Related
import Stencil.Proofs.Checking.Agreement
import Stencil.Proofs.Scope.Flat
import Stencil.Proofs.Scope.Renaming
import Stencil.Proofs.Rendering.Desugaring
import Stencil.Proofs.Limits.CutOff
import Stencil.Proofs.Limits.Widening
import Stencil.Proofs.Limits.Template
import Stencil.Proofs.Limits.Fitting
import Stencil.Proofs.Number.Whole
import Stencil.Proofs.Source.Printing
import Stencil.Proofs.Source.Token
import Stencil.Proofs.Source.Expression
import Stencil.Proofs.Source.Tag
import Stencil.Proofs.Source.Template
import Stencil.Proofs.Markup.Escaping
import Stencil.Proofs.Tree.Form
import Stencil.Proofs.Tree.ReadExpression
import Stencil.Proofs.Tree.ReadTemplate
import Stencil.Proofs.Limits.Nesting
import Stencil.Proofs.Limits.Height
import Stencil.Proofs.Reading.Onward
import Stencil.Proofs.Reading.Rounds
import Stencil.Proofs.Reading.Progress
import Stencil.Proofs.Fields.Order
import Stencil.Proofs.Registry.Content
import Stencil.Process
import Stencil.Proofs.Session.Sharing
import Stencil.Proofs.Number.ZeroSign
import Stencil.Proofs.Session.Isolation
import Stencil.Proofs.Value.ZeroSign
import Stencil.Proofs.Rendering.ZeroSign
import Stencil.Proofs.Evaluation.Operands
import Stencil.Proofs.Number.Count
import Stencil.Proofs.Evaluation.Truncation
import Stencil.Proofs.Source.Unclosed
import Stencil.Proofs.Reading.Recovery
import Stencil.Proofs.Checking.Site
import Stencil.Proofs.Checking.Listing
import Stencil.Proofs.Checking.Reports
import Stencil.Proofs.Checking.Registering
import Stencil.Proofs.Registry.Naming
import Stencil.Proofs.Evaluation.Logic
import Stencil.Proofs.Markup.Entities
import Stencil.Proofs.Number.Nearest
import Stencil.Proofs.Number.Decimal
import Stencil.Proofs.Number.Digits
import Stencil.Proofs.Number.Numeral
import Stencil.Proofs.Number.Coercion
import Stencil.Proofs.Number.RoundTrip
import Stencil.Proofs.Value.Singleton
import Stencil.Proofs.Json.Conversion
import Stencil.Proofs.Evaluation.Equality
import Stencil.Proofs.Scope.Paths
import Stencil.Proofs.Checking.Lines
import Stencil.Proofs.CommandLine.Grammar
import Stencil.Proofs.CommandLine.Contract
import Stencil.Proofs.Literal.Quoted
import Stencil.Proofs.Literal.Numeric
import Stencil.Proofs.Limits.Counters
import Stencil.Proofs.Limits.Balance
