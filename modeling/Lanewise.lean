import Lanewise.Text.Blank
import Lanewise.Text.CodeRange
import Lanewise.Text.Columns
import Lanewise.Text.LetterClass
import Lanewise.Text.Lower
import Lanewise.Text.Printable
import Lanewise.Text.Quoted
import Lanewise.Decimal.Binary64
import Lanewise.Decimal.Layout
import Lanewise.Decimal.Reading
import Lanewise.Ty.Basic
import Lanewise.Ty.Compatible
import Lanewise.Operator
import Lanewise.Target.Advice
import Lanewise.Target.Resolve
import Lanewise.Diagnostic
import Lanewise.Program.Expr
import Lanewise.Program.Printer
import Lanewise.Yaml.Cursor
import Lanewise.Yaml.Folding
import Lanewise.Yaml.Scalar.Block
import Lanewise.Yaml.Scalar.Plain
import Lanewise.Yaml.Scalar.Quoted
import Lanewise.Yaml.Comment
import Lanewise.Yaml.Row
import Lanewise.Yaml.Token
import Lanewise.Yaml.Property
import Lanewise.Yaml.Scanner
import Lanewise.Yaml.Tokens
import Lanewise.Yaml.Timestamp
import Lanewise.Yaml.Value
import Lanewise.Yaml.Document
import Lanewise.Fixture.Defect
import Lanewise.Fixture.Form
import Lanewise.Fixture.Reading
import Lanewise.Check.WrittenType
import Lanewise.Check.Expr
import Lanewise.Check.Program
import Lanewise.Lint.Finding
import Lanewise.Lint.Report
import Lanewise.Failure
import Lanewise.File.Route
import Lanewise.File.Tree
import Lanewise.Fixture.Source
import Lanewise.Config.Basic
import Lanewise.Config.Reading
import Lanewise.Run.Discovery
import Lanewise.Run.Log
import Lanewise.CommandLine.Command
import Lanewise.CommandLine.Explorer
import Lanewise.CommandLine.Run
import Lanewise.Main
import Lanewise.Proofs.Context.Laws
import Lanewise.Proofs.Context.Copies
import Lanewise.Proofs.Check.Run
import Lanewise.Proofs.Check.Effect
import Lanewise.Proofs.Check.Inference
import Lanewise.Proofs.Check.Places
import Lanewise.Proofs.Check.Pairing
import Lanewise.Proofs.Typing.Rules
import Lanewise.Proofs.Typing.WellFormed
import Lanewise.Proofs.Typing.Annotation
import Lanewise.Proofs.Typing.Operator
import Lanewise.Proofs.Typing.Expr
import Lanewise.Proofs.Typing.Decides
import Lanewise.Proofs.Typing.Program
import Lanewise.Proofs.Gating.Expr
import Lanewise.Proofs.Gating.Program
import Lanewise.Proofs.WellFormed.Expr
import Lanewise.Proofs.WellFormed.Program
import Lanewise.Proofs.Recorded.Expr
import Lanewise.Proofs.Recorded.Program
import Lanewise.Proofs.Complete.Fixture
import Lanewise.Proofs.Strictness.Annotation
import Lanewise.Proofs.Strictness.Program
import Lanewise.Proofs.Summary.Order
import Lanewise.Proofs.Summary.Verdict
import Lanewise.Proofs.Lint.Portability
import Lanewise.Proofs.Position.Tree
import Lanewise.Proofs.Position.Document
import Lanewise.Proofs.Position.Fixture
import Lanewise.Proofs.Lint.Bodies
import Lanewise.Proofs.Ty.Compatible
import Lanewise.Proofs.Lint.Reassigned
import Lanewise.Proofs.Renaming.Expr
import Lanewise.Proofs.Renaming.Program
import Lanewise.Proofs.Lint.Walk
import Lanewise.Proofs.Lint.Read
import Lanewise.Proofs.Lint.Unused
import Lanewise.Proofs.Lint.KindUses
import Lanewise.Proofs.Typing.Printed
import Lanewise.Proofs.Lint.Annotation
import Lanewise.Proofs.Ty.Key
import Lanewise.Proofs.Ty.Rigid
import Lanewise.Proofs.Check.InferredKind
import Lanewise.Proofs.Fixture.Part
import Lanewise.Proofs.Fixture.RepeatedKey
import Lanewise.Proofs.Fixture.Alike
import Lanewise.Proofs.Fixture.FieldOrder
import Lanewise.Proofs.Fixture.Expansion
import Lanewise.Proofs.Config.Selection
import Lanewise.Proofs.Config.Fallback
import Lanewise.Proofs.Config.OpaqueTypes
import Lanewise.Proofs.Discovery.Tree
import Lanewise.Proofs.Discovery.Units
import Lanewise.Proofs.Text.Quoted
import Lanewise.Proofs.Decimal.Interval
import Lanewise.Proofs.Decimal.Shortest
import Lanewise.Proofs.Decimal.Layout
import Lanewise.Proofs.Printer.Outline
import Lanewise.Proofs.Printer.Label
import Lanewise.Proofs.Printer.Expr
import Lanewise.Proofs.Printer.Head
import Lanewise.Proofs.Printer.Stmt
import Lanewise.Proofs.Printer.Program
