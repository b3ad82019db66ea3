import PlanDiagram.Action.Basic
import PlanDiagram.Action.OfForm
import PlanDiagram.Action.OfValue
import PlanDiagram.CommandLine.Conversion
import PlanDiagram.CommandLine.Failure
import PlanDiagram.CommandLine.Options
import PlanDiagram.CommandLine.Run
import PlanDiagram.Definition
import PlanDiagram.Diagram.ActionBlock
import PlanDiagram.Diagram.Box
import PlanDiagram.Diagram.Canvas
import PlanDiagram.Diagram.ComparisonBand
import PlanDiagram.Diagram.Config
import PlanDiagram.Diagram.Conversion
import PlanDiagram.Diagram.Document
import PlanDiagram.Diagram.Draw
import PlanDiagram.Diagram.Element
import PlanDiagram.Diagram.NumericBand
import PlanDiagram.Diagram.ProblemBlock
import PlanDiagram.Diagram.Scalar
import PlanDiagram.Diagram.Session
import PlanDiagram.Document
import PlanDiagram.Domain.Basic
import PlanDiagram.Domain.OfDefinition
import PlanDiagram.Entries
import PlanDiagram.Form.Basic
import PlanDiagram.Form.Fault
import PlanDiagram.Form.Reader
import PlanDiagram.Form.Token
import PlanDiagram.Formula.Basic
import PlanDiagram.Formula.Keyword
import PlanDiagram.Formula.Label
import PlanDiagram.Formula.Occurrence
import PlanDiagram.Formula.OfForm
import PlanDiagram.Formula.OfValue
import PlanDiagram.Formula.Render
import PlanDiagram.Formula.Scope
import PlanDiagram.Json.Printer
import PlanDiagram.Json.Reader
import PlanDiagram.Json.Token
import PlanDiagram.Main
import PlanDiagram.Notice
import PlanDiagram.Number.Binary
import PlanDiagram.Number.Numeral
import PlanDiagram.Number.Shortest
import PlanDiagram.Number.Written
import PlanDiagram.Outline.Basic
import PlanDiagram.Outline.OfDocument
import PlanDiagram.Parameter.Basic
import PlanDiagram.Parameter.OfValue
import PlanDiagram.Parameter.TypedList
import PlanDiagram.Payload.Error
import PlanDiagram.Payload.Structure
import PlanDiagram.Problem.Basic
import PlanDiagram.Problem.OfDefinition
import PlanDiagram.Proofs.Document.Concatenation
import PlanDiagram.Proofs.Document.Stages
import PlanDiagram.Proofs.Failure
import PlanDiagram.Proofs.Form.Balance
import PlanDiagram.Proofs.Form.Concatenation
import PlanDiagram.Proofs.Form.RoundTrip
import PlanDiagram.Proofs.Form.Spelling
import PlanDiagram.Schema
import PlanDiagram.Section
import PlanDiagram.Settings.Amount
import PlanDiagram.Settings.Basic
import PlanDiagram.Settings.Load
import PlanDiagram.Settings.OfValue
import PlanDiagram.Source.FileTree
import PlanDiagram.Source.Load
import PlanDiagram.Source.Packaged
import PlanDiagram.Source.Path
import PlanDiagram.Text.Blank
import PlanDiagram.Text.Digit
import PlanDiagram.Text.Hexadecimal
import PlanDiagram.Text.LetterCase
import PlanDiagram.Text.Printable
import PlanDiagram.Text.Quoted
import PlanDiagram.Text.Ranges
import PlanDiagram.Value.Basic
import PlanDiagram.Value.Below
import PlanDiagram.Value.Convert
import PlanDiagram.Value.Display
import PlanDiagram.Value.Fault
import PlanDiagram.Yaml.Cursor
import PlanDiagram.Yaml.Failure
import PlanDiagram.Yaml.Reader
import PlanDiagram.Yaml.Scalar
import PlanDiagram.Proofs.Form.Comment
import PlanDiagram.Proofs.Number.Numeral
import PlanDiagram.Proofs.Document.Numerals
import PlanDiagram.Proofs.Document.Outcome
import PlanDiagram.Proofs.Diagram.Identifier
import PlanDiagram.Proofs.Diagram.Step
import PlanDiagram.Proofs.Diagram.Draw
import PlanDiagram.Proofs.Diagram.Connection
import PlanDiagram.Proofs.Diagram.NumericBand
import PlanDiagram.Proofs.Diagram.ActionBlock
import PlanDiagram.Proofs.Diagram.ComparisonBand
import PlanDiagram.Proofs.Diagram.ProblemBlock
import PlanDiagram.Proofs.Diagram.Integrity
import PlanDiagram.Proofs.Diagram.Rational
import PlanDiagram.Proofs.Diagram.Parallel.Pairing
import PlanDiagram.Proofs.Diagram.Parallel.Draw
import PlanDiagram.Proofs.Diagram.Parallel.Connection
import PlanDiagram.Proofs.Diagram.Parallel.NumericBand
import PlanDiagram.Proofs.Diagram.Parallel.ComparisonBand
import PlanDiagram.Proofs.Diagram.Parallel.ActionBlock
import PlanDiagram.Proofs.Diagram.Parallel.ProblemBlock
import PlanDiagram.Proofs.Diagram.Separation
import PlanDiagram.Proofs.Diagram.Renaming
import PlanDiagram.Proofs.Number.Written
import PlanDiagram.Proofs.Parameter.TypedList
import PlanDiagram.Proofs.Formula.Reading
import PlanDiagram.Proofs.Formula.Legible
import PlanDiagram.Proofs.Formula.Rereading
import PlanDiagram.Proofs.Problem.OfDefinition
import PlanDiagram.Proofs.Outline.Problem
import PlanDiagram.Proofs.Reordering
import PlanDiagram.Proofs.Document.SectionOrder
import PlanDiagram.Proofs.Action.OfForm
import PlanDiagram.Proofs.Domain.OfDefinition
import PlanDiagram.Proofs.Document.Contents
import PlanDiagram.Proofs.Formula.Built
import PlanDiagram.Proofs.Formula.Payload
import PlanDiagram.Proofs.Parameter.Declaration
import PlanDiagram.Proofs.Schema
import PlanDiagram.Proofs.Outline.Domain
import PlanDiagram.Proofs.Formula.Position
import PlanDiagram.Proofs.Number.Order
import PlanDiagram.Proofs.Settings.Overrides
import PlanDiagram.Proofs.Number.Magnitude
import PlanDiagram.Proofs.Diagram.Outcome
import PlanDiagram.Proofs.Diagram.Accepted
import PlanDiagram.Proofs.Value.Meets
import PlanDiagram.Proofs.Payload.Explained
import PlanDiagram.Proofs.Settings.Explained
import PlanDiagram.Proofs.Number.Zero
import PlanDiagram.Proofs.Diagram.Border
import PlanDiagram.Proofs.CommandLine.Report
import PlanDiagram.Proofs.Form.Depth
import PlanDiagram.Proofs.Formula.Layout
import PlanDiagram.Proofs.Formula.Scoping
import PlanDiagram.Proofs.Action.ClauseOrder
import PlanDiagram.Proofs.Action.ConditionText
import PlanDiagram.Proofs.Formula.KeywordCase
import PlanDiagram.Proofs.Diagram.Contents
import PlanDiagram.Proofs.Diagram.Arguments
import PlanDiagram.Proofs.Diagram.FunctionTerms
import PlanDiagram.Proofs.Diagram.ComparisonTerms
import PlanDiagram.Proofs.Diagram.LiteralEllipses
import PlanDiagram.Proofs.Diagram.ActionContents
import PlanDiagram.Proofs.Diagram.ProblemContents
import PlanDiagram.Proofs.Diagram.ArgumentEdges
import PlanDiagram.Proofs.Formula.LiteralNames
import PlanDiagram.Proofs.Diagram.DistinctLiterals
import PlanDiagram.Proofs.Diagram.FunctionEllipses
import PlanDiagram.Proofs.Diagram.Cells
import PlanDiagram.Proofs.Diagram.NodeDrawing
import PlanDiagram.Proofs.Diagram.Stages
import PlanDiagram.Proofs.Diagram.Exact
import PlanDiagram.Proofs.Diagram.OperandTrees
import PlanDiagram.Proofs.Diagram.ActionCells
import PlanDiagram.Proofs.Diagram.OperandEllipses
import PlanDiagram.Proofs.Formula.LiteralText
import PlanDiagram.Proofs.Diagram.Sharing
import PlanDiagram.Proofs.Diagram.SharedOperators
import PlanDiagram.Proofs.Diagram.Geometry
import PlanDiagram.Proofs.Diagram.ActionLayout
import PlanDiagram.Proofs.Diagram.ProblemCells
import PlanDiagram.Proofs.Diagram.ProblemLayout
import PlanDiagram.Proofs.Parameter.Grouping
import PlanDiagram.Proofs.Json.Reader
import PlanDiagram.Proofs.Settings.Agreement
import PlanDiagram.Proofs.Diagram.Translation.Element
import PlanDiagram.Proofs.Diagram.Translation.Draw
import PlanDiagram.Proofs.Diagram.Translation.NumericBand
import PlanDiagram.Proofs.Diagram.Translation.ComparisonBand
import PlanDiagram.Proofs.Diagram.Translation.ActionBlock
import PlanDiagram.Proofs.Diagram.Translation.ProblemBlock
import PlanDiagram.Proofs.Diagram.Translation
import PlanDiagram.Proofs.Form.MaximalMunch
import PlanDiagram.Proofs.Outline.Root
import PlanDiagram.Proofs.Outline.Objects
import PlanDiagram.Proofs.Diagram.RectangleBorder
