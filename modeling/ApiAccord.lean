import ApiAccord.Checked
import ApiAccord.CodeCheck
import ApiAccord.Command.Arguments
import ApiAccord.Command.Console
import ApiAccord.Command.Occasion
import ApiAccord.Command.Request
import ApiAccord.Command.Run
import ApiAccord.Command.Views
import ApiAccord.Comparison
import ApiAccord.CustomRule
import ApiAccord.Decimal.Shortest
import ApiAccord.Document.Address
import ApiAccord.Document.Format
import ApiAccord.Document.Pointer
import ApiAccord.Document.Reading
import ApiAccord.Document.Reference
import ApiAccord.Document.Structure
import ApiAccord.Document.Swagger
import ApiAccord.EndpointPath
import ApiAccord.Extraction
import ApiAccord.Failure
import ApiAccord.Feature.Basic
import ApiAccord.Feature.Matching
import ApiAccord.Feature.Record
import ApiAccord.Feature.Rules
import ApiAccord.Files.IgnorePattern
import ApiAccord.Files.Path
import ApiAccord.Files.Tree
import ApiAccord.HttpMethod
import ApiAccord.Inspection
import ApiAccord.Issue
import ApiAccord.Json.Printer
import ApiAccord.Json.Reader
import ApiAccord.Library
import ApiAccord.Main
import ApiAccord.Noted
import ApiAccord.Pattern.Basic
import ApiAccord.Pattern.CharClass
import ApiAccord.Policy
import ApiAccord.Presenter
import ApiAccord.Proofs.Checked
import ApiAccord.Proofs.Command.Delivery
import ApiAccord.Proofs.Comparison.EndpointMatching
import ApiAccord.Proofs.Comparison.Kinds
import ApiAccord.Proofs.Comparison.MethodDifference
import ApiAccord.Proofs.Comparison.MethodMismatch
import ApiAccord.Proofs.Comparison.MethodSymmetry
import ApiAccord.Proofs.Comparison.Names
import ApiAccord.Proofs.Comparison.Options
import ApiAccord.Proofs.Comparison.Reports
import ApiAccord.Proofs.Comparison.RequiredParameters
import ApiAccord.Proofs.Comparison.Rules
import ApiAccord.Proofs.Comparison.SelfAgreement
import ApiAccord.Proofs.Comparison.TypeClashes
import ApiAccord.Proofs.Comparison.Warnings
import ApiAccord.Proofs.CompatibilityScore
import ApiAccord.Proofs.Conversion.Agreement
import ApiAccord.Proofs.Conversion.Commuting
import ApiAccord.Proofs.Conversion.Components
import ApiAccord.Proofs.Conversion.Declarations
import ApiAccord.Proofs.Conversion.DirectReading
import ApiAccord.Proofs.Conversion.Documents
import ApiAccord.Proofs.Conversion.Entries
import ApiAccord.Proofs.Conversion.Keeping
import ApiAccord.Proofs.Conversion.Light
import ApiAccord.Proofs.Conversion.Meaning
import ApiAccord.Proofs.Conversion.Movable
import ApiAccord.Proofs.Conversion.MovedReferences
import ApiAccord.Proofs.Conversion.Moving
import ApiAccord.Proofs.Conversion.Operations
import ApiAccord.Proofs.Conversion.Parts
import ApiAccord.Proofs.Conversion.Paths
import ApiAccord.Proofs.Conversion.Positions
import ApiAccord.Proofs.Conversion.Settled
import ApiAccord.Proofs.Conversion.Splitting
import ApiAccord.Proofs.Conversion.Unbroken
import ApiAccord.Proofs.Correspondence
import ApiAccord.Proofs.Decimal.Bits
import ApiAccord.Proofs.Decimal.Order
import ApiAccord.Proofs.Decimal.Rounding
import ApiAccord.Proofs.Decimal.Shortest
import ApiAccord.Proofs.Document.FiniteUnfolding
import ApiAccord.Proofs.Document.Inlining
import ApiAccord.Proofs.Document.Pointer
import ApiAccord.Proofs.Document.Problems
import ApiAccord.Proofs.Document.Reach
import ApiAccord.Proofs.Document.Reading
import ApiAccord.Proofs.Document.Remaining
import ApiAccord.Proofs.Document.Resolution
import ApiAccord.Proofs.Document.Splitting
import ApiAccord.Proofs.Document.Steps
import ApiAccord.Proofs.Document.Structure
import ApiAccord.Proofs.Document.Targets
import ApiAccord.Proofs.Document.Tolerance
import ApiAccord.Proofs.Document.Unfolding
import ApiAccord.Proofs.EditDistance
import ApiAccord.Proofs.EndpointPath.Normalizing
import ApiAccord.Proofs.EndpointPath.Templates
import ApiAccord.Proofs.Feature.Anchors
import ApiAccord.Proofs.Feature.Calls
import ApiAccord.Proofs.Feature.Distinct
import ApiAccord.Proofs.Feature.JoinedPaths
import ApiAccord.Proofs.Feature.Pieces
import ApiAccord.Proofs.Feature.RootedPaths
import ApiAccord.Proofs.Files.Path
import ApiAccord.Proofs.Files.Tree
import ApiAccord.Proofs.Files.Walk
import ApiAccord.Proofs.Finding
import ApiAccord.Proofs.Json.Numbers
import ApiAccord.Proofs.Json.Printing
import ApiAccord.Proofs.Json.Reading
import ApiAccord.Proofs.Json.Texts
import ApiAccord.Proofs.Library
import ApiAccord.Proofs.ParameterOverriding
import ApiAccord.Proofs.Pattern
import ApiAccord.Proofs.Pattern.Matches
import ApiAccord.Proofs.Pattern.Removal
import ApiAccord.Proofs.Reading
import ApiAccord.Proofs.Recommendation
import ApiAccord.Proofs.Resemblance
import ApiAccord.Proofs.Scan
import ApiAccord.Proofs.Settings.Assignment
import ApiAccord.Proofs.Settings.Layers
import ApiAccord.Proofs.Settings.Merging
import ApiAccord.Proofs.Settings.Portable
import ApiAccord.Proofs.Settings.Precedence
import ApiAccord.Proofs.Settings.Saving
import ApiAccord.Proofs.Settings.Sections
import ApiAccord.Proofs.Similarity
import ApiAccord.Proofs.Spellings
import ApiAccord.Proofs.Splitting
import ApiAccord.Proofs.Store.Recency
import ApiAccord.Proofs.Store.SameFile
import ApiAccord.Proofs.Store.Transparency
import ApiAccord.Proofs.Suggestion
import ApiAccord.Proofs.Surface
import ApiAccord.Proofs.Text
import ApiAccord.Proofs.Text.Integer
import ApiAccord.Proofs.Text.LineIndex
import ApiAccord.Proofs.Text.Utf8
import ApiAccord.Proofs.TypeName.Agreement
import ApiAccord.Proofs.TypeName.NullAlternatives
import ApiAccord.Proofs.TypeName.Nullability
import ApiAccord.Proofs.Value
import ApiAccord.Proofs.Workspace
import ApiAccord.Proofs.Yaml.Denotation
import ApiAccord.Report
import ApiAccord.ResultRecord
import ApiAccord.Scan
import ApiAccord.Script.Constant
import ApiAccord.Script.Expression
import ApiAccord.Script.Features
import ApiAccord.Script.Lexing
import ApiAccord.Script.MatchPattern
import ApiAccord.Script.Reading
import ApiAccord.Script.Rendering
import ApiAccord.Script.Site
import ApiAccord.Script.Statement
import ApiAccord.Script.Template
import ApiAccord.Script.Token
import ApiAccord.Script.Tree
import ApiAccord.Settings.Basic
import ApiAccord.Settings.Layers
import ApiAccord.Similarity
import ApiAccord.Spec.Basic
import ApiAccord.Spec.Loading
import ApiAccord.Spec.Reading
import ApiAccord.Spec.Record
import ApiAccord.Store.Basic
import ApiAccord.Store.Recency
import ApiAccord.Surface
import ApiAccord.Text.Base64
import ApiAccord.Text.Basic
import ApiAccord.Text.Case
import ApiAccord.Text.CaseTable
import ApiAccord.Text.Chars
import ApiAccord.Text.IdentifierTable
import ApiAccord.Text.Integer
import ApiAccord.Text.LineIndex
import ApiAccord.Text.NormalForm
import ApiAccord.Text.NormalTable
import ApiAccord.Text.PrintableTable
import ApiAccord.Text.RangeTable
import ApiAccord.Text.Utf8
import ApiAccord.Text.WordTable
import ApiAccord.TypeName
import ApiAccord.Value.Basic
import ApiAccord.Value.Display
import ApiAccord.Workspace
import ApiAccord.Yaml.Cursor
import ApiAccord.Yaml.Node
import ApiAccord.Yaml.Number
import ApiAccord.Yaml.Printer
import ApiAccord.Yaml.ScalarToken
import ApiAccord.Yaml.Style
import ApiAccord.Yaml.Tag
import ApiAccord.Yaml.Token
import ApiAccord.Yaml.TokenStream
import ApiAccord.Yaml.Value
