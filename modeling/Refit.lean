import Refit.Batch
import Refit.Call
import Refit.Command
import Refit.Command.Request
import Refit.Diff
import Refit.Diff.Script
import Refit.Diff.Shortest
import Refit.Diff.Tidy
import Refit.Failure
import Refit.Glob
import Refit.Import
import Refit.Json
import Refit.Json.Reader
import Refit.Language
import Refit.Main
import Refit.Matcher
import Refit.Migration
import Refit.Migration.Config
import Refit.Migration.File
import Refit.Path
import Refit.Pattern
import Refit.Pattern.CharSet
import Refit.Pattern.Class
import Refit.Pattern.Escape
import Refit.Pattern.Expr
import Refit.Pattern.Parser
import Refit.Pattern.Program
import Refit.Pattern.Property
import Refit.Pattern.Reader
import Refit.Pattern.Search
import Refit.Phrase
import Refit.Pipeline
import Refit.Proofs.Batch.Counting
import Refit.Proofs.Batch.Merging
import Refit.Proofs.Batch.Mirror
import Refit.Proofs.Batch.Pointwise
import Refit.Proofs.Batch.Stopping
import Refit.Proofs.Call.Arguments
import Refit.Proofs.Call.Nesting
import Refit.Proofs.Call.Recognition
import Refit.Proofs.Call.Segments
import Refit.Proofs.Call.Split
import Refit.Proofs.Call.Taking
import Refit.Proofs.Command.Failure
import Refit.Proofs.Command.Preview
import Refit.Proofs.Command.Series
import Refit.Proofs.Diff.Counting
import Refit.Proofs.Diff.Script
import Refit.Proofs.Document.Editing
import Refit.Proofs.Glob.Covering
import Refit.Proofs.Import.Block
import Refit.Proofs.Import.Effect
import Refit.Proofs.Import.Insertion
import Refit.Proofs.Import.Java
import Refit.Proofs.Import.Landing
import Refit.Proofs.Import.Parentheses
import Refit.Proofs.Import.Removal
import Refit.Proofs.Import.Settling
import Refit.Proofs.Json.RoundTrip
import Refit.Proofs.Language.Blocks
import Refit.Proofs.Language.Java
import Refit.Proofs.Language.Kinds
import Refit.Proofs.Migration.Chronicle
import Refit.Proofs.Migration.Order
import Refit.Proofs.Migration.Saving
import Refit.Proofs.Path.Order
import Refit.Proofs.Pattern.Line
import Refit.Proofs.Pattern.Literal
import Refit.Proofs.Pattern.Search
import Refit.Proofs.Phrase.Matching
import Refit.Proofs.Pipeline.Composition
import Refit.Proofs.Pipeline.Guard
import Refit.Proofs.Pipeline.Imports
import Refit.Proofs.Pipeline.Refusal
import Refit.Proofs.Pipeline.Reordering
import Refit.Proofs.Pipeline.Retyping
import Refit.Proofs.Pipeline.Settled
import Refit.Proofs.Results
import Refit.Proofs.Rule.Brackets
import Refit.Proofs.Rule.Exactness
import Refit.Proofs.Rule.Frame
import Refit.Proofs.Rule.Record
import Refit.Proofs.Rule.Reforming
import Refit.Proofs.Rule.Settling
import Refit.Proofs.Rule.Wrapping
import Refit.Proofs.Source.History
import Refit.Proofs.Source.Memory
import Refit.Proofs.Text.Cut
import Refit.Proofs.Text.Hex
import Refit.Proofs.Text.Lines
import Refit.Proofs.Text.Search
import Refit.Proofs.Text.Split
import Refit.Proofs.Text.Swap
import Refit.Proofs.Text.Trim
import Refit.Proofs.Token.Inert
import Refit.Proofs.Token.Occurrence
import Refit.Proofs.Token.Pattern
import Refit.Proofs.Tree.Below
import Refit.Proofs.Tree.Follow
import Refit.Proofs.Tree.Listing
import Refit.Proofs.Tree.Place
import Refit.Proofs.Tree.Saving
import Refit.Proofs.Tree.Source
import Refit.Proofs.Tree.Walk
import Refit.Proofs.Yaml.Block
import Refit.Proofs.Yaml.Layout
import Refit.Proofs.Yaml.Lexer
import Refit.Proofs.Yaml.Node
import Refit.Proofs.Yaml.Plain
import Refit.Proofs.Yaml.Quoted
import Refit.Proofs.Yaml.Spot
import Refit.Proofs.Yaml.Token
import Refit.Rule
import Refit.Rule.Spec
import Refit.Source
import Refit.Text.Basic
import Refit.Text.Category
import Refit.Text.Category.Letter
import Refit.Text.Category.Mark
import Refit.Text.Category.Symbol
import Refit.Text.CharRun
import Refit.Text.Lines
import Refit.Text.Script
import Refit.Text.Trait
import Refit.Token
import Refit.Tree
import Refit.Tree.Lookup
import Refit.Yaml.Node
import Refit.Yaml.Plain
import Refit.Yaml.Printer
import Refit.Yaml.Scalar
import Refit.Yaml.Spot
import Refit.Yaml.Token
