import PlcLint.Assignment
import PlcLint.Binary64
import PlcLint.Check.Basic
import PlcLint.Check.Builtin
import PlcLint.Check.Call
import PlcLint.Check.Case
import PlcLint.Check.Expression
import PlcLint.Check.Method
import PlcLint.Check.Plugin
import PlcLint.Check.Registry
import PlcLint.Check.Variable
import PlcLint.Code
import PlcLint.Command
import PlcLint.Declared
import PlcLint.Fault
import PlcLint.FileTree
import PlcLint.Flow.Build
import PlcLint.Flow.Dot
import PlcLint.Flow.Graph
import PlcLint.Flow.Search
import PlcLint.Glob
import PlcLint.Inheritance
import PlcLint.Json.Basic
import PlcLint.Json.Parser
import PlcLint.Lint
import PlcLint.Location
import PlcLint.Main
import PlcLint.Naming
import PlcLint.Notice
import PlcLint.Parser
import PlcLint.Proofs.Flow.Edit
import PlcLint.Reading.Code
import PlcLint.Reading.Content
import PlcLint.Reading.Source
import PlcLint.Reading.Syntax
import PlcLint.Scope.Basic
import PlcLint.Scope.Typing
import PlcLint.Settings
import PlcLint.Settings.Document
import PlcLint.Sha256
import PlcLint.Source
import PlcLint.Suppression
import PlcLint.Syntax.Expr
import PlcLint.Syntax.Print
import PlcLint.Syntax.Stmt
import PlcLint.Syntax.Subexpr
import PlcLint.SyntaxError
import PlcLint.Table
import PlcLint.Text.CharClass
import PlcLint.Text.CharSet
import PlcLint.Text.CodePage
import PlcLint.Text.Encoding
import PlcLint.Text.Letters
import PlcLint.Text.Lines
import PlcLint.Text.Pattern
import PlcLint.Text.Pattern.Parser
import PlcLint.Text.Quoted
import PlcLint.Text.Wildcard
import PlcLint.Text.Wrap
import PlcLint.TypeName
import PlcLint.Walk
import PlcLint.Xml.Address
import PlcLint.Xml.Basic
import PlcLint.Xml.Character
import PlcLint.Xml.Doctype
import PlcLint.Xml.Doctype.Parser
import PlcLint.Xml.Parser
import PlcLint.Xml.Reader
import PlcLint.Xml.Stored
import PlcLint.Yaml.Basic
import PlcLint.Yaml.Cursor
import PlcLint.Yaml.Load
import PlcLint.Yaml.Node
import PlcLint.Yaml.Scalar
import PlcLint.Yaml.Tag
import PlcLint.Yaml.Token
import PlcLint.Yaml.Token.Name
import PlcLint.Yaml.Token.Scalar
import PlcLint.Yaml.Token.Stream
import PlcLint.Yaml.Writer
import PlcLint.Proofs.Flow.Growth
import PlcLint.Proofs.Flow.Entering
import PlcLint.Proofs.Flow.Ways
import PlcLint.Proofs.Flow.Leaving
import PlcLint.Proofs.Flow.Joining
import PlcLint.Proofs.Flow.Structural
import PlcLint.Proofs.Flow.Execution
import PlcLint.Proofs.Flow.Backward
import PlcLint.Proofs.Flow.Rooted
import PlcLint.Proofs.Flow.Coverage
import PlcLint.Proofs.Flow.Precision
import PlcLint.Proofs.Flow.Reached
import PlcLint.Proofs.Lint.Nodes
import PlcLint.Proofs.Lint.Visits
import PlcLint.Proofs.Check.Steady
import PlcLint.Proofs.Lint.Errors
import PlcLint.Proofs.Lint.Isolation
import PlcLint.Proofs.Table
import PlcLint.Proofs.Lint.Order
import PlcLint.Proofs.Reading.Marks
import PlcLint.Proofs.Reading.Numbered
import PlcLint.Proofs.Suppression
import PlcLint.Proofs.Check.Registration
import PlcLint.Proofs.Syntax.Origins
import PlcLint.Proofs.Check.Inside
import PlcLint.Proofs.Lint.Sources
import PlcLint.Proofs.FileTree
import PlcLint.Proofs.Source.Stored
import PlcLint.Proofs.Source.Cache
import PlcLint.Proofs.Check.Refusal
import PlcLint.Proofs.Flow.Faults
import PlcLint.Proofs.Flow.Visiting
import PlcLint.Proofs.Flow.Homes
import PlcLint.Proofs.Flow.AnyOrder
import PlcLint.Proofs.Syntax.Descent
import PlcLint.Proofs.Syntax.Rearranged
import PlcLint.Proofs.Syntax.Held
import PlcLint.Proofs.Scope.Spelling
import PlcLint.Proofs.Check.Suggestion
import PlcLint.Proofs.Scope.Super
import PlcLint.Proofs.Scope.Members
import PlcLint.Proofs.Check.ReturnVariable
import PlcLint.Proofs.TypeName
import PlcLint.Proofs.Scope.Subscripts
import PlcLint.Proofs.Scope.Recased
import PlcLint.Proofs.Scope.Grouping
import PlcLint.Proofs.Text.Letters
import PlcLint.Proofs.Syntax.Folded
import PlcLint.Proofs.Flow.Parallel
import PlcLint.Proofs.Flow.ParallelPaths
import PlcLint.Proofs.Assignment.Pairs
import PlcLint.Proofs.Assignment.Inserted
import PlcLint.Proofs.Assignment.Recased
import PlcLint.Proofs.Naming
import PlcLint.Proofs.Check.MissingCases
import PlcLint.Proofs.Text.Lines
import PlcLint.Proofs.Location
import PlcLint.Proofs.Scope.Bases
import PlcLint.Proofs.Check.FirstSuper
import PlcLint.Proofs.Syntax.Nested
import PlcLint.Proofs.Check.SetterWrites
import PlcLint.Proofs.Flow.Roles
import PlcLint.Proofs.Flow.Steps
import PlcLint.Proofs.Flow.Shape
import PlcLint.Proofs.Flow.Drawing
import PlcLint.Proofs.Assignment.Faults
import PlcLint.Proofs.FileTree.Within
import PlcLint.Proofs.Glob
import PlcLint.Proofs.Lint.Views
import PlcLint.Proofs.Source.Reads
import PlcLint.Proofs.Command.Root
