import Scaffold.Annotate.Column
import Scaffold.Annotate.Entity
import Scaffold.Annotate.Source
import Scaffold.Artifact.Accessor
import Scaffold.Artifact.Constraint
import Scaffold.Artifact.Controller
import Scaffold.Artifact.Dao
import Scaffold.Artifact.Dto
import Scaffold.Artifact.Imports
import Scaffold.Artifact.Mapping
import Scaffold.Artifact.Members
import Scaffold.Artifact.Page
import Scaffold.Artifact.Persistence
import Scaffold.Artifact.Query
import Scaffold.Artifact.Service
import Scaffold.Artifact.Template
import Scaffold.Command.Desk
import Scaffold.Command.Options
import Scaffold.Command.Perform
import Scaffold.Command.Request
import Scaffold.Command.Roots
import Scaffold.Command.SettingsFile
import Scaffold.Command.Words
import Scaffold.Decimal.Shortest
import Scaffold.Digest
import Scaffold.Entity
import Scaffold.Entity.ColumnText
import Scaffold.Entity.Field
import Scaffold.Entries
import Scaffold.Failure
import Scaffold.Java.Escapes
import Scaffold.Java.Lexer
import Scaffold.Java.Literal
import Scaffold.Java.Parser
import Scaffold.Java.Parser.Annotations
import Scaffold.Java.Parser.Cursor
import Scaffold.Java.Parser.Declarations
import Scaffold.Java.Parser.Expressions
import Scaffold.Java.Parser.Grammar
import Scaffold.Java.Parser.Statements
import Scaffold.Java.Parser.Types
import Scaffold.Java.Token
import Scaffold.Java.Tree
import Scaffold.Json.Reader
import Scaffold.Json.Value
import Scaffold.Log
import Scaffold.Main
import Scaffold.Name
import Scaffold.Proofs.Annotate.FieldLine
import Scaffold.Proofs.Annotate.Inserted
import Scaffold.Proofs.Annotate.Layout
import Scaffold.Proofs.Annotate.Report
import Scaffold.Proofs.Artifact.Accessors
import Scaffold.Proofs.Artifact.Address
import Scaffold.Proofs.Artifact.Alignment
import Scaffold.Proofs.Artifact.Attributes
import Scaffold.Proofs.Artifact.Characters
import Scaffold.Proofs.Artifact.FileName
import Scaffold.Proofs.Artifact.Heading
import Scaffold.Proofs.Artifact.ImportBlock
import Scaffold.Proofs.Artifact.MarkImports
import Scaffold.Proofs.Artifact.Marks
import Scaffold.Proofs.Artifact.Overrides
import Scaffold.Proofs.Artifact.Ownership
import Scaffold.Proofs.Artifact.Page
import Scaffold.Proofs.Artifact.Quoting
import Scaffold.Proofs.Artifact.Readable
import Scaffold.Proofs.Artifact.Rendering
import Scaffold.Proofs.Artifact.SoftDelete
import Scaffold.Proofs.Artifact.TypeImports
import Scaffold.Proofs.Artifact.Variants
import Scaffold.Proofs.Command.AnnotatedFile
import Scaffold.Proofs.Command.DryRun
import Scaffold.Proofs.Command.Roots
import Scaffold.Proofs.Effect
import Scaffold.Proofs.Entity.ColumnText
import Scaffold.Proofs.Java.Clauses
import Scaffold.Proofs.Java.CodeUnits
import Scaffold.Proofs.Java.Declared
import Scaffold.Proofs.Java.Depth
import Scaffold.Proofs.Java.Finds
import Scaffold.Proofs.Java.Identifiers
import Scaffold.Proofs.Java.Lexes
import Scaffold.Proofs.Java.Readers
import Scaffold.Proofs.Java.Respected
import Scaffold.Proofs.Java.Steady
import Scaffold.Proofs.Java.StringLiteral
import Scaffold.Proofs.Json.ReadBack
import Scaffold.Proofs.Json.Reflow
import Scaffold.Proofs.Name.NormalForm
import Scaffold.Proofs.Name.Words
import Scaffold.Proofs.Run.Anatomy
import Scaffold.Proofs.Run.Bases
import Scaffold.Proofs.Run.Echo
import Scaffold.Proofs.Run.Fallback
import Scaffold.Proofs.Run.Flight
import Scaffold.Proofs.Run.Homes
import Scaffold.Proofs.Run.Journal
import Scaffold.Proofs.Run.Ledger
import Scaffold.Proofs.Run.Packages
import Scaffold.Proofs.Run.Paths
import Scaffold.Proofs.Run.Placement
import Scaffold.Proofs.Run.Progress
import Scaffold.Proofs.Run.Refusal
import Scaffold.Proofs.Run.Regime
import Scaffold.Proofs.Run.Rehearsal
import Scaffold.Proofs.Run.Repeat
import Scaffold.Proofs.Run.Reuse
import Scaffold.Proofs.Run.Simulation
import Scaffold.Proofs.Run.Traversal
import Scaffold.Proofs.Settings.Assignment
import Scaffold.Proofs.Source.Hierarchy
import Scaffold.Proofs.Source.TableComment
import Scaffold.Proofs.Source.TypeNames
import Scaffold.Proofs.Store.Above
import Scaffold.Proofs.Store.Directories
import Scaffold.Proofs.Store.Memory
import Scaffold.Proofs.Store.Overlay
import Scaffold.Proofs.Store.Path
import Scaffold.Proofs.Store.Recorded
import Scaffold.Proofs.Store.Reopened
import Scaffold.Proofs.Store.Tree
import Scaffold.Proofs.Symbols.History
import Scaffold.Proofs.Symbols.Identity
import Scaffold.Proofs.Symbols.Order
import Scaffold.Proofs.Symbols.Scan
import Scaffold.Proofs.Symbols.Sources
import Scaffold.Proofs.Symbols.Table
import Scaffold.Proofs.Text.Lines
import Scaffold.Proofs.Text.Utf8
import Scaffold.Run.Context
import Scaffold.Run.Generate
import Scaffold.Run.Layout
import Scaffold.Run.Planner
import Scaffold.Run.Session
import Scaffold.Run.Stage
import Scaffold.Settings
import Scaffold.Source.Entity
import Scaffold.Source.Handles
import Scaffold.Source.Members
import Scaffold.Store.Basic
import Scaffold.Store.Disk
import Scaffold.Store.Manifest
import Scaffold.Store.Memory
import Scaffold.Store.Path
import Scaffold.Store.Project
import Scaffold.Symbols.Handle
import Scaffold.Symbols.Scan
import Scaffold.Symbols.Sources
import Scaffold.Symbols.Table
import Scaffold.Text.Blank
import Scaffold.Text.Letters
import Scaffold.Text.Lines
import Scaffold.Text.Quoted
import Scaffold.Text.Table.Case
import Scaffold.Text.Table.Category
import Scaffold.Text.Table.Printable
import Scaffold.Text.Utf8
