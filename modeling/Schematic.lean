import Schematic.Cli.Arguments
import Schematic.Cli.Run
import Schematic.Decimal.Binary64
import Schematic.Decimal.Numeral
import Schematic.Decimal.Quantity
import Schematic.Decimal.Shortest
import Schematic.Files.Path
import Schematic.Files.Tree
import Schematic.Fluent.Builder
import Schematic.Fluent.Call
import Schematic.Fluent.Method
import Schematic.Fluent.Operation
import Schematic.Fluent.Workbench
import Schematic.Json.Reader
import Schematic.Json.Writer
import Schematic.Load.Loader
import Schematic.Log.Conversion
import Schematic.Log.Filling
import Schematic.Log.Layout
import Schematic.Log.Record
import Schematic.Log.Registry
import Schematic.Main
import Schematic.Markdown.Config
import Schematic.Markdown.Document
import Schematic.Markdown.Page
import Schematic.Markdown.Renderer
import Schematic.Markdown.Session
import Schematic.Markdown.Table
import Schematic.Proofs.Admission
import Schematic.Proofs.Answers
import Schematic.Proofs.BinaryText
import Schematic.Proofs.Constraints
import Schematic.Proofs.Copies
import Schematic.Proofs.Course
import Schematic.Proofs.Cutting
import Schematic.Proofs.Data
import Schematic.Proofs.Descent
import Schematic.Proofs.Failures
import Schematic.Proofs.FixedGraph
import Schematic.Proofs.Gaps
import Schematic.Proofs.Graph
import Schematic.Proofs.History
import Schematic.Proofs.Inert
import Schematic.Proofs.Layout
import Schematic.Proofs.LeftOut
import Schematic.Proofs.Likeness
import Schematic.Proofs.LoggerStates
import Schematic.Proofs.Loggers
import Schematic.Proofs.LogLines
import Schematic.Proofs.Making
import Schematic.Proofs.Numerals
import Schematic.Proofs.Order
import Schematic.Proofs.Outcomes
import Schematic.Proofs.Plain
import Schematic.Proofs.Positions
import Schematic.Proofs.Propagation
import Schematic.Proofs.Question
import Schematic.Proofs.Reading
import Schematic.Proofs.ReadingBack
import Schematic.Proofs.Registers
import Schematic.Proofs.RoundTrip
import Schematic.Proofs.Rounding
import Schematic.Proofs.Sections
import Schematic.Proofs.Serialization
import Schematic.Proofs.Sessions
import Schematic.Proofs.SetOrder
import Schematic.Proofs.Shallow
import Schematic.Proofs.Shapes
import Schematic.Proofs.Sharing
import Schematic.Proofs.Simulation
import Schematic.Proofs.SingleLine
import Schematic.Proofs.StackFlags
import Schematic.Proofs.Stacks
import Schematic.Proofs.TableLines
import Schematic.Proofs.Tables
import Schematic.Proofs.Totality
import Schematic.Proofs.Unshared
import Schematic.Proofs.Unwrapping
import Schematic.Proofs.Visit
import Schematic.Proofs.Warnings
import Schematic.Proofs.WrittenForms
import Schematic.Schema.Basic
import Schematic.Schema.Capability
import Schematic.Schema.Constraint
import Schematic.Schema.Field
import Schematic.Schema.Kind
import Schematic.Schema.Resolution
import Schematic.Schema.Signature
import Schematic.Schema.Summary
import Schematic.Script.Expression
import Schematic.Script.Flaw
import Schematic.Script.Import
import Schematic.Script.Literal
import Schematic.Script.Meaning
import Schematic.Script.Run
import Schematic.Script.Source
import Schematic.Script.Statement
import Schematic.Script.Template
import Schematic.Script.Token
import Schematic.Text.Basic
import Schematic.Text.CharacterName
import Schematic.Text.Compatibility
import Schematic.Text.Encoding
import Schematic.Text.NameTable
import Schematic.Text.Property
import Schematic.Text.Quoted
import Schematic.Text.Units
import Schematic.Text.Utf8
import Schematic.Text.Word
import Schematic.Validation.Coercion
import Schematic.Validation.Data
import Schematic.Validation.Dump
import Schematic.Validation.Issue
import Schematic.Value.Demand
import Schematic.Value.Dictionary
import Schematic.Value.Equality
import Schematic.Value.Exception
import Schematic.Value.Exotic
import Schematic.Value.Iteration
import Schematic.Value.Key
import Schematic.Value.Nesting
import Schematic.Value.Token
import Schematic.Value.Written
