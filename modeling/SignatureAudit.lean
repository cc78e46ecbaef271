import SignatureAudit.Audit.Coverage
import SignatureAudit.Audit.Plan
import SignatureAudit.Audit.Probe
import SignatureAudit.Audit.Report
import SignatureAudit.Audit.Run
import SignatureAudit.Audit.Tally
import SignatureAudit.Call.Combination
import SignatureAudit.Call.Operator
import SignatureAudit.Call.Rendering
import SignatureAudit.Call.Slot
import SignatureAudit.Call.Usage
import SignatureAudit.Catalog.Basic
import SignatureAudit.Catalog.Bundled
import SignatureAudit.Catalog.Document
import SignatureAudit.Catalog.Load
import SignatureAudit.Command.Answer
import SignatureAudit.Command.Listing
import SignatureAudit.Command.Request
import SignatureAudit.Command.Run
import SignatureAudit.Diagnosis.Basic
import SignatureAudit.Diagnosis.Pattern
import SignatureAudit.Distinct
import SignatureAudit.Duration
import SignatureAudit.Emulation.Shell.Arithmetic
import SignatureAudit.Emulation.Shell.Builtin.Basic
import SignatureAudit.Emulation.Shell.Builtin.Control
import SignatureAudit.Emulation.Shell.Builtin.Names
import SignatureAudit.Emulation.Shell.Builtin.Table
import SignatureAudit.Emulation.Shell.Condition
import SignatureAudit.Emulation.Shell.Expansion
import SignatureAudit.Emulation.Shell.Field
import SignatureAudit.Emulation.Shell.Format
import SignatureAudit.Emulation.Shell.Inner
import SignatureAudit.Emulation.Shell.Launch
import SignatureAudit.Emulation.Shell.Lexer
import SignatureAudit.Emulation.Shell.Machine
import SignatureAudit.Emulation.Shell.Pattern
import SignatureAudit.Emulation.Shell.Process
import SignatureAudit.Emulation.Shell.Program
import SignatureAudit.Emulation.Shell.Reader
import SignatureAudit.Emulation.Shell.Redirection
import SignatureAudit.Emulation.Shell.Run
import SignatureAudit.Emulation.Shell.Signal
import SignatureAudit.Emulation.Shell.Token
import SignatureAudit.Emulation.Shell.Word
import SignatureAudit.Emulation.Text.CharSet
import SignatureAudit.Emulation.Text.Directive
import SignatureAudit.Emulation.Text.Magnitude
import SignatureAudit.Emulation.Text.Raw
import SignatureAudit.Emulation.Text.Regex.Basic
import SignatureAudit.Emulation.Text.Regex.Reader
import SignatureAudit.Emulation.Utility.Basic
import SignatureAudit.Emulation.Utility.Columns
import SignatureAudit.Emulation.Utility.Difference
import SignatureAudit.Emulation.Utility.Dump
import SignatureAudit.Emulation.Utility.Edit.Program
import SignatureAudit.Emulation.Utility.Edit.Reader
import SignatureAudit.Emulation.Utility.Edit.Run
import SignatureAudit.Emulation.Utility.Edit.Script
import SignatureAudit.Emulation.Utility.Environment
import SignatureAudit.Emulation.Utility.Expression
import SignatureAudit.Emulation.Utility.Facts
import SignatureAudit.Emulation.Utility.Finding
import SignatureAudit.Emulation.Utility.Lines
import SignatureAudit.Emulation.Utility.Listing
import SignatureAudit.Emulation.Utility.Making
import SignatureAudit.Emulation.Utility.Mode
import SignatureAudit.Emulation.Utility.Order
import SignatureAudit.Emulation.Utility.Output
import SignatureAudit.Emulation.Utility.PathName
import SignatureAudit.Emulation.Utility.Place
import SignatureAudit.Emulation.Utility.Proposition
import SignatureAudit.Emulation.Utility.Record.Operation
import SignatureAudit.Emulation.Utility.Record.Program
import SignatureAudit.Emulation.Utility.Record.Reader
import SignatureAudit.Emulation.Utility.Record.Run
import SignatureAudit.Emulation.Utility.Record.Script
import SignatureAudit.Emulation.Utility.Record.Store
import SignatureAudit.Emulation.Utility.Record.Token
import SignatureAudit.Emulation.Utility.Record.Value
import SignatureAudit.Emulation.Utility.Removal
import SignatureAudit.Emulation.Utility.Search
import SignatureAudit.Emulation.Utility.Table
import SignatureAudit.Emulation.Utility.Transfer
import SignatureAudit.FileTree.Basic
import SignatureAudit.FileTree.Fault
import SignatureAudit.FileTree.Host
import SignatureAudit.FileTree.Path
import SignatureAudit.FreshName
import SignatureAudit.Hierarchy.Basic
import SignatureAudit.Hierarchy.Fit
import SignatureAudit.Hierarchy.Subtype
import SignatureAudit.Json.Basic
import SignatureAudit.Json.Reader
import SignatureAudit.Json.Record
import SignatureAudit.Json.Token
import SignatureAudit.Main
import SignatureAudit.Project.BuildText
import SignatureAudit.Project.Fault
import SignatureAudit.Project.Outcome
import SignatureAudit.Project.Session
import SignatureAudit.Project.Settings
import SignatureAudit.Proofs.Audit.Accounting
import SignatureAudit.Proofs.Audit.Attribution
import SignatureAudit.Proofs.Audit.Causality
import SignatureAudit.Proofs.Audit.Coverage
import SignatureAudit.Proofs.Audit.Directory
import SignatureAudit.Proofs.Audit.Independence
import SignatureAudit.Proofs.Audit.Interruption
import SignatureAudit.Proofs.Audit.Journal
import SignatureAudit.Proofs.Audit.Offset
import SignatureAudit.Proofs.Audit.Run
import SignatureAudit.Proofs.Audit.Schedule
import SignatureAudit.Proofs.Audit.SelfContained
import SignatureAudit.Proofs.Audit.Submission
import SignatureAudit.Proofs.Audit.Supertypes
import SignatureAudit.Proofs.Audit.TypeUsages
import SignatureAudit.Proofs.Audit.Unreadable
import SignatureAudit.Proofs.Audit.Untouched
import SignatureAudit.Proofs.Audit.Wording
import SignatureAudit.Proofs.Call.Combination
import SignatureAudit.Proofs.Call.Description
import SignatureAudit.Proofs.Call.Directory
import SignatureAudit.Proofs.Call.Enumeration
import SignatureAudit.Proofs.Call.Inline
import SignatureAudit.Proofs.Call.Rendering
import SignatureAudit.Proofs.Call.Script
import SignatureAudit.Proofs.Call.Slot
import SignatureAudit.Proofs.Call.Usage
import SignatureAudit.Proofs.Catalog.Inheritance
import SignatureAudit.Proofs.Catalog.Load
import SignatureAudit.Proofs.Catalog.Overloads
import SignatureAudit.Proofs.Diagnosis.Deciding
import SignatureAudit.Proofs.Diagnosis.Pattern
import SignatureAudit.Proofs.Diagnosis.Precedence
import SignatureAudit.Proofs.Effect
import SignatureAudit.Proofs.Entries
import SignatureAudit.Proofs.FileTree.Basic
import SignatureAudit.Proofs.Hierarchy.Ascent
import SignatureAudit.Proofs.Hierarchy.Closure
import SignatureAudit.Proofs.Hierarchy.Fault
import SignatureAudit.Proofs.Hierarchy.Fit
import SignatureAudit.Proofs.Hierarchy.Flatten
import SignatureAudit.Proofs.Hierarchy.Rows
import SignatureAudit.Proofs.Hierarchy.Substitution
import SignatureAudit.Proofs.Hierarchy.Subtype
import SignatureAudit.Proofs.NameSupply
import SignatureAudit.Proofs.Project.Answer
import SignatureAudit.Proofs.Project.BuildText
import SignatureAudit.Proofs.Project.Fixtures
import SignatureAudit.Proofs.Project.LineBuffer
import SignatureAudit.Proofs.Project.Rollback
import SignatureAudit.Proofs.Project.Session
import SignatureAudit.Proofs.Renumbering
import SignatureAudit.Proofs.Signature.Declaration
import SignatureAudit.Proofs.Signature.Parameter
import SignatureAudit.Proofs.Template.Expansion
import SignatureAudit.Proofs.Template.Lookup
import SignatureAudit.Proofs.Text.CapturePattern
import SignatureAudit.Proofs.Text.Filling
import SignatureAudit.Proofs.Text.Lines
import SignatureAudit.Proofs.Text.Replacement
import SignatureAudit.Proofs.Text.Search
import SignatureAudit.Proofs.Text.Trim
import SignatureAudit.Proofs.TypeExpr.Canonical
import SignatureAudit.Proofs.TypeExpr.Flatten
import SignatureAudit.Proofs.TypeExpr.Grammar
import SignatureAudit.Proofs.TypeExpr.Leaves
import SignatureAudit.Proofs.TypeExpr.Reader
import SignatureAudit.Proofs.TypeExpr.Token
import SignatureAudit.Remainder
import SignatureAudit.Settings.Basic
import SignatureAudit.Settings.Document
import SignatureAudit.Settings.Environment
import SignatureAudit.Signature.Basic
import SignatureAudit.Signature.Parameter
import SignatureAudit.SortedMap
import SignatureAudit.Template.Basic
import SignatureAudit.Template.Bundled
import SignatureAudit.Template.Document
import SignatureAudit.Template.Expansion
import SignatureAudit.Template.Load
import SignatureAudit.Text.Blank
import SignatureAudit.Text.Bytes
import SignatureAudit.Text.Digit
import SignatureAudit.Text.Lines
import SignatureAudit.Text.Search
import SignatureAudit.Toml.Basic
import SignatureAudit.Toml.Reader
import SignatureAudit.Toml.Scalar
import SignatureAudit.Toml.Space
import SignatureAudit.Toml.Statement
import SignatureAudit.Toml.Text
import SignatureAudit.Tool.Basic
import SignatureAudit.Tool.Process
import SignatureAudit.Tool.RuleTable
import SignatureAudit.TypeExpr.Basic
import SignatureAudit.TypeExpr.Reader
import SignatureAudit.TypeExpr.Token
