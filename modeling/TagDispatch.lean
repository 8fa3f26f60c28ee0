import TagDispatch.Config.Basic
import TagDispatch.Config.Format
import TagDispatch.Config.Json
import TagDispatch.Config.Load
import TagDispatch.Config.Reading
import TagDispatch.Config.Toml
import TagDispatch.Config.Yaml
import TagDispatch.Dispatch.Code
import TagDispatch.Dispatch.Error
import TagDispatch.Dispatch.Process
import TagDispatch.Dispatch.Registry
import TagDispatch.Dispatch.Session
import TagDispatch.Document.Json
import TagDispatch.Document.Toml.Reader
import TagDispatch.Document.Toml.Scalar
import TagDispatch.Document.Toml.Table
import TagDispatch.Document.Yaml.Lexer
import TagDispatch.Document.Yaml.Node
import TagDispatch.Document.Yaml.Scalar
import TagDispatch.Document.Yaml.Tag
import TagDispatch.Document.Yaml.Token
import TagDispatch.Environment
import TagDispatch.Number.Binary64
import TagDispatch.Number.Shortest
import TagDispatch.Number.Written
import TagDispatch.Pattern.Basic
import TagDispatch.Pattern.CharSet
import TagDispatch.Pattern.Expr
import TagDispatch.Pattern.Reader
import TagDispatch.Pattern.Unicode.Age
import TagDispatch.Pattern.Unicode.Break
import TagDispatch.Pattern.Unicode.Category
import TagDispatch.Pattern.Unicode.Fold
import TagDispatch.Pattern.Unicode.Lookup
import TagDispatch.Pattern.Unicode.Property
import TagDispatch.Pattern.Unicode.Script
import TagDispatch.Pattern.Unicode.ScriptExtension
import TagDispatch.Proofs.Allowance
import TagDispatch.Proofs.AutomaticPass
import TagDispatch.Proofs.Brackets
import TagDispatch.Proofs.Chain
import TagDispatch.Proofs.CodeErrors
import TagDispatch.Proofs.Coherence
import TagDispatch.Proofs.Consuming
import TagDispatch.Proofs.Context
import TagDispatch.Proofs.Contract
import TagDispatch.Proofs.Desugaring
import TagDispatch.Proofs.Diagnostics
import TagDispatch.Proofs.DocumentOrder
import TagDispatch.Proofs.Dummies
import TagDispatch.Proofs.Effect
import TagDispatch.Proofs.Equality
import TagDispatch.Proofs.FieldView
import TagDispatch.Proofs.Locality
import TagDispatch.Proofs.Lockstep
import TagDispatch.Proofs.NamedFields
import TagDispatch.Proofs.Nesting
import TagDispatch.Proofs.Occurrences
import TagDispatch.Proofs.ParentTag
import TagDispatch.Proofs.Paths
import TagDispatch.Proofs.Placement
import TagDispatch.Proofs.Propagation
import TagDispatch.Proofs.Readability
import TagDispatch.Proofs.Recovery
import TagDispatch.Proofs.Refusal
import TagDispatch.Proofs.Registrations
import TagDispatch.Proofs.Registry
import TagDispatch.Proofs.Request
import TagDispatch.Proofs.RoundTrip
import TagDispatch.Proofs.Rounds
import TagDispatch.Proofs.Run
import TagDispatch.Proofs.Scopes
import TagDispatch.Proofs.ScriptErrors
import TagDispatch.Proofs.Scripts
import TagDispatch.Proofs.Service
import TagDispatch.Proofs.Skeleton
import TagDispatch.Proofs.Snapshots
import TagDispatch.Proofs.Spelling
import TagDispatch.Proofs.Step
import TagDispatch.Proofs.Substitution
import TagDispatch.Proofs.Table
import TagDispatch.Proofs.Traces
import TagDispatch.Proofs.TwoPhase
import TagDispatch.Proofs.Untouched
import TagDispatch.Proofs.View
import TagDispatch.Proofs.Visiting
import TagDispatch.Proofs.Walker
import TagDispatch.Report.Message
import TagDispatch.ResultType
import TagDispatch.Script.Arith
import TagDispatch.Script.Exec
import TagDispatch.Script.Instr
import TagDispatch.Table
import TagDispatch.Text.Printable
import TagDispatch.Text.Quoted
import TagDispatch.Text.Ranges
import TagDispatch.Tree.Basic
import TagDispatch.Tree.Equality
import TagDispatch.Tree.Field
import TagDispatch.Tree.Render
import TagDispatch.Tree.Walk
