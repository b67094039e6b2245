import Switchyard.Association
import Switchyard.Command.Arguments
import Switchyard.Command.Inspector
import Switchyard.Exchange.Context
import Switchyard.Exchange.Failure
import Switchyard.Exchange.Scalar
import Switchyard.Exchange.Value
import Switchyard.Json.Cursor
import Switchyard.Json.Reader
import Switchyard.Json.Value
import Switchyard.Json.Writer
import Switchyard.Main
import Switchyard.Number.Binary64
import Switchyard.Number.Digit
import Switchyard.Number.Integer
import Switchyard.Pattern.Constraint
import Switchyard.Pattern.Parser
import Switchyard.Pattern.Path
import Switchyard.Pattern.Segment
import Switchyard.Pipeline.Action
import Switchyard.Pipeline.Composition
import Switchyard.Pipeline.Filter
import Switchyard.Pipeline.Renderer
import Switchyard.Proofs.Allowance
import Switchyard.Proofs.Binding
import Switchyard.Proofs.Classification
import Switchyard.Proofs.Compiling
import Switchyard.Proofs.Containment
import Switchyard.Proofs.Cutting
import Switchyard.Proofs.Declaring
import Switchyard.Proofs.Detachment
import Switchyard.Proofs.Grammar
import Switchyard.Proofs.Insertion
import Switchyard.Proofs.Matching
import Switchyard.Proofs.Nesting
import Switchyard.Proofs.Offloading
import Switchyard.Proofs.Precedence
import Switchyard.Proofs.Prefixing
import Switchyard.Proofs.Refusal
import Switchyard.Proofs.Registration
import Switchyard.Proofs.Reordering
import Switchyard.Proofs.Reporting
import Switchyard.Proofs.Resolution
import Switchyard.Proofs.Retention
import Switchyard.Proofs.Spelling
import Switchyard.Proofs.Tokens
import Switchyard.Proofs.Unwinding
import Switchyard.Regex.Bracket
import Switchyard.Regex.CharSet
import Switchyard.Regex.Escape
import Switchyard.Regex.Expr
import Switchyard.Regex.Flags
import Switchyard.Regex.Matcher
import Switchyard.Regex.Parser
import Switchyard.Router.Blueprint
import Switchyard.Router.Classifier
import Switchyard.Router.Dispatch
import Switchyard.Router.Scope
import Switchyard.Service.Reply
import Switchyard.Service.Server
import Switchyard.Service.Stub
import Switchyard.Settings.Decoding
import Switchyard.Settings.Loading
import Switchyard.Settings.Schema
import Switchyard.Settings.Validation
import Switchyard.Table.Bindings
import Switchyard.Table.Registry
import Switchyard.Table.Route
import Switchyard.Table.Trie
import Switchyard.Text.Blank
import Switchyard.Text.Replace
import Switchyard.Text.Split
import Switchyard.Text.Utf8
import Switchyard.Toml.Document
import Switchyard.Toml.Number
import Switchyard.Toml.Reader
import Switchyard.Toml.Text
import Switchyard.Toml.Value
import Switchyard.Unicode.Age
import Switchyard.Unicode.CaseVariant
import Switchyard.Unicode.Category
import Switchyard.Unicode.Lookup
import Switchyard.Unicode.Property
import Switchyard.Unicode.Script
import Switchyard.Unicode.ScriptExtension
import Switchyard.Unicode.TextBreak
import Switchyard.Web.Address
import Switchyard.Web.Header
import Switchyard.Web.MediaType
import Switchyard.Web.Method
import Switchyard.Web.Status
import Switchyard.Web.Target
import Switchyard.Proofs.Committing
import Switchyard.Proofs.Mounting
import Switchyard.Proofs.Replying
import Switchyard.Proofs.Answering
import Switchyard.Proofs.Keying
import Switchyard.Proofs.Anchoring
import Switchyard.Proofs.Filling
import Switchyard.Proofs.Normalizing
import Switchyard.Proofs.Negotiating
import Switchyard.Proofs.Rendering
import Switchyard.Proofs.Respelling
import Switchyard.Proofs.Labelling
