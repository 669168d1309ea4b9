import HttpCaching.Text.Blank
import HttpCaching.Text.Case
import HttpCaching.Text.Printable
import HttpCaching.Text.Utf8
import HttpCaching.Text.Literal
import HttpCaching.Field.Token
import HttpCaching.Field.Members
import HttpCaching.Field.DeltaSeconds
import HttpCaching.Field.Read
import HttpCaching.Directive.Argument
import HttpCaching.Directive.Name
import HttpCaching.KeyMap
import HttpCaching.Directive.Entries
import HttpCaching.Decimal.Shortest
import HttpCaching.Decimal.Nearest
import HttpCaching.Time.Duration
import HttpCaching.Directive.Operand
import HttpCaching.Directive.Error
import HttpCaching.Directive.Coerce
import HttpCaching.Directive.Directives
import HttpCaching.Directive.Call
import HttpCaching.Http.Header
import HttpCaching.Directive.Binding
import HttpCaching.Directive.Session
import HttpCaching.Http.Message
import HttpCaching.Http.Address
import HttpCaching.Time.HttpDate
import HttpCaching.Storage
import HttpCaching.Freshness
import HttpCaching.RequestCache
import HttpCaching.Sql.Number
import HttpCaching.Sql.Value
import HttpCaching.Sql.Token
import HttpCaching.Sql.Syntax
import HttpCaching.Sql.Parse.Basic
import HttpCaching.Sql.Parse.Query
import HttpCaching.Sql.Parse.Statement
import HttpCaching.Sql.Error
import HttpCaching.Sql.Schema
import HttpCaching.Sql.Operator
import HttpCaching.Sql.Printf
import HttpCaching.Sql.DateTime
import HttpCaching.Sql.Function
import HttpCaching.Sql.Scope
import HttpCaching.Sql.Json
import HttpCaching.Sql.JsonFunction
import HttpCaching.Sql.Eval
import HttpCaching.Sql.Check
import HttpCaching.Sql.Pages
import HttpCaching.Sql.ForeignKey
import HttpCaching.Sql.Write
import HttpCaching.Sql.Define
import HttpCaching.Sql.Statistics
import HttpCaching.Sql.Connection
import HttpCaching.Sql.Pragma
import HttpCaching.Sql.Exec
import HttpCaching.Policy.Canonical
import HttpCaching.Policy.Scan
import HttpCaching.Http.Target
import HttpCaching.Policy.Location
import HttpCaching.Policy.Store
import HttpCaching.Policy.Opening
import HttpCaching.Rules.Rule
import HttpCaching.Text.Base64
import HttpCaching.Yaml.Token
import HttpCaching.Yaml.Scanner
import HttpCaching.Yaml.Tag
import HttpCaching.Yaml.Timestamp
import HttpCaching.Yaml.Value
import HttpCaching.Yaml.Node
import HttpCaching.Rules.Config
import HttpCaching.Log
import HttpCaching.Middleware.Setup
import HttpCaching.Middleware.Exchange
import HttpCaching.Middleware.Handler
import HttpCaching.Log.Console
import HttpCaching.Cli.Flags
import HttpCaching.Cli.Describe
import HttpCaching.Cli.Run
import HttpCaching.Main
import HttpCaching.Proofs.Field.Join
import HttpCaching.Proofs.Field.Scan
import HttpCaching.Proofs.Text.Case
import HttpCaching.Proofs.Directive.Name
import HttpCaching.Proofs.KeyMap
import HttpCaching.Proofs.Directive.Entries
import HttpCaching.Proofs.Directive.Render
import HttpCaching.Proofs.Directive.RoundTrip
import HttpCaching.Proofs.Policy.Canonical
import HttpCaching.Proofs.RequestCache
import HttpCaching.Proofs.Middleware.Commit
import HttpCaching.Proofs.Directive.Step
import HttpCaching.Proofs.Directive.Table
import HttpCaching.Proofs.Text.Utf8
import HttpCaching.Proofs.Directive.Checked
import HttpCaching.Proofs.Directive.Watch
import HttpCaching.Proofs.Directive.Write
import HttpCaching.Proofs.Directive.Seconds
import HttpCaching.Proofs.Directive.Typed
import HttpCaching.Proofs.Rules.Validate
import HttpCaching.Proofs.Rules.Apply
import HttpCaching.Proofs.Rules.Select
import HttpCaching.Proofs.Policy.Refinement
import HttpCaching.Proofs.Field.Repeated
import HttpCaching.Proofs.Storage
import HttpCaching.Proofs.Freshness
import HttpCaching.Proofs.Middleware.Refresh
import HttpCaching.Proofs.Rules.Order
import HttpCaching.Proofs.Field.Quoted
import HttpCaching.Proofs.Directive.Spelling
