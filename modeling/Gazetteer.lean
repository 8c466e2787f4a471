import Gazetteer.Cache.Basic
import Gazetteer.Cache.Costing
import Gazetteer.Cache.Script
import Gazetteer.Country.Detail
import Gazetteer.Country.Draft
import Gazetteer.Country.Page
import Gazetteer.Http.Body
import Gazetteer.Http.Origin
import Gazetteer.Http.Query
import Gazetteer.Http.Request
import Gazetteer.Http.Response
import Gazetteer.Http.Route
import Gazetteer.Http.Site
import Gazetteer.Http.Template
import Gazetteer.Json.Basic
import Gazetteer.Json.Display
import Gazetteer.Json.Octets
import Gazetteer.Json.Points
import Gazetteer.Json.Reader
import Gazetteer.Json.Token
import Gazetteer.Json.Writer
import Gazetteer.Number.Binary64
import Gazetteer.Number.IntegerText
import Gazetteer.Number.Numeral
import Gazetteer.Number.Quantity
import Gazetteer.Number.Rounding
import Gazetteer.Number.Shortest
import Gazetteer.Proofs.Cache.Accounting
import Gazetteer.Proofs.Cache.Course
import Gazetteer.Proofs.Cache.Entries
import Gazetteer.Proofs.Cache.Forgetting
import Gazetteer.Proofs.Cache.Generations
import Gazetteer.Proofs.Cache.Lighter
import Gazetteer.Proofs.Cache.Loading
import Gazetteer.Proofs.Cache.Recency
import Gazetteer.Proofs.Cache.Record
import Gazetteer.Proofs.Country.Draft
import Gazetteer.Proofs.Country.Encoding
import Gazetteer.Proofs.Country.Grammar
import Gazetteer.Proofs.Country.Page
import Gazetteer.Proofs.Country.Resent
import Gazetteer.Proofs.Http.Absence
import Gazetteer.Proofs.Http.Address
import Gazetteer.Proofs.Http.Dialling
import Gazetteer.Proofs.Http.Exchange
import Gazetteer.Proofs.Http.Origin
import Gazetteer.Proofs.Http.Outcome
import Gazetteer.Proofs.Http.Rewriting
import Gazetteer.Proofs.Http.Writing
import Gazetteer.Proofs.Json.Fields
import Gazetteer.Proofs.Json.Limits
import Gazetteer.Proofs.Json.Openings
import Gazetteer.Proofs.Json.RoundTrip
import Gazetteer.Proofs.Json.Tokens
import Gazetteer.Proofs.Number.Ceiling
import Gazetteer.Proofs.Number.IntegerText
import Gazetteer.Proofs.Number.Nearest
import Gazetteer.Proofs.Registry.Absence
import Gazetteer.Proofs.Registry.Accounting
import Gazetteer.Proofs.Registry.Atomicity
import Gazetteer.Proofs.Registry.Conflicts
import Gazetteer.Proofs.Registry.Course
import Gazetteer.Proofs.Registry.Forgetting
import Gazetteer.Proofs.Registry.Frame
import Gazetteer.Proofs.Registry.Identity
import Gazetteer.Proofs.Registry.Interleaving
import Gazetteer.Proofs.Registry.Key
import Gazetteer.Proofs.Registry.KeyParts
import Gazetteer.Proofs.Registry.Paging
import Gazetteer.Proofs.Registry.PrimaryCode
import Gazetteer.Proofs.Registry.Readback
import Gazetteer.Proofs.Registry.Rewriting
import Gazetteer.Proofs.Registry.Staleness
import Gazetteer.Proofs.Registry.Step
import Gazetteer.Proofs.Registry.Tables
import Gazetteer.Proofs.Registry.Transparency
import Gazetteer.Proofs.Registry.Upkeep
import Gazetteer.Proofs.Search.Grammar
import Gazetteer.Proofs.Settings.Database
import Gazetteer.Proofs.Settings.Origins
import Gazetteer.Proofs.Settings.Reading
import Gazetteer.Proofs.Store.Filters
import Gazetteer.Proofs.Store.Frame
import Gazetteer.Proofs.Store.Mirror
import Gazetteer.Proofs.Store.Session
import Gazetteer.Proofs.Store.Upkeep
import Gazetteer.Proofs.Text.CommaList
import Gazetteer.Proofs.Text.Percent
import Gazetteer.Proofs.Text.Separation
import Gazetteer.Proofs.Time.Calendar
import Gazetteer.Proofs.Time.Instants
import Gazetteer.Proofs.Time.Order
import Gazetteer.Proofs.Time.Reading
import Gazetteer.Proofs.Time.Sums
import Gazetteer.Proofs.Time.Writing
import Gazetteer.Proofs.Url.Host
import Gazetteer.Proofs.Url.Origin
import Gazetteer.Proofs.Url.Reader
import Gazetteer.Proofs.Validation.Integer
import Gazetteer.Proofs.Validation.Quoting
import Gazetteer.Registry.Basic
import Gazetteer.Registry.Conflict
import Gazetteer.Registry.Encoding
import Gazetteer.Registry.Key
import Gazetteer.Registry.Operation
import Gazetteer.Registry.Query
import Gazetteer.Search.Order
import Gazetteer.Search.Request
import Gazetteer.Settings.Basic
import Gazetteer.Settings.Logger
import Gazetteer.Settings.Reader
import Gazetteer.Store.Basic
import Gazetteer.Store.Probe
import Gazetteer.Store.Search
import Gazetteer.Store.Session
import Gazetteer.Store.TableName
import Gazetteer.Store.Write
import Gazetteer.Text.Blank
import Gazetteer.Text.Casing
import Gazetteer.Text.CasingTable
import Gazetteer.Text.CodeTable
import Gazetteer.Text.CommaList
import Gazetteer.Text.Composition
import Gazetteer.Text.CompositionTable
import Gazetteer.Text.Decimal
import Gazetteer.Text.Direction
import Gazetteer.Text.Hexadecimal
import Gazetteer.Text.Joining
import Gazetteer.Text.Mark
import Gazetteer.Text.Occurs
import Gazetteer.Text.Percent
import Gazetteer.Text.Printable
import Gazetteer.Text.Quoted
import Gazetteer.Text.Spans
import Gazetteer.Text.Split
import Gazetteer.Text.Utf8
import Gazetteer.Text.Wide
import Gazetteer.Text.Wildcard
import Gazetteer.Time.Clock
import Gazetteer.Time.Moment
import Gazetteer.Time.Reader
import Gazetteer.Trace.Span
import Gazetteer.Url.Basic
import Gazetteer.Url.Domain
import Gazetteer.Url.Host
import Gazetteer.Url.Mapping
import Gazetteer.Url.MappingTable
import Gazetteer.Url.Punycode
import Gazetteer.Url.Reader
import Gazetteer.Validation.Checked
import Gazetteer.Validation.Issue
import Gazetteer.Validation.Pattern
import Gazetteer.Validation.Rule
