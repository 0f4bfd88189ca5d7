import SiteCache.Text.Lowercase
import SiteCache.Text.Quoted
import SiteCache.Text.Column
import SiteCache.Text.Decimal
import SiteCache.Text.Blank
import SiteCache.Text.Utf8
import SiteCache.Decimal.Shortest
import SiteCache.Json.Fault
import SiteCache.Json.Literal
import SiteCache.Json.Numeral
import SiteCache.Json.Node
import SiteCache.Json.Octets
import SiteCache.Json.Decode
import SiteCache.Json.Shape
import SiteCache.Json.Value
import SiteCache.Time.Calendar
import SiteCache.Time.Instant
import SiteCache.Time.Writing
import SiteCache.Time.Reading
import SiteCache.Error
import SiteCache.Site
import SiteCache.Record
import SiteCache.Plugin
import SiteCache.Product
import SiteCache.Coupon
import SiteCache.Query
import SiteCache.Validation
import SiteCache.Plan
import SiteCache.Summary
import SiteCache.Codec.Names
import SiteCache.Codec.Stored
import SiteCache.Codec.Wire
import SiteCache.Sync.Request
import SiteCache.Store.Error
import SiteCache.Store.Collation
import SiteCache.Store.Table
import SiteCache.Store.Session
import SiteCache.Store.KeySet
import SiteCache.Store.Database
import SiteCache.Store.Listing
import SiteCache.Store.Cell
import SiteCache.Remote.Error
import SiteCache.Store.Family
import SiteCache.Sync.Error
import SiteCache.Remote.Service
import SiteCache.Remote.Script
import SiteCache.Sync.PageWalk
import SiteCache.Sync.Callback
import SiteCache.Sync.Action
import SiteCache.Sync.Dispatcher
import SiteCache.Sync.Synchronizer
import SiteCache.Sync.SiteLocks
import SiteCache.Sync.Task
import SiteCache.Sync.Stores
import SiteCache.Text.Split
import SiteCache.Url.Percent
import SiteCache.Url.Form
import SiteCache.Url.Punycode
import SiteCache.Url.Error
import SiteCache.Url.Address
import SiteCache.Url.Host
import SiteCache.Url.Segments
import SiteCache.Url.Basic
import SiteCache.Url.Reading
import SiteCache.Remote.Endpoint
import SiteCache.Remote.Http
import SiteCache.Sync.Connection
import SiteCache.Toml.Value
import SiteCache.Toml.Quoted
import SiteCache.Toml.Scalar
import SiteCache.Toml.Table
import SiteCache.Toml.Reading
import SiteCache.Toml.QuotedStyle
import SiteCache.Toml.Writing
import SiteCache.Text.Hexadecimal
import SiteCache.Files
import SiteCache.Config.Basic
import SiteCache.Config.Overrides
import SiteCache.Config.Stored
import SiteCache.Config.Loading
import SiteCache.Codec.Form
import SiteCache.Store.File
import SiteCache.Program.Usage
import SiteCache.Program.Option
import SiteCache.Program.Arguments
import SiteCache.Program.Report
import SiteCache.Program.Rows
import SiteCache.Program.Ending
import SiteCache.Program.Run
import SiteCache.Program.Seed
import SiteCache.Codec.Image
import SiteCache.Main
import SiteCache.Proofs.Plan.Build
import SiteCache.Proofs.Store.Rows
import SiteCache.Proofs.Store.Statements
import SiteCache.Proofs.Store.Mirror
import SiteCache.Proofs.Store.Reachable
import SiteCache.Proofs.Store.Frame
import SiteCache.Proofs.Store.Scope
import SiteCache.Proofs.Store.Collation
import SiteCache.Proofs.Store.Listing
import SiteCache.Proofs.Sync.Fetching
import SiteCache.Proofs.Sync.Synchronizing
import SiteCache.Proofs.Sync.Mirroring
import SiteCache.Proofs.Sync.Failing
import SiteCache.Proofs.Sync.Alone
import SiteCache.Proofs.Sync.Inertness
import SiteCache.Proofs.Sync.Exclusion
import SiteCache.Proofs.Sync.Interleaving
import SiteCache.Proofs.Sync.Isolation
import SiteCache.Proofs.Sync.Delivery
import SiteCache.Proofs.Sync.Requests
import SiteCache.Proofs.Sync.Reading
import SiteCache.Proofs.Store.Identity
import SiteCache.Proofs.Store.Transaction
import SiteCache.Proofs.Store.Composition
import SiteCache.Proofs.Sync.Accounting
import SiteCache.Proofs.Sync.Unblocking
import SiteCache.Proofs.Sync.Dispatching
import SiteCache.Proofs.Sync.Commuting
import SiteCache.Proofs.Codec.Settled
import SiteCache.Proofs.Codec.Stored
import SiteCache.Proofs.Plan.Canonical
import SiteCache.Proofs.Sync.Pages
import SiteCache.Proofs.Config.BaseUrl
import SiteCache.Proofs.Config.Stored
import SiteCache.Proofs.Store.Deletion
import SiteCache.Proofs.Sync.Unfailing
import SiteCache.Proofs.Sync.Draining
import SiteCache.Proofs.Sync.Filtering
import SiteCache.Proofs.Sync.Routing
import SiteCache.Proofs.Sync.Alignment
import SiteCache.Proofs.Config.Sites
import SiteCache.Proofs.Config.Layers
import SiteCache.Proofs.Config.Checking
import SiteCache.Proofs.Store.Codes
import SiteCache.Proofs.Remote.Pages
import SiteCache.Proofs.Sync.Registry
import SiteCache.Proofs.Remote.Endpoint
import SiteCache.Proofs.Program.Seeding
import SiteCache.Proofs.Program.Reporting
