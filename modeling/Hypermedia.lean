import Hypermedia.Connection
import Hypermedia.Decimal.Binary64
import Hypermedia.Decimal.Shortest
import Hypermedia.Delivery
import Hypermedia.Description.Basic
import Hypermedia.Description.OfJson
import Hypermedia.Description.OfYaml
import Hypermedia.Description.Shape
import Hypermedia.Directive
import Hypermedia.Eligibility
import Hypermedia.Gateway.Admission
import Hypermedia.Gateway.Backend
import Hypermedia.Gateway.CommandLine
import Hypermedia.Gateway.Configuration
import Hypermedia.Gateway.Exchange
import Hypermedia.Gateway.Http
import Hypermedia.Header
import Hypermedia.Json.Basic
import Hypermedia.Json.Literal
import Hypermedia.Json.Parser
import Hypermedia.Json.Printer
import Hypermedia.Main
import Hypermedia.Pruning
import Hypermedia.Push.Ledger
import Hypermedia.Push.Transport
import Hypermedia.Query
import Hypermedia.Relation
import Hypermedia.Selector.Pointer
import Hypermedia.Selector.Tree
import Hypermedia.Settings
import Hypermedia.SocketAddress
import Hypermedia.StructuredField
import Hypermedia.Text.CodePoints
import Hypermedia.Text.Composition
import Hypermedia.Text.Direction
import Hypermedia.Text.Invisible
import Hypermedia.Text.Joining
import Hypermedia.Text.Mark
import Hypermedia.Text.Percent
import Hypermedia.Text.Pieces
import Hypermedia.Text.Quoted
import Hypermedia.Text.Utf8
import Hypermedia.Toml.Basic
import Hypermedia.Toml.Number
import Hypermedia.Toml.Parser
import Hypermedia.Toml.Text
import Hypermedia.Uri
import Hypermedia.Url.Basic
import Hypermedia.Url.Domain.Ascii
import Hypermedia.Url.Domain.Folding
import Hypermedia.Url.Domain.Permitted
import Hypermedia.Url.Host
import Hypermedia.Url.Ip
import Hypermedia.Url.Origin
import Hypermedia.Url.Parser
import Hypermedia.Url.Punycode
import Hypermedia.Yaml.Cursor
import Hypermedia.Yaml.Node
import Hypermedia.Yaml.Parser
import Hypermedia.Yaml.Plain
import Hypermedia.Yaml.Scalar
import Hypermedia.Yaml.Token
import Hypermedia.Proofs.Text.Pieces
import Hypermedia.Proofs.Text.ByteOrder
import Hypermedia.Proofs.Selector.Pointer
import Hypermedia.Proofs.Selector.Listing
import Hypermedia.Proofs.Selector.Rerooting
import Hypermedia.Proofs.Selector.Inserts
import Hypermedia.Proofs.Selector.Naming
import Hypermedia.Proofs.Pruning.Kept
import Hypermedia.Proofs.Pruning.Paths
import Hypermedia.Proofs.Pruning.Requested
import Hypermedia.Proofs.Push.Cycle
import Hypermedia.Proofs.Push.Ledger
import Hypermedia.Proofs.Push.AtMostOnce
import Hypermedia.Proofs.Push.InFlight
import Hypermedia.Proofs.Push.Handles
import Hypermedia.Proofs.Push.Waiting
import Hypermedia.Proofs.Push.Budget
import Hypermedia.Proofs.Connection
import Hypermedia.Proofs.NetworkPath
import Hypermedia.Proofs.Delivery.Links
import Hypermedia.Proofs.Delivery.NothingLost
import Hypermedia.Proofs.Delivery.Body
import Hypermedia.Proofs.Push.Lifecycle
import Hypermedia.Proofs.Push.Deduplication
import Hypermedia.Proofs.Rendering
import Hypermedia.Proofs.Delivery.Vary
import Hypermedia.Proofs.Pruning.Alike
import Hypermedia.Proofs.StructuredField
import Hypermedia.Proofs.Text.Utf8
import Hypermedia.Proofs.Directive
import Hypermedia.Proofs.CarriedDirectives
import Hypermedia.Proofs.Delivery.Advertised
import Hypermedia.Proofs.Gateway.Exchange
import Hypermedia.Proofs.Gateway.Admission
import Hypermedia.Proofs.Gateway.Limit
import Hypermedia.Proofs.Push.Rollback
import Hypermedia.Proofs.Delivery.Effects
import Hypermedia.Proofs.Delivery.Forwarded
import Hypermedia.Proofs.Delivery.Spending
import Hypermedia.Proofs.Description.Table
import Hypermedia.Proofs.Description.Routes
import Hypermedia.Proofs.Text.Replacement
import Hypermedia.Proofs.Description.Links
import Hypermedia.Proofs.Pruning.Widened
import Hypermedia.Proofs.Push.Completion
import Hypermedia.Proofs.Delivery.Completion
import Hypermedia.Proofs.Description.Choice
import Hypermedia.Proofs.LinkValue
import Hypermedia.Proofs.Pruning.Replaced
import Hypermedia.Proofs.Delivery.Identifiers
import Hypermedia.Proofs.Eligibility.CacheControl
import Hypermedia.Proofs.Eligibility.Request
import Hypermedia.Proofs.Eligibility.Preference
import Hypermedia.Proofs.Gateway.Backend
import Hypermedia.Proofs.Gateway.Configuration
