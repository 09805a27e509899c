import Accord.Binary64
import Accord.Body.ContentType
import Accord.Body.Form
import Accord.Body.Multipart
import Accord.Body.Parser
import Accord.Body.Renderer
import Accord.Body.Serializer
import Accord.Classes.Graph
import Accord.Classes.Inference
import Accord.Component.Basic
import Accord.Component.Extraction
import Accord.Component.Registry
import Accord.Component.RequestModel
import Accord.Contract.Auth
import Accord.Contract.Basic
import Accord.Contract.Build
import Accord.Contract.Check
import Accord.Contract.ErrorModel
import Accord.Contract.Payload
import Accord.Contract.ResponseSpec
import Accord.Decimal
import Accord.Double
import Accord.Failure
import Accord.Json.Basic
import Accord.Json.Printer
import Accord.Json.Reader
import Accord.Json.Record
import Accord.Json.Typed
import Accord.Logging
import Accord.Media
import Accord.Message.Cookie
import Accord.Message.Headers
import Accord.Message.Query
import Accord.Message.Request
import Accord.Message.Response
import Accord.Message.Syntax
import Accord.Message.Uri
import Accord.Negotiation.Choice
import Accord.Negotiation.Decisions
import Accord.Pattern.Basic
import Accord.Pattern.Match
import Accord.Pattern.Names
import Accord.Pattern.Property
import Accord.Pattern.Reader
import Accord.Pattern.Script
import Accord.Power
import Accord.Proofs.Body
import Accord.Proofs.Bytes
import Accord.Proofs.Classes.Composing
import Accord.Proofs.Classes.Declaring
import Accord.Proofs.Classes.Filling
import Accord.Proofs.Classes.Inferring
import Accord.Proofs.Classes.Linear
import Accord.Proofs.Classes.Orders
import Accord.Proofs.Classes.Solving
import Accord.Proofs.Classes.Walking
import Accord.Proofs.Component.Collecting
import Accord.Proofs.Component.CombinedCheck
import Accord.Proofs.Component.Conditional
import Accord.Proofs.Component.Discovering
import Accord.Proofs.Component.EffectiveModel
import Accord.Proofs.Component.Flowing
import Accord.Proofs.Component.HeaderData
import Accord.Proofs.Component.Refusing
import Accord.Proofs.Component.Taking
import Accord.Proofs.Component.Unrelated
import Accord.Proofs.ContentTypes
import Accord.Proofs.Contract.Accepting
import Accord.Proofs.Contract.Breaches
import Accord.Proofs.Contract.Building
import Accord.Proofs.Contract.Declared
import Accord.Proofs.Contract.Described
import Accord.Proofs.Contract.ErrorModel
import Accord.Proofs.Contract.Honouring
import Accord.Proofs.Contract.Implied
import Accord.Proofs.Contract.Independence
import Accord.Proofs.Contract.RawAnswer
import Accord.Proofs.Contract.Selecting
import Accord.Proofs.Contract.Specs
import Accord.Proofs.Contract.Telling
import Accord.Proofs.Contract.Uniqueness
import Accord.Proofs.Contract.WellFormed
import Accord.Proofs.Doubles
import Accord.Proofs.Json.Identity
import Accord.Proofs.Json.Members
import Accord.Proofs.Json.Merging
import Accord.Proofs.Json.Records
import Accord.Proofs.Media
import Accord.Proofs.Message.Encoding
import Accord.Proofs.Message.Headers
import Accord.Proofs.Message.Query
import Accord.Proofs.Multipart.Attributes
import Accord.Proofs.Multipart.Finding
import Accord.Proofs.Multipart.Parts
import Accord.Proofs.Named
import Accord.Proofs.Negotiation.Choosing
import Accord.Proofs.Negotiation.Excluding
import Accord.Proofs.Negotiation.Holding
import Accord.Proofs.Negotiation.Interleaving
import Accord.Proofs.Negotiation.Preferring
import Accord.Proofs.Negotiation.Ranking
import Accord.Proofs.Negotiation.Rereading
import Accord.Proofs.Negotiation.Serving
import Accord.Proofs.Negotiation.Sorting
import Accord.Proofs.Negotiation.Unlisted
import Accord.Proofs.Schema.Conformance
import Accord.Proofs.Schema.Easing
import Accord.Proofs.Schema.FixedPoint
import Accord.Proofs.Schema.Interchange
import Accord.Proofs.Schema.Keeping
import Accord.Proofs.Schema.Locating
import Accord.Proofs.Schema.Outcome
import Accord.Proofs.Schema.Parts
import Accord.Proofs.Schema.Patterns
import Accord.Proofs.Schema.Refusals
import Accord.Proofs.Schema.Rereading
import Accord.Proofs.Schema.Sameness
import Accord.Proofs.Schema.Silence
import Accord.Proofs.Service.Building
import Accord.Proofs.Service.Course
import Accord.Proofs.Service.Echo
import Accord.Proofs.Service.Gating
import Accord.Proofs.Service.Listing
import Accord.Proofs.Service.Raised
import Accord.Proofs.Service.Recovery
import Accord.Proofs.Service.Restriction
import Accord.Proofs.Service.Routing
import Accord.Proofs.Service.Unraised
import Accord.Proofs.Service.Watching
import Accord.Proofs.Settings.Layering
import Accord.Proofs.Settings.Overriding
import Accord.Proofs.Settings.Setting
import Accord.Proofs.Text
import Accord.Proofs.Toml.Values
import Accord.Proofs.Trial.Drafts
import Accord.Proofs.Trial.Forms
import Accord.Proofs.Trial.UploadedForms
import Accord.Proofs.Trial.Uploads
import Accord.Report.Contract
import Accord.Report.Failure
import Accord.Report.Message
import Accord.Report.Schema
import Accord.Report.Service
import Accord.Schema.Basic
import Accord.Schema.Build
import Accord.Schema.Check
import Accord.Schema.Form
import Accord.Service.Controller
import Accord.Service.Declaration
import Accord.Service.Endpoint
import Accord.Settings.Basic
import Accord.Settings.Dotenv
import Accord.Settings.Environment
import Accord.Settings.Form
import Accord.Settings.Layer
import Accord.Settings.Loader
import Accord.Slot
import Accord.Status
import Accord.Text.Case
import Accord.Text.Category
import Accord.Text.Charset
import Accord.Text.Ideographs
import Accord.Text.Number
import Accord.Text.Order
import Accord.Text.Quoted
import Accord.Text.Split
import Accord.Text.Utf8
import Accord.Toml.Document
import Accord.Toml.Number
import Accord.Toml.Text
import Accord.Toml.Tree
import Accord.Trial.Client
import Accord.Trial.Draft
import Accord.Trial.Reply
import Accord.Trial.Upload
