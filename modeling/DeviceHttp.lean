import DeviceHttp.Address
import DeviceHttp.Bytes
import DeviceHttp.Connection
import DeviceHttp.Decimal.Binary64
import DeviceHttp.Decimal.Shortest
import DeviceHttp.Error
import DeviceHttp.Exchange
import DeviceHttp.Fault
import DeviceHttp.Handler
import DeviceHttp.HeaderBuffer
import DeviceHttp.Html.Escape
import DeviceHttp.Html.Page
import DeviceHttp.Html.Widget
import DeviceHttp.Json.Number
import DeviceHttp.Json.StringLiteral
import DeviceHttp.Json.Value
import DeviceHttp.Lookup
import DeviceHttp.Main
import DeviceHttp.Multipart.Body
import DeviceHttp.Multipart.Boundary
import DeviceHttp.Multipart.Part
import DeviceHttp.ReceiveBuffer
import DeviceHttp.Reception
import DeviceHttp.Registry
import DeviceHttp.Reply
import DeviceHttp.Request
import DeviceHttp.Request.Header
import DeviceHttp.Request.Line
import DeviceHttp.Response
import DeviceHttp.RouteTable
import DeviceHttp.Segments
import DeviceHttp.Server
import DeviceHttp.Server.ConnectionSource
import DeviceHttp.Server.Counter
import DeviceHttp.Server.Device
import DeviceHttp.Server.Listener
import DeviceHttp.Server.Run
import DeviceHttp.Settings
import DeviceHttp.SetupPortal
import DeviceHttp.Text.Ascii
import DeviceHttp.Text.Blank
import DeviceHttp.Text.BoundedText
import DeviceHttp.Text.GraphemeExtend
import DeviceHttp.Text.Quoted
import DeviceHttp.Text.Unprintable
import DeviceHttp.Text.Utf8
import DeviceHttp.Proofs.Fragmentation
import DeviceHttp.Proofs.Books
import DeviceHttp.Proofs.Counters
import DeviceHttp.Proofs.Numerals
import DeviceHttp.Proofs.HeaderLookup
import DeviceHttp.Proofs.WrittenRequest
import DeviceHttp.Proofs.Announcement
import DeviceHttp.Proofs.WrittenPart
import DeviceHttp.Proofs.WrittenForm
import DeviceHttp.Proofs.Agreement
import DeviceHttp.Proofs.Transmission
import DeviceHttp.Proofs.Serving
import DeviceHttp.Proofs.Answering
import DeviceHttp.Proofs.Isolation
import DeviceHttp.Proofs.SentLine
import DeviceHttp.Proofs.EncodedPairs
import DeviceHttp.Proofs.CutNames
import DeviceHttp.Proofs.Running
import DeviceHttp.Proofs.Lifecycle
import DeviceHttp.Proofs.UnannouncedBody
import DeviceHttp.Proofs.WrittenResponse
import DeviceHttp.Proofs.Markup
import DeviceHttp.Proofs.Disposal
import DeviceHttp.Proofs.RepeatedLookups
import DeviceHttp.Proofs.WrittenLine
import DeviceHttp.Proofs.Partition
import DeviceHttp.Proofs.Accounting
import DeviceHttp.Proofs.Sizes
import DeviceHttp.Proofs.OnePiece
import DeviceHttp.Proofs.Portal
import DeviceHttp.Proofs.AnnouncedBody
import DeviceHttp.Proofs.PairSearch
import DeviceHttp.Proofs.PartPlaces
import DeviceHttp.Proofs.PageBuilding
import DeviceHttp.Proofs.LongestCopy
import DeviceHttp.Proofs.LineGrammar
import DeviceHttp.Proofs.KeptQuery
import DeviceHttp.Proofs.JsonLookup
import DeviceHttp.Proofs.StrictBlock
import DeviceHttp.Proofs.HeaderReadings
import DeviceHttp.Proofs.ButtonScript
import DeviceHttp.Proofs.NetworkDocument
import DeviceHttp.Proofs.PartSections
import DeviceHttp.Proofs.ExactRouting
import DeviceHttp.Proofs.UsableBoundary
import DeviceHttp.Proofs.BodyMediaTypes
import DeviceHttp.Proofs.EchoPage
import DeviceHttp.Proofs.FirstOccurrence
import DeviceHttp.Proofs.QuotedParameters
import DeviceHttp.Proofs.WordLengths
import DeviceHttp.Proofs.WordReception
