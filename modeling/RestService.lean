import RestService.Collection.Memory
import RestService.Decimal.Layout
import RestService.Decimal.Reading
import RestService.Fault
import RestService.Hint
import RestService.Http.Endpoint
import RestService.Http.Request
import RestService.Http.Response
import RestService.Log
import RestService.Main
import RestService.Negotiation.Selection
import RestService.Pipeline.Build
import RestService.Proofs.Collection.Catalogue
import RestService.Proofs.Collection.Inverse
import RestService.Proofs.Collection.RoundTrip
import RestService.Proofs.Collection.Shape
import RestService.Proofs.Collection.Store
import RestService.Proofs.Collection.Typed
import RestService.Proofs.Decimal.Digits
import RestService.Proofs.Decimal.Finite
import RestService.Proofs.Dict
import RestService.Proofs.Http.Location
import RestService.Proofs.Json.Sound
import RestService.Proofs.Json.Value
import RestService.Proofs.Pipeline.Chain
import RestService.Proofs.Pipeline.Later
import RestService.Proofs.Pipeline.Refusal
import RestService.Proofs.Pipeline.Run
import RestService.Proofs.Pipeline.Shown
import RestService.Proofs.Pipeline.Stored
import RestService.Proofs.Representation.Charset
import RestService.Proofs.Resource.Value
import RestService.Proofs.Result
import RestService.Proofs.Route.Record
import RestService.Proofs.Route.Standard
import RestService.Proofs.Rule.Conversion
import RestService.Proofs.Rule.Invertible
import RestService.Proofs.Rule.Renaming
import RestService.Proofs.Rule.Ruleset
import RestService.Proofs.Text.Blank
import RestService.Proofs.Text.Bytes
import RestService.Proofs.Text.Pieces
import RestService.Proofs.Url.Host
import RestService.Proofs.Url.Path
import RestService.Proofs.Url.Text
import RestService.Proofs.Xml.Assembly
import RestService.Proofs.Xml.Declaration
import RestService.Proofs.Xml.Escape
import RestService.Proofs.Xml.Name
import RestService.Proofs.Xml.RoundTrip
import RestService.Proofs.Xml.Scan
import RestService.Proofs.Xml.Value
import RestService.Representation.Codec
import RestService.Resource.Entity
import RestService.Route.Table
import RestService.Rule.Ruleset
import RestService.Shutdown
import RestService.Proofs.Negotiation.ListHeader
import RestService.Proofs.Negotiation.Selection
import RestService.Proofs.Pipeline.Calls
import RestService.Proofs.Pipeline.Order
import RestService.Proofs.Collection.Register
import RestService.Proofs.Collection.Hinted
import RestService.Proofs.Collection.History
import RestService.Proofs.Negotiation.Coverage
import RestService.Proofs.Settings.Agreement
import RestService.Proofs.Json.Bijection
import RestService.Proofs.Yaml.Record
import RestService.Proofs.Yaml.Agreement
import RestService.Proofs.Route.Methods
import RestService.Proofs.Pipeline.Allowed
import RestService.Proofs.Text.Case
import RestService.Proofs.Collection.Labels
import RestService.Proofs.Collection.Named
import RestService.Proofs.Xml.Legible
import RestService.Proofs.Collection.Owner
import RestService.Proofs.Hint.Pattern
import RestService.Proofs.Rule.Grammar
import RestService.Proofs.Rule.Precedence
import RestService.Proofs.Negotiation.Charset
import RestService.Proofs.Xml.Nesting
import RestService.Proofs.Yaml.Entries
import RestService.Proofs.Representation.RoundTrip
import RestService.Proofs.Route.Capture
import RestService.Proofs.Pipeline.Signal
import RestService.Proofs.Source.Lines
import RestService.Proofs.Rule.Integer
import RestService.Proofs.Rule.Layout
import RestService.Proofs.Text.Ascii
import RestService.Proofs.Rule.Titling
