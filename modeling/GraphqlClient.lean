import GraphqlClient.Document.Printer
import GraphqlClient.Schema.Build
import GraphqlClient.Deprecation.Walk
import GraphqlClient.Number.Decimal
import GraphqlClient.Text.Utf8
import GraphqlClient.Json.Printer
import GraphqlClient.Json.Fault
import GraphqlClient.Json.Located
import GraphqlClient.Variables.Extraction
import GraphqlClient.Http.Header
import GraphqlClient.Config.Duration
import GraphqlClient.Response.Reader
import GraphqlClient.Config.Reader
import GraphqlClient.Files.Tree
import GraphqlClient.Transport.Execute
import GraphqlClient.Proofs.Deprecation.Resolution
import GraphqlClient.Proofs.Transport.Credentials
import GraphqlClient.Proofs.Transport.Redirects
import GraphqlClient.Proofs.Variables.Extraction
import GraphqlClient.Proofs.Variables.Numbering
import GraphqlClient.Proofs.Variables.Dotted
import GraphqlClient.Proofs.Deprecation.Nodes
import GraphqlClient.Proofs.Deprecation.Steps
import GraphqlClient.Proofs.Deprecation.TypeConditions
import GraphqlClient.Proofs.Deprecation.Literals
import GraphqlClient.Proofs.Json.Values
import GraphqlClient.Proofs.Number.Decimal
import GraphqlClient.Proofs.Text.Utf8
import GraphqlClient.Proofs.Json.Grammar
import GraphqlClient.Proofs.Json.Lexeme
import GraphqlClient.Proofs.Json.Located
import GraphqlClient.Proofs.Json.Numbers
import GraphqlClient.Proofs.Json.Strings
import GraphqlClient.Proofs.Json.Reader
import GraphqlClient.Proofs.Json.Printer
import GraphqlClient.Proofs.Response.Decode
import GraphqlClient.Proofs.Response.Shape
import GraphqlClient.Proofs.Response.RoundTrip
import GraphqlClient.Proofs.Response.NormalForm
import GraphqlClient.Proofs.Response.Parts
import GraphqlClient.Proofs.Response.Direct
import GraphqlClient.Proofs.Deprecation.Composition
import GraphqlClient.Proofs.Transport.Lifecycle
import GraphqlClient.Proofs.Transport.Secrets
import GraphqlClient.Proofs.Json.AnyDepth
import GraphqlClient.Proofs.Request.Rebuild
import GraphqlClient.Proofs.Request.Operations
import GraphqlClient.Proofs.Http.Header
import GraphqlClient.Proofs.Http.MediaType
import GraphqlClient.Proofs.Transport.Precedence
import GraphqlClient.Proofs.Transport.Bodies
import GraphqlClient.Proofs.Deprecation.Growth
import GraphqlClient.Proofs.Transport.Uploads
import GraphqlClient.Proofs.Text.Percent
import GraphqlClient.Proofs.Text.Base64
import GraphqlClient.Proofs.Url.Userinfo
import GraphqlClient.Proofs.Transport.BasicAuthorization
import GraphqlClient.Proofs.Transport.Visible
import GraphqlClient.Proofs.Deprecation.Rewriting
import GraphqlClient.Proofs.Variables.Spelling
import GraphqlClient.Proofs.Request.Spelling
import GraphqlClient.Proofs.Request.Files
import GraphqlClient.Proofs.Document.Lines
import GraphqlClient.Proofs.Document.Reading
import GraphqlClient.Proofs.Document.Pieces
import GraphqlClient.Proofs.Document.Written
import GraphqlClient.Proofs.Deprecation.Labels
import GraphqlClient.Proofs.Deprecation.Order
import GraphqlClient.Proofs.Json.Validation
import GraphqlClient.Proofs.Config.Reader
import GraphqlClient.Proofs.Config.Schema
