import GraphqlClient.Files.Basic
import GraphqlClient.Response.Decode
import GraphqlClient.Url.Basic
import GraphqlClient.Url.Fault

/-!
# What can go wrong with a call
-/

namespace GraphqlClient

/-- Why an exchange with a server failed. -/
inductive ExchangeFault where
  /-- There is no client to make it with. -/
  | client
  /-- The address is none that a client can turn to. -/
  | address (url : Url)
  /-- No answer came. -/
  | noAnswer (url : Url)
  /-- The answer broke off. -/
  | body
  deriving Repr, DecidableEq, Inhabited

/-- The fault in words.  Credentials are not shown. -/
def ExchangeFault.message : ExchangeFault → String
  | .client => "builder error"
  | .address url => "builder error for url (" ++ url.withoutCredentials.text ++ ")"
  | .noAnswer url => "error sending request for url (" ++ url.withoutCredentials.text ++ ")"
  | .body => "error decoding response body"

inductive TransportError where
  | tooManyRedirects (max : Nat)
  | http (fault : ExchangeFault)
  | invalidEndpoint (fault : UrlFault)
  /-- A server sent the client to a place that is no address. -/
  | invalidRedirectLocation (location : String)
  /-- The credentials of the endpoint are no value of a header field. -/
  | invalidHeader
  | invalidContentType (contentType : String)
  | unopenedUpload (path : String) (fault : FileFault)
  | malformedResponse (body : Bytes) (fault : Response.Malformed)

def TransportError.message : TransportError → String
  | .tooManyRedirects max => s!"exceeded the limit of {max} redirects"
  | .http fault => "HTTP request failed: " ++ fault.message
  | .invalidEndpoint fault => "invalid endpoint URL: " ++ fault.message
  | .invalidRedirectLocation location => "invalid redirect location '" ++ location ++ "'"
  | .invalidHeader => "invalid header value: failed to parse header value"
  | .invalidContentType contentType => "invalid upload content type '" ++ contentType ++ "'"
  | .unopenedUpload path fault => "could not open upload '" ++ path ++ "': " ++ fault.message
  | .malformedResponse body fault => "response was malformed: " ++ fault.message body

end GraphqlClient
