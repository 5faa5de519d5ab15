import GraphqlClient.Document.Basic
import GraphqlClient.Http.Header
import GraphqlClient.Variables.Basic

/-!
# Requests

What one call asks a server: a document, the operation of it that is meant, values for the variables
of the operation, and what the call adds to the header fields.
-/

namespace GraphqlClient

structure Request where
  document : Document
  operationName? : Option String
  variableValues : Variables
  /-- What the hooks of a transport may look at. -/
  context : Entries Json
  headers : Headers
  deriving Inhabited

end GraphqlClient
