import GraphqlClient.Text.Base64
import GraphqlClient.Url.Basic

/-!
# Credentials

An address may name a user and a password.  They are sent to the server in a header field, as one
text with a colon between.
-/

namespace GraphqlClient

/-- The value that tells a server who is asking. -/
def basicAuthorization (user password : List Char) : String :=
  "Basic " ++ String.ofList (Base64.encode (Utf8.encode (user ++ ':' :: password)))

namespace Url

def hasCredentials (url : Url) : Bool := !(url.username.isEmpty && url.password.isEmpty)

/-- Whether the credentials of an address can be changed: it has to have a server with a name, and
to be no file. -/
def takesCredentials (url : Url) : Bool :=
  url.scheme ≠ "file" && url.host?.any (· ≠ .name "")

/-- The address without its user, or the same address if the user cannot be changed. -/
def clearUsername (url : Url) : Url :=
  if url.takesCredentials then { url with username := "" } else url

def clearPassword (url : Url) : Url :=
  if url.takesCredentials then { url with password := "" } else url

/-- A text of the address without its escapes. -/
def unescaped (text : String) : Bytes := Percent.decode (bytesOf text)

/-- What tells the server of an address who is asking, with U+FFFD for bytes that are no text. -/
def lossyAuthorization? (url : Url) : Option String :=
  if url.hasCredentials then
    some (basicAuthorization (Utf8.decodeLossy (unescaped url.username))
      (Utf8.decodeLossy (unescaped url.password)))
  else none

/-- What tells the server of an address who is asking.  A user that is no text asks for nothing, and
a password that is none is left out. -/
def exactAuthorization? (url : Url) : Option String := do
  let user ← Utf8.decode? (unescaped url.username)
  let password := (Utf8.decode? (unescaped url.password)).getD []
  if user.isEmpty && password.isEmpty then none else some (basicAuthorization user password)

end Url

end GraphqlClient
