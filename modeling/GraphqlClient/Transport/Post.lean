import GraphqlClient.Files.Basic
import GraphqlClient.Http.MediaType
import GraphqlClient.Request.Payload
import GraphqlClient.Transport.Error
import GraphqlClient.Url.Credentials

/-!
# Posts

What a client sends to a server: the address, header fields, and a body, which is JSON or a form of
several parts.
-/

namespace GraphqlClient

/-! ### Forms -/

/-- A part of a form. -/
structure FormPart where
  name : String
  fileName? : Option String
  contentType? : Option String
  /-- The content, unless reading it fails. -/
  content? : Option Bytes
  deriving Repr, DecidableEq, Inhabited

namespace FormPart

/-- The part that holds a text. -/
def ofText (name text : String) : FormPart :=
  { name, fileName? := none, contentType? := none, content? := some (bytesOf text) }

/-- The characters of a file's name with a backslash before those that would end it. -/
def escapedName (fileName : String) : String :=
  String.ofList (fileName.toList.flatMap fun c =>
    if c = '\\' || c = '"' || c = '\r' || c = '\n' then ['\\', c] else [c])

/-- The lines before the content. -/
def headerLines (part : FormPart) : List String :=
  let file := (part.fileName?.map fun name => "; filename=\"" ++ escapedName name ++ "\"").getD ""
  ("Content-Disposition: form-data; name=\"" ++ part.name ++ "\"" ++ file) ::
    (part.contentType?.map ("Content-Type: " ++ ·)).toList

/-- The part that holds a file to upload. -/
def ofFile (disk : Disk) (file : FilePart) : Except TransportError FormPart := do
  let upload := file.file
  let content? ← (disk upload.path).mapError (.unopenedUpload upload.path)
  let contentType? ← upload.contentType?.mapM fun contentType =>
    (MediaType.read? contentType).elim (.error (.invalidContentType contentType)) .ok
  return { name := file.formIndex, fileName? := some upload.fileName, contentType?, content? }

end FormPart

/-! ### Bodies -/

inductive Body where
  | json (text : String)
  | form (parts : List FormPart)
  deriving Repr, DecidableEq, Inhabited

namespace Body

/-- The body that sends a payload.  The files are opened in order. -/
def ofPayload (disk : Disk) : Payload → Except TransportError Body
  | .json operations => .ok (.json operations)
  | .multipart operations map files => do
    let parts ← files.mapM (FormPart.ofFile disk)
    return .form (.ofText "operations" operations :: .ofText "map" map :: parts)

/-- What the body is.  The word at the end of a form's type stands for the text between its parts,
which is a new one each time. -/
def contentType : Body → String
  | .json _ => "application/json"
  | .form _ => "multipart/form-data; boundary=BOUNDARY"

end Body

/-! ### Posts -/

structure Post where
  url : Url
  /-- The header fields that the sender chose. -/
  headers : Headers
  body : Body
  deriving Repr, DecidableEq, Inhabited

namespace Post

/-- The address as the server is told. -/
def target (post : Post) : Url := post.url.withoutCredentials.withoutFragment

/-- The header fields as they are sent: those that were chosen, what the body is, and the
credentials of the address unless others were chosen. -/
def fields (post : Post) : Headers :=
  let derived := if post.headers.has "authorization" then none else post.url.exactAuthorization?
  let headers := (derived.map fun value =>
    Headers.insert post.headers "authorization" (bytesOf value)).getD post.headers
  Headers.append headers "content-type" (bytesOf post.body.contentType)

end Post

/-- Whether a client can turn to an address: it speaks with web servers only, and some characters
cannot stand in the name of one. -/
def Url.isReachable (url : Url) : Bool :=
  let nameable := match url.host? with
    | some (.name text) => text.toList.all fun c => !"\"\x60\x7b\x7d".toList.contains c
    | _ => true
  (url.scheme = "http" || url.scheme = "https") && nameable

end GraphqlClient
