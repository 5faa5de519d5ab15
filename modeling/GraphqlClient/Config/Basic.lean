import GraphqlClient.Config.Duration
import GraphqlClient.Http.Header
import GraphqlClient.Json.Printer
import GraphqlClient.Text.Quoted

/-!
# Configuration

How long a request may take, and which header fields every request has.
-/

namespace GraphqlClient

structure Config where
  /-- The time for one exchange. -/
  timeout : Duration
  /-- The time to establish a connection. -/
  connectTimeout : Duration
  headers : Headers
  deriving Inhabited

namespace Config

def default : Config where
  timeout := .ofSeconds 30
  connectTimeout := .ofSeconds 10
  headers := []

/-! ### Showing -/

/-- How a byte of a header value is shown between quotes. -/
def escapeByte (b : UInt8) : List Char :=
  if b = octet '"' then ['\\', '"']
  else if isPrintable b then [Char.ofNat b.toNat]
  else '\\' :: 'x' :: Nat.toDigits 16 b.toNat

def quotedValue (value : Bytes) : String :=
  String.ofList ('"' :: value.flatMap escapeByte ++ ['"'])

/-- The header fields, those with one name together. -/
def headersText (headers : Headers) : String :=
  let fields := headers.grouped.flatMap fun (name, values) =>
    values.map fun value => Quoted.quote name ++ ": " ++ quotedValue value
  "\x7b" ++ ", ".intercalate fields ++ "\x7d"

def text (c : Config) : String :=
  "TransportConfig \x7b timeout: " ++ c.timeout.text ++ ", connect_timeout: " ++
    c.connectTimeout.text ++ ", headers: " ++ headersText c.headers ++ " \x7d"

/-! ### The published schema

What a configuration may look like, for editors and validators: an object with three optional
members. -/

/-- The names of the members, in the order of a configuration that is written as an array. -/
def memberNames : List String := ["timeout", "connect_timeout", "headers"]

def natural (n : UInt64) : Json := Json.ofWord n

def durationJson (d : Duration) : Json :=
  .object [("secs", natural d.seconds.toUInt64), ("nanos", natural d.subsecond.toUInt64)]

def stringType : Entries Json := [("type", .string "string")]

/-- The schema of one member. -/
def memberSchema (description : String) (default : Json) (shape : Entries Json) : Json :=
  .object ([("description", .string description), ("default", default)] ++ shape)

def jsonSchema : Json :=
  .object
    [("$schema", .string "http://json-schema.org/draft-07/schema#"),
     ("title", .string "TransportConfig"),
     ("description", .string "Connection settings of a [`Transport`](crate::Transport)."),
     ("type", .string "object"),
     ("properties", .object
      [("connect_timeout",
        memberSchema "Time allowed to establish a connection; defaults to 10s"
          (durationJson default.connectTimeout) stringType),
       ("headers",
        memberSchema "Static headers sent with every request" (.object [])
          [("type", .string "object"), ("additionalProperties", .object stringType)]),
       ("timeout",
        memberSchema
          "Total time allowed for one HTTP exchange, in human-readable format; defaults to 30s"
          (durationJson default.timeout) stringType)]),
     ("additionalProperties", .boolean false)]

end Config

end GraphqlClient
