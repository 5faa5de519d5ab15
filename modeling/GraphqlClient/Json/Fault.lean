import GraphqlClient.Json.Printer
import GraphqlClient.Text.Quoted
import GraphqlClient.Text.Utf8

/-!
# Faults of JSON texts

A text may not be JSON, and JSON may not have the shape that is asked for.  Faults that are found
while a text is read have a place in it, which is given by what of the text follows that place.
-/

namespace GraphqlClient.Json

/-! ### Texts that are not JSON -/

inductive SyntaxError where
  | endOfValue
  | endOfString
  | endOfArray
  | endOfObject
  | expectedValue
  | expectedWord
  | expectedColon
  | expectedArrayEnd
  | expectedObjectEnd
  | keyNotString
  | trailingComma
  | trailingCharacters
  | invalidNumber
  | numberOutOfRange
  | invalidEscape
  | loneSurrogate
  | unfinishedSurrogatePair
  | controlCharacter
  | notUnicode
  | nestedTooDeeply
  deriving Repr, BEq, DecidableEq

def SyntaxError.message : SyntaxError → String
  | .endOfValue => "EOF while parsing a value"
  | .endOfString => "EOF while parsing a string"
  | .endOfArray => "EOF while parsing a list"
  | .endOfObject => "EOF while parsing an object"
  | .expectedValue => "expected value"
  | .expectedWord => "expected ident"
  | .expectedColon => "expected `:`"
  | .expectedArrayEnd => "expected `,` or `]`"
  | .expectedObjectEnd => "expected `,` or `\x7d`"
  | .keyNotString => "key must be a string"
  | .trailingComma => "trailing comma"
  | .trailingCharacters => "trailing characters"
  | .invalidNumber => "invalid number"
  | .numberOutOfRange => "number out of range"
  | .invalidEscape => "invalid escape"
  | .loneSurrogate => "lone leading surrogate in hex escape"
  | .unfinishedSurrogatePair => "unexpected end of hex escape"
  | .controlCharacter => "control character (\\u0000-\\u001F) found while parsing a string"
  | .notUnicode => "invalid unicode code point"
  | .nestedTooDeeply => "recursion limit exceeded"

/-! ### Values of another shape -/

/-- What stands where something else is asked for. -/
inductive Found where
  | null
  | boolean (value : Bool)
  | integer (value : Int)
  | real (value : Binary64)
  | string (text : String)
  | array
  | object

def Found.description : Found → String
  | .null => "null"
  | .boolean value => "boolean `" ++ toString value ++ "`"
  | .integer value => "integer `" ++ toString value ++ "`"
  | .real value => "floating point `" ++ String.ofList value.chars ++ "`"
  | .string text => "string " ++ Quoted.quote text
  | .array => "sequence"
  | .object => "map"

/-- Why a value is not what is asked for. -/
inductive ShapeError where
  /-- A value of one kind stands where another is expected. -/
  | invalidType (found : Found) (expected : String)
  /-- A value of the right kind is not one of those that are expected. -/
  | invalidValue (found : Found) (expected : String)
  | invalidLength (length : Nat) (expected : String)
  | missingField (name : String)
  | duplicateField (name : String)
  | unknownField (name : String) (known : List String)
  | noVariant (type : String)
  | notAHeaderValue

/-- Names between backticks, with commas between them. -/
def quotedNames (names : List String) : String :=
  ", ".intercalate (names.map fun name => "`" ++ name ++ "`")

def ShapeError.message : ShapeError → String
  | .invalidType found expected =>
    "invalid type: " ++ found.description ++ ", expected " ++ expected
  | .invalidValue found expected =>
    "invalid value: " ++ found.description ++ ", expected " ++ expected
  | .invalidLength length expected =>
    "invalid length " ++ toString length ++ ", expected " ++ expected
  | .missingField name => "missing field `" ++ name ++ "`"
  | .duplicateField name => "duplicate field `" ++ name ++ "`"
  | .unknownField name known =>
    "unknown field `" ++ name ++ "`, expected one of " ++ quotedNames known
  | .noVariant type => "data did not match any variant of untagged enum " ++ type
  | .notAHeaderValue => "failed to parse header value"

/-! ### Faults and their places -/

inductive Problem where
  | notJson (error : SyntaxError)
  | shape (error : ShapeError)

def Problem.message : Problem → String
  | .notJson error => error.message
  | .shape error => error.message

/-- A problem at a place of a text.  `rest` is what follows the place. -/
structure Fault where
  problem : Problem
  rest : Bytes

/-- A line, counted from one, and the number of bytes before a place on it. -/
structure Position where
  line : Nat
  column : Nat
  deriving Repr, BEq, DecidableEq

/-- The position after a text. -/
def Position.after (text : Bytes) : Position :=
  { line := text.count (octet '\n') + 1
    column := (text.reverse.takeWhile (· ≠ octet '\n')).length }

/-- The position in `text` of the place that `rest` follows. -/
def Position.before (text rest : Bytes) : Position :=
  .after (text.take (text.length - rest.length))

/-- The fault in words, with its position in the text that was read. -/
def Fault.message (fault : Fault) (text : Bytes) : String :=
  let position := Position.before text fault.rest
  fault.problem.message ++ " at line " ++ toString position.line ++ " column " ++
    toString position.column

end GraphqlClient.Json
