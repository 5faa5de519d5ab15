import GraphqlClient.Document.Printer
import GraphqlClient.Json.Printer
import GraphqlClient.Request.Basic
import GraphqlClient.Variables.Extraction

/-!
# Payloads

The body of a request: JSON, or several parts if there are files to send.
-/

namespace GraphqlClient

/-- What a request sends.  The texts are JSON. -/
inductive Payload where
  | json (operations : String)
  | multipart (operations map : String) (files : List FilePart)
  deriving Repr, BEq, DecidableEq, Inhabited

namespace Payload

/-- The text with the document, the variables and the name of the operation. -/
def operations : Payload → String
  | .json operations => operations
  | .multipart operations _ _ => operations

/-- The files that are sent along, by form field. -/
def files : Payload → List FilePart
  | .json _ => []
  | .multipart _ _ files => files

end Payload

namespace Request

/-- The JSON object that says what is asked.  Variables and name are left out if there are none. -/
def operationsJson (r : Request) : Json :=
  .object <|
    [("query", Json.string r.document.print)] ++
    (if r.variableValues.isEmpty then [] else [("variables", r.variableValues.toJson)]) ++
    (r.operationName?.map fun name => ("operationName", Json.string name)).toList

/-- The payload of a request, and the request with its uploads taken out. -/
def takePayload (r : Request) : Payload × Request :=
  match r.variableValues.extractFiles? with
  | none => (.json r.operationsJson.text, r)
  | some extraction =>
    let rest := { r with variableValues := extraction.remainder }
    (.multipart rest.operationsJson.text extraction.map.toJson.text extraction.files, rest)

def payload (r : Request) : Payload := r.takePayload.1

/-- Without files the payload is the operations, and the request stays. -/
theorem takePayload_of_no_file {r : Request} (h : r.variableValues.extraction.files = []) :
    r.takePayload = (.json r.operationsJson.text, r) := by
  have hnone : r.variableValues.extractFiles? = none := if_pos (List.isEmpty_iff.mpr h)
  rw [takePayload, hnone]

/-- With files the payload has several parts, and the request keeps the remainder. -/
theorem takePayload_of_files {r : Request} (h : r.variableValues.extraction.files ≠ []) :
    r.takePayload =
      (.multipart { r with variableValues := r.variableValues.extraction.remainder
        }.operationsJson.text
        r.variableValues.extraction.map.toJson.text r.variableValues.extraction.files,
        { r with variableValues := r.variableValues.extraction.remainder }) := by
  have hsome : r.variableValues.extractFiles? = some r.variableValues.extraction :=
    if_neg fun hempty => h (List.isEmpty_iff.mp hempty)
  rw [takePayload, hsome]

end Request

end GraphqlClient
