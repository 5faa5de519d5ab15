import GraphqlClient.Entries
import GraphqlClient.Number.Binary64

/-!
# JSON values

Numbers are integers if they fit one of the two 64-bit ranges, and binary floating point numbers
else.  An object lists its entries in order.
-/

namespace GraphqlClient

/-- Whether an integer fits one of the two 64-bit ranges, from -2^63 up to 2^64. -/
abbrev Json.IsWord (value : Int) : Prop :=
  -9223372036854775808 ≤ value ∧ value < 18446744073709551616

/-- A number of a JSON text. -/
inductive Json.Number where
  | integer (value : Int) (inRange : Json.IsWord value)
  | real (value : Binary64)
  deriving DecidableEq

/-- A JSON value. -/
inductive Json where
  | null
  | boolean (value : Bool)
  | number (value : Json.Number)
  | string (text : String)
  | array (items : List Json)
  | object (entries : List (String × Json))

namespace Json

instance : Inhabited Json := ⟨.null⟩

/-- The integer as a number, if it is in range. -/
def Number.ofInt? (value : Int) : Option Number :=
  if h : IsWord value then some (.integer value h) else none

/-- The number of a machine word. -/
def ofWord (word : UInt64) : Json :=
  .number (.integer word.toNat ⟨by omega, by have := word.toNat_lt; omega⟩)

def isNull : Json → Bool
  | .null => true
  | _ => false

/-! ### Nesting -/

mutual

/-- How many arrays and objects are open at once at most. -/
def depth : Json → Nat
  | .array items => depthOfItems items + 1
  | .object entries => depthOfEntries entries + 1
  | _ => 0

def depthOfItems : List Json → Nat
  | [] => 0
  | item :: items => max item.depth (depthOfItems items)

def depthOfEntries : List (String × Json) → Nat
  | [] => 0
  | (_, value) :: entries => max value.depth (depthOfEntries entries)

end

end Json

end GraphqlClient
