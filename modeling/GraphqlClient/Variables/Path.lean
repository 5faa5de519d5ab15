import GraphqlClient.Variables.Basic

/-!
# Paths into variables

A path leads from the variables of a request to a part of one of them.  Each segment is the key of
a field, or the index of an item in decimal digits; which of the two it is, what stands there says.
-/

namespace GraphqlClient

/-- The segments of a path, from the outside in. -/
abbrev Path := List String

namespace Variable

mutual

/-- The part at the end of a path. -/
def read? : Variable → Path → Option Variable
  | v, [] => some v
  | .list items, segment :: rest => readItem? 0 segment rest items
  | .object fields, segment :: rest => readField? segment rest fields
  | _, _ :: _ => none

def readItem? (index : Nat) (segment : String) (rest : Path) : List Variable → Option Variable
  | [] => none
  | item :: items =>
    if toString index = segment then item.read? rest
    else readItem? (index + 1) segment rest items

def readField? (segment : String) (rest : Path) : List (String × Variable) → Option Variable
  | [] => none
  | (key, field) :: fields =>
    if key = segment then field.read? rest else readField? segment rest fields

end

mutual

/-- The variable with another part at the end of a path.  A path that leads nowhere changes
nothing. -/
def write (new : Variable) : Variable → Path → Variable
  | _, [] => new
  | .list items, segment :: rest => .list (writeItem new 0 segment rest items)
  | .object fields, segment :: rest => .object (writeField new segment rest fields)
  | v, _ :: _ => v

def writeItem (new : Variable) (index : Nat) (segment : String) (rest : Path) :
    List Variable → List Variable
  | [] => []
  | item :: items =>
    if toString index = segment then write new item rest :: items
    else item :: writeItem new (index + 1) segment rest items

def writeField (new : Variable) (segment : String) (rest : Path) :
    List (String × Variable) → List (String × Variable)
  | [] => []
  | (key, field) :: fields =>
    if key = segment then (key, write new field rest) :: fields
    else (key, field) :: writeField new segment rest fields

end

end Variable

namespace Variables

/-- The part of the variables at the end of a path that starts with the name of a variable. -/
def read? (vs : Variables) : Path → Option Variable
  | [] => none
  | name :: rest => Variable.readField? name rest vs

/-- The variables with another part at the end of a path. -/
def write (vs : Variables) (path : Path) (new : Variable) : Variables :=
  match path with
  | [] => vs
  | name :: rest => Variable.writeField new name rest vs

end Variables

end GraphqlClient
