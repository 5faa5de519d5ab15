import GraphqlClient.Document.Basic
import GraphqlClient.Document.StringValue

/-!
# Writing documents

The one layout in which a document is written: two blanks of indentation per level, one selection
or member per line, arguments and values on one line, and an empty line between definitions.
-/

namespace GraphqlClient

/-! ### Layout -/

/-- The blanks in front of a line at some level. -/
def indentation (level : Nat) : String := String.ofList (List.replicate (2 * level) ' ')

/-- Texts with commas between them. -/
def commaSeparated (texts : List String) : String := ", ".intercalate texts

/-- A block in braces after its owner: each text on a line of its own, one level deeper than the
owner at `level`. -/
def bracedLines (level : Nat) (texts : List String) : String :=
  let lines := texts.map fun text => indentation (level + 1) ++ text ++ "\n"
  "\x7b\n" ++ String.join lines ++ indentation level ++ "\x7d"

/-- The block of `bracedLines`, a blank before it, unless there is nothing to put into it. -/
def bracedLinesIfAny (level : Nat) (texts : List String) : String :=
  if texts.isEmpty then "" else " " ++ bracedLines level texts

/-! ### Values, types, arguments and directives -/

mutual

def Value.print : Value → String
  | .null => "null"
  | .boolean value => if value then "true" else "false"
  | .int text => text
  | .float text => text
  | .string text => StringValue.quoted text
  | .enum name _ => name
  | .var name => "$" ++ name
  | .list items => "[" ++ commaSeparated (Value.printItems items) ++ "]"
  | .object fields => "\x7b" ++ commaSeparated (Value.printFields fields) ++ "\x7d"

def Value.printItems : List Value → List String
  | [] => []
  | v :: vs => v.print :: Value.printItems vs

def Value.printFields : List (String × Value) → List String
  | [] => []
  | (name, v) :: fs => (name ++ ": " ++ v.print) :: Value.printFields fs

end

def TypeRef.print : TypeRef → String
  | .named name => name
  | .list item => "[" ++ item.print ++ "]"
  | .nonNull inner => inner.print ++ "!"

def Argument.print (a : Argument) : String := a.name ++ ": " ++ a.value.print

/-- Arguments in parentheses, or nothing if there are none. -/
def Argument.printAll (arguments : List Argument) : String :=
  if arguments.isEmpty then "" else "(" ++ commaSeparated (arguments.map Argument.print) ++ ")"

/-- Directives, each with a blank before it. -/
def Directive.printAll (directives : List Directive) : String :=
  String.join (directives.map fun d => " @" ++ d.name ++ Argument.printAll d.arguments)

/-! ### Selections -/

def FieldHead.print (h : FieldHead) : String :=
  let key := match h.responseKey? with
    | some key => key ++ ": "
    | none => ""
  key ++ h.name ++ Argument.printAll h.arguments ++ Directive.printAll h.directives

mutual

/-- A selection that stands at `level`. -/
def Selection.print (level : Nat) : Selection → String
  | .field head selections => head.print ++ Selection.printSetIfAny level selections
  | .spread fragment directives => "..." ++ fragment ++ Directive.printAll directives
  | .inlineFragment onType? directives selections =>
    let condition := match onType? with
      | some onType => " on " ++ onType
      | none => ""
    "..." ++ condition ++ Directive.printAll directives ++ " " ++
      bracedLines level (Selection.printEach (level + 1) selections)

/-- The selection set of a field that stands at `level`, if it has one. -/
def Selection.printSetIfAny (level : Nat) : List Selection → String
  | [] => ""
  | s :: ss =>
    " " ++ bracedLines level (s.print (level + 1) :: Selection.printEach (level + 1) ss)

def Selection.printEach (level : Nat) : List Selection → List String
  | [] => []
  | s :: ss => s.print level :: Selection.printEach level ss

end

/-- The selection set of a definition. -/
def Selection.printSet (selections : List Selection) : String :=
  bracedLines 0 (Selection.printEach 1 selections)

/-! ### Executable definitions -/

def printDefault : Option Value → String
  | some value => " = " ++ value.print
  | none => ""

def VariableDefinition.print (v : VariableDefinition) : String :=
  "$" ++ v.name ++ ": " ++ v.type.print ++ printDefault v.default? ++
    Directive.printAll v.directives

/-- Whether an operation is nothing but a selection set, and so needs no word in front of it. -/
def Operation.isPlainQuery (o : Operation) : Bool :=
  o.kind = .query && o.name?.isNone && o.variableDefinitions.isEmpty && o.directives.isEmpty

/-- An operation.  The word for its kind is left out only at the start of a document, since after
another definition a brace could belong to that one. -/
def Operation.print (first : Bool) (o : Operation) : String :=
  if first && o.isPlainQuery then Selection.printSet o.selections
  else
    let name := match o.name? with
      | some name => " " ++ name
      | none => ""
    let definitions := if o.variableDefinitions.isEmpty then ""
      else "(" ++ commaSeparated (o.variableDefinitions.map VariableDefinition.print) ++ ")"
    o.kind.keyword ++ name ++ definitions ++ Directive.printAll o.directives ++ " " ++
      Selection.printSet o.selections

def Fragment.print (f : Fragment) : String :=
  "fragment " ++ f.name ++ " on " ++ f.onType ++ Directive.printAll f.directives ++ " " ++
    Selection.printSet f.selections

/-! ### Type system definitions -/

/-- The description of a definition at `level`, on the lines before it. -/
def printDescription (level : Nat) : Option String → String
  | some text =>
    StringValue.description (indentation level) text ++ "\n" ++ indentation level
  | none => ""

def InputValue.print (level : Nat) (v : InputValue) : String :=
  printDescription level v.description? ++ v.name ++ ": " ++ v.type.print ++
    printDefault v.default? ++ Directive.printAll v.directives

/-- The arguments that a field or directive at `level` declares.  They stand on one line unless one
of them has a description or a directive. -/
def InputValue.printArguments (level : Nat) (arguments : List InputValue) : String :=
  if arguments.isEmpty then ""
  else if arguments.any (fun a => a.description?.isSome || !a.directives.isEmpty) then
    let line (a : InputValue) : String :=
      indentation (level + 1) ++ a.print (level + 1) ++ ",\n"
    "(\n" ++ String.join (arguments.map line) ++ indentation level ++ ")"
  else "(" ++ commaSeparated (arguments.map (InputValue.print level)) ++ ")"

def FieldDefinition.print (level : Nat) (f : FieldDefinition) : String :=
  printDescription level f.description? ++ f.name ++
    InputValue.printArguments level f.arguments ++ ": " ++ f.type.print ++
    Directive.printAll f.directives

def EnumValueDefinition.print (level : Nat) (v : EnumValueDefinition) : String :=
  printDescription level v.description? ++ v.name ++ Directive.printAll v.directives

def printInterfaces (interfaces : List String) : String :=
  if interfaces.isEmpty then "" else " implements " ++ " & ".intercalate interfaces

/-- A type declaration without its description. -/
def TypeDeclaration.printBare (t : TypeDeclaration) : String :=
  let head (word : String) (interfaces : List String) : String :=
    word ++ " " ++ t.name ++ printInterfaces interfaces ++ Directive.printAll t.directives
  match t.body with
  | .scalar => head "scalar" []
  | .object interfaces fields =>
    head "type" interfaces ++ bracedLinesIfAny 0 (fields.map (FieldDefinition.print 1))
  | .interface interfaces fields =>
    head "interface" interfaces ++ bracedLinesIfAny 0 (fields.map (FieldDefinition.print 1))
  | .union members =>
    head "union" [] ++ if members.isEmpty then "" else " = " ++ " | ".intercalate members
  | .enum values =>
    head "enum" [] ++ bracedLinesIfAny 0 (values.map (EnumValueDefinition.print 1))
  | .inputObject fields =>
    head "input" [] ++ bracedLinesIfAny 0 (fields.map (InputValue.print 1))

def DirectiveDefinition.print (d : DirectiveDefinition) : String :=
  printDescription 0 d.description? ++ "directive @" ++ d.name ++
    InputValue.printArguments 0 d.arguments ++ (if d.repeatable then " repeatable" else "") ++
    " on " ++ " | ".intercalate d.locations

/-- A schema declaration without its description. -/
def RootDeclaration.printBare (s : RootDeclaration) : String :=
  let root (r : OperationKind × String) : String := r.1.keyword ++ ": " ++ r.2
  "schema" ++ Directive.printAll s.directives ++ bracedLinesIfAny 0 (s.roots.map root)

/-! ### Documents -/

/-- A definition, and whether it is the first of its document. -/
def Definition.print (first : Bool) : Definition → String
  | .operation o => o.print first
  | .fragment f => f.print
  | .type t => printDescription 0 t.description? ++ t.printBare
  | .typeExtension t => "extend " ++ t.printBare
  | .directive d => d.print
  | .schema s => printDescription 0 s.description? ++ s.printBare
  | .schemaExtension s => "extend " ++ s.printBare

/-- The text of a document.  It ends in a line feed unless it is empty. -/
def Document.print : Document → String
  | [] => ""
  | d :: ds =>
    "\n\n".intercalate (d.print true :: ds.map (Definition.print false)) ++ "\n"

end GraphqlClient
