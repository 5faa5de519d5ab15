import GraphqlClient.Document.StringValue

/-!
# Lexemes and tokens

A text is cut into lexemes, which put together again give the text.  Lexemes that carry no meaning
(blanks, line ends, commas, comments) are dropped, and what is left becomes the tokens, each with
the line it starts on.  A line ends at any of the eight Unicode line ends, so lines are counted in
the dropped lexemes and inside strings as well.
-/

namespace GraphqlClient

/-! ### Characters -/

/-- The characters between tokens that mean nothing: blanks, line ends, commas and the byte order
mark. -/
def isInsignificant (c : Char) : Bool :=
  c = ' ' || c = '\t' || c = '\n' || c = '\r' || c = ',' || c = '\ufeff'

/-- The characters that end a comment, and that no quoted string holds. -/
def isLineBreak (c : Char) : Bool := c = '\n' || c = '\r'

def isNameStart (c : Char) : Bool := c.isAlpha || c = '_'

def isNameContinue (c : Char) : Bool := c.isAlphanum || c = '_'

/-- The punctuators that are a single character. -/
def isPunctuator (c : Char) : Bool := "!$&():=@[]{|}".toList.contains c

/-! ### Lexemes -/

inductive LexemeKind where
  | insignificant
  | comment
  | punctuator
  | spread
  | name
  | int
  | float
  | quotedString
  | blockString
  deriving Repr, BEq, DecidableEq, Inhabited

/-- A piece of a text, with the kind it was recognised as. -/
structure Lexeme where
  kind : LexemeKind
  text : List Char
  deriving Repr, BEq, Inhabited

/-- How many characters a quoted string takes from after its opening quote on, the closing quote
included.  It ends at the first quote that no backslash precedes, and before any line end. -/
def quotedLength? : List Char → Option Nat
  | [] => none
  | '"' :: _ => some 1
  | '\\' :: c :: rest => if isLineBreak c then none else (quotedLength? rest).map (· + 2)
  | c :: rest => if isLineBreak c then none else (quotedLength? rest).map (· + 1)

/-- How many characters a block string takes from after its opening quotes on, the closing quotes
included. -/
def blockLength? : List Char → Option Nat
  | '"' :: '"' :: '"' :: _ => some 3
  | '\\' :: '"' :: '"' :: '"' :: rest => (blockLength? rest).map (· + 4)
  | _ :: rest => (blockLength? rest).map (· + 1)
  | [] => none

/-- The length of the fraction at the start of a text: `0` if there is none, and no length if a
point is not followed by a digit. -/
def fractionLength? (text : List Char) : Option Nat :=
  match text with
  | '.' :: rest =>
    let digits := rest.takeWhile Char.isDigit
    if digits.isEmpty then none else some (digits.length + 1)
  | _ => some 0

/-- The length of the exponent at the start of a text: `0` if there is none, and no length if it
has no digits. -/
def exponentLength? (text : List Char) : Option Nat :=
  match text with
  | e :: rest =>
    if e = 'e' || e = 'E' then
      let sign := match rest with
        | s :: _ => if s = '+' || s = '-' then 1 else 0
        | [] => 0
      let digits := (rest.drop sign).takeWhile Char.isDigit
      if digits.isEmpty then none else some (1 + sign + digits.length)
    else some 0
  | [] => some 0

/-- The length and kind of the number at the start of a text.  The whole part is `0` or starts with
another digit, and neither a point nor the start of a name may follow a number. -/
def numberLength? (text : List Char) : Option (LexemeKind × Nat) := do
  let sign := if text.head? = some '-' then 1 else 0
  let whole := (text.drop sign).takeWhile Char.isDigit
  if whole.isEmpty || (whole.head? = some '0' && whole.length > 1) then none
  let integer := sign + whole.length
  let fraction ← fractionLength? (text.drop integer)
  let exponent ← exponentLength? (text.drop (integer + fraction))
  let length := integer + fraction + exponent
  match text[length]? with
  | some c => if c = '.' || isNameStart c then none
  | none => pure ()
  return (if length = integer then .int else .float, length)

/-- The kind and length of the lexeme at the start of a text. -/
def lexemeLength? : List Char → Option (LexemeKind × Nat)
  | [] => none
  | '"' :: '"' :: '"' :: rest => (blockLength? rest).map (.blockString, · + 3)
  | '"' :: rest => (quotedLength? rest).map (.quotedString, · + 1)
  | '.' :: '.' :: '.' :: _ => some (.spread, 3)
  | '#' :: rest => some (.comment, 1 + (rest.takeWhile (!isLineBreak ·)).length)
  | c :: rest =>
    if isInsignificant c then some (.insignificant, 1 + (rest.takeWhile isInsignificant).length)
    else if isPunctuator c then some (.punctuator, 1)
    else if isNameStart c then some (.name, 1 + (rest.takeWhile isNameContinue).length)
    else if c = '-' || c.isDigit then numberLength? (c :: rest)
    else none

/-- The lexemes of a text, in order. -/
def lexemes? (text : List Char) : Option (List Lexeme) :=
  match text with
  | [] => some []
  | c :: rest =>
    match lexemeLength? (c :: rest) with
    | some (kind, n + 1) =>
      (lexemes? (rest.drop n)).map ({ kind := kind, text := c :: rest.take n } :: ·)
    | _ => none
termination_by text.length
decreasing_by simp only [List.length_cons, List.length_drop]; omega

/-! ### Lines -/

/-- The characters that end a line when lines are counted. -/
def isLineEnd (c : Char) : Bool :=
  c = '\n' || c = '\x0b' || c = '\x0c' || c = '\r' || c = '\u0085' || c = '\u2028' || c = '\u2029'

/-- The number of line ends in a text.  A carriage return and the line feed after it are one. -/
def lineEnds : List Char → Nat
  | [] => 0
  | '\r' :: '\n' :: rest => lineEnds rest + 1
  | c :: rest => lineEnds rest + if isLineEnd c then 1 else 0

/-! ### Tokens -/

/-- A token of the grammar.  A string is given by its value. -/
inductive Token where
  | punctuator (c : Char)
  | spread
  | name (text : String)
  | int (text : String)
  | float (text : String)
  | string (value : String)
  deriving Repr, BEq, DecidableEq, Inhabited

/-- A token, with the line it starts on. -/
structure PlacedToken where
  token : Token
  line : Nat
  deriving Repr, BEq, DecidableEq, Inhabited

/-- The token that a lexeme means, or nothing if it means none.  The outer option refuses a string
with an escape that stands for no character. -/
def Lexeme.token? (l : Lexeme) : Option (Option Token) :=
  match l.kind with
  | .insignificant | .comment => some none
  | .punctuator => some (l.text.head?.map .punctuator)
  | .spread => some (some .spread)
  | .name => some (some (.name (String.ofList l.text)))
  | .int => some (some (.int (String.ofList l.text)))
  | .float => some (some (.float (String.ofList l.text)))
  | .quotedString =>
    (StringValue.unescape? (l.text.drop 1).dropLast).map fun value =>
      some (.string (String.ofList value))
  | .blockString =>
    let raw := (l.text.drop 3).take (l.text.length - 6)
    some (some (.string (String.ofList (StringValue.blockValue raw))))

/-- The tokens of a list of lexemes, the first of which starts on the given line. -/
def tokensFrom? (line : Nat) : List Lexeme → Option (List PlacedToken)
  | [] => some []
  | l :: ls => do
    let token? ← l.token?
    let more ← tokensFrom? (line + lineEnds l.text) ls
    return match token? with
      | some token => { token := token, line := line } :: more
      | none => more

/-- The tokens of a text.  Lines are counted from one. -/
def tokens? (text : String) : Option (List PlacedToken) := do
  tokensFrom? 1 (← lexemes? text.toList)

end GraphqlClient
