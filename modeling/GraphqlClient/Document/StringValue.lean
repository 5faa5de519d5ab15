import GraphqlClient.Text.CodePoint

/-!
# String values

What a string literal means: escapes in a quoted string, and the common indentation and blank
outer lines that a block string does not count.  Beside reading stand the two ways to write a text:
as a quoted string on one line, or as a block string where that can hold the text.
-/

namespace GraphqlClient.StringValue

/-! ### Reading quoted strings -/

/-- The character that a one-letter escape stands for. -/
def escaped? : Char → Option Char
  | '"' => some '"'
  | '\\' => some '\\'
  | '/' => some '/'
  | 'b' => some '\x08'
  | 'f' => some '\x0c'
  | 'n' => some '\n'
  | 'r' => some '\r'
  | 't' => some '\t'
  | _ => none

/-- The text that stands between the quotes of a quoted string, its escapes resolved.  An escape
that stands for no character is refused. -/
def unescape? : List Char → Option (List Char)
  | [] => some []
  | '\\' :: 'u' :: '{' :: rest =>
    let digits := rest.takeWhile (· ≠ '}')
    if digits.isEmpty || digits.length = rest.length then none
    else do
      let c ← CodePoint.scalar? (← CodePoint.hexNumber? digits)
      return c :: (← unescape? (rest.drop (digits.length + 1)))
  | '\\' :: 'u' :: a :: b :: c :: d :: rest => do
    let n ← CodePoint.hexNumber? [a, b, c, d]
    if CodePoint.isHighSurrogate n then
      match rest with
      | '\\' :: 'u' :: e :: f :: g :: h :: rest => do
        let low ← CodePoint.hexNumber? [e, f, g, h]
        if CodePoint.isLowSurrogate low then
          return (← CodePoint.scalar? (CodePoint.ofSurrogates n low)) :: (← unescape? rest)
        else none
      | _ => none
    else
      return (← CodePoint.scalar? n) :: (← unescape? rest)
  | '\\' :: c :: rest => do return (← escaped? c) :: (← unescape? rest)
  | c :: rest => do return c :: (← unescape? rest)
termination_by text => text.length

/-! ### Reading block strings

Indentation counts blanks only.  The first line is not indented, so it neither counts towards the
common indentation nor loses it. -/

/-- The characters that indent a line. -/
def isBlank (c : Char) : Bool := c = ' ' || c = '\t'

/-- The lines of a text.  A carriage return, a line feed, or both in that order end a line. -/
def lines : List Char → List (List Char)
  | [] => [[]]
  | '\r' :: '\n' :: rest => [] :: lines rest
  | '\r' :: rest => [] :: lines rest
  | '\n' :: rest => [] :: lines rest
  | c :: rest =>
    match lines rest with
    | [] => [[c]]
    | line :: more => (c :: line) :: more

/-- How far a line is indented, if it holds anything but blanks. -/
def indent? (line : List Char) : Option Nat :=
  let indent := (line.takeWhile isBlank).length
  if indent < line.length then some indent else none

/-- The indentation that all lines share, blank lines apart. -/
def commonIndent (lines : List (List Char)) : Nat := ((lines.filterMap indent?).min?).getD 0

/-- The text with each escaped triple quote replaced by a triple quote. -/
def unescapeTripleQuotes : List Char → List Char
  | '\\' :: '"' :: '"' :: '"' :: rest => '"' :: '"' :: '"' :: unescapeTripleQuotes rest
  | c :: rest => c :: unescapeTripleQuotes rest
  | [] => []

/-- Lines put together, each but the last ended by a line feed. -/
def joinLines (lines : List (List Char)) : List Char := List.intercalate ['\n'] lines

/-- The value of the text that stands between the quotes of a block string. -/
def blockValue (raw : List Char) : List Char :=
  let dedented := match lines raw with
    | [] => []
    | first :: more => first :: more.map (List.drop (commonIndent more))
  let isBlankLine (line : List Char) : Bool := line.all isBlank
  let trimmed := ((dedented.dropWhile isBlankLine).reverse.dropWhile isBlankLine).reverse
  joinLines (trimmed.map unescapeTripleQuotes)

/-! ### Writing -/

/-- How a character is written inside a quoted string.  A tab stays as it is. -/
def escape (c : Char) : List Char :=
  match c with
  | '"' => ['\\', '"']
  | '\\' => ['\\', '\\']
  | '\x08' => ['\\', 'b']
  | '\x0c' => ['\\', 'f']
  | '\n' => ['\\', 'n']
  | '\r' => ['\\', 'r']
  | '\t' => ['\t']
  | c =>
    if c < ' ' then
      ['\\', 'u', '0', '0', CodePoint.hexDigit 'A' (c.toNat / 16),
        CodePoint.hexDigit 'A' (c.toNat % 16)]
    else [c]

/-- The text as a quoted string. -/
def quoted (text : String) : String :=
  String.ofList ('"' :: text.toList.flatMap escape ++ ['"'])

/-- The text with each triple quote escaped, as a block string has to write it. -/
def escapeTripleQuotes : List Char → List Char
  | '"' :: '"' :: '"' :: rest => '\\' :: '"' :: '"' :: '"' :: escapeTripleQuotes rest
  | c :: rest => c :: escapeTripleQuotes rest
  | [] => []

/-- A block string puts its text on lines of its own if the text is long, has several lines, or
ends in a character that would merge with the closing quotes. -/
def needsOwnLines (text : String) : Bool :=
  text.utf8ByteSize > 70 || text.contains '\n' || text.endsWith '"' || text.endsWith '\\'

/-- What stands between the quotes of the block string of `text` whose further lines are indented
by `indent`.  Empty lines are not indented. -/
def blockBody (indent : String) (text : String) : String :=
  let escaped := escapeTripleQuotes text.toList
  if needsOwnLines text then
    let indented (line : List Char) : String :=
      if line.isEmpty then "\n" else "\n" ++ indent ++ String.ofList line
    String.join ((lines escaped).map indented) ++ "\n" ++ indent
  else String.ofList escaped

/-- Whether a block string can hold the text: it has no control character but tabs and line
feeds, and reads back as it is. -/
def fitsBlock (text : String) : Bool :=
  text.toList.all (fun c => ' ' ≤ c || c = '\t' || c = '\n') &&
    String.ofList (blockValue (blockBody "" text).toList) = text

/-- The text as a description: a block string if that can hold it, else a quoted string. -/
def description (indent : String) (text : String) : String :=
  if fitsBlock text then "\"\"\"" ++ blockBody indent text ++ "\"\"\"" else quoted text

end GraphqlClient.StringValue
