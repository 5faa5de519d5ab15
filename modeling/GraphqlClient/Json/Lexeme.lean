import GraphqlClient.Json.Fault

/-!
# Lexemes of JSON texts

Words, numbers and strings are read from the front of a text, and what follows them is handed back.
Numbers and strings have two readings: one passes over the lexeme and only finds its end, the other
also finds its value, which a number out of range or a string with half a surrogate pair lacks.
-/

namespace GraphqlClient.Json

/-! ### Faults at the front of a text -/

/-- A fault that lies before `rest`. -/
def SyntaxError.before (error : SyntaxError) (rest : Bytes) : Fault :=
  { problem := .notJson error, rest := rest }

/-- A fault with the first byte of `rest`, which is counted in. -/
def SyntaxError.with (error : SyntaxError) (rest : Bytes) : Fault :=
  { problem := .notJson error, rest := rest.drop 1 }

/-! ### Blanks and words -/

def isBlank (b : UInt8) : Bool :=
  b = octet ' ' || b = octet '\n' || b = octet '\t' || b = octet '\r'

def skipBlanks (text : Bytes) : Bytes := text.dropWhile isBlank

/-- What follows the letters of a word. -/
def word : List Char → Bytes → Except Fault Bytes
  | [], rest => .ok rest
  | _ :: _, [] => .error (SyntaxError.endOfValue.before [])
  | c :: letters, b :: rest =>
    if b = octet c then word letters rest else .error (SyntaxError.expectedWord.before rest)

/-! ### Numbers -/

def isDigit (b : UInt8) : Bool := octet '0' ≤ b && b ≤ octet '9'

/-- The number that digits write. -/
def digitsValue (digits : Bytes) : Nat :=
  digits.foldl (fun n b => 10 * n + (b.toNat - (octet '0').toNat)) 0

/-- The exponent of a number: its sign and digits. -/
structure Exponent where
  negative : Bool
  digits : Bytes

/-- The parts of a number as it is written. -/
structure NumberText where
  negative : Bool
  whole : Bytes
  fraction : Bytes
  exponent? : Option Exponent

/-- One or more digits, and what follows them.  Where there are none, the outcome is what stands
there instead. -/
def digits? (text : Bytes) : Except Bytes (Bytes × Bytes) :=
  match text.takeWhile isDigit with
  | [] => .error text
  | digits => .ok (digits, text.dropWhile isDigit)

/-- The digits before the point.  A zero comes alone. -/
def whole? (text : Bytes) : Except Bytes (Bytes × Bytes) := do
  let (digits, rest) ← digits? text
  if digits.head? = some (octet '0') && 1 < digits.length then .error (text.drop 1)
  else return (digits, rest)

/-- The digits after the point, if there is one. -/
def fraction? (text : Bytes) : Except Bytes (Bytes × Bytes) :=
  match text with
  | b :: rest => if b = octet '.' then digits? rest else .ok ([], text)
  | [] => .ok ([], text)

def exponent? (text : Bytes) : Except Bytes (Option Exponent × Bytes) :=
  match text with
  | e :: rest =>
    if e = octet 'e' || e = octet 'E' then do
      let sign? := rest.head?.filter fun b => b = octet '+' || b = octet '-'
      let (digits, rest) ← digits? (if sign?.isSome then rest.drop 1 else rest)
      return (some { negative := sign? = some (octet '-'), digits := digits }, rest)
    else .ok (none, text)
  | [] => .ok (none, text)

/-- The parts of a number, and what follows it.  If a digit is missing, the outcome is what stands
in its place. -/
def numberText? (text : Bytes) : Except Bytes (NumberText × Bytes) := do
  let negative := text.head? = some (octet '-')
  let (whole, rest) ← whole? (if negative then text.drop 1 else text)
  let (fraction, rest) ← fraction? rest
  let (exponent?, rest) ← exponent? rest
  return ({ negative, whole, fraction, exponent? }, rest)

/-- The greatest exponent that is looked at digit by digit. -/
def maxExponent : Nat := 2147483647

/-- How many of the digits of an exponent it takes to pass the greatest one, if they do. -/
def overlongExponent? (digits : Bytes) : Option Nat :=
  (List.range (digits.length + 1)).find? fun n => maxExponent < digitsValue (digits.take n)

namespace NumberText

/-- The integer that is written, if there is neither point nor exponent.  Zero with a sign is no
integer. -/
def integer? (n : NumberText) : Option Int :=
  if n.fraction.isEmpty && n.exponent?.isNone then
    let magnitude := digitsValue n.whole
    if n.negative then if magnitude = 0 then none else some (-magnitude) else some magnitude
  else none

/-- The number as a decimal one. -/
def decimal (n : NumberText) : Decimal where
  digits := digitsValue (n.whole ++ n.fraction)
  exponent :=
    (match n.exponent? with
      | none => 0
      | some e => if e.negative then -(digitsValue e.digits : Int) else digitsValue e.digits)
    - n.fraction.length

/-- The value of a number that `rest` follows.  Integers out of range are binary numbers, and a
number too large for these has no value; an exponent that is too large by itself is not read to its
end. -/
def value? (n : NumberText) (rest : Bytes) : Except Fault Number :=
  match n.integer?.bind Number.ofInt? with
  | some integer => .ok integer
  | none =>
    match n.decimal.toBinary64? n.negative with
    | some value => .ok (.real value)
    | none =>
      let place := match n.exponent? with
        | none => rest
        | some e =>
          match overlongExponent? e.digits with
          | none => rest
          | some count => e.digits.drop count ++ rest
      .error (SyntaxError.numberOutOfRange.before place)

end NumberText

/-- A number, and what follows it. -/
def readNumber (text : Bytes) : Except Fault (Number × Bytes) :=
  match numberText? text with
  | .error [] => .error (SyntaxError.endOfValue.before [])
  | .error rest => .error (SyntaxError.invalidNumber.with rest)
  | .ok (n, rest) => do return (← n.value? rest, rest)

/-- What follows a number. -/
def skipNumber (text : Bytes) : Except Fault Bytes :=
  match numberText? text with
  | .error rest => .error (SyntaxError.invalidNumber.with rest)
  | .ok (_, rest) => .ok rest

/-! ### Strings -/

/-- The character that an escape of one letter stands for. -/
def escaped? (b : UInt8) : Option UInt8 :=
  if b = octet '"' || b = octet '\\' || b = octet '/' then some b
  else if b = octet 'b' then some 0x08
  else if b = octet 'f' then some 0x0C
  else if b = octet 'n' then some (octet '\n')
  else if b = octet 'r' then some (octet '\r')
  else if b = octet 't' then some (octet '\t')
  else none

/-- The number that four hexadecimal digits write. -/
def hexNumber? (digits : Bytes) : Option Nat :=
  CodePoint.hexNumber? (digits.map fun b => Char.ofNat b.toNat)

/-- The number that four hexadecimal digits at the front of a text write, and what follows. -/
def hexEscape (text : Bytes) : Except Fault (Nat × Bytes) :=
  if text.length < 4 then .error (SyntaxError.endOfString.before [])
  else
    match hexNumber? (text.take 4) with
    | some n => .ok (n, text.drop 4)
    | none => .error (SyntaxError.invalidEscape.before (text.drop 4))

/-- The bytes of the character with a code point. -/
def pointBytes (n : Nat) : Bytes := Utf8.encode (CodePoint.scalar? n).toList

/-- Takes the byte that writes `c`, where the second half of a surrogate pair has to come. -/
def takeForPair (c : Char) (text : Bytes) : Except Fault Bytes :=
  match text with
  | [] => .error (SyntaxError.endOfString.before [])
  | b :: rest =>
    if b = octet c then .ok rest else .error (SyntaxError.unfinishedSurrogatePair.with text)

/-- The bytes that an escape stands for whose `u` comes before `text`, and what follows it.  A code
point beyond U+FFFF takes two escapes. -/
def unicodeEscape (text : Bytes) : Except Fault (Bytes × Bytes) := do
  let (n, rest) ← hexEscape text
  if CodePoint.isLowSurrogate n then .error (SyntaxError.loneSurrogate.before rest)
  else if CodePoint.isHighSurrogate n then
    let (low, rest) ← hexEscape (← takeForPair 'u' (← takeForPair '\\' rest))
    if CodePoint.isLowSurrogate low then
      return (pointBytes (CodePoint.ofSurrogates n low), rest)
    else .error (SyntaxError.loneSurrogate.before rest)
  else return (pointBytes n, rest)

/-- The bytes that an escape stands for whose backslash comes before `text`, and what follows. -/
def readEscape (text : Bytes) : Except Fault (Bytes × Bytes) :=
  match text with
  | [] => .error (SyntaxError.endOfString.before [])
  | b :: rest =>
    if b = octet 'u' then unicodeEscape rest
    else
      match escaped? b with
      | some c => .ok ([c], rest)
      | none => .error (SyntaxError.invalidEscape.before rest)

/-- What follows an escape whose backslash comes before `text`. -/
def skipEscape (text : Bytes) : Except Fault Bytes :=
  match text with
  | [] => .error (SyntaxError.endOfString.before [])
  | b :: rest =>
    if b = octet 'u' then (hexEscape rest).map (·.2)
    else if (escaped? b).isSome then .ok rest
    else .error (SyntaxError.invalidEscape.before rest)

/-- The bytes of a string whose opening quote comes before `text`, and what follows the closing
one.  At most `fuel` characters and escapes are read. -/
def stringBytes (fuel : Nat) (text : Bytes) : Except Fault (Bytes × Bytes) :=
  match fuel, text with
  | 0, _ | _, [] => .error (SyntaxError.endOfString.before [])
  | fuel + 1, b :: rest =>
    if b = octet '"' then .ok ([], rest)
    else if b = octet '\\' then do
      let (bytes, rest) ← readEscape rest
      let (more, rest) ← stringBytes fuel rest
      return (bytes ++ more, rest)
    else if b < octet ' ' then .error (SyntaxError.controlCharacter.before rest)
    else do
      let (more, rest) ← stringBytes fuel rest
      return (b :: more, rest)

/-- A string whose opening quote comes before `text`, and what follows the closing one. -/
def readString (text : Bytes) : Except Fault (String × Bytes) := do
  let (bytes, rest) ← stringBytes text.length text
  match Utf8.decode? bytes with
  | some chars => return (String.ofList chars, rest)
  | none => .error (SyntaxError.notUnicode.before rest)

/-- What follows a string of which at most `fuel` characters and escapes are passed over. -/
def skipStringBytes (fuel : Nat) (text : Bytes) : Except Fault Bytes :=
  match fuel, text with
  | 0, _ | _, [] => .error (SyntaxError.endOfString.before [])
  | fuel + 1, b :: rest =>
    if b = octet '"' then .ok rest
    else if b = octet '\\' then do skipStringBytes fuel (← skipEscape rest)
    else if b < octet ' ' then .error (SyntaxError.controlCharacter.before text)
    else skipStringBytes fuel rest

/-- What follows the string whose opening quote comes before `text`. -/
def skipString (text : Bytes) : Except Fault Bytes := skipStringBytes text.length text

end GraphqlClient.Json
