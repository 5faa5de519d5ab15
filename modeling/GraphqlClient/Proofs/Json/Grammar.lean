import GraphqlClient.Json.Basic
import GraphqlClient.Number.Decimal
import GraphqlClient.Text.CodePoint
import Mathlib

/-!
# The grammar of JSON texts

Which texts write which values, character by character and without regard to how a text is read.  A
value is what the text says: the entries of an object stand as they are written, repeated keys
included.

The grammar of texts admits two things whose value is a matter of dialect.  An escape may be one
half of a surrogate pair without the other, which is no character; and zero may have a sign, which
no integer has.
-/

namespace GraphqlClient.Json

/-! ### Dialects -/

structure Dialect where
  /-- The character that one half of a surrogate pair stands for without the other, if it may stand
  alone. -/
  half? : Option Char
  /-- Whether zero with a sign is the integer zero. -/
  signedZero : Bool

/-- Every escape is a character or a pair that is one, and zero with a sign is a binary number. -/
def Dialect.strict : Dialect := { half? := none, signedZero := false }

/-- Whatever the grammar of texts admits has a value. -/
def Dialect.lenient : Dialect := { half? := some '\uFFFD', signedZero := true }

/-! ### Numbers -/

/-- The exponent of a number as it is written. -/
structure Power where
  mark : Char
  sign? : Option Char
  digits : List Char
  mark_eq : mark = 'e' ∨ mark = 'E'
  sign_eq : ∀ c ∈ sign?, c = '+' ∨ c = '-'
  digits_ne_nil : digits ≠ []
  isDigit_digits : ∀ c ∈ digits, c.isDigit = true

def Power.chars (p : Power) : List Char := p.mark :: (p.sign?.toList ++ p.digits)

def Power.value (p : Power) : Int :=
  if p.sign? = some '-' then -(Nat.ofDigitChars 10 p.digits 0 : Int)
  else Nat.ofDigitChars 10 p.digits 0

/-- A number as it is written: the digits before the point, those after it, and the exponent.  A
zero before the point comes alone. -/
structure Numeral where
  negative : Bool
  whole : List Char
  fraction : List Char
  power? : Option Power
  whole_ne_nil : whole ≠ []
  isDigit_whole : ∀ c ∈ whole, c.isDigit = true
  length_whole : whole.head? = some '0' → whole.length = 1
  isDigit_fraction : ∀ c ∈ fraction, c.isDigit = true

namespace Numeral

/-- The point, if digits follow it, and these digits. -/
def fractionChars (fraction : List Char) : List Char :=
  if fraction = [] then [] else '.' :: fraction

def chars (n : Numeral) : List Char :=
  (if n.negative then ['-'] else []) ++
    (n.whole ++ (fractionChars n.fraction ++ (n.power?.map Power.chars).getD []))

/-- The number as a decimal one, but for its sign. -/
def decimal (n : Numeral) : Decimal where
  digits := Nat.ofDigitChars 10 (n.whole ++ n.fraction) 0
  exponent := (n.power?.map Power.value).getD 0 - n.fraction.length

/-- Whether an integer is written: there is neither point nor exponent. -/
def IsInteger (d : Dialect) (n : Numeral) : Prop :=
  n.fraction = [] ∧ n.power? = none ∧
    (n.negative = true → Nat.ofDigitChars 10 n.whole 0 = 0 → d.signedZero = true)

/-- The integer that the digits before the point write. -/
def integer (n : Numeral) : Int :=
  if n.negative then -(Nat.ofDigitChars 10 n.whole 0 : Int) else Nat.ofDigitChars 10 n.whole 0

end Numeral

/-- A number is an integer if one is written that fits one of the two 64-bit ranges, and else the
nearest binary number.  Where there is no such number, the numeral has no value. -/
inductive SpellsNumber (d : Dialect) : Number → Numeral → Prop
  | integer {n : Numeral} {i : Int} (written : n.IsInteger d) (value : n.integer = i)
      (range : IsWord i) :
      SpellsNumber d (.integer i range) n
  | real {n : Numeral} {x : Binary64} (other : n.IsInteger d → ¬IsWord n.integer)
      (nearest : n.decimal.toBinary64? n.negative = some x) : SpellsNumber d (.real x) n

/-! ### Strings -/

/-- The letters of short escapes with what they stand for. -/
def shortEscapes : List (Char × Char) :=
  [('"', '"'), ('\\', '\\'), ('/', '/'), ('b', '\x08'), ('f', '\x0c'), ('n', '\n'),
    ('r', '\r'), ('t', '\t')]

/-- Four hexadecimal digits write a code point. -/
def SpellsPoint (point : Nat) (digits : List Char) : Prop :=
  digits.length = 4 ∧ CodePoint.hexNumber? digits = some point

/-- What stands after the backslash of an escape.  A character beyond U+FFFF takes a surrogate
pair. -/
inductive SpellsEscape (d : Dialect) : Char → List Char → Prop
  | short {letter c : Char} (escape : (letter, c) ∈ shortEscapes) : SpellsEscape d c [letter]
  | point {c : Char} {digits : List Char} (point : SpellsPoint c.toNat digits) :
      SpellsEscape d c ('u' :: digits)
  | pair {high low : Nat} {c : Char} {digits digits' : List Char} (first : SpellsPoint high digits)
      (second : SpellsPoint low digits') (isHigh : CodePoint.isHighSurrogate high = true)
      (isLow : CodePoint.isLowSurrogate low = true)
      (together : c.toNat = CodePoint.ofSurrogates high low) :
      SpellsEscape d c ('u' :: (digits ++ '\\' :: 'u' :: digits'))
  | half {n : Nat} {c : Char} {digits : List Char} (point : SpellsPoint n digits)
      (surrogate : CodePoint.isHighSurrogate n = true ∨ CodePoint.isLowSurrogate n = true)
      (alone : d.half? = some c) : SpellsEscape d c ('u' :: digits)

/-- The text between the quotes of a string. -/
inductive SpellsString (d : Dialect) : List Char → List Char → Prop
  | nil : SpellsString d [] []
  | plain {c : Char} {cs text : List Char} (printable : ' ' ≤ c) (quote : c ≠ '"')
      (backslash : c ≠ '\\') (more : SpellsString d cs text) : SpellsString d (c :: cs) (c :: text)
  | escape {c : Char} {escape cs text : List Char} (first : SpellsEscape d c escape)
      (more : SpellsString d cs text) : SpellsString d (c :: cs) ('\\' :: (escape ++ text))

/-! ### Values -/

def IsBlanks (text : List Char) : Prop := ∀ c ∈ text, c = ' ' ∨ c = '\n' ∨ c = '\t' ∨ c = '\r'

mutual

/-- The texts that write a value, without blanks around it. -/
inductive Spells (d : Dialect) : Json → List Char → Prop
  | nullWord : Spells d .null ['n', 'u', 'l', 'l']
  | trueWord : Spells d (.boolean true) ['t', 'r', 'u', 'e']
  | falseWord : Spells d (.boolean false) ['f', 'a', 'l', 's', 'e']
  | number {v : Number} {n : Numeral} (value : SpellsNumber d v n) : Spells d (.number v) n.chars
  | string {cs text : List Char} (chars : SpellsString d cs text) :
      Spells d (.string (String.ofList cs)) ('"' :: (text ++ ['"']))
  | emptyArray {blanks : List Char} (inside : IsBlanks blanks) :
      Spells d (.array []) ('[' :: (blanks ++ [']']))
  | array {items : List Json} {text : List Char} (inside : SpellsItems d items text) :
      Spells d (.array items) ('[' :: (text ++ [']']))
  | emptyObject {blanks : List Char} (inside : IsBlanks blanks) :
      Spells d (.object []) ('\x7b' :: (blanks ++ ['\x7d']))
  | object {entries : Entries Json} {text : List Char} (inside : SpellsMembers d entries text) :
      Spells d (.object entries) ('\x7b' :: (text ++ ['\x7d']))

/-- The texts that write a value, with blanks around it. -/
inductive SpellsElement (d : Dialect) : Json → List Char → Prop
  | padded {v : Json} {before text after : List Char} (left : IsBlanks before)
      (value : Spells d v text)
      (right : IsBlanks after) : SpellsElement d v (before ++ (text ++ after))

/-- The texts that write the items of an array, one or more, with commas between them. -/
inductive SpellsItems (d : Dialect) : List Json → List Char → Prop
  | one {v : Json} {text : List Char} (item : SpellsElement d v text) : SpellsItems d [v] text
  | more {v : Json} {items : List Json} {text others : List Char} (item : SpellsElement d v text)
      (rest : SpellsItems d items others) : SpellsItems d (v :: items) (text ++ ',' :: others)

/-- The texts that write an entry of an object. -/
inductive SpellsMember (d : Dialect) : String × Json → List Char → Prop
  | entry {cs : List Char} {v : Json} {before key between text : List Char} (left : IsBlanks before)
      (name : SpellsString d cs key) (right : IsBlanks between) (value : SpellsElement d v text) :
      SpellsMember d (String.ofList cs, v)
        (before ++ '"' :: (key ++ '"' :: (between ++ ':' :: text)))

/-- The texts that write the entries of an object, one or more, with commas between them. -/
inductive SpellsMembers (d : Dialect) : Entries Json → List Char → Prop
  | one {entry : String × Json} {text : List Char} (member : SpellsMember d entry text) :
      SpellsMembers d [entry] text
  | more {entry : String × Json} {entries : Entries Json} {text others : List Char}
      (member : SpellsMember d entry text) (rest : SpellsMembers d entries others) :
      SpellsMembers d (entry :: entries) (text ++ ',' :: others)

end

end GraphqlClient.Json
