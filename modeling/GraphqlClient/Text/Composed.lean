import GraphqlClient.Text.CodePoint
import GraphqlClient.Text.Composed.Table

/-!
# Composed texts

A letter with marks can be written as one character or as several.  In its composed form a text has
marks in a fixed order, and as few characters as that allows.

Characters that stand for exactly one other are left as they are.
-/

namespace GraphqlClient.Composed

/-! ### Looking up -/

/-- The class that orders a mark.  A character of class zero is no mark, or stays where it is. -/
def markClass (c : Char) : Nat :=
  let n := c.toNat
  ((classRanges.find? fun (first, last, _) => first ≤ n && n ≤ last).map (·.2.2)).getD 0

/-- Whether a character belongs to the one before it. -/
def isMark (c : Char) : Bool :=
  let n := c.toNat
  markRanges.any fun (first, last) => first ≤ n && n ≤ last

/-- The syllable that a leading consonant and a vowel make, or such a syllable and a trailing
consonant. -/
def syllable? (a b : Nat) : Option Nat :=
  if 0x1100 ≤ a && a < 0x1113 && 0x1161 ≤ b && b < 0x1176 then
    some (0xAC00 + ((a - 0x1100) * 21 + (b - 0x1161)) * 28)
  else if 0xAC00 ≤ a && a < 0xD7A4 && (a - 0xAC00) % 28 = 0 && 0x11A8 ≤ b && b < 0x11C3 then
    some (a + (b - 0x11A7))
  else none

/-- The one character that two others make. -/
def pair? (a b : Char) : Option Char :=
  let (m, n) := (a.toNat, b.toNat)
  let point? := syllable? m n <|>
    (pairs.find? fun (first, second, _) => first = m && second = n).map (·.2.2)
  point?.bind CodePoint.scalar?

/-- A character that is made of two, as these two. -/
def parts (c : Char) : List Char :=
  match pairs.find? (·.2.2 = c.toNat) with
  | some (first, second, _) => [first, second].filterMap CodePoint.scalar?
  | none => [c]

/-! ### Taking apart -/

/-- The text with every character that is made of others taken apart.  No character takes more than
four steps. -/
def decompose (text : List Char) : List Char :=
  (List.range 4).foldl (fun text _ => text.flatMap parts) text

/-- Puts a character before a text in order.  A mark goes behind those of a lower class. -/
def place (c : Char) : List Char → List Char
  | [] => [c]
  | d :: rest =>
    if 0 < markClass d && markClass d < markClass c then d :: place c rest else c :: d :: rest

/-- The text with the marks after each letter in order. -/
def ordered (text : List Char) : List Char := text.foldr place []

/-! ### Putting together -/

/-- Puts characters in order together.  `letter?` is the last character that marks can join, and
`marks` are those after it that did not, the last one first. -/
def joined (letter? : Option Char) (marks : List Char) : List Char → List Char
  | [] => letter?.toList ++ marks.reverse
  | c :: rest =>
    -- A mark reaches the letter only past marks of lower classes.
    let free := marks.head?.all fun mark => markClass mark < markClass c
    match letter?.bind fun letter => if free then pair? letter c else none with
    | some made => joined (some made) marks rest
    | none =>
      if markClass c = 0 then letter?.toList ++ marks.reverse ++ joined (some c) [] rest
      else joined letter? (c :: marks) rest

/-- The composed form of a text.  The first 128 characters never combine with one another. -/
def compose (text : List Char) : List Char :=
  if text.all (· < '\x80') then text else joined none [] (ordered (decompose text))

end GraphqlClient.Composed
