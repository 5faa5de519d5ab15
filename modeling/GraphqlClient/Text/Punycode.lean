import GraphqlClient.Text.CodePoint

/-!
# Punycode

Texts of any characters, written with ASCII letters and digits.  The ASCII characters come first;
the others follow in ascending order as numbers that say how far on each of them has to be put in.

A number is written with digits of base 36, the least significant first.  It ends with the first
digit below a threshold, which depends on the place of the digit and on a bias that follows the size
of the numbers before.
-/

namespace GraphqlClient.Punycode

/-! ### Digits -/

/-- The letter or digit for a number below 36. -/
def digit (n : Nat) : Char :=
  if n < 26 then Char.ofNat ('a'.toNat + n) else Char.ofNat ('0'.toNat + (n - 26))

def value? (c : Char) : Option Nat :=
  if 'a' ≤ c ∧ c ≤ 'z' then some (c.toNat - 'a'.toNat)
  else if 'A' ≤ c ∧ c ≤ 'Z' then some (c.toNat - 'A'.toNat)
  else if '0' ≤ c ∧ c ≤ '9' then some (c.toNat - '0'.toNat + 26)
  else none

/-- The threshold of the digit at a place, counted from one in steps of 36. -/
def threshold (bias place : Nat) : Nat := min 26 (max 1 (place - bias))

/-- A threshold is at least one. -/
theorem one_le_threshold (bias place : Nat) : 1 ≤ threshold bias place := by
  unfold threshold; omega

/-- Shrinks a number until it is at most 455, and counts the steps in 36s. -/
def shrink (delta : Nat) : Nat × Nat :=
  if 455 < delta then
    let (rest, steps) := shrink (delta / 35)
    (rest, steps + 36)
  else (delta, 0)
termination_by delta
decreasing_by omega

/-- The bias after a number, which is the first one or not, for the place of the given count. -/
def adapt (delta count : Nat) (isFirst : Bool) : Nat :=
  let scaled := if isFirst then delta / 700 else delta / 2
  let (rest, steps) := shrink (scaled + scaled / count)
  steps + 36 * rest / (rest + 38)

/-! ### Writing -/

/-- The digits of a number from a place on. -/
def digits (bias place n : Nat) : List Char :=
  let t := threshold bias place
  if n < t then [digit n]
  else digit (t + (n - t) % (36 - t)) :: digits bias (place + 36) ((n - t) / (36 - t))
termination_by n
decreasing_by
  have := one_le_threshold bias place
  have := Nat.div_le_self (n - threshold bias place) (36 - threshold bias place)
  omega

/-- How far writing has come. -/
structure Writing where
  /-- How far the next character has to be put on from the last one. -/
  delta : Nat
  bias : Nat
  /-- How many characters are written. -/
  count : Nat
  text : List Char

/-- Passes a character of the text, while those with one code point are written. -/
def Writing.pass (basic point : Nat) (w : Writing) (c : Char) : Writing :=
  if c.toNat < point then { w with delta := w.delta + 1 }
  else if c.toNat = point then
    { delta := 0
      bias := adapt w.delta (w.count + 1) (w.count = basic)
      count := w.count + 1
      text := w.text ++ digits w.bias 36 w.delta }
  else w

/-- Writes all characters with a code point of the list.  `next` is the first code point that is not
passed yet. -/
def Writing.write (text : List Char) (basic : Nat) (w : Writing) (next : Nat) :
    List Nat → Writing
  | [] => w
  | point :: points =>
    let w := { w with delta := w.delta + (point - next) * (w.count + 1) }
    let w := text.foldl (Writing.pass basic point) w
    Writing.write text basic { w with delta := w.delta + 1 } (point + 1) points

def encode (text : List Char) : List Char :=
  let basic := text.filter (· < '\x80')
  let points := ((text.filter (!· < '\x80')).map Char.toNat).mergeSort.eraseDups
  let start : Writing := { delta := 0, bias := 72, count := basic.length, text := [] }
  basic ++ (if basic.isEmpty then [] else ['-']) ++ (start.write text basic.length 128 points).text

/-! ### Reading -/

/-- Reads a number from a place on, and gives what follows it. -/
def number? (bias place weight : Nat) : List Char → Option (Nat × List Char)
  | [] => none
  | c :: rest => do
    let d ← value? c
    let t := threshold bias place
    if d < t then some (d * weight, rest)
    else
      let (n, rest) ← number? bias (place + 36) (weight * (36 - t)) rest
      return (d * weight + n, rest)

/-- Reading a number takes at least one digit. -/
theorem length_lt_of_number? {bias place weight n : Nat} {text rest : List Char}
    (h : number? bias place weight text = some (n, rest)) : rest.length < text.length := by
  induction text generalizing place weight n rest with
  | nil => simp [number?] at h
  | cons c text ih =>
    simp only [number?, Option.bind_eq_bind, Option.bind_eq_some_iff] at h
    obtain ⟨d, -, h⟩ := h
    split at h
    · simp only [Option.some.injEq, Prod.mk.injEq] at h
      simp [← h.2]
    · obtain ⟨⟨m, rest'⟩, hm, h⟩ := Option.bind_eq_some_iff.1 h
      simp only [Option.pure_def, Option.some.injEq, Prod.mk.injEq] at h
      have := ih hm
      rw [← h.2, List.length_cons]; omega

/-- Puts characters into a text, at the places that numbers say.  `point` is the code point of the
last one, and `place` is where the next could stand. -/
def insertAll? (bias point place : Nat) (text : List Char) (numbers : List Char) :
    Option (List Char) :=
  if numbers.isEmpty then some text
  else
    match h : number? bias 36 1 numbers with
    | none => none
    | some (delta, rest) => do
      let count := text.length + 1
      let onward := place + delta
      let here := onward % count
      let c ← CodePoint.scalar? (point + onward / count)
      insertAll? (adapt delta count (place = 0)) c.toNat (here + 1) (text.insertIdx here c) rest
termination_by numbers.length
decreasing_by exact length_lt_of_number? h

/-- The text that ASCII characters write.  The last hyphen ends the characters that stand for
themselves. -/
def decode? (text : List Char) : Option (List Char) :=
  let numbers := (text.reverse.takeWhile (· ≠ '-')).reverse
  let basic := (text.take (text.length - numbers.length)).dropLast
  if basic.all (· < '\x80') then insertAll? 72 128 0 basic numbers else none

end GraphqlClient.Punycode
