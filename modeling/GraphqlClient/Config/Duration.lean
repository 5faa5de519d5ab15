/-!
# Durations

Durations are written for people, as numbers with units that are added up: `1m 30s`, `2 hours`,
`1.5s`.  Blanks may stand anywhere but inside a unit.
-/

namespace GraphqlClient

/-- How many nanoseconds a second has. -/
abbrev nanosecondsPerSecond : Nat := 1000000000

/-- A span of time of less than 2^64 seconds. -/
structure Duration where
  nanoseconds : Nat
  inRange : nanoseconds < UInt64.size * nanosecondsPerSecond
  deriving DecidableEq

namespace Duration

/-- A number of seconds that is written in a program. -/
def ofSeconds (seconds : UInt32) : Duration where
  nanoseconds := seconds.toNat * nanosecondsPerSecond
  inRange := by have := seconds.toNat_lt; simp only [nanosecondsPerSecond, UInt64.size]; omega

/-- The whole seconds. -/
def seconds (d : Duration) : Nat := d.nanoseconds / nanosecondsPerSecond

/-- The nanoseconds beyond the whole seconds. -/
def subsecond (d : Duration) : Nat := d.nanoseconds % nanosecondsPerSecond

instance : Inhabited Duration := ⟨ofSeconds 0⟩

/-! ### Units -/

inductive TimeUnit where
  | nanosecond
  | microsecond
  | millisecond
  | second
  | minute
  | hour
  | day
  | week
  | month
  | year
  deriving Repr, BEq, DecidableEq

/-- The names of the units.  Case matters: `m` is a minute and `M` a month. -/
def TimeUnit.names : List (TimeUnit × List String) :=
  [(.nanosecond, ["nanos", "nsec", "ns"]),
   (.microsecond, ["usec", "us", "µs"]),
   (.millisecond, ["millis", "msec", "ms"]),
   (.second, ["seconds", "second", "secs", "sec", "s"]),
   (.minute, ["minutes", "minute", "min", "mins", "m"]),
   (.hour, ["hours", "hour", "hrs", "hr", "h"]),
   (.day, ["days", "day", "d"]),
   (.week, ["weeks", "week", "wk", "wks", "w"]),
   (.month, ["months", "month", "M"]),
   (.year, ["years", "year", "yr", "yrs", "y"])]

def TimeUnit.ofName? (name : String) : Option TimeUnit :=
  (names.find? fun (_, spellings) => spellings.contains name).map (·.1)

/-- How many seconds a unit of a second or more has.  A month is 30.44 days, and a year 365.25. -/
def TimeUnit.seconds : TimeUnit → Nat
  | .nanosecond | .microsecond | .millisecond => 0
  | .second => 1
  | .minute => 60
  | .hour => 3600
  | .day => 86400
  | .week => 604800
  | .month => 2630016
  | .year => 31557600

/-- How many nanoseconds a unit of less than a second has. -/
def TimeUnit.nanoseconds : TimeUnit → Nat
  | .nanosecond => 1
  | .microsecond => 1000
  | .millisecond => 1000000
  | _ => 0

/-- What a fraction of a unit is rounded down to: the nanoseconds of its unit up to minutes, and the
whole seconds of a longer one.  There is no fraction of a nanosecond. -/
inductive Grain where
  | none
  | nanoseconds (ofUnit : Nat)
  | seconds (ofUnit : Nat)

def TimeUnit.grain : TimeUnit → Grain
  | .nanosecond => .none
  | .microsecond => .nanoseconds 1000
  | .millisecond => .nanoseconds 1000000
  | .second => .nanoseconds 1000000000
  | .minute => .nanoseconds 60000000000
  | u => .seconds u.seconds

/-! ### Adding up

All numbers on the way have 64 bits, and a duration that needs a larger one is refused. -/

/-- The number, if it has 64 bits. -/
def word? (n : Nat) : Option Nat := if n < UInt64.size then some n else none

/-- Adds seconds and nanoseconds. -/
def add? (d : Duration) (seconds nanoseconds : Nat) : Option Duration := do
  let _ ← word? (d.subsecond + nanoseconds)
  let total := d.nanoseconds + seconds * nanosecondsPerSecond + nanoseconds
  if h : total < UInt64.size * nanosecondsPerSecond then some ⟨total, h⟩ else none

/-- A number with a unit.  `places?` is the fraction of the number: its digits as a number, and how
many there are. -/
structure Term where
  whole : Nat
  places? : Option (Nat × Nat)
  unit : TimeUnit
  deriving Repr

/-- Adds the whole units of a term, and then the fraction of one. -/
def addTerm? (d : Duration) (t : Term) : Option Duration := do
  let d ← d.add? (← word? (t.whole * t.unit.seconds)) (← word? (t.whole * t.unit.nanoseconds))
  match t.places?, t.unit.grain with
  | none, _ => return d
  | some _, .none => none
  | some (digits, count), .nanoseconds n => d.add? 0 ((← word? (digits * n)) / Nat.pow 10 count)
  | some (digits, count), .seconds n => d.add? ((← word? (digits * n)) / Nat.pow 10 count) 0

/-! ### Reading -/

/-- The blanks of all scripts. -/
def isBlank (c : Char) : Bool :=
  let n := c.toNat
  (0x09 ≤ n && n ≤ 0x0D) || n = 0x20 || n = 0x85 || n = 0xA0 || n = 0x1680 ||
    (0x2000 ≤ n && n ≤ 0x200A) || n = 0x2028 || n = 0x2029 || n = 0x202F || n = 0x205F ||
    n = 0x3000

def isDigitOrBlank (c : Char) : Bool := c.isDigit || isBlank c

def isUnitLetter (c : Char) : Bool := c.isAlpha || c = 'µ'

/-- The digits at the front of a text, without the blanks between and after them. -/
def leadingDigits (text : List Char) : List Char :=
  (text.takeWhile isDigitOrBlank).filter Char.isDigit

def digitsValue (digits : List Char) : Nat :=
  digits.foldl (fun n c => 10 * n + (c.toNat - '0'.toNat)) 0

/-- The fraction that a point at the front of a text starts.  It has one to nineteen digits. -/
def places? (text : List Char) : Option (Option (Nat × Nat)) :=
  match text with
  | '.' :: rest =>
    let digits := leadingDigits rest
    if digits.isEmpty || 19 < digits.length then none
    else some (some (digitsValue digits, digits.length))
  | _ => some none

/-- What follows the fraction, if there is one. -/
def afterPlaces (text : List Char) : List Char :=
  match text with
  | '.' :: rest => rest.dropWhile isDigitOrBlank
  | _ => text

/-- What may follow a unit: the end, a blank, or the next number. -/
def endsUnit (text : List Char) : Bool := text.head?.all isDigitOrBlank

/-- The terms of a text.  Each starts with a digit, and `fuel` bounds their number. -/
def terms? (fuel : Nat) (text : List Char) : Option (List Term) :=
  match fuel, text.dropWhile isBlank with
  | _, [] => some []
  | 0, _ => none
  | fuel + 1, text@(c :: _) => do
    if !c.isDigit then none
    let whole ← word? (digitsValue (leadingDigits text))
    let afterWhole := text.dropWhile isDigitOrBlank
    let places? ← places? afterWhole
    let afterNumber := afterPlaces afterWhole
    let unit ← TimeUnit.ofName? (String.ofList (afterNumber.takeWhile isUnitLetter))
    let rest := afterNumber.dropWhile isUnitLetter
    if !endsUnit rest then none
    return { whole := whole, places? := places?, unit := unit } :: (← terms? fuel rest)

/-- The duration that a text writes.  A zero needs no unit if it is the whole text. -/
def parse? (text : String) : Option Duration := do
  if text = "0" then return ofSeconds 0
  match ← terms? text.length text.toList with
  | [] => none
  | terms => terms.foldlM addTerm? (ofSeconds 0)

/-! ### Showing -/

/-- A number with the digits after its point, which are as many as `places` says but for zeros at
the end. -/
def decimalText (whole fraction places : Nat) : String :=
  let digits := Nat.toDigits 10 fraction
  let padded := List.replicate (places - digits.length) '0' ++ digits
  let kept := (padded.reverse.dropWhile (· = '0')).reverse
  if fraction = 0 then toString whole else toString whole ++ "." ++ String.ofList kept

/-- The duration in the largest unit up to a second of which there is a whole one. -/
def text (d : Duration) : String :=
  let s := d.subsecond
  if 0 < d.seconds then decimalText d.seconds s 9 ++ "s"
  else if 1000000 ≤ s then decimalText (s / 1000000) (s % 1000000) 6 ++ "ms"
  else if 1000 ≤ s then decimalText (s / 1000) (s % 1000) 3 ++ "µs"
  else toString s ++ "ns"

end Duration

end GraphqlClient
