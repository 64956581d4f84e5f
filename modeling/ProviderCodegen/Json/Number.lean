import ProviderCodegen.Datum.Basic

/-! # JSON numbers

`Numeral.ofChars?` reads the grammar of JSON numbers. `Numeral.toDatum` gives the value: whole
numbers that fit 64 bits stay whole, all others become binary64 numbers. The leading digits that fit
a 64-bit natural are taken as a whole number, which one multiplication or division by a power of ten
then scales. A number of too great a magnitude has no value.
-/

namespace ProviderCodegen.Json

/-- A number as it is written. -/
structure Numeral where
  negative : Bool
  whole : List Nat
  /-- The digits after the point, if there is one. -/
  fraction : Option (List Nat)
  exponent : Option Int
deriving Repr, DecidableEq

def digit? (c : Char) : Option Nat :=
  if c.isDigit then some (c.toNat - '0'.toNat) else none

def splitDigits : List Char → List Nat × List Char
  | [] => ([], [])
  | c :: rest =>
      match digit? c with
      | some d => let (digits, after) := splitDigits rest; (d :: digits, after)
      | none => ([], c :: rest)

/-- The natural that a list of digits writes. -/
def ofDigits (digits : List Nat) : Nat :=
  digits.foldl (fun n d => 10 * n + d) 0

/-- An exponent with its sign and at least one digit, and nothing after it. -/
def exponent? (chars : List Char) : Option Int :=
  let (negative, rest) := match chars with
    | '+' :: rest => (false, rest)
    | '-' :: rest => (true, rest)
    | rest => (false, rest)
  match splitDigits rest with
  | ([], _) => none
  | (digits, []) => some (if negative then -(ofDigits digits : Int) else ofDigits digits)
  | (_, _ :: _) => none

/-- The part after the whole digits: a fraction, an exponent, both or nothing. -/
def tail? (chars : List Char) : Option (Option (List Nat) × Option Int) :=
  let (fraction, rest) := match chars with
    | '.' :: rest => let (digits, after) := splitDigits rest; (some digits, after)
    | rest => (none, rest)
  if fraction = some [] then none
  else match rest with
    | [] => some (fraction, none)
    | c :: rest =>
        if c = 'e' || c = 'E' then (exponent? rest).map fun exponent => (fraction, some exponent)
        else none

/-- Read a number that takes up the whole text. A zero starts no longer number. -/
def Numeral.ofChars? (chars : List Char) : Option Numeral :=
  let (negative, rest) := match chars with
    | '-' :: rest => (true, rest)
    | rest => (false, rest)
  match splitDigits rest with
  | ([], _) => none
  | (0 :: _ :: _, _) => none
  | (whole, rest) => (tail? rest).map fun (fraction, exponent) =>
      { negative, whole, fraction, exponent }

def wordMax : Nat := 0xffffffffffffffff

/-- The greatest magnitude of a negative 64-bit number. -/
def negativeMax : Nat := 0x8000000000000000

/-- Take digits while the number stays in 64 bits; the second part counts those taken. -/
def takeDigits (n : Nat) : List Nat → Nat × Nat
  | [] => (n, 0)
  | d :: rest =>
      if wordMax < 10 * n + d then (n, 0)
      else let (m, taken) := takeDigits (10 * n + d) rest; (m, taken + 1)

/-- The power of ten nearest to a binary64 number. -/
def powerOfTen (exponent : Nat) : Float :=
  Float.ofScientific 1 false exponent

/-- Divide by `10 ^ 308` until what is left of the exponent is a power of ten in range. Three times
bring any number down to zero. -/
def scaleDown (x : Float) (exponent : Nat) : Nat → Float
  | 0 => 0
  | more + 1 =>
      if exponent ≤ 308 then x / powerOfTen exponent
      else if x == 0 then x
      else scaleDown (x / powerOfTen 308) (exponent - 308) more

/-- A 64-bit natural times a power of ten, `none` when that is out of range. -/
def scale? (significand : Nat) (exponent : Int) : Option Float :=
  let x := Float.ofNat significand
  if exponent < 0 then some (scaleDown x exponent.natAbs 4)
  else if significand = 0 then some x
  else if 308 < exponent then none
  else
    let y := x * powerOfTen exponent.toNat
    if y.isInf then none else some y

def Numeral.toFloat? (numeral : Numeral) : Option Float :=
  let (leading, taken) := takeDigits 0 numeral.whole
  let (significand, places) := takeDigits leading (numeral.fraction.getD [])
  let exponent := numeral.exponent.getD 0 + (numeral.whole.length - taken : Nat) - places
  (scale? significand exponent).map fun x => if numeral.negative then -x else x

/-- The value of a number: whole when it is written whole and fits 64 bits, with or without a sign.
Minus zero is no whole number. -/
def Numeral.toDatum (numeral : Numeral) : Datum :=
  let whole := ofDigits numeral.whole
  let isWhole := numeral.fraction.isNone && numeral.exponent.isNone
  if isWhole && !numeral.negative && whole ≤ wordMax then .int whole
  else if isWhole && numeral.negative && whole ≠ 0 && whole ≤ negativeMax then .int (-(whole : Int))
  else match numeral.toFloat? with
    | some x => .float x
    | none => .unreadable

end ProviderCodegen.Json
