import ProviderCodegen.Decimal.Shortest

/-! # Writing numbers

A layout fixes what the digits of a number leave open: from which magnitude on an exponent is
written, whether a whole number keeps a fraction, and the words for what is not finite. The two
layouts in use are `json`, for specifications written back, and `goSource`, for generated code.
-/

namespace ProviderCodegen.Decimal

/-- How the digits of a number are laid out. -/
structure Layout where
  /-- Whether a number whose decimal point is at this position is written without an exponent. -/
  positional : Int → Bool
  /-- What follows the digits of a whole number written without an exponent. -/
  wholeFraction : List Char
  nan : List Char
  infinity : List Char
  negativeInfinity : List Char

/-- Numbers from `10 ^ -5` to below `10 ^ 16` stand without an exponent, whole numbers keep `.0`,
and what is not finite has no number and is `null`. -/
def Layout.json : Layout where
  positional point := -5 < point && point ≤ 16
  wholeFraction := ['.', '0']
  nan := ['n', 'u', 'l', 'l']
  infinity := ['n', 'u', 'l', 'l']
  negativeInfinity := ['n', 'u', 'l', 'l']

/-- No number has an exponent, and whole numbers have no fraction. -/
def Layout.goSource : Layout where
  positional _ := true
  wholeFraction := []
  nan := ['N', 'a', 'N']
  infinity := ['i', 'n', 'f']
  negativeInfinity := ['-', 'i', 'n', 'f']

/-- Digits with the decimal point at its position. -/
def Layout.writePositional (layout : Layout) (digits : List Char) (point : Int) : List Char :=
  if point ≤ 0 then '0' :: '.' :: List.replicate (-point).toNat '0' ++ digits
  else if digits.length ≤ point.toNat then
    digits ++ List.replicate (point.toNat - digits.length) '0' ++ layout.wholeFraction
  else digits.take point.toNat ++ '.' :: digits.drop point.toNat

/-- Digits with the point after the first and the exponent with its sign. -/
def writeScientific (digits : List Char) (point : Int) : List Char :=
  let exponent := point - 1
  let fraction := if digits.length ≤ 1 then [] else '.' :: digits.drop 1
  let sign := if exponent < 0 then '-' else '+'
  digits.take 1 ++ fraction ++ 'e' :: sign :: Nat.toDigits 10 exponent.natAbs

/-- The magnitude of a finite number; zero is the digit `0` before the point. -/
def Layout.magnitude (layout : Layout) (x : Float) : List Char :=
  let (digits, point) := match shortest x with
    | some found => (Nat.toDigits 10 found.digits, found.point)
    | none => (['0'], 1)
  if layout.positional point then layout.writePositional digits point
  else writeScientific digits point

/-- A number as a layout writes it, with the sign of zero. -/
def Layout.write (layout : Layout) (x : Float) : String :=
  String.ofList <|
    if x.isNaN then layout.nan
    else if x.isInf then
      if isNegative x then layout.negativeInfinity else layout.infinity
    else if isNegative x then '-' :: layout.magnitude x
    else layout.magnitude x

end ProviderCodegen.Decimal
