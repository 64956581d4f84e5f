import ProviderCodegen.Json.Number
import ProviderCodegen.Text.Digits

/-! # What plain scalars spell

A plain scalar of a YAML text is a text that may also spell nothing, a truth value, a whole number
in four bases or a binary64 number. Digits after a leading zero spell no number.
-/

namespace ProviderCodegen.Datum

/-- The words for nothing; the empty scalar is none of them. -/
def spellsNull (text : String) : Bool :=
  text == "null" || text == "Null" || text == "NULL" || text == "~"

/-- The words for truth values, in three spellings each. -/
def spelledBool? (text : String) : Option Bool :=
  if text == "true" || text == "True" || text == "TRUE" then some true
  else if text == "false" || text == "False" || text == "FALSE" then some false
  else none

/-- A text without the given sign in front. -/
def dropSign (sign : Char) : List Char → List Char
  | c :: rest => if c = sign then rest else c :: rest
  | [] => []

def startsWithSign : List Char → Bool
  | c :: _ => c = '+' || c = '-'
  | [] => false

/-- A zero followed by one or more digits, with or without a sign: digits that spell no number. -/
def isZeroPadded (chars : List Char) : Bool :=
  let unsigned := match chars with
    | c :: rest => if c = '+' || c = '-' then rest else c :: rest
    | [] => []
  match unsigned with
  | '0' :: d :: rest => (d :: rest).all Char.isDigit
  | _ => false

/-- The value of a digit in bases up to sixteen. -/
def digitIn? (base : Nat) (c : Char) : Option Nat :=
  (Text.hexDigit? c).filter (· < base)

/-- The natural written by one or more digits of a base. -/
def naturalIn? (base : Nat) (chars : List Char) : Option Nat :=
  if chars.isEmpty then none
  else chars.foldlM (fun n c => (digitIn? base c).map (base * n + ·)) 0

/-- The natural that digits write, in base ten or after the mark of another base. -/
def markedNatural? (chars : List Char) : Option Nat :=
  match chars with
  | '0' :: 'x' :: rest => naturalIn? 16 rest
  | '0' :: 'o' :: rest => naturalIn? 8 rest
  | '0' :: 'b' :: rest => naturalIn? 2 rest
  | rest => if isZeroPadded rest then none else naturalIn? 10 rest

/-- The whole number that a scalar spells, of any magnitude. -/
def spelledInt? (text : String) : Option Int :=
  match text.toList with
  | '-' :: rest => (markedNatural? rest).map fun n => -(n : Int)
  | chars => (markedNatural? (dropSign '+' chars)).map fun n => (n : Int)

/-- Whether a number fits the given number of bits, one of them for the sign. -/
def fitsSigned (bits : Nat) (n : Int) : Bool :=
  let bound : Int := Nat.pow 2 (bits - 1)
  n < bound && -bound ≤ n

/-- Whether a number without sign fits the given number of bits. -/
def fitsUnsigned (bits : Nat) (n : Int) : Bool :=
  0 ≤ n && n < (Nat.pow 2 bits : Nat)

/-- Whether a number fits the given number of bits with or without a sign. -/
def fits (bits : Nat) (n : Int) : Bool :=
  fitsSigned bits n || fitsUnsigned bits n

/-- Decimal digits and the power of ten that scales them, correctly rounded. Beyond the range of
binary64 the answer is zero or infinity without computing the power. -/
def roundedDecimal (digits : List Nat) (exponent : Int) : Float :=
  let significand := Json.ofDigits digits
  let magnitude := exponent + digits.length
  if significand = 0 then 0
  else if magnitude < -400 then 0
  else if 400 + digits.length < magnitude then 1.0 / 0.0
  else Float.ofScientific significand (exponent < 0) exponent.natAbs

/-- A decimal with digits before or after the point and perhaps an exponent. -/
def decimal? (chars : List Char) : Option Float :=
  let (whole, rest) := Json.splitDigits chars
  let (fraction, rest) := match rest with
    | '.' :: rest => Json.splitDigits rest
    | rest => ([], rest)
  if whole.isEmpty && fraction.isEmpty then none
  else
    let exponent := match rest with
      | [] => some 0
      | c :: rest => if c = 'e' || c = 'E' then Json.exponent? rest else none
    exponent.map fun exponent => roundedDecimal (whole ++ fraction) (exponent - fraction.length)

/-- The binary64 number that a scalar spells; a decimal out of range spells none. -/
def spelledFloat? (text : String) : Option Float :=
  let chars := text.toList
  let unsigned := dropSign '+' chars
  if chars.head? = some '+' && startsWithSign unsigned then none
  else
    let word := String.ofList unsigned
    if word == ".inf" || word == ".Inf" || word == ".INF" then some (1.0 / 0.0)
    else if text == "-.inf" || text == "-.Inf" || text == "-.INF" then some (-1.0 / 0.0)
    else if text == ".nan" || text == ".NaN" || text == ".NAN" then some (0.0 / 0.0)
    else
      let magnitude := dropSign '-' unsigned
      let negative := unsigned.head? = some '-'
      ((decimal? magnitude).filter (!·.isInf)).map fun x => if negative then -x else x

/-- The value that a plain scalar spells when any value will do: the first of nothing, a truth
value, a whole number, a number and the text itself. Whole numbers beyond 64 bits, up to 128, have
no value; longer ones are numbers. -/
def ofPlain (text : String) : Datum :=
  if text.isEmpty || spellsNull text then .null
  else match spelledBool? text with
    | some value => .bool value
    | none =>
        match spelledInt? text with
        | some n =>
            if fits 64 n then .int n
            else if fits 128 n then .unreadable
            else ofNumber text
        | none => ofNumber text
where
  /-- A number, or the text itself. -/
  ofNumber (text : String) : Datum :=
    if isZeroPadded text.toList then .string text
    else match spelledFloat? text with
      | some x => .float x
      | none => .string text

end ProviderCodegen.Datum
