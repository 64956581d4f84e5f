/-! # Shortest decimals

Every finite binary64 number is the only one near enough to some short decimal. `shortest` finds the
decimal with the fewest digits that reads back as the number, and of those the nearest to it. The
search works on exact naturals: a number is a fraction, and so are the ends of the interval of reals
that round to it.
-/

namespace ProviderCodegen.Decimal

/-- A positive decimal `0.d₁d₂… × 10 ^ point`, with the digits as one natural. -/
structure Digits where
  digits : Nat
  point : Int
deriving Repr, DecidableEq

/-- The reals that round to a number: the number and the two ends as numerators over one
denominator, and whether the ends belong. -/
structure Neighbourhood where
  value : Nat
  low : Nat
  high : Nat
  denominator : Nat
  closed : Bool
deriving Repr, DecidableEq

/-- The first bit of a significand, which is not stored; below it lie fifty-two others. -/
def hiddenBit : Nat := 0x10000000000000

/-- The neighbourhood of `significand * 2 ^ exponent`. Below a power of two the next number is only
half as far away; ends belong when the significand is even, because ties go to the even one. -/
def neighbourhood (significand : Nat) (exponent : Int) (lowest : Bool) : Neighbourhood :=
  let scale := Nat.pow 2 exponent.toNat
  let narrow := significand = hiddenBit && !lowest
  { value := 4 * significand * scale
    low := (4 * significand - (if narrow then 1 else 2)) * scale
    high := (4 * significand + 2) * scale
    denominator := 4 * Nat.pow 2 (-exponent).toNat
    closed := significand % 2 = 0 }

/-- Whether `digits * 10 ^ place` lies in the neighbourhood. -/
def Neighbourhood.contains (n : Neighbourhood) (digits : Nat) (place : Int) : Bool :=
  let candidate := digits * Nat.pow 10 place.toNat * n.denominator
  let scale := Nat.pow 10 (-place).toNat
  if n.closed then n.low * scale ≤ candidate && candidate ≤ n.high * scale
  else n.low * scale < candidate && candidate < n.high * scale

/-- The better of the two decimals around the number at one place, if one is near enough. -/
def Neighbourhood.atPlace (n : Neighbourhood) (place : Int) : Option Nat :=
  let numerator := n.value * Nat.pow 10 (-place).toNat
  let denominator := n.denominator * Nat.pow 10 place.toNat
  let below := numerator / denominator
  let above := below + 1
  let remainder := numerator % denominator
  let belowFirst := 2 * remainder < denominator || (2 * remainder = denominator && below % 2 = 0)
  let first := if belowFirst then below else above
  let second := if belowFirst then above else below
  if n.contains first place then some first
  else if n.contains second place then some second
  else none

/-- The number of digits of a natural; zero has one. -/
def digitCount (n : Nat) : Nat :=
  (Nat.toDigits 10 n).length

/-- A number below which no positive binary64 number lies is `10 ^ -360`. -/
def smallestPlace : Nat := 360

/-- The position of the decimal point: the number is at least `10 ^ (point - 1)` and below
`10 ^ point`. -/
def Neighbourhood.point (n : Neighbourhood) : Int :=
  (digitCount (n.value * Nat.pow 10 smallestPlace / n.denominator) : Int) - smallestPlace

/-- Try one digit more at a time, down from the place of the first digit. -/
def Neighbourhood.search (n : Neighbourhood) (place : Int) : Nat → Digits
  | 0 => ⟨(n.atPlace place).getD 0, n.point⟩
  | more + 1 =>
      match n.atPlace place with
      | some digits => ⟨digits, place + digitCount digits⟩
      | none => n.search (place - 1) more

/-- A natural without the zeros at its end. -/
def trimZeros : Nat → Nat → Nat
  | 0, n => n
  | fuel + 1, n => if n ≠ 0 && n % 10 = 0 then trimZeros fuel (n / 10) else n

/-- The shortest decimal of a positive number; seventeen digits always suffice. -/
def Neighbourhood.shortest (n : Neighbourhood) : Digits :=
  let found := n.search (n.point - 1) 17
  ⟨trimZeros (digitCount found.digits) found.digits, found.point⟩

/-- Whether the sign bit is set. -/
def isNegative (x : Float) : Bool :=
  x.toBits >>> 63 = 1

def exponentBits (x : Float) : Nat :=
  ((x.toBits >>> 52) &&& 0x7ff).toNat

def fractionBits (x : Float) : Nat :=
  (x.toBits &&& 0xfffffffffffff).toNat

/-- The shortest decimal of the magnitude of a finite number, `none` for zero. -/
def shortest (x : Float) : Option Digits :=
  let exponent := exponentBits x
  let significand := if exponent = 0 then fractionBits x else fractionBits x + hiddenBit
  if significand = 0 then none
  else some (neighbourhood significand (max exponent 1 - 1075 : Int) (exponent ≤ 1)).shortest

end ProviderCodegen.Decimal
