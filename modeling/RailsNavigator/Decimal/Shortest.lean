import RailsNavigator.Text.Blank

/-!
# Shortest decimals

The decimal with the fewest digits that reads back as a given double. On each grid of one, two, up
to seventeen significant digits the two neighbours of the value are tried; the first grid with a hit
wins, and of two hits the nearer one. All arithmetic is exact.
-/

namespace RailsNavigator.Decimal

/-- The number `digits · 10 ^ exponent`. -/
structure Scaled where
  digits : Nat
  exponent : Int
  deriving DecidableEq, Repr

/-- The double nearest to a decimal. -/
def Scaled.toFloat (decimal : Scaled) : Float :=
  Float.ofScientific decimal.digits (decimal.exponent < 0) decimal.exponent.natAbs

/-- A positive fraction. -/
structure Fraction where
  numerator : Nat
  denominator : Nat

/-- The bit of a mantissa that normal doubles leave out. -/
def hiddenBit : Nat := 0x10000000000000

/-- The bit that negative doubles have set. -/
def signBit : Nat := 0x8000000000000000

/-- The exact value of a finite double, its sign aside. -/
def fraction (value : Float) : Fraction :=
  let bits := value.toBits.toNat
  let exponent := bits / hiddenBit % 2048
  let mantissa := bits % hiddenBit
  let (mantissa, exponent) :=
    if exponent = 0 then (mantissa, 1) else (mantissa + hiddenBit, exponent)
  if exponent ≥ 1075 then ⟨mantissa <<< (exponent - 1075), 1⟩
  else ⟨mantissa, 1 <<< (1075 - exponent)⟩

/-- The fraction divided by a power of ten. -/
def Fraction.shift (value : Fraction) (exponent : Int) : Fraction :=
  if exponent ≥ 0 then { value with denominator := value.denominator * Nat.pow 10 exponent.natAbs }
  else { value with numerator := value.numerator * Nat.pow 10 exponent.natAbs }

/-- The exponent of the leading decimal digit of a positive fraction. -/
def Fraction.leading (value : Fraction) : Int :=
  if value.denominator ≤ value.numerator then
    (Nat.toDigits 10 (value.numerator / value.denominator)).length - 1
  else
    -- The fraction is below one: its first nonzero place is that of the reciprocal's last digit.
    let places := (Nat.toDigits 10 ((value.denominator - 1) / value.numerator)).length
    Int.negOfNat places

/-- The neighbour on the grid of `count` digits that reads back as `value`. -/
def neighbour? (value : Float) (exact : Fraction) (count : Nat) : Option Scaled :=
  let exponent := exact.leading - count + 1
  let place := exact.shift exponent
  let floor := place.numerator / place.denominator
  let twice := 2 * (place.numerator - floor * place.denominator)
  let low : Scaled := ⟨floor, exponent⟩
  let high : Scaled := ⟨floor + 1, exponent⟩
  let reads (decimal : Scaled) : Bool := decimal.toFloat.toBits == value.toBits
  let preferHigh := twice > place.denominator || (twice == place.denominator && floor % 2 == 1)
  if reads low && reads high then some (if preferHigh then high else low)
  else if reads low then some low
  else if reads high then some high
  else none

/-- The shortest decimal of a positive finite double. -/
def shortest (value : Float) : Scaled :=
  let exact := fraction value
  ((List.range 17).findSome? fun index => neighbour? value exact (index + 1)).getD ⟨0, 0⟩

/-- How a double is written: the exponents of the leading digit that are written positionally. -/
structure Format where
  lowest : Int
  highest : Int

/-- Positional from one ten-thousandth up to below ten to the sixteenth. -/
def Format.plain : Format := ⟨-4, 15⟩

/-- Digits with a point after the first `before` of them, and at least one digit on either side. -/
def positional (digits : List Char) (before : Int) : List Char :=
  if before ≤ 0 then
    '0' :: '.' :: List.replicate before.natAbs '0' ++ digits
  else
    let before := before.toNat
    let whole := digits.take before ++ List.replicate (before - digits.length) '0'
    let part := digits.drop before
    whole ++ '.' :: (if part.isEmpty then ['0'] else part)

/-- The mark of an exponent, which has a sign and two digits at least. -/
def exponentMark (exponent : Int) : List Char :=
  let digits := Nat.toDigits 10 exponent.natAbs
  let padded := if digits.length < 2 then '0' :: digits else digits
  'e' :: (if exponent < 0 then '-' else '+') :: padded

/-- Digits in scientific notation. -/
def scientific (digits : List Char) (exponent : Int) : List Char :=
  let mantissa := match digits with
    | first :: second :: rest => first :: '.' :: second :: rest
    | _ => digits
  mantissa ++ exponentMark exponent

/-- The text of a finite double. -/
def Format.write (format : Format) (value : Float) : List Char :=
  let negative := value.toBits.toNat ≥ signBit
  let magnitude := value.abs
  let body :=
    if magnitude == 0 then "0.0".toList
    else
      let decimal := shortest magnitude
      let digits := Nat.toDigits 10 decimal.digits
      let leading := decimal.exponent + digits.length - 1
      let digits := Text.trimEnd (· == '0') digits
      if format.lowest ≤ leading && leading ≤ format.highest then positional digits (leading + 1)
      else scientific digits leading
  if negative then '-' :: body else body

end RailsNavigator.Decimal
