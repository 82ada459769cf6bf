/-!
The shortest decimal of a binary fraction: of all decimals inside the interval of reals that round
to it, one with the fewest digits, and of those the nearest.
-/
namespace Annotations.Decimal

/-- A positive binary fraction `mantissa * 2 ^ exponent` with its rounding interval. -/
structure Binary where
  mantissa : Nat
  exponent : Int
  /-- The gap below is half as wide, as it is just above a power of two. -/
  narrowBelow : Bool
deriving Repr, DecidableEq

namespace Binary

/-- `10 ^ power`. -/
private def tens (power : Int) : Nat := Nat.pow 10 power.toNat

/-- `n * 2 ^ e` over a common denominator. -/
private def scale (n : Nat) (e : Int) : Nat × Nat :=
  if 0 ≤ e then (n <<< e.toNat, 1) else (n, 1 <<< (-e).toNat)

/-- Four times the fraction and the ends of its interval, as numerators over one denominator. -/
def value (x : Binary) : Nat × Nat := scale (4 * x.mantissa) (x.exponent - 2)

def lower (x : Binary) : Nat × Nat :=
  scale (4 * x.mantissa - if x.narrowBelow then 1 else 2) (x.exponent - 2)

def upper (x : Binary) : Nat × Nat := scale (4 * x.mantissa + 2) (x.exponent - 2)

/-- `a / b ≤ c / d`, or `<` where `strict`. -/
private def below (strict : Bool) (p q : Nat × Nat) : Bool :=
  if strict then p.1 * q.2 < q.1 * p.2 else p.1 * q.2 ≤ q.1 * p.2

/-- Whether `digits * 10 ^ power` rounds to the fraction; the ends round to an even mantissa. -/
def covers (x : Binary) (digits : Nat) (power : Int) : Bool :=
  let point : Nat × Nat :=
    if 0 ≤ power then (digits * tens power, 1) else (digits, tens (-power))
  let strict := x.mantissa % 2 == 1
  below strict x.lower point && below strict point x.upper

/-- The whole number of `10 ^ power` in the fraction and whether the rest is below a half. -/
private def floorAt (x : Binary) (power : Int) : Nat × Bool :=
  let v := x.value
  let num := if 0 ≤ power then v.1 else v.1 * tens (-power)
  let den := if 0 ≤ power then v.2 * tens power else v.2
  (num / den, 2 * (num % den) < den)

/-- The nearer of the fraction's two neighbours on the grid of `10 ^ power` that rounds to it. -/
def pointAt (x : Binary) (power : Int) : Option Nat :=
  let (low, lowNearer) := x.floorAt power
  match x.covers low power, x.covers (low + 1) power with
  | true, true => some (if lowNearer then low else low + 1)
  | true, false => some low
  | false, true => some (low + 1)
  | false, false => none

/-- Tries ever finer grids, the coarsest first. -/
def search (x : Binary) : Nat → Int → Nat × Int
  | 0, power => (x.mantissa, power)
  | fuel + 1, power =>
    match x.pointAt power with
    | some digits => (digits, power)
    | none => search x fuel (power - 1)

/-- A power of ten above the fraction. -/
def startPower (x : Binary) : Int := ((Nat.log2 x.mantissa + 1 : Int) + x.exponent) * 30103 / 100000 + 1

/-- Digits and power of ten of the shortest decimal. -/
def shortest (x : Binary) : Nat × Int := x.search 24 x.startPower

end Binary

/-- The digits of a decimal without an exponent. -/
def positional (digits : Nat) (power : Int) : String :=
  let text := String.ofList (Nat.toDigits 10 digits)
  if 0 ≤ power then text ++ "".pushn '0' power.toNat
  else
    let places := (-power).toNat
    let padded := "".pushn '0' (places + 1 - text.length) ++ text
    let whole := padded.length - places
    String.ofList (padded.toList.take whole) ++ "." ++ String.ofList (padded.toList.drop whole)

/-- How many fractions share an exponent. -/
def fractions : Nat := 0x10000000000000

/-- The weight of the sign bit. -/
def signWeight : Nat := 0x8000000000000000

/-- A finite positive double, from the bits below its sign. -/
def Binary.ofBits (bits : Nat) : Binary :=
  let field : Nat := bits / fractions
  let low : Nat := bits % fractions
  if field = 0 then ⟨low, -1074, false⟩
  else ⟨fractions + low, Int.ofNat field - 1075, low == 0 && field != 1⟩

/-- A double as text: the shortest digits that read back, never an exponent. -/
def ofDouble (bits : UInt64) : String :=
  let negative := bits.toNat / signWeight = 1
  let rest := bits.toNat % signWeight
  let special := rest / fractions = 2047
  if special && rest % fractions ≠ 0 then "NaN"
  else
    let magnitude :=
      if special then "inf"
      else if rest = 0 then "0"
      else
        let (digits, power) := (Binary.ofBits rest).shortest
        positional digits power
    if negative then "-" ++ magnitude else magnitude

end Annotations.Decimal
