import Annotations.Text.Reader

/-!
Numbers as written in TOML: whole numbers of 64 bits, and fractions, of which only the form counts.
-/
namespace Annotations.Document.Toml
open Reader

/-- Digits with or without a single underscore in front of each, as far as they go, and what follows. -/
def groupTail (base : Nat) : List Char → List Char × List Char
  | '_' :: c :: rest =>
    if Text.isDigit base c then
      let (digits, left) := groupTail base rest
      (c :: digits, left)
    else ([], '_' :: c :: rest)
  | c :: rest =>
    if Text.isDigit base c then
      let (digits, left) := groupTail base rest
      (c :: digits, left)
    else ([], c :: rest)
  | [] => ([], [])

/-- Digits between which single underscores may stand. -/
def grouped (base : Nat) : Reader (List Char) := do
  let first ← nextIf (Text.isDigit base)
  let digits ← fun rest => some (groupTail base rest)
  return first :: digits

/-- Whether a minus sign comes next; a sign is taken. -/
def sign : Reader Bool := do
  if ← skipIf ['-'] then return true
  let _ ← skipIf ['+']
  return false

/-- Decimal digits behind an optional sign. Behind a leading zero there are no more of them. -/
def decimal : Reader (Bool × List Char) := do
  let negative ← sign
  if ← skipIf ['0'] then return (negative, ['0'])
  return (negative, ← grouped 10)

def fits (number : Int) : Bool := Int64.minValue.toInt ≤ number && number ≤ Int64.maxValue.toInt

/-- A whole number of 64 bits: decimal, or without a sign in another base. -/
def whole : Reader Int := do
  let number ← value
  if fits number then return number else failure
where
  value : Reader Int := do
    if ← skipIf ['0', 'x'] then return Text.number 16 (← grouped 16)
    if ← skipIf ['0', 'o'] then return Text.number 8 (← grouped 8)
    if ← skipIf ['0', 'b'] then return Text.number 2 (← grouped 2)
    let (negative, digits) ← decimal
    let size := Text.number 10 digits
    return if negative then -size else size

/-- An exponent with its mark. -/
def exponent : Reader Int := do
  let _ ← nextIf fun c => c == 'e' || c == 'E'
  let negative ← sign
  let size := Text.number 10 (← grouped 10)
  return if negative then -size else size

/-- The least number that is too large for a double: half a unit above the largest one. -/
def tooLarge : Nat := (1 <<< 1024) - (1 <<< 970)

/-- Whether `digits · 10 ^ power` is too large for a double. Far from the limit, of 309 digits, the count
of digits decides. -/
def overflows (digits : Nat) (power : Int) : Bool :=
  let size := (Nat.toDigits 10 digits).length + power
  digits != 0 && (310 < size ||
    300 < size && tooLarge * Nat.pow 10 (-power).toNat ≤ digits * Nat.pow 10 power.toNat)

/-- A number with a point or an exponent or both. One that is too large is refused if it is positive. -/
def fraction : Reader Unit := do
  let (negative, before) ← decimal
  let (after, power) ←
    (do return ([], ← exponent))
    <|> (do
      skip '.'
      return (← grouped 10, (← maybe exponent).getD 0))
  if !negative && overflows (Text.number 10 (before ++ after)) (power - after.length) then failure

/-- An infinite number, or none. -/
def special : Reader Unit := do
  let _ ← sign
  skipAll ['i', 'n', 'f'] <|> skipAll ['n', 'a', 'n']

end Annotations.Document.Toml
