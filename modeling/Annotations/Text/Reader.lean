/-!
Readers of text: a reader takes characters from the front of what is left, or fails.
-/
namespace Annotations

abbrev Reader (α : Type) := StateT (List Char) Option α

namespace Reader

variable {α : Type}

/-- The next character, left where it is. -/
def peek : Reader (Option Char) := fun rest => some (rest.head?, rest)

/-- Whether the text goes on with some characters, which stay where they are. -/
def sees (wanted : List Char) : Reader Bool := fun rest => some (wanted.isPrefixOf rest, rest)

/-- Takes the next character. -/
def next : Reader Char
  | c :: rest => some (c, rest)
  | [] => none

/-- Takes the next character if a test holds for it. -/
def nextIf (test : Char → Bool) : Reader Char
  | c :: rest => if test c then some (c, rest) else none
  | [] => none

/-- Takes the given character. -/
def skip (c : Char) : Reader Unit := do let _ ← nextIf (· == c)

/-- Takes the given characters. -/
def skipAll (wanted : List Char) : Reader Unit := fun rest =>
  if wanted.isPrefixOf rest then some ((), rest.drop wanted.length) else none

/-- Takes the given characters if the text goes on with them. -/
def skipIf (wanted : List Char) : Reader Bool := fun rest =>
  if wanted.isPrefixOf rest then some (true, rest.drop wanted.length) else some (false, rest)

/-- Whether the text goes on with one of some texts, which stays where it is. -/
def seesAny (choices : List String) : Reader Bool := fun rest =>
  some (choices.any fun choice => choice.toList.isPrefixOf rest, rest)

/-- Takes the first of some texts that the text goes on with, if there is one. -/
def skipAny (choices : List String) : Reader Bool := fun rest =>
  match choices.find? fun choice => choice.toList.isPrefixOf rest with
  | some choice => some (true, rest.drop choice.length)
  | none => some (false, rest)

/-- Takes characters as long as a test holds. -/
def span (test : Char → Bool) : Reader (List Char) := fun rest =>
  some (rest.takeWhile test, rest.dropWhile test)

/-- Takes at least one character for which a test holds. -/
def span1 (test : Char → Bool) : Reader (List Char) := do
  let taken ← span test
  if taken.isEmpty then failure else return taken

/-- Takes a given number of characters for all of which a test holds. -/
def count (test : Char → Bool) : Nat → Reader (List Char)
  | 0 => return []
  | n + 1 => do
    let c ← nextIf test
    return c :: (← count test n)

/-- What a reader reads, if it does; if not, nothing is taken. -/
def maybe (reader : Reader α) : Reader (Option α) := (some <$> reader) <|> pure none

/-- Succeeds where nothing is left. -/
def done : Reader Unit
  | [] => some ((), [])
  | _ :: _ => none

/-- Reads a whole text. -/
def run? (reader : Reader α) (text : List Char) : Option α := do
  let (result, _) ← (reader <* done).run text
  return result

end Reader

namespace Text

/-- The value of a digit in a base up to sixteen. -/
def digit? (base : Nat) (c : Char) : Option Nat :=
  let value? :=
    if '0' ≤ c ∧ c ≤ '9' then some (c.toNat - '0'.toNat)
    else if 'a' ≤ c ∧ c ≤ 'f' then some (c.toNat - 'a'.toNat + 10)
    else if 'A' ≤ c ∧ c ≤ 'F' then some (c.toNat - 'A'.toNat + 10)
    else none
  value?.filter (· < base)

def isDigit (base : Nat) (c : Char) : Bool := (digit? base c).isSome

/-- The number that digits write; what is no digit counts as zero. -/
def number (base : Nat) (digits : List Char) : Nat :=
  digits.foldl (fun value c => value * base + (digit? base c).getD 0) 0

/-- The character of a scalar value; surrogates have none. -/
def char? (value : Nat) : Option Char := if h : value.isValidChar then some (Char.ofNatAux value h) else none

end Text
end Annotations
