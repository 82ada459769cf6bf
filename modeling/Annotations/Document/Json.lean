import Annotations.Document
import Annotations.Text.Reader

/-!
Documents in JSON. Repeated names stay in the document, for the sections to refuse.
-/
namespace Annotations.Document.Json
open Reader

def isBlank (c : Char) : Bool := c == ' ' || c == '\t' || c == '\n' || c == '\r'

def blanks : Reader Unit := do let _ ← span isBlank

/-- Four hexadecimal digits. -/
def codeUnit : Reader Nat := Text.number 16 <$> count (Text.isDigit 16) 4

/-- A character by its code units: one, or a surrogate pair. -/
def unicodeEscape : Reader Char := do
  let unit ← codeUnit
  if 0xd800 ≤ unit ∧ unit < 0xdc00 then
    skipAll ['\\', 'u']
    let low ← codeUnit
    if 0xdc00 ≤ low ∧ low < 0xe000 then
      Text.char? (0x10000 + (unit - 0xd800) * 0x400 + (low - 0xdc00))
    else failure
  else Text.char? unit

/-- What follows a backslash. -/
def escape : Reader Char := do
  match ← next with
  | '"' => return '"'
  | '\\' => return '\\'
  | '/' => return '/'
  | 'b' => return '\x08'
  | 'f' => return '\x0c'
  | 'n' => return '\n'
  | 'r' => return '\r'
  | 't' => return '\t'
  | 'u' => unicodeEscape
  | _ => failure

/-- The rest of a quoted text, in which no control character stands. -/
def quotedRest : Nat → Reader (List Char)
  | 0 => failure
  | fuel + 1 => do
    match ← next with
    | '"' => return []
    | '\\' => do
      let c ← escape
      return c :: (← quotedRest fuel)
    | c => if c.toNat < 0x20 then failure else return c :: (← quotedRest fuel)

def quoted (fuel : Nat) : Reader String := do
  skip '"'
  return String.ofList (← quotedRest fuel)

def digits : Reader (List Char) := span1 (Text.isDigit 10)

/-- Digits without a leading zero. -/
def plainDigits : Reader Nat := do
  if ← skipIf ['0'] then return 0
  return Text.number 10 (← digits)

/-- Whether a fraction or an exponent follows a whole number. -/
def tail : Reader Bool := do
  let fraction ← skipIf ['.']
  if fraction then
    let _ ← digits
  match ← peek with
  | some 'e' | some 'E' =>
    let _ ← next
    match ← peek with
    | some '+' | some '-' => let _ ← next
    | _ => pure ()
    let _ ← digits
    return true
  | _ => return fraction

/-- A number; minus zero is a fraction. -/
def number : Reader Document := do
  let negative ← skipIf ['-']
  let size ← plainDigits
  if (← tail) || (negative && size == 0) then return .otherScalar
  return .whole (if negative then -size else size)

mutual

def value : Nat → Reader Document
  | 0 => failure
  | fuel + 1 => do
    match ← peek with
    | some '"' => return .text (← quoted fuel)
    | some '[' =>
      skip '['
      blanks
      if ← skipIf [']'] then return .list []
      return .list (← items fuel)
    | some '\x7b' =>
      skip '\x7b'
      blanks
      if ← skipIf ['\x7d'] then return .table []
      return .table (← entries fuel)
    | some 't' =>
      skipAll "true".toList
      return .boolean true
    | some 'f' =>
      skipAll "false".toList
      return .boolean false
    | some 'n' =>
      skipAll "null".toList
      return .null
    | _ => number

/-- At least one item, up to the closing bracket. -/
def items : Nat → Reader (List Document)
  | 0 => failure
  | fuel + 1 => do
    blanks
    let item ← value fuel
    blanks
    if ← skipIf [','] then return item :: (← items fuel)
    skip ']'
    return [item]

/-- At least one entry, up to the closing brace. -/
def entries : Nat → Reader (List (String × Document))
  | 0 => failure
  | fuel + 1 => do
    blanks
    let name ← quoted fuel
    blanks
    skip ':'
    blanks
    let item ← value fuel
    blanks
    if ← skipIf [','] then return (name, item) :: (← entries fuel)
    skip '\x7d'
    return [(name, item)]

end

/-- The document that a text writes. -/
def ofText? (text : String) : Option Document :=
  let chars := text.toList
  Reader.run? (blanks *> value (2 * chars.length + 2) <* blanks) chars

end Annotations.Document.Json
