import Annotations.SchemaDecl.Token
import Annotations.Text.Blank
import Annotations.Text.Reader
import Annotations.Text.Word

/-!
Texts read as tokens. White space and comments only part tokens, but a documenting comment stands for the
tag that holds it.
-/
namespace Annotations.SchemaDecl
open Reader

/-! ## Gaps -/

/-- White space, with the marks of a writing direction. -/
def isSpace (c : Char) : Bool := Text.isBlank c || c == '\u200e' || c == '\u200f'

/-- What follows a comment inside so many others. -/
def afterComment (depth : Nat) : List Char → Option (List Char)
  | '*' :: '/' :: rest => if depth = 0 then some rest else afterComment (depth - 1) rest
  | '/' :: '*' :: rest => afterComment (depth + 1) rest
  | _ :: rest => afterComment depth rest
  | [] => none

/-- Takes a comment up to the mark that closes it. -/
def comment : Reader (List Char) := fun chars => do
  let rest ← afterComment 0 (chars.drop 2)
  return (chars.take (chars.length - rest.length), rest)

def lineComment : Reader (List Char) := span (· != '\n')

/-- Whether a comment comes next that documents nothing. -/
def seesPlainComment : Reader Bool := fun rest =>
  some (match rest with
    | '/' :: '/' :: '/' :: '/' :: _ => true
    | '/' :: '/' :: '/' :: _ | '/' :: '/' :: '!' :: _ => false
    | '/' :: '/' :: _ => true
    | '/' :: '*' :: '*' :: '/' :: _ | '/' :: '*' :: '*' :: '*' :: _ => true
    | '/' :: '*' :: '*' :: _ | '/' :: '*' :: '!' :: _ => false
    | '/' :: '*' :: _ => true
    | _ => false, rest)

def anyComment : Reader (List Char) := do
  if ← sees ['/', '/'] then lineComment else comment

def gap : Nat → Reader Unit
  | 0 => failure
  | fuel + 1 => do
    let _ ← span isSpace
    if ← seesPlainComment then
      let _ ← anyComment
      gap fuel

/-- Whether a return stands without the line feed that has to follow it. -/
def hasBareReturn : List Char → Bool
  | '\r' :: '\n' :: rest => hasBareReturn rest
  | '\r' :: _ :: _ => true
  | _ :: rest => hasBareReturn rest
  | [] => false

/-- The tag that a documenting comment stands for; one of the surrounding item has a mark more. -/
def documentation : Reader (List Token) := do
  let written ← anyComment
  if hasBareReturn written then failure
  let outer := if written[2]? == some '!' then [.mark '!' false] else []
  let closing := if written[1]? == some '*' then 2 else 0
  let content := String.ofList ((written.drop 3).take (written.length - 3 - closing))
  return .mark '#' false :: outer ++
    [.group .brackets [.word "doc", .mark '=' false, .literal (.text content)]]

/-! ## Words -/

/-- A word without a raw mark. -/
def bareWord : Reader (List Char) := do
  let first ← nextIf Text.startsWord
  return first :: (← span Text.isWordChar)

/-- Words that name a place and cannot be made identifiers by a raw mark. -/
def placeWords : List String := ["_", "super", "self", "Self", "crate"]

def word : Reader String := do
  if ← skipIf ['r', '#'] then
    let text := String.ofList (← bareWord)
    if placeWords.contains text then failure else return "r#" ++ text
  else return String.ofList (← bareWord)

/-! ## Quoted literals -/

/-- A character by its code of one to six digits, in braces. -/
def bracedCode : Reader Char := do
  skip '\x7b'
  let written ← span1 fun c => Text.isDigit 16 c || c == '_'
  skip '\x7d'
  let digits := written.filter (· != '_')
  if written.head? == some '_' || 6 < digits.length then failure
  Text.char? (Text.number 16 digits)

/-- A character by a code of two digits. In texts it is of ASCII. -/
def shortCode (ascii : Bool) : Reader Char := do
  let high ← nextIf (Text.isDigit (if ascii then 8 else 16))
  let low ← nextIf (Text.isDigit 16)
  Text.char? (Text.number 16 [high, low])

/-- What follows a backslash, other than a line break. -/
def escape (ascii : Bool) : Reader Char := do
  match ← next with
  | 'n' => return '\n'
  | 'r' => return '\r'
  | 't' => return '\t'
  | '\\' => return '\\'
  | '0' => return '\x00'
  | '\x27' => return '\x27'
  | '"' => return '"'
  | 'x' => shortCode ascii
  | 'u' => bracedCode
  | _ => failure

/-- What follows an escaped line break and the gaps after it. -/
def afterFold : List Char → Option (List Char)
  | '\r' :: '\n' :: rest => afterFold rest
  | '\r' :: _ => none
  | c :: rest => if c == ' ' || c == '\t' || c == '\n' then afterFold rest else some (c :: rest)
  | [] => some []

/-- The rest of a quoted literal up to its closing quote. A line break is a line feed in it. -/
def quotedRest (ascii : Bool) : Nat → Reader (List Char)
  | 0 => failure
  | fuel + 1 => do
    match ← next with
    | '"' => return []
    | '\r' => do
      skip '\n'
      return '\n' :: (← quotedRest ascii fuel)
    | '\\' => do
      match ← peek with
      | some '\r' | some '\n' => do
        (fun rest => do return ((), ← afterFold rest))
        quotedRest ascii fuel
      | _ => do
        let c ← escape ascii
        return c :: (← quotedRest ascii fuel)
    | c => return c :: (← quotedRest ascii fuel)

/-- The rest of a raw literal up to a quote with its hash marks. -/
def rawRest (hashes : List Char) : Nat → Reader (List Char)
  | 0 => failure
  | fuel + 1 => do
    if ← skipIf ('"' :: hashes) then return []
    let c ← next
    return c :: (← rawRest hashes fuel)

/-- A raw literal after its letter. Line breaks stay as they are. -/
def raw (fuel : Nat) : Reader (List Char) := do
  let hashes ← span (· == '#')
  skip '"'
  let content ← rawRest hashes fuel
  if 255 < hashes.length || hasBareReturn (content ++ ['"']) then failure else return content

/-- A character between apostrophes. -/
def character (ascii : Bool) : Reader Unit := do
  skip '\x27'
  let _ ← if ← skipIf ['\\'] then escape ascii else next
  skip '\x27'

def lifetime : Reader Unit := do
  skip '\x27'
  let _ ← word
  if ← sees ['\x27'] then failure

/-! ## Numbers -/

def isDigitOrLow (c : Char) : Bool := Text.isDigit 10 c || c == '_'

/-- A word that follows a number at once. -/
def suffix : Reader (List Char) := do
  let written ← if (← peek).any Text.startsWord then bareWord else pure []
  if (← peek).any Text.isWordChar then failure else return written

/-- The point of a number with the digits behind it. Neither a point nor a word may follow it at once. -/
def fraction : Reader (List Char) := do
  skip '.'
  if (← peek).any fun c => c == '.' || Text.startsWord c then failure
  return '.' :: (← span isDigitOrLow)

def exponent : Reader (List Char) := do
  let letter ← nextIf fun c => c == 'e' || c == 'E'
  let low ← span (· == '_')
  let sign ← maybe (nextIf fun c => c == '+' || c == '-')
  let digits ← span isDigitOrLow
  if digits.any (Text.isDigit 10) then return letter :: low ++ sign.toList ++ digits else failure

/-- A number with a point or an exponent. -/
def decimal : Reader Literal := do
  let first ← nextIf (Text.isDigit 10)
  let whole := first :: (← span isDigitOrLow)
  let point ← if ← sees ['.'] then fraction else pure []
  let power := (← maybe exponent).getD []
  if point.isEmpty && power.isEmpty then failure
  return .decimal (whole ++ point ++ power ++ (← suffix))

def base : Reader Nat := do
  if ← skipIf ['0', 'x'] then return 16
  else if ← skipIf ['0', 'o'] then return 8
  else if ← skipIf ['0', 'b'] then return 2
  else return 10

/-- A whole number. Decimal digits that its base lacks are no suffix. -/
def integer : Reader Literal := do
  let base ← base
  if base == 10 && (← peek) == some '_' then failure
  let written ← span fun c => Text.isDigit base c || c == '_'
  let digits := written.filter (· != '_')
  if digits.isEmpty || (← peek).any (Text.isDigit 10) then failure
  return .integer (Text.number base digits) (!(← suffix).isEmpty)

/-! ## Literals -/

/-- A literal, if one comes next. It may have a word as its suffix. -/
def literalToken? (fuel : Nat) : Reader (Option Token) := do
  if ← skipIf ['"'] then
    let content ← quotedRest true fuel
    suffixed (.text (String.ofList content))
  else if ← seesAny ["r\"", "r#\"", "r##"] then
    skip 'r'
    let content ← raw fuel
    suffixed (.text (String.ofList content))
  else if ← skipAny ["b\"", "c\""] then
    let _ ← quotedRest false fuel
    suffixed .other
  else if ← seesAny ["br\"", "br#", "cr\"", "cr#"] then
    let _ ← count (fun _ => true) 2
    let _ ← raw fuel
    suffixed .other
  else if ← sees ['b', '\x27'] then
    skip 'b'
    character false
    suffixed .other
  else if ← sees ['\x27'] then
    match ← maybe (character true) with
    | some _ => suffixed .other
    | none => do
      lifetime
      return some .lifetime
  else if (← peek).any (Text.isDigit 10) then
    match ← maybe decimal with
    | some number => return some (.literal number)
    | none => return some (.literal (← integer))
  else return none
where
  suffixed (literal : Literal) : Reader (Option Token) := do
    let _ ← maybe bareWord
    return some (.literal literal)

/-! ## Marks -/

def marks : List Char := "~!@#$%^&*-=+|;:,<.>/?".toList

/-- Whether a mark or a lifetime comes next, and no comment. -/
def seesJoint : Reader Bool := do
  if ← seesAny ["//", "/*"] then return false
  else return (← peek).any fun c => c == '\x27' || marks.contains c

def mark : Reader Token := do
  let c ← nextIf marks.contains
  return .mark c (← seesJoint)

/-! ## All tokens -/

/-- The next token without delimiters or, for a documenting comment, those it stands for. -/
def plainTokens (fuel : Nat) : Reader (List Token) := do
  if ← seesAny ["//", "/*"] then documentation
  else match ← literalToken? fuel with
    | some token => return [token]
    | none => if (← peek).any Text.startsWord then return [.word (← word)] else return [← mark]

/-- What a character opens, with the character that closes it. -/
def opened? : Char → Option (Delimiter × Char)
  | '(' => some (.parentheses, ')')
  | '[' => some (.brackets, ']')
  | '\x7b' => some (.braces, '\x7d')
  | _ => none

/-- The tokens up to the end, or to a character that closes what is around them. -/
def tokens : Nat → Reader (List Token)
  | 0 => failure
  | fuel + 1 => do
    gap (fuel + 1)
    match ← peek with
    | none | some ')' | some ']' | some '\x7d' => return []
    | some c =>
      let first ← match opened? c with
        | some (delimiter, closing) => do
          skip c
          let content ← tokens fuel
          skip closing
          pure [.group delimiter content]
        | none => plainTokens fuel
      return first ++ (← tokens fuel)

/-- The tokens of a text. -/
def Token.ofText? (text : String) : Option (List Token) :=
  let chars := text.toList
  Reader.run? (tokens (chars.length + 1)) chars

end Annotations.SchemaDecl
