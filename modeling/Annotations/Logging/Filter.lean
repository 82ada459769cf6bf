import Annotations.Logging.Pattern.Reading
import Annotations.Text.Alphanumeric
import Annotations.Text.Blank
import Annotations.Text.Reader

/-!
Log filters: directives between commas. A directive is a level, a target, or a target or span with a
level after an equals sign; a span stands in brackets and may have a field in braces. A field is a name,
or a name with a value, which is a number or a pattern.
-/
namespace Annotations.Filter

inductive Fault where
  | directive
  | level
  /-- A value that is no pattern, or one that does not fit. -/
  | pattern
  /-- A pattern that asks for the edges of words of all scripts. -/
  | wideEdge
deriving DecidableEq, Repr

def Fault.message : Fault → String
  | .directive => "invalid filter directive"
  | .level =>
    "error parsing level filter: expected one of \"off\", \"error\", \"warn\", \"info\", " ++
      "\"debug\", \"trace\", or a number 0-5"
  | .pattern => "invalid field filter: error building NFA"
  | .wideEdge =>
    "invalid field filter: unsupported regex feature for DFAs: cannot build DFAs for regexes with " ++
      "Unicode word boundaries; switch to ASCII word boundaries, or heuristically enable Unicode " ++
      "word boundaries or use a different regex engine"

/-! ## Levels -/

def levelNames : List String := ["off", "error", "warn", "info", "debug", "trace"]

/-- A number up to five, with or without a plus sign and leading zeros. -/
def isLevelNumber (chars : List Char) : Bool :=
  let digits := if chars.head? = some '+' then chars.tail else chars
  !digits.isEmpty && digits.all (Text.isDigit 10) && Text.number 10 digits ≤ 5

/-- A level by name, in any case of its letters, or by number; no text at all stands for every level. -/
def isLevel (chars : List Char) : Bool :=
  chars.isEmpty || isLevelNumber chars || levelNames.contains (String.ofList chars).toLower

def checkLevel (chars : List Char) : Except Fault Unit :=
  if isLevel chars then .ok () else .error .level

/-! ## Fields -/

/-- A decimal number with or without a point, an exponent or a sign. -/
def decimal : Reader Unit := do
  let before ← Reader.span (Text.isDigit 10)
  let after ← if ← Reader.skipIf ['.'] then Reader.span (Text.isDigit 10) else pure []
  if before.isEmpty && after.isEmpty then failure
  if ← Reader.skipAny ["e", "E"] then
    let _ ← Reader.maybe (Reader.nextIf fun c => c == '+' || c == '-')
    let _ ← Reader.span1 (Text.isDigit 10)

/-- Whether a value is a number, and not to be taken as a pattern. -/
def isNumber (chars : List Char) : Bool :=
  let size := match chars with
    | '+' :: rest | '-' :: rest => rest
    | chars => chars
  ["inf", "infinity", "nan"].contains (String.ofList size).toLower || (Reader.run? decimal size).isSome

/-- Checks a value, which is a number or a pattern that can be used. -/
def checkValue (chars : List Char) : Except Fault Unit :=
  if isNumber chars then .ok ()
  else match (Pattern.ofText? chars).bind Pattern.course? with
    | some course => if course.wideEdge then .error .wideEdge else .ok ()
    | none => .error .pattern

/-- Checks a field. Its value stands between the first equals sign and the second. -/
def checkField (field : List Char) : Except Fault Unit :=
  if field.isEmpty then .error .directive
  else match field.splitOn '=' with
    | _ :: value :: _ => checkValue value
    | _ => .ok ()

/-! ## Directives -/

/-- What follows so many bytes of a text. -/
def dropBytes : Nat → List Char → List Char
  | 0, chars => chars
  | _, [] => []
  | size, c :: rest => dropBytes (size - c.utf8Size) rest

/-- The first so many bytes of a text. -/
def takeBytes : Nat → List Char → List Char
  | 0, _ => []
  | _, [] => []
  | size, c :: rest => c :: takeBytes (size - c.utf8Size) rest

/-- After the closing bracket of a span: nothing, or a level. -/
def afterSpan (written : List Char) (place : Nat) : List Char → Except Fault Unit
  | [] => .ok ()
  | '=' :: _ => checkLevel (dropBytes (place + 1) written)
  | _ => .error .directive

/-- Inside the braces of a span, which opened in front of `start`. -/
def inField (written : List Char) (start place : Nat) : List Char → Except Fault Unit
  | '\x7d' :: rest => do
    checkField (takeBytes (place - start) (dropBytes start written))
    match rest with
    | ']' :: rest => afterSpan written (place + 2) rest
    | _ => throw .directive
  | c :: rest => inField written start (place + c.utf8Size) rest
  | [] => .error .directive

/-- Inside the brackets of a span. -/
def inSpan (written : List Char) (place : Nat) : List Char → Except Fault Unit
  | ']' :: rest => afterSpan written (place + 1) rest
  | '\x7b' :: rest => inField written (place + 1) (place + 1) rest
  | c :: rest => inSpan written (place + c.utf8Size) rest
  | [] => .error .directive

/-- Inside a level or target, which are not told apart. -/
def inTarget (written : List Char) (place : Nat) : List Char → Except Fault Unit
  | '=' :: _ => checkLevel (dropBytes (place + 1) written)
  | '[' :: rest => inSpan written (place + 1) rest
  | c :: rest => inTarget written (place + c.utf8Size) rest
  | [] => .ok ()

def mayStart (c : Char) : Bool := c == '-' || c == ':' || c == '_' || Text.isAlphanumeric c

/-- Checks one directive. It is read without the white space around it, but its field and its level are
taken from the directive as written, at the places found in reading. -/
def checkDirective (written : List Char) : Except Fault Unit :=
  match Text.trim written with
  | '[' :: rest => inSpan written 1 rest
  | c :: rest => if mayStart c then inTarget written c.utf8Size rest else .error .directive
  | [] => .error .directive

/-- Splits a text at each comma. -/
def pieces (chars : List Char) : List (List Char) := chars.splitOn ','

/-- Checks all directives; empty ones do not count. -/
def check (text : String) : Except Fault Unit :=
  ((pieces text.toList).filter (!·.isEmpty)).forM checkDirective

end Annotations.Filter
