/-!
The tokens of type definitions. What stands between delimiters is one token.
-/
namespace Annotations.SchemaDecl

inductive Delimiter where
  | parentheses
  | brackets
  | braces
deriving DecidableEq, Repr

inductive Literal where
  | text (content : String)
  /-- A whole number, and whether a word follows it as its suffix. -/
  | integer (value : Nat) (suffixed : Bool)
  /-- A number with a point or an exponent, as written. -/
  | decimal (written : List Char)
  | other
deriving DecidableEq, Repr

inductive Token where
  /-- An identifier or keyword. -/
  | word (text : String)
  | lifetime
  | literal (literal : Literal)
  /-- A mark may be joined to the mark behind it. -/
  | mark (c : Char) (joined : Bool)
  | group (delimiter : Delimiter) (content : List Token)
deriving Repr

mutual

/-- The number of tokens in a token, itself included. -/
def Token.size : Token → Nat
  | .group _ content => sizeOfAll content + 1
  | _ => 1

def sizeOfAll : List Token → Nat
  | [] => 0
  | first :: rest => first.size + sizeOfAll rest

end

/-! ## What comes next -/

def keywords : List String :=
  ["_", "abstract", "as", "async", "await", "become", "box", "break", "const", "continue", "crate",
    "do", "dyn", "else", "enum", "extern", "false", "final", "fn", "for", "if", "impl", "in", "let",
    "loop", "macro", "match", "mod", "move", "mut", "override", "priv", "pub", "ref", "return",
    "Self", "self", "static", "struct", "super", "trait", "true", "try", "type", "typeof", "unsafe",
    "unsized", "use", "virtual", "where", "while", "yield"]

/-- Whether a given word comes next. -/
def seesWord (wanted : String) : List Token → Bool
  | .word text :: _ => text == wanted
  | _ => false

def seesOneOf (wanted : List String) (tokens : List Token) : Bool := wanted.any (seesWord · tokens)

def seesAnyWord : List Token → Bool
  | .word _ :: _ => true
  | _ => false

/-- Whether a word comes next that is no keyword. -/
def seesName : List Token → Bool
  | .word text :: _ => !keywords.contains text
  | _ => false

/-- Whether the given marks come next, all but the last of them joined. -/
def seesMarks : List Char → List Token → Bool
  | [wanted], .mark c _ :: _ => c == wanted
  | wanted :: more, .mark c joined :: rest => c == wanted && joined && seesMarks more rest
  | _, _ => false

def seesMark (wanted : String) : List Token → Bool := seesMarks wanted.toList

def seesAnyMark (wanted : List String) (tokens : List Token) : Bool := wanted.any (seesMark · tokens)

def seesGroup (delimiter : Delimiter) : List Token → Bool
  | .group d _ :: _ => d == delimiter
  | _ => false

def seesLifetime : List Token → Bool
  | .lifetime :: _ => true
  | _ => false

/-- The literal at the front, if there is one, and what follows it. A number may have a minus sign. -/
def literal? : List Token → Option (Literal × Bool × List Token)
  | .literal l :: rest => some (l, false, rest)
  | .word "true" :: rest | .word "false" :: rest => some (.other, false, rest)
  | .mark '-' _ :: .literal l :: rest =>
    match l with
    | .integer .. | .decimal _ => some (l, true, rest)
    | _ => none
  | _ => none

def seesLiteral (tokens : List Token) : Bool := (literal? tokens).isSome

def seesText : List Token → Bool
  | .literal (.text _) :: _ => true
  | _ => false

def seesInteger (tokens : List Token) : Bool :=
  match literal? tokens with
  | some (.integer .., _) => true
  | _ => false

end Annotations.SchemaDecl
