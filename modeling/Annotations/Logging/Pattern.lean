/-!
Patterns for the values of fields in log filters, and which of them fit: those that need no tables of
characters, give each group a name of its own and are not nested too deeply. One that fits can be used
unless it asks for the edges of words of all scripts.
-/
namespace Annotations.Filter

/-- What the flags of a group turn on or off. -/
structure FlagChange where
  anyCase : Option Bool := none
  unicode : Option Bool := none
  spaced : Option Bool := none
deriving DecidableEq, Repr

structure Flags where
  anyCase : Bool := false
  unicode : Bool := true
deriving DecidableEq, Repr

def Flags.apply (flags : Flags) (change : FlagChange) : Flags where
  anyCase := change.anyCase.getD flags.anyCase
  unicode := change.unicode.getD flags.unicode

/-- A character as written; a code of two digits may also stand for a byte. -/
structure Letter where
  char : Char
  byteCode : Bool := false
deriving DecidableEq, Repr

inductive Atom where
  | letter (letter : Letter)
  | any
  /-- The start or end of a line or text. -/
  | edge
  | wordEdge
  /-- Digits, white space or word characters, or all but those. -/
  | shorthand (negated : Bool)
  /-- The characters of a property. -/
  | property
deriving DecidableEq, Repr

/-- What stands between brackets. -/
inductive CharSet where
  | atom (atom : Atom)
  | range (low high : Letter)
  /-- A set by its name. -/
  | named (negated : Bool)
  | nested (negated : Bool) (content : CharSet)
  | union (items : List CharSet)
  | operation (left right : CharSet)

inductive Pattern where
  | atom (atom : Atom)
  | change (flags : FlagChange)
  | set (negated : Bool) (content : CharSet)
  | repeated (inner : Pattern)
  | group (name : Option (List Char)) (flags : FlagChange) (inner : Pattern)
  | sequence (parts : List Pattern)
  | choice (branches : List Pattern)

/-! ## Flags -/

def isAscii (c : Char) : Bool := c.toNat < 128

/-- Other cases of a character are in tables, except for those of ASCII. -/
def Flags.cased (flags : Flags) : Bool := flags.anyCase && flags.unicode

/-- Whether a character can stand for itself. By its byte it can only if it is ASCII. -/
def Letter.fits (flags : Flags) (letter : Letter) : Bool :=
  !flags.cased && (flags.unicode || !letter.byteCode || isAscii letter.char)

def Atom.fits (flags : Flags) : Atom → Bool
  | .letter l => l.fits flags
  | .any => flags.unicode
  | .edge | .wordEdge => true
  | .shorthand negated => !flags.unicode && !negated
  | .property => false

/-- A character in a set of bytes has to be ASCII. -/
def Letter.fitsSet (flags : Flags) (letter : Letter) : Bool := flags.unicode || isAscii letter.char

mutual

/-- Whether a set can be used. A set of bytes must not be negated, as it would hold parts of characters. -/
def CharSet.fits (flags : Flags) : CharSet → Bool
  | .atom (.letter l) => l.fitsSet flags
  | .atom a => a.fits flags
  | .range low high => low.fitsSet flags && high.fitsSet flags
  | .named negated => flags.unicode || !negated
  | .nested negated content => (flags.unicode || !negated) && content.fits flags
  | .union items => allFit flags items
  | .operation left right => left.fits flags && right.fits flags

def allFit (flags : Flags) : List CharSet → Bool
  | [] => true
  | first :: rest => first.fits flags && allFit flags rest

end

/-- What a reader of a pattern has met so far: the flags that now hold, and whether the edge of a word
stood where words are those of all scripts. -/
structure Course where
  flags : Flags := {}
  wideEdge : Bool := false
deriving DecidableEq, Repr

def Course.meet (course : Course) (atom : Atom) : Course :=
  if atom = .wordEdge ∧ course.flags.unicode then { course with wideEdge := true } else course

mutual

/-- The course through a pattern, if all its parts fit; flags of a group end with it. -/
def Pattern.after? (course : Course) : Pattern → Option Course
  | .atom a => if a.fits course.flags then some (course.meet a) else none
  | .change c => some { course with flags := course.flags.apply c }
  | .set negated content =>
    let flags := course.flags
    if !flags.cased && (flags.unicode || !negated) && content.fits flags then some course else none
  | .repeated inner => Pattern.after? course inner
  | .group _ c inner =>
    (Pattern.after? { course with flags := course.flags.apply c } inner).map fun inside =>
      { inside with flags := course.flags }
  | .sequence parts => allAfter? course parts
  | .choice branches => allAfter? course branches

def allAfter? (course : Course) : List Pattern → Option Course
  | [] => some course
  | first :: rest => (Pattern.after? course first).bind fun course => allAfter? course rest

end

/-! ## Names -/

mutual

/-- The names of groups, in order. -/
def Pattern.names : Pattern → List (List Char)
  | .repeated inner => inner.names
  | .group name _ inner => name.toList ++ inner.names
  | .sequence parts => allNames parts
  | .choice branches => allNames branches
  | _ => []

def allNames : List Pattern → List (List Char)
  | [] => []
  | first :: rest => first.names ++ allNames rest

end

/-! ## Depth -/

mutual

def CharSet.depth : CharSet → Nat
  | .nested _ content => content.depth + 1
  | .union [] => 0
  | .union items => greatestDepth items + 1
  | .operation left right => max left.depth right.depth + 1
  | _ => 0

def greatestDepth : List CharSet → Nat
  | [] => 0
  | first :: rest => max first.depth (greatestDepth rest)

end

mutual

def Pattern.depth : Pattern → Nat
  | .set _ content => content.depth + 1
  | .repeated inner => inner.depth + 1
  | .group _ _ inner => inner.depth + 1
  | .sequence [] => 0
  | .sequence parts => deepest parts + 1
  | .choice branches => deepest branches + 1
  | _ => 0

def deepest : List Pattern → Nat
  | [] => 0
  | first :: rest => max first.depth (deepest rest)

end

def Pattern.depthLimit : Nat := 250

/-- The course through a pattern that fits as a whole. -/
def Pattern.course? (pattern : Pattern) : Option Course :=
  if pattern.names.Nodup ∧ pattern.depth ≤ Pattern.depthLimit then pattern.after? {} else none

end Annotations.Filter
