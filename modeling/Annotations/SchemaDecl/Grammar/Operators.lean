import Annotations.SchemaDecl.Grammar.Types

/-!
Binary operators, and what follows an expression by them.
-/
namespace Annotations.SchemaDecl.Grammar
open TokenReader

/-- Binary operators, one that starts with another before that one. -/
def operators : List (String × Strength) :=
  ["+=", "-=", "*=", "/=", "%=", "^=", "&=", "|=", "<<=", ">>="].map (·, .assign) ++
    [("&&", .and), ("||", .or), ("<<", .shift), (">>", .shift)] ++
    ["==", "<=", "!=", ">="].map (·, .compare) ++ ["+", "-"].map (·, .sum) ++
    ["*", "/", "%"].map (·, .product) ++
    [("^", .bitXor), ("&", .bitAnd), ("|", .bitOr), ("<", .compare), (">", .compare)]

def operator? (tokens : List Token) : Option (String × Strength) :=
  operators.find? fun operator => seesMark operator.1 tokens

def seesAssign (tokens : List Token) : Bool := seesMark "=" tokens && !seesMark "=>" tokens

/-- How strongly what comes next binds. -/
def nextStrength (tokens : List Token) : Strength :=
  match operator? tokens with
  | some (_, strength) => strength
  | none =>
    if seesAssign tokens then .assign
    else if seesMark ".." tokens then .range
    else if seesWord "as" tokens then .cast
    else .none

/-- The right side of an operator. What binds more strongly belongs to it, and of assignments what binds as
strongly does. -/
def rightSide (g : Grammar) (braces : Bool) (strength : Strength) : TokenReader Expr := do
  let first ← g.unary braces
  steps (fun right => do
    let before ← ahead
    let next := nextStrength before
    if next.rank < strength.rank || next = strength && strength != .assign then return (right, false)
    let right ← g.climb braces next right
    return (right, (← ahead).length != before.length)) first

/-! ## Ranges -/

/-- The mark of a range, and whether its upper bound belongs to it. -/
def rangeMark : TokenReader Bool := do
  if ← mark? "..=" then return true
  if ← sees (seesMark "...") then want [quote "..="]
  mark ".."
  return false

/-- What cannot start the upper bound of a range. -/
def endsRange (braces : Bool) (tokens : List Token) : Bool :=
  tokens.isEmpty || seesAnyMark [",", ";"] tokens || seesMark "." tokens && !seesMark ".." tokens ||
    seesAnyMark ["?", "=>"] tokens || !braces && seesGroup .braces tokens ||
    seesAnyMark ["=", "+", "/", "%", "^", ">", "<=", "!=", "-=", "*=", "&=", "|=", "<<="] tokens ||
    seesWord "as" tokens

/-- A range from its mark on. -/
def range (g : Grammar) (braces : Bool) : TokenReader Unit := do
  let closed ← rangeMark
  if closed || !(← sees (endsRange braces)) then
    let _ ← g.rightSide braces .range

/-! ## Casts -/

/-- What follows a cast that must not. -/
def castFollower? (tokens : List Token) : Option String :=
  let behind := tokens.tail
  if seesMark "." tokens && !seesMark ".." tokens then
    if seesWord "await" behind then some (quote ".await")
    else if seesName behind && (seesGroup .parentheses behind.tail || seesMark "::" behind.tail) then
      some "a method call"
    else some "a field access"
  else if seesMark "?" tokens then some (quote "?")
  else if seesGroup .brackets tokens then some "indexing"
  else if seesGroup .parentheses tokens then some "a function call"
  else none

/-- The type of a cast, behind its keyword. -/
def castType (g : Grammar) : TokenReader Unit := do
  let _ ← g.type false
  match castFollower? (← ahead) with
  | some what => throw (.castFollowed what)
  | none => return

/-! ## Climbing -/

/-- Takes an operator of some strength at least with its right side, if there is one. Nothing follows a
range, and comparisons do not follow one another. -/
def climbStep (g : Grammar) (braces : Bool) (least : Strength) (left : Expr) :
    TokenReader (Expr × Bool) := do
  let ahead ← ahead
  let allows (strength : Strength) : Bool := least.rank ≤ strength.rank
  if left = .range then return (left, false)
  match operator? ahead with
  | some (mark, strength) =>
    if !allows strength then return (left, false)
    if strength = .compare && left = .comparison then throw .comparisonChain
    pass mark.length
    let _ ← g.rightSide braces strength
    return (if strength = .compare then .comparison else .other, true)
  | none =>
    if allows .assign && seesAssign ahead then
      pass 1
      let _ ← g.rightSide braces .assign
      return (.other, true)
    else if allows .range && seesMark ".." ahead then
      g.range braces
      return (.range, true)
    else if allows .cast && seesWord "as" ahead then
      pass 1
      g.castType
      return (.other, true)
    else return (left, false)

def anyClimb (g : Grammar) (braces : Bool) (least : Strength) (left : Expr) : TokenReader Expr :=
  steps (g.climbStep braces least) left

end Annotations.SchemaDecl.Grammar
