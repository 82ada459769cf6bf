import Annotations.SchemaDecl.Grammar.Types

/-!
Patterns.
-/
namespace Annotations.SchemaDecl.Grammar
open TokenReader

/-- A pattern that may be a choice between several, the first perhaps behind a bar. -/
def choice (g : Grammar) : TokenReader PatternForm := do
  let leading ← mark? "|"
  let first ← g.pattern
  steps (fun form => do
    let ahead ← ahead
    if !seesMark "|" ahead || seesAnyMark ["||", "|="] ahead then return (form, false)
    pass 1
    let _ ← g.pattern
    return (.other, true)) (if leading then .other else first)

def choices (g : Grammar) : TokenReader (List PatternForm) := items g.choice ","

/-! ## Members -/

/-- The greatest number of a place in a tuple. -/
def lastPlace : Nat := 0xffffffff

/-- A place in a tuple, by its number. -/
def place : TokenReader Unit := do
  match SchemaDecl.literal? (← ahead) with
  | some (.integer value suffixed, negative, _) =>
    if suffixed then throw .suffixedIndex
    if negative then throw .negativeIndex
    if lastPlace < value then throw .largeIndex
    pass 1
  | _ => want ["integer literal"]

/-- A member by its name or its place, and whether it was by name. -/
def member : TokenReader Bool := do
  let ahead ← ahead
  if seesName ahead then
    pass 1
    return true
  else if seesInteger ahead then
    place
    return false
  else want ["identifier or integer"]

/-! ## Patterns -/

/-- A field in a pattern. With a keyword in front it is the name of what it matches too. -/
def fieldPattern (g : Grammar) : TokenReader Unit := do
  let boxed ← keyword? "box"
  let byRef ← keyword? "ref"
  let changed ← keyword? "mut"
  if boxed || byRef || changed then
    let _ ← name
  else
    let named ← member
    if !named || (← sees (seesMark ":")) then
      mark ":"
      let _ ← g.choice

/-- The fields in a pattern, and perhaps a mark for all others. -/
def fieldPatterns (g : Grammar) : TokenReader Unit := loop do
  if ← atEnd then return false
  let _ ← g.tags
  if ← mark? ".." then return false
  g.fieldPattern
  if ← atEnd then return false
  mark ","
  return true

/-- Whether a range may end without an upper bound. -/
def seesRangeEnd (tokens : List Token) : Bool :=
  tokens.isEmpty || seesAnyMark ["|", "=", ",", ";"] tokens ||
    seesMark ":" tokens && !seesMark "::" tokens || seesWord "if" tokens

/-- A bound of a range, unless the range ends here. -/
def rangeBound (g : Grammar) : TokenReader Bool := do
  let ahead ← ahead
  if seesRangeEnd ahead then return false
  if seesLiteral ahead then
    let _ ← literal
  else if seesSegment ahead || seesAnyMark ["::", "<"] ahead then
    let _ ← g.pathInType? true
  else if seesWord "const" ahead then
    pass 1
    g.taggedBlock
  else
    want (["literal", "identifier"] ++
      ["::", "<", "self", "Self", "super", "crate", "const"].map quote)
  return true

/-- What follows the lower bound of a range. The mark may be one that is written no more. -/
def rangeRest (g : Grammar) : TokenReader PatternForm := do
  let closed ← mark? "..="
  let closed ← if closed then pure true else mark? "..."
  if !closed then mark ".."
  let bounded ← g.rangeBound
  if closed && !bounded then want ["range upper bound"]
  return if bounded then .other else .openRange

/-- A range without a lower bound; without both it stands for all that is left. -/
def rangeTo (g : Grammar) : TokenReader PatternForm := do
  let closed ← mark? "..="
  if !closed then mark ".."
  let bounded ← g.rangeBound
  if bounded then return .openRange
  if closed then want ["range upper bound"]
  return .other

/-- A path with what may follow it in a pattern. -/
def pathPattern (g : Grammar) : TokenReader PatternForm := do
  let form ← g.pathInType? true
  let ahead ← ahead
  if form.any (·.plain) && seesInvocation ahead then
    pass 1
    let _ ← anyGroup
    return .other
  else if seesGroup .braces ahead then
    group .braces g.fieldPatterns
    return .other
  else if seesGroup .parentheses ahead then
    let _ ← group .parentheses g.choices
    return .other
  else if seesMark ".." ahead then g.rangeRest
  else return .other

/-- A literal or constant, perhaps as the lower bound of a range. -/
def literalPattern (g : Grammar) : TokenReader PatternForm := do
  let _ ← g.rangeBound
  if ← sees (seesMark "..") then g.rangeRest else return .other

/-- A name, perhaps for what a pattern behind it matches. -/
def namePattern (g : Grammar) : TokenReader Unit := do
  let _ ← keyword? "ref"
  let _ ← keyword? "mut"
  if !(← keyword? "self") then
    let _ ← name
  if ← mark? "@" then
    let _ ← g.pattern

/-- What may be a pattern; a range is no choice where its mark is here, though with a point too many. -/
def patternChoices (ranges : List String) : List String :=
  ["identifier"] ++ ["::", "<", "_"].map quote ++ ["literal"] ++ ["const", "ref", "mut", "&"].map quote ++
    ["parentheses", "square brackets"] ++ (ranges ++ ["const"]).map quote

/-- Whether a path comes next that is more than a name. -/
def seesPathPattern (tokens : List Token) : Bool :=
  let behind := tokens.tail
  seesName tokens && (seesAnyMark ["::", "!", ".."] behind || seesGroup .braces behind ||
      seesGroup .parentheses behind) ||
    seesWord "self" tokens && seesMark "::" behind || seesAnyMark ["::", "<"] tokens ||
    seesOneOf ["Self", "super", "crate"] tokens

def anyPattern (g : Grammar) : TokenReader PatternForm := do
  let ahead ← ahead
  if seesPathPattern ahead then g.pathPattern
  else if seesWord "_" ahead then
    pass 1
    return .other
  else if seesWord "box" ahead then
    pass 1
    let _ ← g.pattern
    return .other
  else if seesMark "-" ahead || seesLiteral ahead || seesWord "const" ahead then g.literalPattern
  else if seesOneOf ["ref", "mut", "self"] ahead || seesName ahead then
    g.namePattern
    return .other
  else if seesMark "&" ahead then
    pass 1
    let _ ← keyword? "mut"
    let _ ← g.pattern
    return .other
  else if seesGroup .parentheses ahead then
    let _ ← group .parentheses g.choices
    return .other
  else if seesGroup .brackets ahead then
    group .brackets do
      let _ ← items (do
        if (← g.choice) = .openRange then throw .rangeInSlice) ","
    return .other
  else if seesMark "..." ahead then want (patternChoices [])
  else if seesMark ".." ahead then g.rangeTo
  else want (patternChoices [".."])

end Annotations.SchemaDecl.Grammar
