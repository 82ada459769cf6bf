import Annotations.SchemaDecl.Grammar.Clauses

/-!
Types, with paths and their arguments, bounds, type parameters and conditions.
-/
namespace Annotations.SchemaDecl.Grammar
open TokenReader

/-! ## Paths -/

/-- What is known of a path whose words may have arguments. -/
structure PathForm where
  rooted : Bool
  length : Nat
  /-- No word of it has arguments. -/
  plain : Bool
  /-- The last word has no arguments. -/
  openEnded : Bool
deriving DecidableEq, Repr

/-- Items with plus signs between them and perhaps behind the last, up to some place. -/
def sumUntil (stop : List Token → Bool) (item : TokenReader Unit) : TokenReader Unit := loop do
  if ← sees stop then return false
  item
  mark? "+"

/-- A block with tags of its own. -/
def taggedBlock (g : Grammar) : TokenReader Unit :=
  group .braces do
    g.innerTags
    g.statements

/-- A constant among arguments: a literal, a name or a block. -/
def constant (g : Grammar) : TokenReader Unit := do
  let ahead ← ahead
  if seesLiteral ahead then
    let _ ← literal
  else if seesName ahead then pass 1
  else if seesGroup .braces ahead then g.taggedBlock
  else want []

def seesConstant (tokens : List Token) : Bool := seesLiteral tokens || seesGroup .braces tokens

/-- A bound where no captures are allowed. -/
def outerBound (g : Grammar) (constants : Bool) : TokenReader BoundForm := do
  let form ← g.bound constants
  if form = .capture then throw .captureMisplaced
  return form

/-- An argument: a lifetime, a constant, a type, or a name with what is asked of it. -/
def argument (g : Grammar) : TokenReader Unit := do
  let ahead ← ahead
  if seesLifetime ahead && !seesMark "+" ahead.tail then pass 1
  else if seesConstant ahead then g.constant
  else
    match ← g.type true with
    | .path true =>
      if ← mark? "=" then
        if ← sees seesConstant then g.constant
        else
          let _ ← g.type true
      else if ← mark? ":" then
        sumUntil (seesAnyMark [",", ">"]) do
          let _ ← g.outerBound true
    | _ => return

/-- Arguments between angle brackets. -/
def arguments (g : Grammar) : TokenReader Unit := do
  mark "<"
  itemsUntil (seesMark ">") g.argument ","
  mark ">"

/-- A word of a path, and whether it has arguments. In an expression colons have to stand before them. -/
def segment (g : Grammar) (inExpr : Bool) : TokenReader Bool := do
  if ← sees (seesOneOf ["super", "self", "crate", "try"]) then
    pass 1
    return false
  if !(← keyword? "Self") then
    let _ ← name
  let ahead ← ahead
  let atOnce := !inExpr && seesMark "<" ahead && !seesAnyMark ["<=", "<<="] ahead
  let behindColons := seesMark "::" ahead && seesMark "<" (ahead.drop 2)
  if behindColons then pass 2
  if atOnce || behindColons then
    g.arguments
    return true
  return false

def path (g : Grammar) (inExpr : Bool) : TokenReader PathForm := do
  let rooted ← mark? "::"
  let hasArguments ← g.segment inExpr
  steps (fun form => do
    let ahead ← ahead
    if !seesMark "::" ahead || seesGroup .parentheses (ahead.drop 2) then return (form, false)
    pass 2
    let hasArguments ← g.segment inExpr
    return ({ form with
      length := form.length + 1
      plain := form.plain && !hasArguments
      openEnded := !hasArguments }, true))
    { rooted, length := 1, plain := !hasArguments, openEnded := !hasArguments }

/-- A path, or a path inside of a type between angle brackets, of which nothing is known. -/
def pathInType? (g : Grammar) (inExpr : Bool) : TokenReader (Option PathForm) := do
  if ← mark? "<" then
    let _ ← g.type true
    if ← keyword? "as" then
      let _ ← g.path false
    mark ">"
    mark "::"
    loop do
      let _ ← g.segment inExpr
      mark? "::"
    return none
  else return some (← g.path inExpr)

/-- Whether an exclamation mark comes next that hands what follows to the path before it. -/
def seesInvocation (tokens : List Token) : Bool := seesMark "!" tokens && !seesMark "!=" tokens

/-! ## Bounds -/

/-- The lifetimes that something is made for. -/
def binder? (g : Grammar) : TokenReader Bool := do
  let here ← keyword? "for"
  if here then
    mark "<"
    itemsUntil (seesMark ">") (do
      let _ ← g.tags
      lifetime) ","
    mark ">"
  return here

/-- The type that a function gives. -/
def result (g : Grammar) (plus : Bool) : TokenReader Unit := do
  if ← mark? "->" then
    let _ ← g.type plus

/-- A trait, with its arguments in angle brackets or in parentheses. -/
def trait (g : Grammar) (constants : Bool) : TokenReader Unit := do
  let early ← g.binder?
  if ← sees (seesGroup .brackets) then
    group .brackets (keyword "const")
    if !constants then throw (.constantMisplaced true)
  else if ← keyword? "const" then
    if !constants then throw (.constantMisplaced false)
  let relaxed ← mark? "?"
  let late ← if relaxed && !early then g.binder? else pure false
  let form ← g.path false
  let ahead ← ahead
  let behindColons := seesMark "::" ahead && seesGroup .parentheses (ahead.drop 2)
  if form.openEnded && (behindColons || seesGroup .parentheses ahead) then
    if behindColons then pass 2
    let _ ← group .parentheses (items (g.type true) ",")
    g.result false
  if relaxed && (early || late) then throw .binderMisplaced

/-- What a type captures, between angle brackets. -/
def capture : TokenReader Unit := do
  keyword "use"
  mark "<"
  loop do
    let ahead ← ahead
    if seesLifetime ahead || seesName ahead || seesWord "Self" ahead then pass 1
    else if seesMark ">" ahead then return false
    else want ["lifetime", "identifier", quote ">"]
    if ← mark? "," then return true
    if ← sees (seesMark ">") then return false
    want [quote ",", quote ">"]
  mark ">"

/-- A bound: a lifetime, a capture, or a trait, perhaps in parentheses. -/
def anyBound (g : Grammar) (constants : Bool) : TokenReader BoundForm := do
  if ← lifetime? then return .lifetime
  if ← sees (seesWord "use") then
    capture
    return .capture
  if ← sees (seesGroup .parentheses) then group .parentheses (g.trait constants)
  else g.trait constants
  return .trait

def seesBound (constants : Bool) (tokens : List Token) : Bool :=
  seesAnyWord tokens || seesAnyMark ["::", "?"] tokens || seesLifetime tokens ||
    seesGroup .parentheses tokens || constants && seesGroup .brackets tokens

/-- Bounds between plus signs, one of which may end them; without them, a single bound. Traits may be
constant where captures are allowed. -/
def bounds (g : Grammar) (plus captures : Bool) : TokenReader (List BoundForm) :=
  steps (fun taken => do
    let bound ← if captures then g.bound true else g.outerBound false
    let taken := bound :: taken
    if !plus || !(← mark? "+") then return (taken, false)
    return (taken, ← sees (seesBound captures))) []

/-- The bounds of an object, one of which has to be a trait. -/
def objectBounds (g : Grammar) (plus : Bool) : TokenReader Unit := do
  if !(← g.bounds plus false).contains .trait then throw .noObjectTrait

/-- More bounds, each behind a plus sign. -/
def moreBounds (g : Grammar) : TokenReader Unit := loop do
  let more ← mark? "+"
  if more then
    let _ ← g.outerBound false
  return more

/-! ## Types -/

/-- The name of the convention by which a function is called, if it has one. -/
def convention : TokenReader Unit := do
  if ← keyword? "extern" then
    if ← sees seesText then pass 1

/-- A parameter in the type of a function. The first may be the object itself. -/
def parameter (g : Grammar) (first : Bool) : TokenReader Unit := do
  let _ ← g.tags
  let changed ← sees fun ahead => first && seesWord "mut" ahead && seesWord "self" ahead.tail
  if changed then pass 1
  let ahead ← ahead
  let self := first && seesWord "self" ahead
  let named := (seesName ahead || seesWord "_" ahead || self) && seesMark ":" ahead.tail &&
    !seesMark "::" ahead.tail
  if named then pass 2
  if changed && !named then keyword "self"
  else
    let _ ← g.type true

/-- The end of the parameters of a function that takes any number of arguments. -/
def variadic : TokenReader Unit := do
  if ← sees fun ahead => seesName ahead || seesWord "_" ahead then
    pass 1
    mark ":"
  mark "..."
  let _ ← mark? ","

def seesVariadic (tokens : List Token) : Bool :=
  seesMark "..." tokens ||
    (seesName tokens || seesWord "_" tokens) && seesMark ":" tokens.tail && seesMark "..." (tokens.drop 2)

/-- The type of a function. -/
def functionType (g : Grammar) : TokenReader Unit := do
  let _ ← keyword? "unsafe"
  convention
  keyword "fn"
  group .parentheses do
    let _ ← steps (fun first => do
      if ← atEnd then return (false, false)
      let _ ← g.tags
      if ← sees seesVariadic then
        variadic
        return (false, false)
      g.parameter first
      if ← atEnd then return (false, false)
      mark ","
      return (false, true)) true
  g.result false

/-- What stands in parentheses where a type is wanted. -/
inductive Enclosed where
  | nothing
  | relaxedTrait
  | type (form : TypeForm)
  | other
deriving DecidableEq, Repr

def enclosed (g : Grammar) : TokenReader Enclosed := do
  if ← atEnd then return .nothing
  if ← sees seesLifetime then
    g.objectBounds true
    return .other
  if ← sees (seesMark "?") then
    g.trait false
    return .relaxedTrait
  let form ← g.type true
  if ← mark? "," then
    let _ ← items (g.type true) ","
    return .other
  return .type form

/-- A tuple, a type in parentheses, or a trait in parentheses with more bounds behind it. -/
def typeInParentheses (g : Grammar) (plus : Bool) : TokenReader TypeForm := do
  match ← group .parentheses g.enclosed with
  | .relaxedTrait =>
    let several ← sees (seesMark "+")
    g.moreBounds
    return .traits several
  | .type (.path _) | .type (.traits false) =>
    if plus && (← sees (seesMark "+")) then
      g.moreBounds
      return .traits true
    else return .other
  | _ => return .other

/-- A path as a type, with what may follow it. -/
def namedType (g : Grammar) (plus bound : Bool) : TokenReader TypeForm := do
  match ← g.pathInType? false with
  | none => return .other
  | some form =>
    if form.plain && (← sees seesInvocation) then
      pass 1
      let _ ← anyGroup
      return .other
    if !bound && !(plus && (← sees (seesMark "+"))) then
      return .path (!form.rooted && form.length = 1)
    let several ← sees fun ahead => plus && seesMark "+" ahead
    if plus then
      loop do
        if !(← mark? "+") then return false
        let more ← sees (seesBound false)
        if more then
          let _ ← g.outerBound false
        return more
    return .traits several

def typeChoices : List String :=
  [quote "for", "parentheses"] ++ ["fn", "unsafe", "extern"].map quote ++ ["identifier"] ++
    ["::", "<", "dyn"].map quote ++ ["square brackets"] ++ ["*", "&", "!", "impl", "_"].map quote ++
    ["lifetime"]

def functionWords : List String := ["fn", "unsafe", "extern"]

def seesNamedType (tokens : List Token) : Bool := seesSegment tokens || seesAnyMark ["::", "<"] tokens

/-- A type in brackets, with a number of elements or without. -/
def elements (g : Grammar) : TokenReader Unit :=
  group .brackets do
    let _ ← g.type true
    if ← mark? ";" then
      let _ ← g.expr

/-- A pointer, behind its mark. -/
def pointer (g : Grammar) : TokenReader Unit := do
  if !(← keyword? "const") && !(← keyword? "mut") then want [quote "const", quote "mut"]
  let _ ← g.type false

def anyType (g : Grammar) (plus : Bool) : TokenReader TypeForm := do
  let bound ← g.binder?
  let ahead ← ahead
  if bound && !seesSegment ahead && !seesOneOf functionWords ahead then
    want (["identifier"] ++ (functionWords ++ ["super", "self", "Self", "crate"]).map quote)
  if seesGroup .parentheses ahead then g.typeInParentheses plus
  else if seesNamedType ahead then g.namedType plus bound
  else do
    if seesOneOf functionWords ahead then g.functionType
    else if seesWord "dyn" ahead then
      pass 1
      let _ ← mark? "*"
      g.objectBounds plus
    else if seesGroup .brackets ahead then g.elements
    else if seesMark "*" ahead then
      pass 1
      g.pointer
    else if seesMark "&" ahead then
      pass 1
      let _ ← lifetime?
      let _ ← keyword? "mut"
      let _ ← g.type false
    else if seesMark "!" ahead || seesWord "_" ahead then pass 1
    else if seesWord "impl" ahead then
      pass 1
      if !(← g.bounds plus true).contains .trait then throw .noTrait
    else if seesLifetime ahead then g.objectBounds true
    else want typeChoices
    return .other

/-! ## Type parameters and conditions -/

def parameterChoices : List String := ["lifetime", "identifier", quote "const"]

/-- A type parameter, which may be a lifetime, a type or a constant. -/
def typeParameter (g : Grammar) : TokenReader Unit := do
  let _ ← g.tags
  let ahead ← ahead
  if seesLifetime ahead then
    pass 1
    if ← mark? ":" then sumUntil (fun ahead => ahead.isEmpty || seesAnyMark [",", ">"] ahead) lifetime
  else if seesName ahead then
    pass 1
    if ← mark? ":" then
      sumUntil (fun ahead => ahead.isEmpty || seesAnyMark [",", ">", "="] ahead) do
        let _ ← g.outerBound true
    if ← mark? "=" then
      let _ ← g.type true
  else if seesWord "const" ahead then
    pass 1
    let _ ← name
    mark ":"
    let _ ← g.type true
    if ← mark? "=" then g.constant
  else if seesWord "_" ahead then pass 1
  else want parameterChoices

/-- The type parameters of a definition, if there are any. -/
def typeParameters (g : Grammar) : TokenReader Bool := do
  if !(← mark? "<") then return false
  let given ← sees fun ahead => !seesMark ">" ahead
  itemsUntil (seesMark ">") g.typeParameter ","
  mark ">"
  return given

def endsCondition (tokens : List Token) : Bool :=
  tokens.isEmpty || seesGroup .braces tokens || seesAnyMark [",", ";", "="] tokens ||
    seesMark ":" tokens && !seesMark "::" tokens

/-- What is asked of a lifetime or a type. -/
def condition (g : Grammar) : TokenReader Unit := do
  if ← sees fun ahead => seesLifetime ahead && seesMark ":" ahead.tail then
    pass 2
    sumUntil (fun ahead => endsCondition ahead || seesMark ":" ahead) lifetime
  else
    let _ ← g.binder?
    let _ ← g.type true
    mark ":"
    sumUntil endsCondition do
      let _ ← g.outerBound true

/-- The conditions of a definition, if there are any. -/
def conditions (g : Grammar) : TokenReader Bool := do
  let here ← keyword? "where"
  if here then
    loop do
      if ← sees endsCondition then return false
      g.condition
      mark? ","
  return here

end Annotations.SchemaDecl.Grammar
