import Annotations.SchemaDecl.Grammar.Patterns

/-!
Items that may stand among statements: functions, definitions of types, traits, modules and what they
hold.
-/
namespace Annotations.SchemaDecl.Grammar
open TokenReader

/-! ## Visibility and fields -/

/-- Who may see what follows. Parentheses with anything else belong to what follows. -/
def visibility : TokenReader Bool := do
  let here ← keyword? "pub"
  if here then
    match ← ahead with
    | .group .parentheses content :: _ =>
      if seesOneOf ["crate", "self", "super"] content && content.tail.isEmpty then pass 1
      else if seesWord "in" content then
        group .parentheses do
          pass 1
          let _ ← plainPath
    | _ => return here
  return here

/-- A field with its tags and its name. A field whose name is left open may have fields of its own. -/
def field (g : Grammar) : TokenReader (List Clause × String) := do
  let tags ← g.tags
  let _ ← visibility
  let nameless ← sees (seesWord "_")
  let name ← if nameless then anyWord else name
  mark ":"
  let ahead ← ahead
  if nameless && (seesWord "struct" ahead || seesWord "union" ahead && seesGroup .braces ahead.tail) then
    pass 1
    g.fields
  else
    let _ ← g.type true
  return (tags, name)

/-- Fields in braces. -/
def namedFields (g : Grammar) : TokenReader (List (List Clause × String)) :=
  group .braces (items g.field ",")

/-- Fields in parentheses. -/
def unnamedFields (g : Grammar) : TokenReader Unit := do
  let _ ← group .parentheses (items (do
    let _ ← g.tags
    let _ ← visibility
    let _ ← g.type true) ",")

/-- What stands behind the name and the type parameters of a struct. -/
inductive StructBody where
  | named (fields : List (List Clause × String))
  | unnamed
  | absent
deriving Repr

/-- The body of a struct with the conditions in front of it, or behind it if its fields have no names. -/
def structBody (g : Grammar) : TokenReader StructBody := do
  let early ← g.conditions
  let ahead ← ahead
  if !early && seesGroup .parentheses ahead then
    g.unnamedFields
    let late ← g.conditions
    if !(← mark? ";") then
      if late then want [quote ";"] else want [quote "where", quote ";"]
    return .unnamed
  else if seesGroup .braces ahead then return .named (← g.namedFields)
  else if ← mark? ";" then return .absent
  else if early then want ["curly braces", quote ";"]
  else want [quote "where", "parentheses", "curly braces", quote ";"]

/-- A case of an enumeration. -/
def variant (g : Grammar) : TokenReader Unit := do
  let _ ← g.tags
  let _ ← visibility
  let _ ← name
  let ahead ← ahead
  if seesGroup .braces ahead then g.fields
  else if seesGroup .parentheses ahead then g.unnamedFields
  if ← mark? "=" then
    let _ ← g.expr

/-! ## Functions -/

def dropWord (word : String) (tokens : List Token) : List Token :=
  if seesWord word tokens then tokens.tail else tokens

/-- Whether a function comes next, with the keywords in front of it. -/
def seesFunction (tokens : List Token) : Bool :=
  let rest := ["const", "async", "unsafe"].foldl (fun rest word => dropWord word rest) tokens
  let rest :=
    if seesWord "extern" rest then (if seesText rest.tail then rest.drop 2 else rest.tail) else rest
  seesWord "fn" rest

/-- Whether the object itself comes next as a parameter. -/
def seesReceiver (tokens : List Token) : Bool :=
  let rest := if seesMark "&" tokens then
      (if seesLifetime tokens.tail then tokens.drop 2 else tokens.tail) else tokens
  let rest := dropWord "mut" rest
  seesWord "self" rest && !seesMark "::" rest.tail

/-- The object itself as a parameter. -/
def receiver (g : Grammar) : TokenReader Unit := do
  let borrowed ← mark? "&"
  if borrowed then
    let _ ← lifetime?
  let _ ← keyword? "mut"
  keyword "self"
  if !borrowed then
    if ← mark? ":" then
      let _ ← g.type true

/-- Any number of further arguments, perhaps with a comma behind them. -/
def openArguments : TokenReader Unit := do
  if !(← atEnd) then mark ","

/-- The parameters of a function. Only the first can be the object itself. -/
def parameters (g : Grammar) : TokenReader Unit := do
  let _ ← steps (fun (before, hadReceiver) => do
    if ← atEnd then return ((before, hadReceiver), false)
    let _ ← g.tags
    if ← mark? "..." then
      openArguments
      return ((before, hadReceiver), false)
    let isReceiver ← sees seesReceiver
    if isReceiver then g.receiver
    else
      let _ ← g.pattern
      mark ":"
      if ← mark? "..." then
        openArguments
        return ((before, hadReceiver), false)
      let _ ← g.type true
    if isReceiver && hadReceiver then throw (.receiverMisplaced true)
    if isReceiver && before then throw (.receiverMisplaced false)
    if ← atEnd then return ((true, hadReceiver || isReceiver), false)
    mark ","
    return ((true, hadReceiver || isReceiver), true)) (false, false)

/-- A function up to its body. -/
def signature (g : Grammar) : TokenReader Unit := do
  for word in ["const", "async", "unsafe"] do
    let _ ← keyword? word
  convention
  keyword "fn"
  let _ ← name
  let _ ← g.typeParameters
  group .parentheses g.parameters
  g.result true
  let _ ← g.conditions

/-- A function, perhaps without a body. -/
def function (g : Grammar) : TokenReader Unit := do
  g.signature
  if !(← mark? ";") then g.taggedBlock

/-! ## Constants, types and imports -/

/-- A name or an underscore behind the keyword of a constant. -/
def constantName : TokenReader Unit := do
  if ← sees fun ahead => seesName ahead || seesWord "_" ahead then pass 1
  else want ["identifier", quote "_"]

/-- A constant, behind its keyword. -/
def constantItem (g : Grammar) : TokenReader Unit := do
  constantName
  let _ ← g.typeParameters
  mark ":"
  let _ ← g.type true
  if ← mark? "=" then
    let _ ← g.expr
  let _ ← g.conditions
  mark ";"

/-- A static value, behind its keyword. Its type or its value may be missing. -/
def staticItem (g : Grammar) : TokenReader Unit := do
  let _ ← keyword? "mut"
  let _ ← name
  if !(← sees (seesMark "=")) then
    mark ":"
    let _ ← g.type true
  if !(← mark? ";") then
    mark "="
    let _ ← g.expr
    mark ";"

/-- The name of a type with bounds, behind its keyword; the type itself may be missing. -/
def typeItem (g : Grammar) : TokenReader Unit := do
  let _ ← name
  let _ ← g.typeParameters
  if ← mark? ":" then
    sumUntil (fun ahead => seesWord "where" ahead || seesAnyMark ["=", ";"] ahead) do
      let _ ← g.outerBound true
  let early ← g.conditions
  if ← mark? "=" then
    let _ ← g.type true
  if !early then
    let _ ← g.conditions
  mark ";"

/-- Names to import, below a path: one, all, or those in braces. -/
def imports : Nat → Bool → TokenReader Unit
  | 0, _ => want []
  | fuel + 1, mayBeRooted => do
    let ahead ← ahead
    if seesName ahead || seesOneOf ["self", "super", "crate", "try"] ahead then
      pass 1
      if ← mark? "::" then imports fuel false
      else if ← keyword? "as" then
        if ← sees fun ahead => seesName ahead || seesWord "_" ahead then pass 1
        else want ["identifier or underscore"]
    else if seesMark "*" ahead then pass 1
    else if seesGroup .braces ahead then
      let _ ← group .braces (items (do
        let rooted ← if mayBeRooted then mark? "::" else pure false
        imports fuel (mayBeRooted && !rooted)) ",")
    else
      want (["identifier"] ++ ["self", "super", "crate", "try", "*"].map quote ++ ["curly braces"])

/-- Imports, behind their keyword. -/
def importItem : TokenReader Unit := do
  let rooted ← mark? "::"
  imports (sizeOfAll (← ahead) + 1) !rooted
  mark ";"

/-! ## Items -/

/-- A path with an exclamation mark and what is handed to it, perhaps with a name in between. -/
def invocationItem : TokenReader Unit := do
  let _ ← plainPath
  mark "!"
  if ← sees (seesWord "try") then pass 1
  else if ← sees seesName then pass 1
  let (delimiter, _) ← anyGroup
  if delimiter != .braces then mark ";"

/-- Items up to the end of a group, each behind its tags. -/
def itemsWithTags (g : Grammar) (item : TokenReader Unit) : TokenReader Unit := do
  g.innerTags
  loop do
    if ← atEnd then return false
    let _ ← g.tags
    item
    return true

/-- What a trait, an implementation or a foreign block may hold. -/
def innerItem (g : Grammar) : TokenReader Unit := do
  let visible ← visibility
  let defaulted ← sees fun ahead => seesWord "default" ahead && !seesMark "!" ahead.tail
  if defaulted then pass 1
  let ahead ← ahead
  if seesFunction ahead then g.function
  else if seesWord "const" ahead then
    pass 1
    g.constantItem
  else if seesWord "static" ahead then
    pass 1
    g.staticItem
  else if seesWord "type" ahead then
    pass 1
    g.typeItem
  else if !visible && !defaulted && (seesSegment ahead || seesMark "::" ahead) then invocationItem
  else
    want ([quote "fn", quote "const", quote "type"] ++
      (if visible || defaulted then []
       else ["identifier"] ++ ["self", "super", "crate", "::"].map quote))

/-- A trait, behind its keyword. -/
def traitItem (g : Grammar) : TokenReader Unit := do
  let _ ← name
  let _ ← g.typeParameters
  if ← mark? "=" then
    sumUntil (fun ahead => seesWord "where" ahead || seesMark ";" ahead) do
      let _ ← g.outerBound true
    let _ ← g.conditions
    mark ";"
  else
    if ← mark? ":" then
      sumUntil (fun ahead => seesWord "where" ahead || seesGroup .braces ahead) do
        let _ ← g.outerBound true
    let _ ← g.conditions
    group .braces (g.itemsWithTags g.innerItem)

/-- Whether type parameters come next, and no type in angle brackets. -/
def seesTypeParameters (tokens : List Token) : Bool :=
  let behind := tokens.tail
  seesMark "<" tokens &&
    (seesAnyMark [">", "#"] behind || seesWord "const" behind ||
      (seesName behind || seesLifetime behind) && seesAnyMark [":", ",", ">", "="] behind.tail)

/-- An implementation, behind its keyword. -/
def implItem (g : Grammar) : TokenReader Unit := do
  if ← sees seesTypeParameters then
    let _ ← g.typeParameters
  let _ ← keyword? "const"
  let _ ← mark? "!"
  let _ ← g.type true
  if ← keyword? "for" then
    let _ ← g.type true
  let _ ← g.conditions
  group .braces (g.itemsWithTags g.innerItem)

/-- A module, behind its keyword. -/
def moduleItem (g : Grammar) : TokenReader Unit := do
  if ← sees (seesWord "try") then pass 1
  else
    let _ ← name
  if ← mark? ";" then return
  if ← sees (seesGroup .braces) then group .braces (g.itemsWithTags g.item)
  else want [quote ";", "curly braces"]

/-- What is defined elsewhere, behind its keyword. -/
def externItem (g : Grammar) : TokenReader Unit := do
  if ← keyword? "crate" then
    if !(← keyword? "self") then
      let _ ← name
    if ← keyword? "as" then
      if !(← keyword? "_") then
        let _ ← name
    mark ";"
  else
    let named ← sees seesText
    if named then pass 1
    if ← sees (seesGroup .braces) then group .braces (g.itemsWithTags g.innerItem)
    else if named then want ["curly braces"]
    else want [quote "crate", "curly braces", "string literal"]

def itemWords : List String :=
  ["fn", "extern", "use", "static", "const", "unsafe", "mod", "type", "struct", "enum"]

/-- A definition of a type behind its keyword, which is none of a struct. -/
def typeDefinition (g : Grammar) (union : Bool) : TokenReader Unit := do
  let _ ← name
  let _ ← g.typeParameters
  let _ ← g.conditions
  if union then g.fields
  else
    let _ ← group .braces (items g.variant ",")

/-- An item behind its visibility and the keyword `unsafe`, if it has them. -/
def itemByWord (g : Grammar) (word : String) : TokenReader Unit := do
  pass 1
  match word with
  | "extern" => g.externItem
  | "use" => importItem
  | "static" => g.staticItem
  | "const" => g.constantItem
  | "mod" => g.moduleItem
  | "type" => g.typeItem
  | "struct" => do
    let _ ← name
    let _ ← g.typeParameters
    let _ ← g.structBody
  | "enum" => g.typeDefinition false
  | "union" => g.typeDefinition true
  | "trait" => g.traitItem
  | _ => g.implItem

/-- A rule for invocations, behind its keyword. -/
def ruleItem : TokenReader Unit := do
  pass 1
  let _ ← name
  if ← sees (seesGroup .parentheses) then pass 1
  else if !(← sees (seesGroup .braces)) then want ["parentheses", "curly braces"]
  if ← sees (seesGroup .braces) then pass 1

/-- What may stand behind a keyword that says the compiler cannot check all of it. -/
def uncheckedWords : List String := ["trait", "auto", "impl", "extern", "mod"]

def definingWords : List String :=
  ["extern", "use", "static", "const", "mod", "type", "struct", "enum", "trait", "impl"]

/-- An item behind its tags. -/
def anyItem (g : Grammar) : TokenReader Unit := do
  let visible ← visibility
  let ahead ← ahead
  if seesFunction ahead then g.function
  else
    if seesWord "unsafe" ahead then
      pass 1
      if !(← sees (seesOneOf uncheckedWords)) then want (uncheckedWords.map quote)
    else if seesWord "default" ahead && seesWord "impl" ahead.tail then pass 1
    if ← sees fun ahead => seesWord "auto" ahead && seesWord "trait" ahead.tail then pass 1
    match ← TokenReader.ahead with
    | .word word :: rest =>
      if definingWords.contains word || word == "union" && seesName rest then g.itemByWord word
      else if word == "macro" then ruleItem
      else if !visible && (seesSegment [.word word]) then invocationItem
      else want (itemWords.map quote)
    | rest => if !visible && seesMark "::" rest then invocationItem else want (itemWords.map quote)

end Annotations.SchemaDecl.Grammar
