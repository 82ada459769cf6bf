import Annotations.SchemaDecl.Grammar.Operators
import Annotations.SchemaDecl.Grammar.Patterns
import Annotations.Text.Reader

/-!
Expressions without binary operators: atoms, and what trails them.
-/
namespace Annotations.SchemaDecl.Grammar
open TokenReader

/-! ## What trails an expression -/

/-- A place in a tuple as part of a number with a point. A part that has an exponent is no whole number. -/
def placeIn (part : List Char) : TokenReader Unit := do
  let isLow (c : Char) : Bool := Text.isDigit 10 c || c == '_'
  let digits := (part.takeWhile isLow).filter (· != '_')
  match part.dropWhile isLow with
  | [] => if lastPlace < Text.number 10 digits then throw .largeIndex
  | c :: power =>
    let sign := fun c => c == '_' || c == '+' || c == '-'
    if (c == 'e' || c == 'E') && ((power.dropWhile sign).head?.any (Text.isDigit 10)) then
      throw (.wanted false ["integer literal"])
    else throw .suffixedIndex

/-- The places that a number with a point stands for, and whether another member has to follow. -/
def places (written : List Char) : TokenReader Bool := do
  let parts := written.splitOn '.'
  let openEnded := parts.getLast? == some []
  (if openEnded then parts.dropLast else parts).forM placeIn
  return openEnded

/-- Arguments in parentheses. -/
def callArguments (g : Grammar) : TokenReader Unit := do
  let _ ← group .parentheses (items g.expr ",")

/-- A member behind its point, with the arguments of a method. -/
def memberTrail (g : Grammar) : TokenReader Unit := do
  if ← keyword? "await" then return
  let named ← member
  let turbofish ← if named then mark? "::" else pure false
  if turbofish then g.arguments
  if turbofish || named && (← sees (seesGroup .parentheses)) then g.callArguments

/-- What follows a point. -/
def pointTrail (g : Grammar) : TokenReader Unit := do
  match SchemaDecl.literal? (← ahead) with
  | some (.decimal written, negative, _) =>
    if negative then throw .negativeIndex
    pass 1
    if ← places written then g.memberTrail
  | _ => g.memberTrail

def seesPoint (tokens : List Token) : Bool := seesMark "." tokens && !seesMark ".." tokens

/-- Takes arguments, a member, an index or a question mark behind an expression. -/
def trail (g : Grammar) (expr : Expr) : TokenReader (Expr × Bool) := do
  let ahead ← ahead
  if seesGroup .parentheses ahead then g.callArguments
  else if seesPoint ahead && expr != .range then
    pass 1
    g.pointTrail
  else if seesGroup .brackets ahead then
    group .brackets do
      let _ ← g.expr
  else if seesMark "?" ahead then pass 1
  else return (expr, false)
  return (.other, true)

def trails (g : Grammar) (expr : Expr) : TokenReader Expr := steps g.trail expr

/-! ## Blocks and what ends with them -/

/-- A block without tags of its own. -/
def block (g : Grammar) : TokenReader Unit := group .braces g.statements

/-- A condition, in which no braces belong to a path. -/
def test (g : Grammar) : TokenReader Unit := do
  let _ ← g.exprWith false

/-- Branches, each but perhaps the last behind a condition. -/
def branches (g : Grammar) : TokenReader Unit := loop do
  keyword "if"
  g.test
  g.block
  if !(← keyword? "else") then return false
  let ahead ← ahead
  if seesWord "if" ahead then return true
  if !seesGroup .braces ahead then want [quote "if", "curly braces"]
  g.block
  return false

/-- The cases of a choice by patterns. A comma follows each but the last, unless it ends with a block. -/
def branchesByPattern (g : Grammar) : TokenReader Unit := loop do
  if ← atEnd then return false
  let _ ← g.tags
  let _ ← g.choice
  if ← keyword? "if" then
    let _ ← g.expr
  mark "=>"
  let body ← g.standing
  if body != .closed && !(← atEnd) then mark ","
  else
    let _ ← mark? ","
  return true

/-- Whether lifetimes follow the keyword that a loop or a closure may start with. -/
def seesBinder (tokens : List Token) : Bool :=
  let behind := tokens.tail
  seesWord "for" tokens && seesMark "<" behind &&
    (seesLifetime behind.tail || seesMark ">" behind.tail)

def seesClosed (tokens : List Token) : Bool :=
  seesOneOf ["if", "while", "loop", "match", "unsafe"] tokens || seesGroup .braces tokens ||
    seesWord "for" tokens && !seesBinder tokens ||
    seesOneOf ["try", "const"] tokens && seesGroup .braces tokens.tail

/-- An expression that ends with a block: a block, a loop or a choice. -/
def closedExpr (g : Grammar) : TokenReader Unit := do
  let ahead ← ahead
  if seesWord "if" ahead then g.branches
  else if seesWord "while" ahead then
    pass 1
    g.test
    g.taggedBlock
  else if seesWord "for" ahead then
    pass 1
    let _ ← g.choice
    keyword "in"
    g.test
    g.taggedBlock
  else if seesWord "match" ahead then
    pass 1
    g.test
    group .braces do
      g.innerTags
      g.branchesByPattern
  else if seesWord "try" ahead then
    pass 1
    g.block
  else
    if !seesGroup .braces ahead then pass 1
    g.taggedBlock

/-- A loop or block behind its label. -/
def labelled (g : Grammar) : TokenReader Unit := do
  lifetime
  mark ":"
  if ← sees fun ahead => seesOneOf ["while", "for", "loop"] ahead || seesGroup .braces ahead then
    g.closedExpr
  else want ["loop or block expression"]

/-- An expression that may end with its block: after the block only a point or a question mark goes on. -/
def anyStanding (g : Grammar) : TokenReader Expr := do
  let _ ← g.tags
  let ahead ← ahead
  let expr ←
    if seesClosed ahead then do
      g.closedExpr
      pure .closed
    else if seesLifetime ahead then do
      g.labelled
      pure .closed
    else g.unary true
  if expr != .closed then g.climb true .none expr
  else if ← sees fun ahead => seesPoint ahead || seesMark "?" ahead then
    g.climb true .none (← g.trails expr)
  else return expr

/-! ## Atoms -/

/-- A parameter of a closure. -/
def closureParameter (g : Grammar) : TokenReader Unit := do
  let _ ← g.tags
  let _ ← g.pattern
  if ← mark? ":" then
    let _ ← g.type true

def closure (g : Grammar) (braces : Bool) : TokenReader Unit := do
  let _ ← g.binder?
  for word in ["const", "static", "async", "move"] do
    let _ ← keyword? word
  mark "|"
  itemsUntil (seesMark "|") g.closureParameter ","
  mark "|"
  if ← mark? "->" then
    let _ ← g.type true
    g.block
  else
    let _ ← g.exprWith braces

def seesClosure (tokens : List Token) : Bool :=
  let behind := tokens.tail
  seesMark "|" tokens || seesOneOf ["move", "static"] tokens || seesBinder tokens ||
    seesWord "const" tokens && !seesGroup .braces behind ||
    seesWord "async" tokens && (seesMark "|" behind || seesWord "move" behind)

/-- A block that runs apart, perhaps taking what it uses with it. -/
def seesAsyncBlock (tokens : List Token) : Bool :=
  let behind := tokens.tail
  seesWord "async" tokens &&
    (seesGroup .braces behind || seesWord "move" behind && seesGroup .braces behind.tail)

/-- The fields between braces behind a path, and perhaps where all others come from. -/
def fieldValues (g : Grammar) : TokenReader Unit := loop do
  if ← atEnd then return false
  if ← mark? ".." then
    if !(← atEnd) then
      let _ ← g.expr
    return false
  let _ ← g.tags
  let named ← member
  if !named || (← sees (seesMark ":")) then
    mark ":"
    let _ ← g.expr
  if ← atEnd then return false
  mark ","
  return true

/-- A path, with what it is given in braces or behind an exclamation mark. -/
def pathExpr (g : Grammar) (braces : Bool) : TokenReader Expr := do
  let form ← g.pathInType? true
  let ahead ← ahead
  if form.any (·.plain) && seesInvocation ahead then
    pass 1
    let (delimiter, _) ← anyGroup
    return .invocation delimiter
  if braces && seesGroup .braces ahead then group .braces g.fieldValues
  return .other

/-- Elements in brackets: a list, or one element with a number of times. -/
def elementValues (g : Grammar) : TokenReader Unit :=
  group .brackets do
    if ← atEnd then return
    let _ ← g.expr
    let ahead ← ahead
    if ahead.isEmpty then return
    if ← mark? "," then
      let _ ← items g.expr ","
    else if ← mark? ";" then
      let _ ← g.expr
    else want [quote "," ++ " or " ++ quote ";"]

/-- Whether an expression may come next. -/
def seesExpr (tokens : List Token) : Bool :=
  seesAnyWord tokens && !seesWord "as" tokens || seesGroup .parentheses tokens ||
    seesGroup .brackets tokens || seesGroup .braces tokens || seesLiteral tokens ||
    seesInvocation tokens || seesMark "-" tokens && !seesAnyMark ["-=", "->"] tokens ||
    seesMark "*" tokens && !seesMark "*=" tokens || seesMark "|" tokens && !seesMark "|=" tokens ||
    seesMark "&" tokens && !seesMark "&=" tokens || seesMark ".." tokens ||
    seesMark "<" tokens && !seesAnyMark ["<=", "<<="] tokens || seesMark "::" tokens ||
    seesLifetime tokens || seesMark "#" tokens

/-- An expression, if one may come next. -/
def exprIfSeen (g : Grammar) : TokenReader Unit := do
  if ← sees seesExpr then
    let _ ← g.expr

/-- Leaves a loop or block, behind the keyword. A labelled loop has to stand in parentheses there. -/
def leave (g : Grammar) (braces : Bool) : TokenReader Unit := do
  if ← sees fun ahead => seesLifetime ahead && seesMark ":" ahead.tail then
    let _ ← g.expr
    throw .loopInBreak
  let _ ← lifetime?
  if braces || !(← sees (seesGroup .braces)) then g.exprIfSeen

/-- A pattern for the value of an expression, behind the keyword. -/
def binding (g : Grammar) (braces : Bool) : TokenReader Unit := do
  let _ ← g.choice
  mark "="
  let _ ← g.climb braces .compare (← g.unary braces)

/-- Something built in, with arguments of any kind. -/
def builtIn : TokenReader Unit := do
  pass 2
  let _ ← name
  group .parentheses do pass (← ahead).length

def seesPathExpr (tokens : List Token) : Bool :=
  seesSegment tokens || seesAnyMark ["::", "<"] tokens ||
    seesWord "try" tokens && seesAnyMark ["!", "::"] tokens.tail

/-- An atom that starts with a keyword of its own, of which nothing is known. -/
def keywordExpr (g : Grammar) (braces : Bool) (word : String) : TokenReader Unit := do
  pass 1
  match word with
  | "break" => g.leave braces
  | "continue" => do
    let _ ← lifetime?
  | "return" | "yield" => g.exprIfSeen
  | "become" => do
    let _ ← g.expr
  | "let" => g.binding braces
  | _ => return

def keywordExprs : List String := ["break", "continue", "return", "become", "let", "yield", "_"]

def atom (g : Grammar) (braces : Bool) : TokenReader Expr := do
  let ahead ← ahead
  if seesLiteral ahead then
    match ← literal with
    | .text content => return .text content
    | _ => return .other
  if seesPathExpr ahead && !(seesWord "builtin" ahead && seesMark "#" ahead.tail) then
    return ← g.pathExpr braces
  if seesClosed ahead then
    g.closedExpr
    return .closed
  if seesMark ".." ahead then
    g.range braces
    return .range
  if seesAsyncBlock ahead then
    pass 1
    let _ ← keyword? "move"
    g.block
  else if seesClosure ahead then g.closure braces
  else if seesWord "builtin" ahead then builtIn
  else if seesGroup .parentheses ahead then g.callArguments
  else if seesGroup .brackets ahead then g.elementValues
  else if seesLifetime ahead then
    g.labelled
    return .closed
  else
    match ahead with
    | .word word :: _ =>
      if keywordExprs.contains word then g.keywordExpr braces word else want ["an expression"]
    | _ => want ["an expression"]
  return .other

/-- An expression without binary operators. -/
def anyUnary (g : Grammar) (braces : Bool) : TokenReader Expr := do
  let tagged := !(← g.tags).isEmpty
  if ← mark? "&" then
    let raw ← sees fun ahead => seesWord "raw" ahead && seesOneOf ["mut", "const"] ahead.tail
    if raw then pass 1
    let changed ← keyword? "mut"
    if raw && !changed then keyword "const"
    let _ ← g.unary braces
    return .other
  else if ← sees (seesAnyMark ["*", "!", "-"]) then
    pass 1
    let _ ← g.unary braces
    return .other
  else
    let expr ← g.trails (← g.atom braces)
    if tagged && expr = .range then throw .tagOnRange
    return expr

end Annotations.SchemaDecl.Grammar
