import Annotations.SchemaDecl.Grammar.Expressions
import Annotations.SchemaDecl.Grammar.Items

/-!
Statements, and the grammar as a whole.
-/
namespace Annotations.SchemaDecl
namespace Grammar
open TokenReader

/-- Whether what lies between two places ends with braces. -/
def endsWithBraces (before after : List Token) : Bool :=
  match (before.take (before.length - after.length)).getLast? with
  | some (.group .braces _) => true
  | _ => false

/-- A variable with its type and its value. A block for other values may follow a value that does not end
with braces. -/
def letStatement (g : Grammar) : TokenReader Unit := do
  keyword "let"
  let _ ← g.pattern
  if ← mark? ":" then
    let _ ← g.type true
  if ← mark? "=" then
    let before ← ahead
    let _ ← g.expr
    let after ← ahead
    if seesWord "else" after && !endsWithBraces before after then
      pass 1
      g.block
  mark ";"

/-- Whether an item comes next, and no expression. -/
def seesItem (tokens : List Token) : Bool :=
  let behind := tokens.tail
  let third := behind.tail
  let isStatic := seesWord "static" tokens && (seesWord "mut" behind ||
    seesName behind && !(seesWord "async" behind && (seesWord "move" third || seesMark "|" third)))
  let isConst := seesWord "const" tokens && !(seesGroup .braces behind ||
    seesOneOf ["static", "move"] behind || seesMark "|" behind ||
    seesWord "async" behind && !seesOneOf ["unsafe", "extern", "fn"] third)
  seesOneOf ["pub", "extern", "use", "fn", "mod", "type", "struct", "enum", "trait", "impl", "macro"]
      tokens ||
    seesWord "crate" tokens && !seesMark "::" behind || isStatic || isConst ||
    seesWord "unsafe" tokens && !seesGroup .braces behind ||
    seesWord "async" tokens && seesOneOf ["unsafe", "extern", "fn"] behind ||
    seesWord "union" tokens && seesName behind || seesWord "auto" tokens && seesWord "trait" behind ||
    seesWord "default" tokens && seesOneOf ["unsafe", "impl"] behind

/-- What an invocation at the start of a statement amounts to. -/
inductive Invoked where
  /-- It has a name behind its mark. -/
  | item
  /-- It has braces, and stands for itself. -/
  | statement (next : Progress)
  | none

/-- Looks for an invocation at the start of a statement. -/
def invoked : TokenReader Invoked := do
  match ← foresee plainPath with
  | some (_, next) =>
    let behind := next.ahead.tail
    if !seesMark "!" next.ahead then return .none
    if seesName behind || seesWord "try" behind then return .item
    let goesOn := seesPoint behind.tail || seesMark "?" behind.tail
    if seesGroup .braces behind && !goesOn then return .statement next
    return .none
  | none => return .none

/-- A statement, and whether a semicolon has to part it from the next. -/
def statement (g : Grammar) : TokenReader Bool := do
  let _ ← g.tags
  let ahead ← ahead
  match ← invoked with
  | .statement next =>
    resume next
    pass 2
    let _ ← mark? ";"
    return false
  | .item =>
    g.item
    return false
  | .none =>
    if seesWord "let" ahead then
      g.letStatement
      return false
    else if seesItem ahead then
      g.item
      return false
    else
      let expr ← g.standing
      let parted ← mark? ";"
      return !parted && expr != .closed && expr != .invocation .braces

/-- All statements of a block. -/
def anyStatements (g : Grammar) : TokenReader Unit := loop do
  if ← mark? ";" then return true
  if ← atEnd then return false
  let needsSemicolon ← g.statement
  if ← atEnd then return false
  if needsSemicolon then throw .semicolonMissing
  return true

/-! ## The grammar -/

/-- The grammar in which nothing may stand inside another. -/
def flat : Grammar where
  type _ := want []
  bound _ := want []
  pattern := want []
  unary _ := want []
  climb _ _ _ := want []
  standing := want []
  statements := want []
  item := want []
  fields := want []

/-- The grammar in which parts of another may stand inside one another. -/
def deepened (g : Grammar) : Grammar where
  type := g.anyType
  bound := g.anyBound
  pattern := g.anyPattern
  unary := g.anyUnary
  climb := g.anyClimb
  standing := g.anyStanding
  statements := g.anyStatements
  item := g.anyItem
  fields := do
    let _ ← g.namedFields

/-- The grammar in which parts stand inside one another so many times at most. -/
def upTo : Nat → Grammar
  | 0 => flat
  | depth + 1 => (upTo depth).deepened

end Grammar

/-- The grammar for some tokens. Parts that stand at one place inside one another are few. -/
def grammarFor (tokens : List Token) : Grammar := Grammar.upTo (8 * (sizeOfAll tokens + 4))

end Annotations.SchemaDecl
