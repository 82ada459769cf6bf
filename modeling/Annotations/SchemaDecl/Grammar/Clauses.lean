import Annotations.SchemaDecl.Grammar

/-!
Clauses, which are what tags hold: a path alone, a setting, or a path with arguments.
-/
namespace Annotations.SchemaDecl

/-- Words between colons, the first of which may stand behind colons too. -/
structure Path where
  rooted : Bool
  segments : List String
deriving DecidableEq, Repr

/-- The name that a path is, if it is no more than that. -/
def Path.name? (path : Path) : Option String :=
  match path.rooted, path.segments with
  | false, [name] => some name
  | _, _ => none

def Path.text (path : Path) : String :=
  (if path.rooted then "::" else "") ++ "::".intercalate path.segments

/-- A clause as understood. Of a value no more is kept than the text it is, if it is one. -/
inductive Clause where
  | path (path : Path)
  | setting (path : Path) (content : Option String)
  | call (path : Path) (arguments : List Token)
deriving Repr

def Clause.head : Clause → Path
  | .path place | .setting place _ | .call place _ => place

namespace Grammar
open TokenReader

/-- Keywords that may stand in a path. -/
def placeKeywords : List String := ["super", "self", "Self", "crate"]

def seesSegment (tokens : List Token) : Bool := seesName tokens || seesOneOf placeKeywords tokens

/-- A path whose words have no arguments. -/
def plainPath : TokenReader Path := do
  let rooted ← mark? "::"
  let (segments, behindColons) ← steps (fun (taken, _) => do
    if !(← sees seesSegment) then return ((taken, true), false)
    let taken := (← anyWord) :: taken
    let more ← mark? "::"
    return ((taken, more), more)) ([], false)
  if segments.isEmpty then
    return { rooted, segments := [← name] }
  if behindColons then want ["path segment after " ++ quote "::"]
  return { rooted, segments := segments.reverse }

/-- The path of a clause. One more keyword may be a path on its own. -/
def clausePath : TokenReader Path := do
  if ← keyword? "unsafe" then return { rooted := false, segments := ["unsafe"] } else plainPath

/-- The value of a setting: a literal that ends the group, or an expression. -/
def value (g : Grammar) : TokenReader (Option String) := do
  match SchemaDecl.literal? (← ahead) with
  | some (.text content, _, []) =>
    pass 1
    return some content
  | _ =>
    if ← sees fun ahead => seesMark "#" ahead && seesGroup .brackets ahead.tail then throw .tagInTag
    match ← g.expr with
    | .text content => return some content
    | _ => return none

def clause (g : Grammar) : TokenReader Clause := do
  let path ← clausePath
  match ← ahead with
  | .group _ arguments :: _ =>
    pass 1
    return .call path arguments
  | _ => if ← mark? "=" then return .setting path (← g.value) else return .path path

/-- The clauses of the tags that come next. -/
def tags (g : Grammar) : TokenReader (List Clause) := do
  let taken ← steps (fun taken => do
    if ← mark? "#" then return ((← group .brackets g.clause) :: taken, true)
    else return (taken, false)) []
  return taken.reverse

/-- The tags that belong to the item around them. -/
def innerTags (g : Grammar) : TokenReader Unit := loop do
  let here ← sees fun ahead => seesMark "#" ahead && seesMark "!" ahead.tail
  if here then
    pass 2
    let _ ← group .brackets g.clause
  return here

end Grammar
end Annotations.SchemaDecl
