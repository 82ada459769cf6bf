import Annotations.Action
import Annotations.Alias
import Annotations.Table

/-!
Alias links with the answers found so far: a link, the aliases of a type and the presence of a
meta-annotation are worked out once and then recalled. Failures are not kept, but what was found
before a failure is.
-/
namespace Annotations

/-- Answers found so far: links by attribute, aliases by type, presence by both types, and whether
views of a type need alias handling. -/
structure SynthMemo where
  links : Table (String × String) (Option AliasLink) := []
  groups : Table String (Entries (List String)) := []
  metaPresent : Table (String × String) Bool := []
  synthesizable : Table String Bool := []
deriving Inhabited

namespace SynthMemo

/-- One of the tables, to read and to replace. -/
structure Part (κ ν : Type) where
  read : SynthMemo → Table κ ν
  write : SynthMemo → Table κ ν → SynthMemo

def Part.links : Part (String × String) (Option AliasLink) :=
  ⟨(·.links), fun memo links => { memo with links }⟩

def Part.groups : Part String (Entries (List String)) :=
  ⟨(·.groups), fun memo groups => { memo with groups }⟩

def Part.metaPresent : Part (String × String) Bool :=
  ⟨(·.metaPresent), fun memo metaPresent => { memo with metaPresent }⟩

def markSynthesizable (memo : SynthMemo) (type : String) (answer : Bool) : SynthMemo :=
  { memo with synthesizable := memo.synthesizable.set type answer }

/-- The answer under a key, found now and kept if it is not there. -/
def remember {κ ν : Type} [DecidableEq κ] (part : Part κ ν) (key : κ) (find : Action SynthMemo ν) :
    Action SynthMemo ν := do
  match (part.read (← get)).find? key with
  | some known => return known
  | none =>
    let found ← find
    modify fun memo => part.write memo ((part.read memo).set key found)
    return found

end SynthMemo

namespace Registry

def recallMetaPresent (reg : Registry) (type target : String) : Action SynthMemo Bool :=
  SynthMemo.remember .metaPresent (type, target) (return reg.isMetaPresent type target)

def recallCheck (reg : Registry) (type : String) (attr : Attr) (decl : AliasFor) :
    Action SynthMemo AliasLink := do
  let link := declaredLink type attr decl
  let target ← reg.aimedAttr link
  if !link.isPair then
    if !(← reg.recallMetaPresent type link.targetType) then
      throw (.aliasTargetNotMetaPresent type attr.name link.targetType link.targetAttr)
  checkEnds attr link target

def recallLink (reg : Registry) (type attr : String) : Action SynthMemo (Option AliasLink) :=
  SynthMemo.remember .links (type, attr) do
    let decl ← reg.type type
    match decl.attr? attr with
    | none => throw (.attributeNotFound attr type)
    | some attr =>
      match attr.aliasFor with
      | none => return none
      | some decl => some <$> reg.recallCheck type attr decl

def recallOverride (reg : Registry) (link : AliasLink) : Action SynthMemo (Option AliasLink) :=
  if link.isPair then return none else reg.recallLink link.targetType link.targetAttr

/-- A link and the links of what it overrides, until a source comes again, at most a given number. -/
def recallChainFrom (reg : Registry) :
    Nat → List (String × String) → AliasLink → Action SynthMemo (List AliasLink)
  | 0, _, link => return [link]
  | bound + 1, seen, link => do
    match ← reg.recallOverride link with
    | none => return [link]
    | some next =>
      if seen.contains next.source then return [link]
      else return link :: (← reg.recallChainFrom bound (next.source :: seen) next)

/-- A chain comes by each declared attribute at most once. -/
def recallChain (reg : Registry) (link : AliasLink) : Action SynthMemo (List AliasLink) :=
  reg.recallChainFrom (reg.attrKeys.length + 1) [link.source] link

def recallImplicit (reg : Registry) (type : String) (attr : Attr) (link : AliasLink) :
    List Attr → Action SynthMemo (List String)
  | [] => return []
  | other :: rest => do
    if other.name = attr.name then
      reg.recallImplicit type attr link rest
    else
      match ← reg.recallLink type other.name with
      | none => reg.recallImplicit type attr link rest
      | some otherLink =>
        let chain ← reg.recallChain link
        let otherChain ← reg.recallChain otherLink
        if shareTarget chain otherChain then
          checkDefaults type attr type other
          return other.name :: (← reg.recallImplicit type attr link rest)
        else
          reg.recallImplicit type attr link rest

def recallAliasNames (reg : Registry) (type attr : String) : Action SynthMemo (List String) := do
  match ← reg.recallLink type attr with
  | none => return []
  | some link =>
    if link.isPair then return [link.targetAttr]
    let decl ← reg.type type
    match decl.attr? attr with
    | none => return []
    | some attr => reg.recallImplicit type attr link decl.attrs

def recallOverrideName (reg : Registry) (type attr target : String) :
    Action SynthMemo (Option String) := do
  match ← reg.recallLink type attr with
  | none => return none
  | some link =>
    let chain ← reg.recallChain link
    return (chain.find? (·.targetType == target)).map (·.targetAttr)

def recallAliasMapOf (reg : Registry) (type : String) :
    Entries (List String) → List Attr → Action SynthMemo (Entries (List String))
  | found, [] => return found
  | found, attr :: rest => do
    let aliases ← reg.recallAliasNames type attr.name
    reg.recallAliasMapOf type (if aliases.isEmpty then found else found.put attr.name aliases) rest

def recallAliasMap (reg : Registry) (type : String) : Action SynthMemo (Entries (List String)) :=
  SynthMemo.remember .groups type do
    let decl ← reg.type type
    reg.recallAliasMapOf type [] decl.attrs

end Registry
end Annotations
