import Annotations.Registry

/-!
Alias links between attributes. A link inside one type makes two attributes a pair; a link to a
meta-annotation overrides an attribute there, and overrides form chains. Two attributes of one type
whose chains share a target are aliases of each other as well.
-/
namespace Annotations

/-- A validated alias declaration. -/
structure AliasLink where
  sourceType : String
  sourceAttr : String
  targetType : String
  targetAttr : String
deriving DecidableEq, Repr

namespace AliasLink

def source (link : AliasLink) : String × String := (link.sourceType, link.sourceAttr)

def target (link : AliasLink) : String × String := (link.targetType, link.targetAttr)

/-- Both ends lie in one type. -/
def isPair (link : AliasLink) : Bool := link.targetType == link.sourceType

end AliasLink

namespace Registry

/-- Whether a meta-annotation of a type can be met on another, directly or through others. -/
def isMetaPresent (reg : Registry) (type target : String) : Bool :=
  (reg.metaGraph.preorder [] [type]).any fun above => (reg.metaGraph.next above).contains target

/-- Aliases of each other have to declare one default. -/
def checkDefaults (type : String) (attr : Attr) (targetType : String) (target : Attr) : Except Error Unit :=
  match attr.default?, target.default? with
  | some a, some b =>
    if a.same b then .ok () else .error (.aliasDefaultMismatch type attr.name targetType target.name)
  | _, _ => .error (.aliasDefaultMissing type attr.name targetType target.name)

/-- The declared target of an alias, once it is known to exist. -/
def aliasTarget (reg : Registry) (link : AliasLink) : Except Error Attr :=
  match (reg.types.get? link.targetType).bind (·.attr? link.targetAttr) with
  | some target => .ok target
  | none => .error (.aliasTargetMissing link.sourceType link.sourceAttr link.targetType link.targetAttr)

/-- The attribute that an alias declaration names back inside its own type. -/
def namedBack (target : Attr) : Option String := target.aliasFor.map fun back => back.attr.getD target.name

/-- The link that an alias declaration asks for. -/
def declaredLink (type : String) (attr : Attr) (decl : AliasFor) : AliasLink :=
  ⟨type, attr.name, decl.type.getD type, decl.attr.getD attr.name⟩

/-- The attribute that a link aims at, if it is another one and exists. -/
def aimedAttr (reg : Registry) (link : AliasLink) : Except Error Attr := do
  if link.target = link.source then
    throw (.aliasPointsToSelf link.sourceType link.sourceAttr)
  reg.aliasTarget link

/-- Checks both ends of a link whose target can be met. -/
def checkEnds (attr : Attr) (link : AliasLink) (target : Attr) : Except Error AliasLink := do
  if link.isPair && namedBack target != some attr.name then
    throw (.aliasNotMutual link.sourceType attr.name link.targetAttr (namedBack target))
  if attr.type != target.type && target.type.element? != some attr.type then
    throw (.aliasReturnTypeMismatch link.sourceType attr.name link.targetType link.targetAttr)
  if link.isPair then
    checkDefaults link.sourceType attr link.targetType target
  return link

/-- Validates the alias declaration of an attribute. -/
def checkAlias (reg : Registry) (type : String) (attr : Attr) (decl : AliasFor) :
    Except Error AliasLink := do
  let link := declaredLink type attr decl
  let target ← reg.aimedAttr link
  if !link.isPair && !reg.isMetaPresent type link.targetType then
    throw (.aliasTargetNotMetaPresent type attr.name link.targetType link.targetAttr)
  checkEnds attr link target

/-- The alias link of an attribute, if it declares one. -/
def aliasLink (reg : Registry) (type attr : String) : Except Error (Option AliasLink) := do
  let decl ← reg.type type
  match decl.attr? attr with
  | none => throw (.attributeNotFound attr type)
  | some attr =>
    match attr.aliasFor with
    | none => return none
    | some decl => some <$> reg.checkAlias type attr decl

/-- The link of the attribute that a link overrides; nothing lies behind a pair. -/
def overrideLink (reg : Registry) (link : AliasLink) : Except Error (Option AliasLink) :=
  if link.isPair then .ok none else reg.aliasLink link.targetType link.targetAttr

/-- Every declared attribute with its type. -/
def attrKeys (reg : Registry) : List (String × String) :=
  reg.types.flatMap fun entry => entry.2.attrs.map fun attr => (entry.1, attr.name)

theorem mem_attrKeys_of_attr? {reg : Registry} {name : String} {decl : AnnotType} {attr : Attr}
    (hd : reg.types.get? name = some decl) (ha : decl.attr? attr.name = some attr) :
    (name, attr.name) ∈ reg.attrKeys := by
  have := List.mem_of_find?_eq_some ha
  simp only [attrKeys, List.mem_flatMap, List.mem_map]
  exact ⟨_, Entries.mem_of_get? hd, attr, this, rfl⟩

theorem checkEnds_eq {attr : Attr} {link checked : AliasLink} {target : Attr}
    (h : checkEnds attr link target = .ok checked) : checked = link := by
  revert h
  simp only [checkEnds, bind, Except.bind, pure, Except.pure, throw, throwThe, MonadExceptOf.throw]
  repeat' split
  all_goals
    intro h
    cases h
  all_goals rfl

theorem checkAlias_eq {reg : Registry} {type : String} {attr : Attr} {decl : AliasFor}
    {link : AliasLink} (h : reg.checkAlias type attr decl = .ok link) :
    link = declaredLink type attr decl := by
  revert h
  simp only [checkAlias, bind, Except.bind, throw, throwThe, MonadExceptOf.throw]
  split
  · intro h; cases h
  · split
    · intro h; cases h
    · exact checkEnds_eq

theorem checkAlias_source {reg : Registry} {type : String} {attr : Attr} {decl : AliasFor}
    {link : AliasLink} (h : reg.checkAlias type attr decl = .ok link) :
    link.source = (type, attr.name) := by
  rw [checkAlias_eq h]
  rfl

theorem aliasLink_source {reg : Registry} {type attr : String} {link : AliasLink}
    (h : reg.aliasLink type attr = .ok (some link)) :
    link.source = (type, attr) ∧ (type, attr) ∈ reg.attrKeys := by
  revert h
  simp only [aliasLink, Registry.type, bind, Except.bind, pure, Except.pure, throw, throwThe,
    MonadExceptOf.throw]
  split
  · intro h; cases h
  · rename_i decl hd
    split at hd
    · rename_i found hf
      cases hd
      split
      · intro h; cases h
      · rename_i found' ha
        have hn : found'.name = attr := by
          have := List.find?_some ha
          simpa using this
        subst hn
        split
        · intro h; cases h
        · rename_i decl _
          cases hc : reg.checkAlias type found' decl with
          | error e => intro h; simp [Functor.map, Except.map] at h
          | ok got =>
            intro h
            simp only [Functor.map, Except.map, Except.ok.injEq, Option.some.injEq] at h
            subst h
            exact ⟨checkAlias_source hc, mem_attrKeys_of_attr? hf ha⟩
    · cases hd

/-- The declared attributes a walk along overrides has not come by. -/
def attrKeysAhead (reg : Registry) (seen : List (String × String)) : Nat :=
  (reg.attrKeys.filter fun key => !seen.contains key).length

theorem attrKeysAhead_lt {reg : Registry} {seen : List (String × String)} {key : String × String}
    (h : key ∈ reg.attrKeys) (fresh : ¬ seen.contains key) :
    reg.attrKeysAhead (key :: seen) < reg.attrKeysAhead seen := by
  unfold attrKeysAhead
  generalize reg.attrKeys = keys at h
  have mono (l : List (String × String)) : (l.filter fun k => !(key :: seen).contains k).length ≤
      (l.filter fun k => !seen.contains k).length := by
    rw [← List.countP_eq_length_filter, ← List.countP_eq_length_filter]
    refine List.countP_mono_left fun k _ hk => ?_
    simp at hk ⊢
    exact hk.2
  induction keys with
  | nil => simp at h
  | cons k rest ih =>
    by_cases hk : k = key
    · have := mono rest
      subst hk
      rw [List.filter_cons_of_neg (by simp), List.filter_cons_of_pos (by simpa using fresh)]
      exact Nat.lt_succ_of_le this
    · have := ih (by simpa [Ne.symm hk] using h)
      by_cases hs : seen.contains k <;> simp_all

/-- A link and the links of what it overrides, until a source comes again. -/
def overrideChainFrom (reg : Registry) (seen : List (String × String)) (link : AliasLink) :
    Except Error (List AliasLink) :=
  match _behind : reg.overrideLink link with
  | .error error => .error error
  | .ok none => .ok [link]
  | .ok (some next) =>
    if _fresh : seen.contains next.source then .ok [link]
    else (link :: ·) <$> reg.overrideChainFrom (next.source :: seen) next
termination_by reg.attrKeysAhead seen
decreasing_by
  refine attrKeysAhead_lt ?_ _fresh
  unfold overrideLink at _behind
  split at _behind
  · cases _behind
  · have := aliasLink_source _behind
    rw [this.1]
    exact this.2

theorem overrideChainFrom_error {reg : Registry} {seen : List (String × String)} {link : AliasLink}
    {error : Error} (behind : reg.overrideLink link = .error error) :
    reg.overrideChainFrom seen link = .error error := by
  rw [overrideChainFrom]
  split <;> simp_all

theorem overrideChainFrom_last {reg : Registry} {seen : List (String × String)} {link : AliasLink}
    (behind : reg.overrideLink link = .ok none) : reg.overrideChainFrom seen link = .ok [link] := by
  rw [overrideChainFrom]
  split <;> simp_all

theorem overrideChainFrom_again {reg : Registry} {seen : List (String × String)}
    {link next : AliasLink} (behind : reg.overrideLink link = .ok (some next))
    (again : seen.contains next.source) : reg.overrideChainFrom seen link = .ok [link] := by
  rw [overrideChainFrom]
  split <;> simp_all

theorem overrideChainFrom_fresh {reg : Registry} {seen : List (String × String)}
    {link next : AliasLink} (behind : reg.overrideLink link = .ok (some next))
    (fresh : ¬ seen.contains next.source) :
    reg.overrideChainFrom seen link =
      (link :: ·) <$> reg.overrideChainFrom (next.source :: seen) next := by
  rw [overrideChainFrom]
  split <;> simp_all

def overrideChain (reg : Registry) (link : AliasLink) : Except Error (List AliasLink) :=
  reg.overrideChainFrom [link.source] link

/-- Whether two chains come by one target. -/
def shareTarget (left right : List AliasLink) : Bool :=
  left.any fun l => right.any fun r => l.target == r.target

/-- Those of the given attributes that override what a link overrides. -/
def implicitAliases (reg : Registry) (type : String) (attr : Attr) (link : AliasLink) :
    List Attr → Except Error (List String)
  | [] => return []
  | other :: rest => do
    if other.name = attr.name then
      reg.implicitAliases type attr link rest
    else
      match ← reg.aliasLink type other.name with
      | none => reg.implicitAliases type attr link rest
      | some otherLink =>
        let chain ← reg.overrideChain link
        let otherChain ← reg.overrideChain otherLink
        if shareTarget chain otherChain then
          checkDefaults type attr type other
          return other.name :: (← reg.implicitAliases type attr link rest)
        else
          reg.implicitAliases type attr link rest

/-- The attributes of the same type that an attribute is an alias of. -/
def aliasNames (reg : Registry) (type attr : String) : Except Error (List String) := do
  match ← reg.aliasLink type attr with
  | none => return []
  | some link =>
    if link.isPair then return [link.targetAttr]
    let decl ← reg.type type
    match decl.attr? attr with
    | none => return []
    | some attr => reg.implicitAliases type attr link decl.attrs

/-- The attribute of a meta-annotation that an attribute overrides, the nearest one first. -/
def overrideName (reg : Registry) (type attr target : String) : Except Error (Option String) := do
  match ← reg.aliasLink type attr with
  | none => return none
  | some link =>
    let chain ← reg.overrideChain link
    return (chain.find? (·.targetType == target)).map (·.targetAttr)

/-- The aliases of an attribute inside its type or, if one is given, in a meta-annotation. -/
def resolveAliases (reg : Registry) (type attr : String) : Option String → Except Error (List String)
  | some target => Option.toList <$> reg.overrideName type attr target
  | none => reg.aliasNames type attr

/-- Puts the aliases of each attribute that has any. -/
def aliasMapOf (reg : Registry) (type : String) :
    Entries (List String) → List Attr → Except Error (Entries (List String))
  | found, [] => return found
  | found, attr :: rest => do
    let aliases ← reg.aliasNames type attr.name
    reg.aliasMapOf type (if aliases.isEmpty then found else found.put attr.name aliases) rest

/-- The aliases of every attribute of a type that has any. -/
def aliasMap (reg : Registry) (type : String) : Except Error (Entries (List String)) := do
  let decl ← reg.type type
  reg.aliasMapOf type [] decl.attrs

end Registry
end Annotations
