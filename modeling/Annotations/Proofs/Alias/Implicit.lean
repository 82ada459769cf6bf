import Annotations.Proofs.Alias.Groups
import Annotations.Vocabulary.Web
import Mathlib.Control.Monad.Basic
import Mathlib.Data.Setoid.Partition

/-!
Groups of overrides. Where pairs are mutual, the attributes of a type that declare overrides fall into
groups whose members list each other and declare one default, wherever their chains lead and end.
-/
namespace Annotations
namespace Registry

variable {reg : Registry} {type : String} {decl : AnnotType} {groups : Entries (List String)}
  {left right : Attr}

/-- The attributes of a type that are declared as aliases of an attribute of another type. -/
def overrides (type : String) (decl : AnnotType) : Set Attr :=
  {attr | attr ∈ decl.attrs ∧ ∃ aim, attr.aliasFor = some aim ∧
    (declaredLink type attr aim).isPair = false}

/-- An attribute is on the alias list of another of its type. -/
def Lists (reg : Registry) (type : String) (left right : Attr) : Prop :=
  ∃ names, reg.aliasNames type left.name = .ok names ∧ right.name ∈ names

namespace AliasMapOf

theorem lists_iff (map : reg.AliasMapOf type decl groups) (mem : left ∈ decl.attrs) :
    reg.Lists type left right ↔ right.name ∈ listed groups left.name := by
  constructor
  · rintro ⟨names, made, listing⟩
    cases made.symm.trans (map.right left mem)
    exact listing
  · exact fun listing => ⟨_, map.right left mem, listing⟩

/-- In a type whose alias map is there, a declared override is a valid one. -/
theorem overriding (map : reg.AliasMapOf type decl groups)
    (distinct : (decl.attrs.map (·.name)).Nodup) (outward : left ∈ overrides type decl) :
    reg.Overriding (type, left.name) := by
  obtain ⟨mem, aim, aliased, away⟩ := outward
  refine ⟨_, ⟨_, map.link (attr?_of_mem distinct mem) aliased, rfl⟩, ?_⟩
  simpa [AliasLink.isPair, AliasLink.target, declaredLink] using away

end AliasMapOf

/-- Attributes of one type with one name are one attribute. -/
theorem attr_eq_of_name (distinct : (decl.attrs.map (·.name)).Nodup) (mem : left ∈ decl.attrs)
    (mem' : right ∈ decl.attrs) (same : left.name = right.name) : left = right := by
  have found := attr?_of_mem distinct mem
  rw [same, attr?_of_mem distinct mem'] at found
  exact (Option.some.inj found).symm

section

variable (distinct : (decl.attrs.map (·.name)).Nodup) (map : reg.AliasMapOf type decl groups)

include distinct map

theorem lists_symm (outward : left ∈ overrides type decl) (outward' : right ∈ overrides type decl)
    (lists : reg.Lists type left right) : reg.Lists type right left := by
  exact (map.lists_iff outward'.1).2 (map.listed_symm_of_overrides (map.overriding distinct outward)
    (map.overriding distinct outward') ((map.lists_iff outward.1).1 lists))

/-- An override lists attributes with its own default. -/
theorem sameDefault_of_lists (mem : left ∈ decl.attrs) (mem' : right ∈ decl.attrs)
    (lists : reg.Lists type left right) : SameDefault left right := by
  obtain ⟨_, attr, partner, found, found', same⟩ := map.partner ((map.lists_iff mem).1 lists)
  cases found.symm.trans (attr?_of_mem distinct mem)
  cases found'.symm.trans (attr?_of_mem distinct mem')
  exact same

/-- Among the overrides of a type being listed is an equivalence, but for an attribute and itself. -/
theorem lists_equivalence (matched : reg.PairsMatched) :
    Equivalence fun left right : overrides type decl =>
      left = right ∨ reg.Lists type left right where
  refl left := .inl rfl
  symm := by
    rintro left right (same | lists)
    · exact .inl same.symm
    · exact .inr (lists_symm distinct map left.2 right.2 lists)
  trans := by
    rintro ⟨left, outward⟩ ⟨middle, outward'⟩ ⟨right, outward''⟩ (same | lists) (same' | lists')
    · exact .inl (same.trans same')
    · cases same
      exact .inr lists'
    · cases same'
      exact .inr lists
    · by_cases one : right.name = left.name
      · exact .inl (Subtype.ext (attr_eq_of_name distinct outward.1 outward''.1 one.symm))
      · refine .inr ((map.lists_iff outward.1).2 ?_)
        exact map.listed_trans matched ((map.lists_iff outward.1).1 lists)
          ((map.lists_iff outward'.1).1 lists') one

end

/-- The overrides of a type fall into groups. Each member of a group lists exactly the other members
among the overrides, and has the same default as each of them. -/
theorem overrides_grouped (matched : reg.PairsMatched) (known : reg.type type = .ok decl)
    (distinct : (decl.attrs.map (·.name)).Nodup) (mapped : reg.aliasMap type = .ok groups) :
    (∀ attr ∈ overrides type decl, ∃ names, reg.aliasNames type attr.name = .ok names) ∧
    (∀ left ∈ overrides type decl, ∀ right ∈ overrides type decl,
      reg.Lists type left right → reg.Lists type right left) ∧
    Equivalence (fun left right : overrides type decl =>
      left = right ∨ reg.Lists type left right) ∧
    ∃ parts : Set (Set (overrides type decl)), Setoid.IsPartition parts ∧
      ∀ group ∈ parts, ∀ left ∈ group, ∀ right,
        (right ∈ group ↔ right = left ∨ reg.Lists type left right) ∧
        (right ∈ group → right ≠ left → SameDefault left right) := by
  obtain ⟨_, map⟩ := aliasMapOf_aliasMap mapped
  cases known.symm.trans map.known
  have equivalence := lists_equivalence distinct map matched
  refine ⟨fun attr outward => ⟨_, map.right attr outward.1⟩,
    fun left outward right outward' lists => lists_symm distinct map outward outward' lists, equivalence,
    Setoid.classes ⟨_, equivalence⟩, Setoid.isPartition_classes _, ?_⟩
  rintro _ ⟨center, rfl⟩ left inside right
  have members : right ∈ {other | other = center ∨ reg.Lists type other center} ↔
      right = left ∨ reg.Lists type left right := by
    constructor
    · intro there
      exact (equivalence.trans inside (equivalence.symm there)).imp_left Eq.symm
    · rintro (rfl | lists)
      · exact inside
      · exact equivalence.trans (equivalence.symm (.inr lists)) inside
  refine ⟨members, fun there apart => ?_⟩
  exact sameDefault_of_lists distinct map left.2.1 right.2.1 ((members.1 there).resolve_left apart)

section

open Vocabulary

/-- Two overrides meet on a ring of overrides, two on the halves of a pair, and one ends alone. -/
def ping : AnnotType where
  metas := [⟨"test.Pong", []⟩]
  attrs := [
    textAttr "around" (overridingAttr "test.Pong" "around"),
    textAttr "along" (overridingAttr "test.Pong" "around"),
    textAttr "left" (overridingAttr "test.Pong" "path"),
    textAttr "right" (overridingAttr "test.Pong" "route"),
    textAttr "alone" (overridingAttr "test.Pong" "plain")]

/-- Two annotation types that are on each other. -/
def pingPong : Registry :=
  base.addTypes [
    ("test.Ping", ping),
    ("test.Pong", {
      metas := [⟨"test.Ping", []⟩]
      attrs := [
        textAttr "around" (overridingAttr "test.Ping" "around"),
        textAttr "path" (pairedWith "route"),
        textAttr "route" (pairedWith "path"),
        textAttr "plain"] })]

end

/-- On the ring, on the pair and alone, the overrides of a type that is met on itself fall into
groups. -/
theorem pingPong_overrides_grouped :
    pingPong.aliasMap "test.Ping" = .ok [("around", ["along"]), ("along", ["around"]),
        ("left", ["right"]), ("right", ["left"])] ∧
      ∃ parts : Set (Set (overrides "test.Ping" ping)), Setoid.IsPartition parts ∧
        ∀ group ∈ parts, ∀ left ∈ group, ∀ right, right ∈ group ↔
          right = left ∨ pingPong.Lists "test.Ping" left right := by
  have mapped : pingPong.aliasMap "test.Ping" = .ok [("around", ["along"]), ("along", ["around"]),
      ("left", ["right"]), ("right", ["left"])] := by with_unfolding_all decide
  have distinct : pingPong.DistinctAttrs := distinctAttrs_of_entries (by with_unfolding_all decide)
  have back : pingPong.PairsMutual := pairsMutual_of_entries (by with_unfolding_all decide)
  obtain ⟨_, _, _, parts, partition, members⟩ := @overrides_grouped pingPong "test.Ping" ping _
    (back.matched distinct) rfl (by decide) mapped
  exact ⟨mapped, parts, partition, fun group inside left mem right =>
    (members group inside left mem right).1⟩

end Registry
end Annotations
