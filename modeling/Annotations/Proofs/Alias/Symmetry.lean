import Annotations.Proofs.Alias.Groups
import Annotations.Proofs.Graph.Hierarchy
import Annotations.Proofs.Graph.Reachability

/-!
Alias lists of a type that is not meta-present on itself: where pairs are mutual they are symmetric,
and an attribute and its list form one group for all its members.
-/
namespace Annotations
namespace Registry

variable {reg : Registry} {type : String} {decl : AnnotType} {groups : Entries (List String)}
  {source target : String × String} {a b c : String}

/-- A meta-annotation is present exactly where a chain of meta-annotations leads to its type. -/
theorem isMetaPresent_iff {target : String} :
    reg.isMetaPresent type target = true ↔ Graph.Reaches reg.metaGraph type target := by
  rw [← Graph.mem_next_preorder_iff]
  simp only [isMetaPresent, List.any_eq_true, List.contains_iff_mem]

/-- One type is registered and has an annotation of the other on it. -/
def BearsMeta (reg : Registry) (below above : String) : Prop :=
  ∃ decl, reg.type below = .ok decl ∧ ∃ annot ∈ decl.metas, annot.type = above

theorem bearsMeta_iff {below above : String} :
    reg.BearsMeta below above ↔ above ∈ reg.metaGraph.next below := by
  rw [metaGraph_next, BearsMeta]
  cases known : reg.type below with
  | error e => simp
  | ok decl => simp [AnnotType.metaTypes]

theorem isMetaPresent_iff_transGen {target : String} :
    reg.isMetaPresent type target = true ↔ Relation.TransGen reg.BearsMeta type target :=
  isMetaPresent_iff.trans (Graph.reaches_iff_transGen fun _ _ => bearsMeta_iff)

/-- What an override aims at is a meta-annotation of its own type. -/
theorem Aims.reaches (h : reg.Aims source target) (away : target.1 ≠ source.1) :
    Graph.Reaches reg.metaGraph source.1 target.1 := by
  obtain ⟨link, found, rfl⟩ := h
  obtain ⟨_, attr, aim, _, _, _, valid⟩ := aliasLink_declared found
  obtain ⟨_, _, _, present, _⟩ := checkAlias_ends valid
  obtain ⟨types, _⟩ := Prod.mk.inj (checkAlias_source valid)
  refine isMetaPresent_iff.1 (present ?_)
  simpa [AliasLink.isPair, AliasLink.target, types] using away

/-- All that an override chain comes by lies on meta-annotations of its own type. -/
theorem Targets.reaches {first : String × String} (h : reg.Targets source target)
    (aims : reg.Aims source first) (away : first.1 ≠ source.1) :
    Graph.Reaches reg.metaGraph source.1 target.1 := by
  induction h generalizing first with
  | aim here =>
    cases here.unique aims
    exact aims.reaches away
  | @override source next target here _ behind ih =>
    cases here.unique aims
    obtain ⟨second, aims'⟩ := behind.aims
    by_cases pair : second.1 = next.1
    · cases behind.eq_of_pair aims' pair
      rw [pair]
      exact aims.reaches away
    · exact (aims.reaches away).trans (ih aims' pair)

/-- An attribute with its aliases. -/
def aliasGroup (groups : Entries (List String)) (name : String) : List String :=
  name :: listed groups name

/-- An override name is on the chain of the attribute. -/
theorem overrideName_behind {attr meta' name : String}
    (h : reg.overrideName type attr meta' = .ok (some name)) :
    reg.Targets (type, attr) (meta', name) := by
  obtain ⟨found, asked, h⟩ := Outcome.bind_ok h
  cases found with
  | none => cases h
  | some link =>
    obtain ⟨linked, source⟩ := Linked.of_aliasLink asked
    obtain ⟨chain, made, h⟩ := Outcome.bind_ok h
    obtain ⟨item, first, rfl⟩ := Option.map_eq_some_iff.1 (Except.ok.inj h)
    have there : item.targetType = meta' := by simpa using List.find?_some first
    subst there
    rw [← source]
    exact (mem_overrideChain made linked item.target).1 ⟨item, List.mem_of_find?_eq_some first, rfl⟩

/-- An attribute with an override name of another type is an override. -/
theorem overrideName_targets {attr meta' name : String} (apart : meta' ≠ type)
    (h : reg.overrideName type attr meta' = .ok (some name)) :
    reg.Overriding (type, attr) ∧ reg.Targets (type, attr) (meta', name) := by
  have behind := overrideName_behind h
  obtain ⟨next, aims⟩ := behind.aims
  refine ⟨⟨next, aims, fun pair => apart ?_⟩, behind⟩
  -- a pair's chain stays inside the type
  exact (congrArg Prod.fst (behind.eq_of_pair aims pair)).trans pair

namespace AliasMapOf

section

variable (h : reg.AliasMapOf type decl groups) (matched : reg.PairsMatched)

include h matched

/-- Of two members of a group, one is on the alias list of the other. -/
theorem comparable_in_group (left : b ∈ aliasGroup groups a) (right : c ∈ aliasGroup groups a)
    (differ : b ≠ c) : b ∈ listed groups c ∨ c ∈ listed groups b := by
  rcases List.mem_cons.1 left with rfl | left
  · exact .inr ((List.mem_cons.1 right).resolve_left (Ne.symm differ))
  · rcases List.mem_cons.1 right with rfl | right
    · exact .inl left
    · exact h.comparable matched left right differ

/-- The group of an attribute has all of the group of each attribute that it lists. -/
theorem aliasGroup_subset (there : b ∈ listed groups a) :
    aliasGroup groups b ⊆ aliasGroup groups a := by
  intro member mem
  rcases List.mem_cons.1 mem with rfl | further
  · exact .tail _ there
  · by_cases itself : member = a
    · exact itself ▸ .head _
    · exact .tail _ (h.listed_trans matched there further itself)

/-- Two attributes that list each other have the same group. -/
theorem aliasGroup_of_both (there : b ∈ listed groups a) (here : a ∈ listed groups b) :
    c ∈ aliasGroup groups a ↔ c ∈ aliasGroup groups b :=
  ⟨fun mem => h.aliasGroup_subset matched here mem, fun mem => h.aliasGroup_subset matched there mem⟩

/-- Two attributes that override members of one group of another type list each other. -/
theorem listed_of_overrides {meta' u v : String} {metaDecl : AnnotType}
    {metaGroups : Entries (List String)} (metaMap : reg.AliasMapOf meta' metaDecl metaGroups)
    (aMem : a ∈ decl.attrs.map (·.name)) (bMem : b ∈ decl.attrs.map (·.name)) (differ : a ≠ b)
    (apart : meta' ≠ type) (lands : reg.overrideName type a meta' = .ok (some u))
    (lands' : reg.overrideName type b meta' = .ok (some v)) (group : v ∈ aliasGroup metaGroups u) :
    b ∈ listed groups a := by
  obtain ⟨⟨first, aims, out⟩, behind⟩ := overrideName_targets apart lands
  obtain ⟨⟨first', aims', out'⟩, behind'⟩ := overrideName_targets apart lands'
  have through := matched.back
  refine (h.mem_iff_of_override aMem ⟨first, aims, out⟩).2 ⟨differ.symm, bMem, ?_⟩
  rcases List.mem_cons.1 group with rfl | group
  · exact ⟨_, behind, behind'⟩
  · rcases (metaMap.mem_iff (metaMap.source_declared group)).1 group with pair | ⟨_, _, _, shares⟩
    · exact ⟨_, .trans through aims out behind (.aim pair), behind'⟩
    · obtain ⟨z, further, further'⟩ := shares
      exact ⟨z, .trans through aims out behind further, .trans through aims' out' behind' further'⟩

end

variable (h : reg.AliasMapOf type decl groups) (matched : reg.PairsMatched)
  (apart : reg.isMetaPresent type type = false)

include h matched apart

theorem listed_symm (mem : b ∈ listed groups a) : a ∈ listed groups b := by
  have aMem := h.source_declared mem
  have bMem := h.target_declared mem
  rcases (h.mem_iff aMem).1 mem with aims | ⟨outward, _, _, shares⟩
  · exact (h.mem_iff bMem).2 (.inl (h.aims_back matched aims))
  · obtain ⟨u, behind, behind'⟩ := shares
    obtain ⟨next, aims'⟩ := behind'.aims
    refine h.listed_symm_of_overrides outward ⟨next, aims', fun pair => ?_⟩ mem
    -- a pair would be met again on a meta-annotation of its own type
    obtain ⟨first, aims, away⟩ := outward
    cases behind'.eq_of_pair aims' pair
    have reached := behind.reaches aims away
    rw [pair] at reached
    exact absurd (isMetaPresent_iff.2 reached) (by simp [apart])

/-- Every member of a group has the same group. -/
theorem mem_aliasGroup_iff (mem : b ∈ aliasGroup groups a) :
    c ∈ aliasGroup groups a ↔ c ∈ aliasGroup groups b := by
  rcases List.mem_cons.1 mem with rfl | there
  · rfl
  · exact h.aliasGroup_of_both matched there (h.listed_symm matched apart there)

end AliasMapOf
end Registry
end Annotations
