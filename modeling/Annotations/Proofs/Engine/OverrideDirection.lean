import Annotations.Proofs.Engine.Trails
import Annotations.Proofs.Merge.Direction
import Annotations.Vocabulary.Web

/-!
Overrides win from the outside: on the trail of a merged store, the annotation nearest to the
element that overrides a member of an alias group decides what the whole group holds, whatever the
annotations behind it give.
-/
namespace Annotations

open Annotations.Action SynthMemo Registry Value

/-- An attribute of an annotation decides an alias group of a target type: it is the first of its
type that overrides a member, no annotation before it on the trail overrides one, and none up to it
has an attribute that overrides nothing and is named like a member. -/
structure Trail.Decides (reg : Registry) (target : String) (group : List String) (outer : Trail)
    (annot : Annot) (attr : Attr) : Prop where
  aims : reg.AimsInto target group annot.type attr
  first : ∃ decl before after, reg.type annot.type = .ok decl ∧
    decl.attrs = before ++ attr :: after ∧
    ∀ other ∈ before, ¬ reg.AimsInto target group annot.type other
  nearest : ∀ step ∈ outer, ∀ decl, reg.type step.2.type = .ok decl → ∀ other ∈ decl.attrs,
    ¬ reg.AimsInto target group step.2.type other
  unnamed : ∀ step ∈ annot :: outer.map Prod.snd, ∀ decl, reg.type step.type = .ok decl →
    ∀ other ∈ decl.attrs, ¬ reg.NamesInto target group step.type other

namespace Merge

variable {merge : Merge} {element : Element} {annot : Annot} {groups : Entries (List String)}
  {group : List String} {pending : Pending} {attr : Attr}

/-- A trail of several annotations is built by an overlay of what the rest of it is built to. -/
theorem builds_cons {trail : Trail}
    (h : merge.processor.Builds (Sound merge.reg) ((element, annot) :: trail) pending)
    (more : trail ≠ []) : ∃ inner view groups written,
      merge.processor.Builds (Sound merge.reg) trail inner ∧
      Yields (Sound merge.reg) (merge.reg.viewAnnot annot (some element)) (.ok view) ∧
      merge.reg.aliasMap inner.type = .ok groups ∧
      Overlays merge element view groups view.type.attrs ([], inner) (written, pending) := by
  cases h with
  | last _ => exact absurd rfl more
  | step inner yields =>
    obtain ⟨view, groups, written, seen, mapped, overlays⟩ := override_overlays yields
    exact ⟨_, view, groups, written, inner, seen, mapped, overlays⟩

variable (merge)

/-- The annotation that decides a group gives its value to every member. -/
theorem builds_decides (distinct : merge.reg.DistinctAttrs)
    (mapped : merge.reg.aliasMap merge.target = .ok groups) (whole : WholeGroup groups group)
    {outer inner : Trail}
    (h : merge.processor.Builds (Sound merge.reg) (outer ++ (element, annot) :: inner) pending)
    (more : inner ≠ []) (decides : Trail.Decides merge.reg merge.target group outer annot attr) :
    ∃ value, merge.Synthesizes element annot attr.name value ∧
      ∀ name ∈ group, pending.slots.get? name = some (.given value) := by
  induction outer generalizing pending with
  | nil =>
    obtain ⟨result, view, groups', written, built, seen, mapped', overlays⟩ := builds_cons h more
    have type := (merge.builds_filled distinct built).1
    rw [type] at mapped'
    cases mapped.symm.trans mapped'
    have of := viewAnnot_of seen
    obtain ⟨decl, before, after, known, declared, first⟩ := decides.first
    cases known.symm.trans of.type
    rw [declared] at overlays
    have unnamed := decides.unnamed annot (.head _) _ known
    rw [declared] at unnamed
    have named := of.named
    obtain ⟨_, value, reads, given⟩ := overlays.decides whole type (named ▸ decides.aims)
      (fun other mem => named ▸ first other mem) fun other mem => named ▸ unnamed other mem
    exact ⟨value, ⟨view, seen, reads⟩, given⟩
  | cons step outer ih =>
    obtain ⟨result, view, groups', written, built, seen, mapped', overlays⟩ :=
      builds_cons h (by simp)
    have type := (merge.builds_filled distinct built).1
    rw [type] at mapped'
    cases mapped.symm.trans mapped'
    obtain ⟨value, synthesized, given⟩ := ih built
      ⟨decides.aims, decides.first, fun step mem => decides.nearest step (.tail _ mem),
        fun step mem => decides.unnamed step (by
          rcases List.mem_cons.1 mem with rfl | mem
          · exact .head _
          · exact .tail _ (.tail _ mem))⟩
    have of := viewAnnot_of seen
    have named := of.named
    have leaves := overlays.leaves whole type
      (fun other mem name inside lands => absurd ⟨name, inside, named ▸ lands⟩
        (decides.nearest step (.head _) _ of.type other mem))
      fun other mem => named ▸ decides.unnamed step.2 (.tail _ (.head _)) _ of.type other mem
    exact ⟨value, synthesized, fun name mem => (leaves.slots name mem).trans (given name mem)⟩

/-- Attributes of one annotation that are of one type and override members of one group have equal
values. -/
theorem synthesizes_same (distinct : merge.reg.DistinctAttrs) (back : merge.reg.PairsMutual)
    {target : String} {decl metaDecl : AnnotType}
    (map : merge.reg.AliasMapOf target metaDecl groups)
    (whole : WholeGroup groups group) (apart : annot.type ≠ target)
    (known : merge.reg.type annot.type = .ok decl) {other : Attr} (mem : attr ∈ decl.attrs)
    (mem' : other ∈ decl.attrs) (aims : merge.reg.AimsInto target group annot.type attr)
    (aims' : merge.reg.AimsInto target group annot.type other) (types : attr.type = other.type)
    {value value' : Value} (h : merge.Synthesizes element annot attr.name value)
    (h' : merge.Synthesizes element annot other.name value') : value.same value' = true := by
  obtain ⟨view, seen, reads⟩ := h
  obtain ⟨view', seen', reads'⟩ := h'
  have of := viewAnnot_of seen
  have of' := viewAnnot_of seen'
  obtain ⟨read, left, rendered⟩ := reads.bind_ok (merge.reg.asked_keeps.attr view attr.name)
  obtain ⟨read', right, rendered'⟩ := reads'.bind_ok (merge.reg.asked_keeps.attr view' other.name)
  obtain ⟨decl', ownMap⟩ := aliasMapOf_aliasMap of.aliases
  cases known.symm.trans ownMap.known
  cases known.symm.trans of.type
  have found := attr?_of_mem (distinct _ _ known) mem
  have found' := attr?_of_mem (distinct _ _ known) mem'
  have aliases := of.same_aliases of'
  obtain ⟨u, inside, lands⟩ := aims
  obtain ⟨v, inside', lands'⟩ := aims'
  suffices alike : sameOption attr.default? other.default? = true ∧ ∀ member,
      member ∈ aliasGroup view.aliases attr.name ↔ member ∈ aliasGroup view.aliases other.name by
    refine render_same _ _ _ _ (View.attr_alias_same of of' found (of.same_type of' ▸ found') types
      alike.1 (fun member => ?_) left right) rendered rendered'
    rw [← aliases]
    exact alike.2 member
  by_cases one : attr.name = other.name
  · rw [one] at found
    cases found.symm.trans found'
    exact ⟨sameOption_refl _, fun _ => .rfl⟩
  · have listedName {attr : Attr} (mem : attr ∈ view.type.attrs) :
        attr.name ∈ view.type.attrs.map (·.name) := List.mem_map_of_mem mem
    have matched := back.matched distinct
    have there := ownMap.listed_of_overrides matched map (listedName mem)
      (listedName mem') one apart.symm lands lands' (whole.whole u inside v inside')
    have here := ownMap.listed_of_overrides matched map (listedName mem') (listedName mem)
      (Ne.symm one) apart.symm lands' lands (whole.whole v inside' u inside)
    obtain ⟨_, left, right, own, theirs, x, y, default', default'', equal⟩ := ownMap.partner there
    cases found.symm.trans own
    cases found'.symm.trans theirs
    refine ⟨?_, fun member => ownMap.aliasGroup_of_both matched there here⟩
    rw [default', default'']
    exact equal

end Merge

namespace Engine

variable {engine : Engine}

/-- No annotation type outside the built-in namespaces is meta-present on itself. -/
def MetaAcyclic (engine : Engine) : Prop :=
  ∀ type, engine.settings.isBuiltin type = false → engine.reg.isMetaPresent type type = false

theorem metaAcyclic_of_entries
    (h : ∀ entry ∈ engine.reg.types, engine.settings.isBuiltin entry.1 = false →
      engine.reg.isMetaPresent entry.1 entry.1 = false) : engine.MetaAcyclic := by
  intro type plain
  by_contra present
  have reached := isMetaPresent_iff.1 (by simpa using present)
  obtain ⟨next, first⟩ : ∃ next, next ∈ engine.reg.metaGraph.next type := by
    cases reached with
    | step next => exact ⟨_, next⟩
    | cons next _ => exact ⟨_, next⟩
  unfold Graph.next at first
  cases found : engine.reg.metaGraph.get? type with
  | none =>
    rw [found] at first
    cases first
  | some successors =>
    obtain ⟨entry, mem, same⟩ := List.mem_map.1 (Entries.mem_of_get? found)
    cases same
    exact present (h entry mem plain)

/-- Every merged store was found on a trail on which, for each attribute, the nearest annotation
that overrides it or an alias of it decides what the store holds under it. -/
theorem merged_nearest_override (distinct : engine.reg.DistinctAttrs)
    (back : engine.reg.PairsMutual) (acyclic : engine.MetaAcyclic) (calls : List Call)
    (key : MergeKey)
    (store : Store) (h : (engine.merged key (engine.run calls {}).2).1 = .ok (some store)) :
    ∃ s groups, s.Sensible engine.reg ∧ (engine.mergeAnew key s).1 = .ok (some store) ∧
      engine.search.Leads key.kind key.type (engine.trail key s) ∧
      engine.reg.aliasMap key.type = .ok groups ∧
      ∀ t outer element annot inner attr, engine.trail key s = outer ++ (element, annot) :: inner →
        inner ≠ [] → Trail.Decides engine.reg key.type (aliasGroup groups t) outer annot attr →
        ∃ value, store.get? t = some value ∧
          (engine.mergeOf key).Synthesizes element annot attr.name value ∧
          ∀ decl other value', engine.reg.type annot.type = .ok decl → other ∈ decl.attrs →
            engine.reg.AimsInto key.type (aliasGroup groups t) annot.type other →
            other.type = attr.type →
            (engine.mergeOf key).Synthesizes element annot other.name value' →
            value.same value' = true := by
  obtain ⟨s, hs, anew⟩ := engine.run_merged calls key
  obtain ⟨leads, pending, builds, finished⟩ := mergeAnew_found hs (anew.trans h)
  obtain ⟨type, filled⟩ := (engine.mergeOf key).builds_filled distinct builds
  obtain ⟨groups, mapped, finishes⟩ :=
    finishWith_finishes (engine.reg.asked_keeps.render _ _) filled.distinct finished
  rw [type] at mapped
  obtain ⟨metaDecl, map⟩ := aliasMapOf_aliasMap mapped
  refine ⟨s, groups, hs, anew.trans h, leads, mapped, ?_⟩
  intro t outer element annot inner attr trail more decides
  have whole := Merge.wholeGroup_aliasGroup map back distinct (acyclic _ leads.target_plain) t
  rw [trail] at builds leads
  obtain ⟨value, synthesized, given⟩ := (engine.mergeOf key).builds_decides distinct mapped whole
    builds more decides
  refine ⟨value, finishes.given t value ?_, synthesized, ?_⟩
  · rw [Pending.declared_get? filled.distinct, given t (.head _)]
    rfl
  · intro decl other value' known mem aims types synthesized'
    obtain ⟨decl', before, after, known', declared, _⟩ := decides.first
    cases known.symm.trans known'
    have own : attr ∈ decl.attrs := declared ▸ List.mem_append_right _ (.head _)
    exact (engine.mergeOf key).synthesizes_same distinct back map whole (leads.apart more) known own
      mem decides.aims aims types.symm synthesized synthesized'

/-- The mapping of a class annotated with a shorthand for it, its values as they are. -/
def userMapping : MergeKey where
  kind := .get
  element := .classLike "app.UserController"
  type := "web.Mapping"
  rendering := .raw

/-- The shorthand decides both halves of the pair it overrides. -/
theorem web_shorthand_decides {annot : Annot} (shorthand : annot.type = "web.GetMapping") :
    Trail.Decides Registry.web "web.Mapping" ["path", "value"] [] annot
      (Vocabulary.textAttr "value" (Vocabulary.overriding "web.Mapping")) := by
  have lands : Registry.web.overrideName "web.GetMapping" "value" "web.Mapping" =
      .ok (some "value") := by
    with_unfolding_all decide
  have overrides : ∀ entry ∈ Registry.web.types, entry.1 = "web.GetMapping" →
      ∀ attr ∈ entry.2.attrs,
      Registry.web.overrideName entry.1 attr.name "web.Mapping" ≠ .ok none := by
    with_unfolding_all decide
  refine ⟨⟨"value", by simp, shorthand ▸ lands⟩, ?_, by simp, ?_⟩
  · rw [shorthand]
    exact ⟨_, [], _, rfl, rfl, by simp⟩
  · intro step mem decl known other inside named
    cases List.mem_singleton.1 mem
    exact overrides _ (mem_of_type known) shorthand other inside named.2.2

theorem web_merged_nearest_override :
    Registry.web.DistinctAttrs ∧ Registry.web.PairsMutual ∧ Engine.web.MetaAcyclic ∧
      ∃ store annot value, (Engine.web.merged userMapping {}).1 = .ok (some store) ∧
        annot.type = "web.GetMapping" ∧ store.get? "path" = some value ∧
        (Engine.web.mergeOf userMapping).Synthesizes userMapping.element annot "value" value := by
  have distinct : Registry.web.DistinctAttrs :=
    distinctAttrs_of_entries (by with_unfolding_all decide)
  have back : Registry.web.PairsMutual := pairsMutual_of_entries (by with_unfolding_all decide)
  have acyclic : Engine.web.MetaAcyclic := metaAcyclic_of_entries (by with_unfolding_all decide)
  have valid : Registry.web.AliasesValid := aliasesValid_of_entries (by with_unfolding_all decide)
  have known : Registry.web.NestedKnown := nestedKnown_of_entries (by with_unfolding_all decide)
  have steps : (Engine.web.trail userMapping {}).map (fun step => (step.1, step.2.type)) =
      [(.classLike "app.UserController", "web.GetMapping"),
        (.annotType "web.GetMapping", "web.Mapping")] := by
    with_unfolding_all decide
  have kept : (Engine.web.merged userMapping {}).1.toOption.join.isSome = true := by
    with_unfolding_all decide
  have aliases : Registry.web.aliasMap "web.Mapping" =
      .ok [("value", ["path"]), ("path", ["value"])] := by
    with_unfolding_all decide
  refine ⟨distinct, back, acyclic, ?_⟩
  cases found : (Engine.web.merged userMapping {}).1 with
  | error e =>
    rw [found] at kept
    cases kept
  | ok result =>
    cases result with
    | none =>
      rw [found] at kept
      cases kept
    | some store =>
      obtain ⟨s, groups, sensible, _, _, mapped, decided⟩ :=
        @merged_nearest_override Engine.web distinct back acyclic [] userMapping store found
      cases aliases.symm.trans mapped
      rw [trail_fresh valid known sensible] at decided
      obtain ⟨⟨element, shorthand⟩, rest, trail, first, later⟩ := List.map_eq_cons_iff.1 steps
      obtain ⟨rfl, type⟩ := Prod.mk.inj first
      have more : rest ≠ [] := by
        rintro rfl
        cases later
      obtain ⟨value, held, synthesized, _⟩ :=
        decided "path" [] _ shorthand rest _ trail more (web_shorthand_decides type)
      exact ⟨store, shorthand, value, rfl, type, held, synthesized⟩

end Engine
end Annotations
