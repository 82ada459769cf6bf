import Annotations.Proofs.Action.Yields
import Annotations.Proofs.Alias.Recall

/-!
Whether a type needs alias handling is answered truly, whatever was answered before: yes only if an
alias is declared in it or in a type nested in it, no only if none is; a failure is one of a
declaration within it. Where all alias declarations are valid and all nested types are known, the
answer never depends on what is kept.
-/
namespace Annotations
namespace Registry

open SynthMemo Annotations.Action

/-- Every alias declaration of a registered type is valid. -/
def AliasesValid (reg : Registry) : Prop :=
  ∀ type decl attr, reg.type type = .ok decl → attr ∈ decl.attrs →
    ∃ link, reg.aliasLink type attr.name = .ok link

/-- Every annotation type that an attribute names is registered. -/
def NestedKnown (reg : Registry) : Prop :=
  ∀ outer inner, reg.Nests outer inner → ∃ decl, reg.type inner = .ok decl

/-- The type or one nested in it is not registered or has an invalid alias declaration. -/
def FaultyWithin (reg : Registry) (type : String) (e : Error) : Prop :=
  ∃ inner, Relation.ReflTransGen reg.Nests type inner ∧
    (reg.type inner = .error e ∨ ∃ decl attr, reg.type inner = .ok decl ∧ attr ∈ decl.attrs ∧
      reg.aliasLink inner attr.name = .error e)

variable {reg : Registry}

/-- Where all declarations are sound, only the type itself can be unknown. -/
theorem FaultyWithin.own {type : String} {e : Error} (h : reg.FaultyWithin type e)
    (valid : reg.AliasesValid) (known : reg.NestedKnown) : reg.type type = .error e := by
  obtain ⟨inner, way, unknown | ⟨decl, attr, found, mem, invalid⟩⟩ := h
  · rcases way.cases_tail with rfl | ⟨outer, _, step⟩
    · exact unknown
    · obtain ⟨decl, found⟩ := known outer inner step
      cases unknown.symm.trans found
  · obtain ⟨link, linked⟩ := valid inner decl attr found mem
    cases invalid.symm.trans linked

theorem aliasesValid_of_entries
    (h : ∀ entry ∈ reg.types, ∀ attr ∈ entry.2.attrs,
      (reg.aliasLink entry.1 attr.name).isOk = true) : reg.AliasesValid := by
  intro type decl attr known mem
  exact Outcome.ok_of_isOk (h _ (mem_of_type known) attr mem)

theorem nestedKnown_of_entries
    (h : ∀ entry ∈ reg.types, ∀ attr ∈ entry.2.attrs, ∀ inner ∈ attr.type.nested?,
      (reg.type inner).isOk = true) : reg.NestedKnown := by
  rintro outer inner ⟨decl, attr, known, mem, nested⟩
  exact Outcome.ok_of_isOk (h _ (mem_of_type known) attr mem inner nested)

/-- Nothing speaks for an alias behind an attribute: it declares none itself, and a type nested in
it is in a region or known to be plain. -/
def Settled (reg : Registry) (region : List String) (type : String) (attr : Attr) : Prop :=
  reg.aliasLink type attr.name = .ok none ∧
    ∀ inner, attr.type.nested? = some inner → inner ∈ region ∨ reg.PlainWithin inner

/-- A region all of whose attributes are settled holds plain types only. -/
theorem plainWithin_of_settled {region : List String}
    (settled : ∀ type ∈ region, ∃ decl, reg.type type = .ok decl ∧
      ∀ attr ∈ decl.attrs, reg.Settled region type attr)
    {type : String} (mem : type ∈ region) : reg.PlainWithin type := by
  intro inner way
  have inside : inner ∈ region ∨ reg.PlainWithin inner := by
    induction way with
    | refl => exact .inl mem
    | tail _ step ih =>
      obtain ⟨decl, attr, known, attrMem, nested⟩ := step
      rcases ih with ih | ih
      · obtain ⟨decl', known', all⟩ := settled _ ih
        cases known.symm.trans known'
        exact (all attr attrMem).2 _ nested
      · exact .inr fun deep further =>
          ih deep (.head ⟨decl, attr, known, attrMem, nested⟩ further)
  rcases inside with inside | plain
  · obtain ⟨decl, known, all⟩ := settled inner inside
    exact ⟨decl, known, fun attr attrMem => (all attr attrMem).1⟩
  · exact plain inner .refl

/-- An attribute to look at belongs to a registered type that the types around it hold; the
outermost of them is the root of the walk. -/
structure AttrVisit.Valid (reg : Registry) (root : String) (visit : AttrVisit) : Prop where
  declared : ∃ decl, reg.type visit.type = .ok decl ∧ visit.attr ∈ decl.attrs
  ways : ∀ outer ∈ visit.path, Relation.ReflTransGen reg.Nests outer visit.type
  root_mem : root ∈ visit.type :: visit.path

theorem AttrVisit.Valid.from_root {root : String} {visit : AttrVisit} (valid : visit.Valid reg root) :
    Relation.ReflTransGen reg.Nests root visit.type := by
  rcases List.mem_cons.1 valid.root_mem with rfl | mem
  · exact .refl
  · exact valid.ways root mem

theorem AttrVisit.Valid.aliasWithin {root : String} {visit : AttrVisit}
    (valid : visit.Valid reg root) (found : reg.AliasWithin visit.type) :
    ∀ type ∈ visit.type :: visit.path, reg.AliasWithin type := by
  intro type mem
  rcases List.mem_cons.1 mem with rfl | mem
  · exact found
  · obtain ⟨inner, decl, attr, link, way, rest⟩ := found
    exact ⟨inner, decl, attr, link, (valid.ways type mem).trans way, rest⟩

theorem AttrVisit.Valid.nested {root : String} {visit : AttrVisit} (valid : visit.Valid reg root)
    {inner : String} (step : visit.attr.type.nested? = some inner) {decl : AnnotType}
    (known : reg.type inner = .ok decl) :
    ∀ next ∈ decl.attrs.map (AttrVisit.mk (visit.type :: visit.path) inner),
      next.Valid reg root := by
  obtain ⟨outer, outerKnown, attrMem⟩ := valid.declared
  have nests : reg.Nests visit.type inner := ⟨outer, visit.attr, outerKnown, attrMem, step⟩
  intro next mem
  obtain ⟨attr, attrIn, rfl⟩ := List.mem_map.1 mem
  refine ⟨⟨decl, known, attrIn⟩, fun type typeMem => ?_, .tail inner valid.root_mem⟩
  rcases List.mem_cons.1 typeMem with rfl | typeMem
  · exact .single nests
  · exact (valid.ways type typeMem).tail nests

/-- What the answer of a walk over attributes means. A walk without an alias has settled all it had
to look at, and all of the types it came to; a failed walk met a fault within its root. -/
def WalkMeans (reg : Registry) (root : String) (seen : List String) (todo : List AttrVisit) :
    Except Error (Option (List String)) → Prop
  | .ok (some path) => root ∈ path ∧ ∀ type ∈ path, reg.AliasWithin type
  | .ok none => ∃ region, seen ⊆ region ∧
      (∀ visit ∈ todo, reg.Settled region visit.type visit.attr) ∧
      ∀ type ∈ region, type ∉ seen → ∃ decl, reg.type type = .ok decl ∧
        ∀ attr ∈ decl.attrs, reg.Settled region type attr
  | .error e => reg.FaultyWithin root e

theorem WalkMeans.cons {root : String} {seen : List String} {visit : AttrVisit}
    {rest : List AttrVisit} {outcome : Except Error (Option (List String))}
    (settled : ∀ region, seen ⊆ region → reg.Settled region visit.type visit.attr)
    (h : reg.WalkMeans root seen rest outcome) :
    reg.WalkMeans root seen (visit :: rest) outcome := by
  match outcome, h with
  | .ok (some _), h => exact h
  | .error _, h => exact h
  | .ok none, ⟨region, sub, todo, types⟩ =>
    refine ⟨region, sub, fun other mem => ?_, types⟩
    rcases List.mem_cons.1 mem with rfl | mem
    · exact settled region sub
    · exact todo other mem

theorem WalkMeans.enter {root : String} {seen : List String} {visit : AttrVisit}
    {rest : List AttrVisit} {inner : String} {decl : AnnotType}
    {outcome : Except Error (Option (List String))}
    (own : reg.aliasLink visit.type visit.attr.name = .ok none)
    (step : visit.attr.type.nested? = some inner) (known : reg.type inner = .ok decl)
    (h : reg.WalkMeans root (inner :: seen)
      (decl.attrs.map (AttrVisit.mk (visit.type :: visit.path) inner) ++ rest) outcome) :
    reg.WalkMeans root seen (visit :: rest) outcome := by
  match outcome, h with
  | .ok (some _), h => exact h
  | .error _, h => exact h
  | .ok none, ⟨region, sub, todo, types⟩ =>
    refine ⟨region, fun type mem => sub (.tail inner mem), fun other mem => ?_,
      fun type mem fresh => ?_⟩
    · rcases List.mem_cons.1 mem with rfl | mem
      · refine ⟨own, fun deep deepStep => .inl ?_⟩
        cases step.symm.trans deepStep
        exact sub (.head seen)
      · exact todo other (List.mem_append_right _ mem)
    · by_cases same : type = inner
      · subst same
        exact ⟨decl, known, fun attr attrMem =>
          todo ⟨visit.type :: visit.path, type, attr⟩
            (List.mem_append_left _ (List.mem_map_of_mem attrMem))⟩
      · exact types type mem fun inside => by
          rcases List.mem_cons.1 inside with rfl | inside
          · exact same rfl
          · exact fresh inside

theorem findAlias_means (root : String) (seen : List String) (todo : List AttrVisit)
    (valid : ∀ visit ∈ todo, visit.Valid reg root) (memo : SynthMemo) (sound : Sound reg memo) :
    reg.WalkMeans root seen todo (reg.findAlias seen todo memo).1 ∧
      Sound reg (reg.findAlias seen todo memo).2 := by
  match todo with
  | [] =>
    rw [findAlias]
    exact ⟨⟨seen, List.Subset.refl _, by simp, fun type mem fresh => absurd mem fresh⟩, sound⟩
  | visit :: rest =>
    have here := valid visit (.head rest)
    have later : ∀ other ∈ rest, other.Valid reg root :=
      fun other mem => valid other (.tail visit mem)
    obtain ⟨result, after⟩ := reg.recallLink_computes visit.type visit.attr.name memo sound
    rw [findAlias, bind_apply, result]
    generalize (reg.recallLink visit.type visit.attr.name memo).2 = memo' at after
    cases own : reg.aliasLink visit.type visit.attr.name with
    | error e =>
      obtain ⟨decl, known, attrMem⟩ := here.declared
      exact ⟨⟨visit.type, here.from_root, .inr ⟨decl, visit.attr, known, attrMem, own⟩⟩, after⟩
    | ok found =>
      cases found with
      | some link =>
        obtain ⟨decl, known, attrMem⟩ := here.declared
        exact ⟨⟨here.root_mem, here.aliasWithin
          ⟨visit.type, decl, visit.attr, link, .refl, known, attrMem, own⟩⟩, after⟩
      | none =>
        simp only [Option.isSome_none, Bool.false_eq_true, if_false]
        cases step : visit.attr.type.nested? with
        | none =>
          obtain ⟨means, kept⟩ := findAlias_means root seen rest later memo' after
          exact ⟨means.cons fun region _ => ⟨own, fun inner nested => by simp [step] at nested⟩,
            kept⟩
        | some inner =>
          simp only [bind_apply, get_apply]
          cases answer : memo'.synthesizable.find? inner with
          | some answer' =>
            cases answer' with
            | true =>
              obtain ⟨decl, known, attrMem⟩ := here.declared
              have within := (after.aliased inner answer).outer
                ⟨decl, visit.attr, known, attrMem, step⟩
              exact ⟨⟨here.root_mem, here.aliasWithin within⟩, after⟩
            | false =>
              obtain ⟨means, kept⟩ := findAlias_means root seen rest later memo' after
              refine ⟨means.cons fun region _ => ⟨own, fun other nested => .inr ?_⟩, kept⟩
              cases step.symm.trans nested
              exact after.plain inner answer
          | none =>
            by_cases again : seen.contains inner
            · simp only [again, dif_pos]
              obtain ⟨means, kept⟩ := findAlias_means root seen rest later memo' after
              refine ⟨means.cons fun region sub => ⟨own, fun other nested => .inl (sub ?_)⟩, kept⟩
              cases step.symm.trans nested
              simpa using again
            · simp only [again, Bool.false_eq_true, dif_neg, not_false_eq_true]
              rcases known : reg.type inner with e | decl
              · obtain ⟨outer, outerKnown, attrMem⟩ := here.declared
                have nests : reg.Nests visit.type inner :=
                  ⟨outer, visit.attr, outerKnown, attrMem, step⟩
                exact ⟨⟨inner, here.from_root.tail nests, .inl known⟩, after⟩
              · have fewer : reg.attrGraph.ahead (inner :: seen) + decl.attrs.length ≤
                    reg.attrGraph.ahead seen := by
                  rw [← attrGraph_next known]
                  exact Graph.ahead_cons_add_le again reg.attrGraph
                obtain ⟨means, kept⟩ := findAlias_means root (inner :: seen)
                  (decl.attrs.map (AttrVisit.mk (visit.type :: visit.path) inner) ++ rest)
                  (fun next mem => (List.mem_append.1 mem).elim (here.nested step known next)
                    (later next))
                  memo' after
                exact ⟨means.enter own step known, kept⟩
termination_by todo.length + reg.attrGraph.ahead seen
decreasing_by
  all_goals simp only [List.length_cons, List.length_append, List.length_map]
  all_goals omega

/-- A walk from a type that ends without an alias shows the type to be plain. -/
theorem aliasPath_means (type : String) (memo : SynthMemo) (sound : Sound reg memo) :
    Sound reg (reg.aliasPath type memo).2 ∧
      match (reg.aliasPath type memo).1 with
      | .ok (some path) => type ∈ path ∧ ∀ other ∈ path, reg.AliasWithin other
      | .ok none => reg.PlainWithin type
      | .error e => reg.FaultyWithin type e := by
  rw [aliasPath, bind_apply, lift_apply]
  cases known : reg.type type with
  | error e => exact ⟨sound, type, .refl, .inl known⟩
  | ok decl =>
    obtain ⟨means, kept⟩ := findAlias_means type [type] (decl.attrs.map (AttrVisit.mk [] type))
      (fun visit mem => by
        obtain ⟨attr, attrMem, rfl⟩ := List.mem_map.1 mem
        exact ⟨⟨decl, known, attrMem⟩, by simp, .head []⟩) memo sound
    refine ⟨kept, ?_⟩
    revert means
    simp only
    generalize (reg.findAlias [type] (decl.attrs.map (AttrVisit.mk [] type)) memo).1 = outcome
    match outcome with
    | .ok (some path) => exact id
    | .error e => exact id
    | .ok none =>
      rintro ⟨region, sub, todo, types⟩
      refine plainWithin_of_settled (fun other mem => ?_) (sub (.head []))
      by_cases start : other = type
      · subst start
        exact ⟨decl, known, fun attr attrMem =>
          todo ⟨[], other, attr⟩ (List.mem_map_of_mem attrMem)⟩
      · exact types other mem (by simpa using start)

/-- Yes means that an alias is declared within the type, no that none is, a failure that something
within it is at fault. -/
theorem isSynthesizable_means (type : String) (memo : SynthMemo) (sound : Sound reg memo) :
    Sound reg (reg.isSynthesizable type memo).2 ∧
      match (reg.isSynthesizable type memo).1 with
      | .ok true => reg.AliasWithin type
      | .ok false => reg.PlainWithin type
      | .error e => reg.FaultyWithin type e := by
  rw [isSynthesizable, bind_apply, get_apply]
  simp only
  cases answer : memo.synthesizable.find? type with
  | some answer' =>
    cases answer' with
    | true => exact ⟨sound, sound.aliased type answer⟩
    | false => exact ⟨sound, sound.plain type answer⟩
  | none =>
    obtain ⟨kept, means⟩ := aliasPath_means type memo sound
    simp only [bind_apply]
    generalize (reg.aliasPath type memo).2 = memo' at kept
    generalize (reg.aliasPath type memo).1 = outcome at means
    match outcome with
    | .error e => exact ⟨kept, means⟩
    | .ok none => exact ⟨kept.markPlain means, means⟩
    | .ok (some path) =>
      refine ⟨?_, means.2 type means.1⟩
      change Sound reg (path.foldr (fun name found => found.markSynthesizable name true) memo')
      have within := means.2
      clear means
      induction path with
      | nil => exact kept
      | cons other rest ih =>
        exact (ih fun name mem => within name (.tail other mem)).markAliased
          (within other (.head rest))

theorem isSynthesizable_keeps (type : String) : Keeps (Sound reg) (reg.isSynthesizable type) :=
  fun memo sound => (isSynthesizable_means type memo sound).1

theorem isSynthesizable_fault {type : String} {e : Error}
    (h : Yields (Sound reg) (reg.isSynthesizable type) (.error e)) : reg.FaultyWithin type e := by
  obtain ⟨memo, sound, failed⟩ := h
  have means := (isSynthesizable_means type memo sound).2
  rw [failed] at means
  exact means

/-- Two answers about a type never contradict each other. -/
theorem isSynthesizable_agree {type : String} {memo memo' : SynthMemo} (sound : Sound reg memo)
    (sound' : Sound reg memo') {answer answer' : Bool}
    (h : (reg.isSynthesizable type memo).1 = .ok answer)
    (h' : (reg.isSynthesizable type memo').1 = .ok answer') : answer = answer' := by
  have left := (isSynthesizable_means type memo sound).2
  have right := (isSynthesizable_means type memo' sound').2
  rw [h] at left
  rw [h'] at right
  cases answer <;> cases answer'
  · rfl
  · exact absurd right left.not_aliasWithin
  · exact absurd left right.not_aliasWithin
  · rfl

theorem AliasWithin.registered {type : String} (h : reg.AliasWithin type) :
    ∃ decl, reg.type type = .ok decl := by
  obtain ⟨inner, decl, attr, link, way, known, rest⟩ := h
  rcases way.cases_head with rfl | ⟨next, step, further⟩
  · exact ⟨decl, known⟩
  · obtain ⟨outer, held, outerKnown, rest⟩ := step
    exact ⟨outer, outerKnown⟩

/-- Where all declarations are sound, the answer does not depend on what is kept. -/
theorem isSynthesizable_steady (valid : reg.AliasesValid) (known : reg.NestedKnown)
    (type : String) : Steady (Sound reg) (reg.isSynthesizable type) := by
  intro memo memo' sound sound'
  obtain ⟨kept, left⟩ := isSynthesizable_means type memo sound
  obtain ⟨kept', right⟩ := isSynthesizable_means type memo' sound'
  refine ⟨?_, kept⟩
  cases h : (reg.isSynthesizable type memo).1 with
  | error e =>
    rw [h] at left
    have unknown := left.own valid known
    cases h' : (reg.isSynthesizable type memo').1 with
    | error e' =>
      rw [h'] at right
      have unknown' := right.own valid known
      cases unknown.symm.trans unknown'
      rfl
    | ok answer =>
      rw [h'] at right
      obtain ⟨decl, declared⟩ : ∃ decl, reg.type type = .ok decl := by
        cases answer with
        | true => exact AliasWithin.registered right
        | false => exact (right type .refl).imp fun decl h => h.1
      cases unknown.symm.trans declared
  | ok answer =>
    rw [h] at left
    cases h' : (reg.isSynthesizable type memo').1 with
    | error e' =>
      rw [h'] at right
      have unknown := right.own valid known
      obtain ⟨decl, declared⟩ : ∃ decl, reg.type type = .ok decl := by
        cases answer with
        | true => exact AliasWithin.registered left
        | false => exact (left type .refl).imp fun decl h => h.1
      cases unknown.symm.trans declared
    | ok answer' => rw [isSynthesizable_agree sound sound' h h']

end Registry
end Annotations
