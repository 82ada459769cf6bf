import Annotations.Proofs.Graph.Methods
import Annotations.Proofs.Graph.Reordered
import Annotations.Vocabulary.Web
import Mathlib.Data.List.Chain
import Mathlib.Data.List.Perm.Subperm
import Mathlib.Logic.Relation

/-!
What a class inherits, told from what is declared. The superclasses of a class are walked from the
nearest on and each once, also where their chain comes back on itself. Of the annotations there one
after another is taken over if its type is inherited, is not declared on the class and was not taken
over before.
-/
namespace Annotations

/-- Items of a list chosen one after another: each is chosen if it may be in view of those chosen
before it, and is left out if it may not. -/
inductive Chosen {α : Type} (may : List α → α → Prop) : List α → List α → Prop
  | nil : Chosen may [] []
  | take {items chosen : List α} {item : α} : Chosen may items chosen → may chosen item →
    Chosen may (items ++ [item]) (chosen ++ [item])
  | leave {items chosen : List α} {item : α} : Chosen may items chosen → ¬ may chosen item →
    Chosen may (items ++ [item]) chosen

namespace Chosen

variable {α : Type} {may : List α → α → Prop} {items chosen chosen' : List α} {item : α}

/-- What is chosen stands in the list in this order. -/
theorem sublist (h : Chosen may items chosen) : chosen.Sublist items := by
  induction h with
  | nil => exact .slnil
  | take _ _ ih => exact ih.append (.refl _)
  | leave _ _ ih => exact ih.trans (List.sublist_append_left _ _)

/-- The last item was chosen or left out in view of those chosen before it. -/
theorem snoc_cases (h : Chosen may (items ++ [item]) chosen) :
    (∃ before, Chosen may items before ∧ may before item ∧ chosen = before ++ [item]) ∨
      Chosen may items chosen ∧ ¬ may chosen item := by
  generalize same : items ++ [item] = whole at h
  cases h with
  | nil => simp at same
  | take h yes =>
    obtain ⟨rfl, rfl⟩ := List.concat_inj.1 (by simpa using same)
    exact .inl ⟨_, h, yes, rfl⟩
  | leave h no =>
    obtain ⟨rfl, rfl⟩ := List.concat_inj.1 (by simpa using same)
    exact .inr ⟨h, no⟩

/-- There is one way only to choose. -/
theorem unique (h : Chosen may items chosen) (h' : Chosen may items chosen') :
    chosen = chosen' := by
  induction h generalizing chosen' with
  | nil => exact (List.sublist_nil.1 h'.sublist).symm
  | take _ yes ih =>
    rcases h'.snoc_cases with ⟨before, earlier, _, rfl⟩ | ⟨earlier, no⟩
    · rw [ih earlier]
    · exact absurd (ih earlier ▸ yes) no
  | leave _ no ih =>
    rcases h'.snoc_cases with ⟨before, earlier, yes, rfl⟩ | ⟨earlier, _⟩
    · exact absurd yes (ih earlier ▸ no)
    · exact ih earlier

/-- A chosen item might be chosen in view of what was chosen from the items before it. -/
theorem of_mem (h : Chosen may items chosen) (mem : item ∈ chosen) :
    ∃ before after earlier, items = before ++ item :: after ∧ Chosen may before earlier ∧
      may earlier item := by
  induction h with
  | nil => cases mem
  | @take items chosen last h yes ih =>
    rcases List.mem_append.1 mem with mem | mem
    · obtain ⟨before, after, earlier, rfl, found⟩ := ih mem
      exact ⟨before, after ++ [last], earlier, by simp, found⟩
    · cases List.mem_singleton.1 mem
      exact ⟨items, [], chosen, rfl, h, yes⟩
  | @leave items chosen last h no ih =>
    obtain ⟨before, after, earlier, rfl, found⟩ := ih mem
    exact ⟨before, after ++ [last], earlier, by simp, found⟩

/-- An item of the list that was left out might not be chosen in view of some chosen before. -/
theorem refused (h : Chosen may items chosen) (mem : item ∈ items) :
    item ∈ chosen ∨ ∃ earlier, earlier.Sublist chosen ∧ ¬ may earlier item := by
  induction h with
  | nil => cases mem
  | @take items chosen last h yes ih =>
    rcases List.mem_append.1 mem with mem | mem
    · rcases ih mem with there | ⟨earlier, sub, no⟩
      · exact .inl (List.mem_append_left _ there)
      · exact .inr ⟨earlier, sub.trans (List.sublist_append_left _ _), no⟩
    · exact .inl (List.mem_append_right _ mem)
  | @leave items chosen last h no ih =>
    rcases List.mem_append.1 mem with mem | mem
    · exact ih mem
    · cases List.mem_singleton.1 mem
      exact .inr ⟨chosen, .refl _, no⟩

end Chosen

namespace Graph

variable {graph : Graph}

/-- A walk meets no node twice, and none that was seen before. -/
theorem preorder_fresh (graph : Graph) (seen todo : List String) :
    (graph.preorder seen todo).Nodup ∧ ∀ node ∈ graph.preorder seen todo, node ∉ seen := by
  induction seen, todo using Graph.preorder.induct graph with
  | case1 seen => simp [preorder]
  | case2 seen node rest before ih => rwa [preorder, if_pos before]
  | case3 seen node rest fresh ih =>
    obtain ⟨distinct, unseen⟩ := ih
    rw [preorder, if_neg fresh]
    refine ⟨List.nodup_cons.2 ⟨fun again => unseen node again (.head seen), distinct⟩, ?_⟩
    intro other mem
    rcases List.mem_cons.1 mem with rfl | mem
    · simpa using fresh
    · exact fun old => unseen other mem (.tail node old)

/-- Where no node has two successors a walk goes from each node to its successor. -/
theorem preorder_isChain (single : ∀ node, (graph.next node).length ≤ 1) (seen : List String)
    (node : String) :
    (node :: graph.preorder seen (graph.next node)).IsChain fun a b => b ∈ graph.next a := by
  generalize ahead : graph.next node = todo
  induction seen, todo using Graph.preorder.induct graph generalizing node with
  | case1 seen => simp [preorder]
  | case2 seen first rest before ih =>
    have alone : rest = [] := by simpa [ahead] using single node
    rw [preorder, if_pos before, alone, preorder]
    exact .singleton node
  | case3 seen first rest fresh ih =>
    have alone : rest = [] := by simpa [ahead] using single node
    subst alone
    rw [preorder, if_neg fresh]
    refine .cons_cons (ahead ▸ .head []) (ih first (List.append_nil _).symm)

end Graph

namespace Registry

variable {reg : Registry} {name : String} {found annots result items : List Annot}

/-- One class names another as its superclass. -/
def Extends (reg : Registry) (below above : String) : Prop :=
  ∃ decl, reg.classDecl below = .ok decl ∧ decl.superclass = some above

/-- The classes strictly above a class, from the nearest on and each once. -/
structure Ancestry (reg : Registry) (name : String) (aboves : List String) : Prop where
  nearest_first : (name :: aboves).IsChain reg.Extends
  once : (name :: aboves).Nodup
  all : ∀ above, above ∈ aboves ↔ above ≠ name ∧ Relation.TransGen reg.Extends name above

theorem extends_iff {below above : String} :
    reg.Extends below above ↔ above ∈ reg.superclassGraph.next below := by
  change _ ↔ above ∈ (reg.classGraph supers).next below
  rw [classGraph_next]
  unfold Extends
  cases known : reg.classDecl below with
  | error e => simp
  | ok decl => simp [supers, Option.mem_toList]

theorem superclasses_ancestry (reg : Registry) (name : String) :
    reg.Ancestry name (reg.superclasses name) := by
  obtain ⟨distinct, fresh⟩ :=
    reg.superclassGraph.preorder_fresh [name] (reg.superclassGraph.next name)
  have apart : ∀ above ∈ reg.superclasses name, above ≠ name :=
    fun above mem => by simpa using fresh above mem
  constructor
  · refine (Graph.preorder_isChain reg.supers_single [name] name).imp ?_
    exact fun _ _ => extends_iff.2
  · exact List.nodup_cons.2 ⟨fun self => apart name self rfl, distinct⟩
  · intro above
    rw [← Graph.reaches_iff_transGen fun _ _ => extends_iff]
    constructor
    · intro mem
      obtain ⟨first, next, reached⟩ := Graph.reached_of_mem_preorder mem
      refine ⟨apart above mem, ?_⟩
      rcases reached with rfl | further
      · exact .step next
      · exact .cons next further
    · rintro ⟨other, way⟩
      exact (List.mem_cons.1 (mem_lineage_of_reaches way)).resolve_left other

/-- Each superclass is named by a registered class. -/
theorem superclasses_length_le (reg : Registry) (name : String) :
    (reg.superclasses name).length ≤ reg.classes.length := by
  have once := (List.nodup_cons.1 (reg.superclasses_ancestry name).once).2
  have named : reg.superclasses name ⊆ reg.classes.filterMap fun entry => entry.2.superclass := by
    intro above mem
    obtain ⟨_, way⟩ := ((reg.superclasses_ancestry name).all above).1 mem
    obtain ⟨below, _, decl, known, same⟩ := Relation.TransGen.tail'_iff.1 way
    exact List.mem_filterMap.2 ⟨_, Entries.mem_of_get? (classDecl_eq_ok_iff.1 known), same⟩
  exact (List.subperm_of_subset once named).length_le.trans (List.length_filterMap_le _ _)

/-- The annotations on a class; none on a name without a class. -/
def annotsOn (reg : Registry) (name : String) : List Annot :=
  (reg.declaredAnnots (.classLike name)).toOption.getD []

/-- Annotations of a type are inherited: it has the marker among its meta-annotations. -/
def Inheritable (reg : Registry) (type : String) : Prop :=
  ∃ decl, reg.type type = .ok decl ∧ ∃ note ∈ decl.metas, note.type = Marker.inherited

/-- What a class takes over in view of what it took over before: annotations of an inherited type
that is neither declared on the class nor taken over. -/
structure Passes (reg : Registry) (name : String) (taken : List Annot) (annot : Annot) : Prop where
  inheritable : reg.Inheritable annot.type
  notDeclared : ∀ own ∈ reg.annotsOn name, own.type ≠ annot.type
  notTaken : ∀ earlier ∈ taken, earlier.type ≠ annot.type

/-- Annotations are exactly what a class takes over from the classes above it. -/
structure Inherits (reg : Registry) (name : String) (aboves : List String) (annots : List Annot) :
    Prop where
  /-- They are what passes, one after another, of all that is declared above. -/
  exactly : ∀ chosen,
    Chosen (reg.Passes name) (aboves.flatMap reg.annotsOn) chosen ↔ chosen = annots
  in_order : annots.Sublist (aboves.flatMap reg.annotsOn)
  once : (annots.map (·.type)).Nodup
  nearest : ∀ annot ∈ annots, ∃ nearer near farther, aboves = nearer ++ near :: farther ∧
    (reg.annotsOn near).find? (·.type == annot.type) = some annot ∧
    ∀ above ∈ nearer, ∀ other ∈ reg.annotsOn above, other.type ≠ annot.type
  none_lost : ∀ above ∈ aboves, ∀ annot ∈ reg.annotsOn above, reg.Inheritable annot.type →
    (∀ own ∈ reg.annotsOn name, own.type ≠ annot.type) → annot.type ∈ annots.map (·.type)

theorem annotsOn_eq {decl : ClassDecl} (known : reg.classDecl name = .ok decl) :
    reg.annotsOn name = decl.annots := by
  simp [annotsOn, declaredAnnots, known, bind, Except.bind, pure, Except.pure, Except.toOption]

/-- What is taken over is what the loop adds: not settled before, and of an inherited type. -/
theorem passes_iff {annot : Annot} : reg.Passes name found annot ↔
    ¬ (annot.type ∈ (reg.annotsOn name).map (·.type) ∨ annot.type ∈ found.map (·.type)) ∧
      ∃ type, reg.type annot.type = .ok type ∧ type.isInherited = true := by
  have marked (type : AnnotType) :
      type.isInherited = true ↔ ∃ note ∈ type.metas, note.type = Marker.inherited := by
    simp [AnnotType.isInherited, AnnotType.metaTypes]
  simp only [marked, not_or, List.mem_map, not_exists, not_and]
  constructor
  · intro h
    exact ⟨⟨h.notDeclared, h.notTaken⟩, h.inheritable⟩
  · rintro ⟨⟨notDeclared, notTaken⟩, inheritable⟩
    exact ⟨inheritable, notDeclared, notTaken⟩

/-- One round over the annotations on a class chooses from them in view of what was found before. -/
theorem addInherited_chosen (before : Chosen (reg.Passes name) items found)
    (h : reg.addInherited ((reg.annotsOn name).map (·.type)) found annots = .ok result) :
    Chosen (reg.Passes name) (items ++ annots) result := by
  induction annots generalizing items found with
  | nil =>
    cases h
    simpa using before
  | cons annot rest ih =>
    rw [addInherited_cons] at h
    rw [List.append_cons]
    split at h
    · rename_i settled
      exact ih (before.leave fun passes => (passes_iff.1 passes).1 settled) h
    · rename_i unsettled
      obtain ⟨type, known, h⟩ := Outcome.bind_ok h
      by_cases inherited : type.isInherited = true
      · rw [if_pos inherited] at h
        exact ih (before.take (passes_iff.2 ⟨unsettled, type, known, inherited⟩)) h
      · rw [if_neg inherited] at h
        refine ih (before.leave fun passes => ?_) h
        obtain ⟨_, _, known', inherited'⟩ := passes_iff.1 passes
        cases known.symm.trans known'
        exact inherited inherited'

/-- All rounds together choose from what is declared on the superclasses. -/
theorem inheritedAnnots_chosen (h : reg.inheritedAnnots name = .ok annots) :
    Chosen (reg.Passes name) ((reg.superclasses name).flatMap reg.annotsOn) annots := by
  obtain ⟨decl, known, h⟩ := Outcome.bind_ok h
  rw [← annotsOn_eq known] at h
  generalize hides : (reg.annotsOn name).map (·.type) = hidden at h
  have rounds (names : List String) (items found : List Annot)
      (before : Chosen (reg.Passes name) items found)
      (h : names.foldlM (fun found above => do
        reg.addInherited hidden found (← reg.classDecl above).annots) found = .ok annots) :
      Chosen (reg.Passes name) (items ++ names.flatMap reg.annotsOn) annots := by
    induction names generalizing items found with
    | nil =>
      cases h
      simpa using before
    | cons above rest ih =>
      rw [List.foldlM_cons] at h
      obtain ⟨found', here, h⟩ := Outcome.bind_ok h
      obtain ⟨decl, known, here⟩ := Outcome.bind_ok here
      rw [List.flatMap_cons, ← List.append_assoc, annotsOn_eq known]
      exact ih _ found' (addInherited_chosen before (hides ▸ here)) h
  exact rounds _ [] [] .nil h

/-- No type is taken over twice. -/
theorem types_nodup_of_chosen (h : Chosen (reg.Passes name) items annots) :
    (annots.map (·.type)).Nodup := by
  induction h with
  | nil => exact .nil
  | @take items taken annot _ passes ih =>
    rw [List.map_append, List.map_singleton]
    refine List.nodup_append.2 ⟨ih, by simp, fun type again type' last same => ?_⟩
    obtain ⟨other, there, rfl⟩ := List.mem_map.1 again
    exact passes.notTaken other there (same.trans (List.mem_singleton.1 last))
  | leave _ _ ih => exact ih

/-- An inherited type that the class does not declare is taken over with its first annotation at the
latest. -/
theorem mem_types_of_chosen {annot : Annot} (h : Chosen (reg.Passes name) items annots)
    (mem : annot ∈ items) (inheritable : reg.Inheritable annot.type)
    (notDeclared : ∀ own ∈ reg.annotsOn name, own.type ≠ annot.type) :
    annot.type ∈ annots.map (·.type) := by
  rcases h.refused mem with there | ⟨earlier, sub, refused⟩
  · exact List.mem_map.2 ⟨annot, there, rfl⟩
  · by_contra lost
    refine refused ⟨inheritable, notDeclared, fun other there same => lost ?_⟩
    exact List.mem_map.2 ⟨other, sub.subset there, same⟩

/-- Of the annotations of a type the first one is taken over. -/
theorem find?_of_chosen {annot : Annot} (h : Chosen (reg.Passes name) items annots)
    (mem : annot ∈ annots) : items.find? (·.type == annot.type) = some annot := by
  obtain ⟨before, after, earlier, rfl, chosen, passes⟩ := h.of_mem mem
  refine List.find?_eq_some_iff_append.2 ⟨by simp, before, after, rfl, fun other there => ?_⟩
  suffices other.type ≠ annot.type by simpa using this
  intro same
  have taken := mem_types_of_chosen chosen there (same ▸ passes.inheritable)
    (same ▸ passes.notDeclared)
  obtain ⟨again, there, same'⟩ := List.mem_map.1 taken
  exact passes.notTaken again there (same'.trans same)

/-- The superclasses of a class are found in at most as many steps as there are classes, and where
the annotations that it inherits are known, they are exactly what it takes over from them. -/
theorem inheritedAnnots_exact (reg : Registry) (name : String) : ∃ aboves,
    reg.Ancestry name aboves ∧ aboves.length ≤ reg.classes.length ∧
      ∀ annots, reg.inheritedAnnots name = .ok annots → reg.Inherits name aboves annots := by
  refine ⟨_, reg.superclasses_ancestry name, reg.superclasses_length_le name, fun annots h => ?_⟩
  have chosen := inheritedAnnots_chosen h
  constructor
  · exact fun other => ⟨fun h => h.unique chosen, fun same => same ▸ chosen⟩
  · exact chosen.sublist
  · exact types_nodup_of_chosen chosen
  · intro annot mem
    have first := find?_of_chosen chosen mem
    rw [List.find?_flatMap] at first
    obtain ⟨nearer, near, farther, split, found, none⟩ := List.findSome?_eq_some_iff.1 first
    refine ⟨nearer, near, farther, split, found, fun above mem other there => ?_⟩
    simpa using List.find?_eq_none.1 (none above mem) other there
  · intro above mem annot there
    exact mem_types_of_chosen chosen (List.mem_flatMap.2 ⟨above, mem, there⟩)

/-- An heir declares one of two inherited types itself; above it the parent hides what the founder,
who names the heir as superclass again, declares of the other. -/
def dynasty : Registry :=
  (base.addTypes [
    ("test.Title", { attrs := [Vocabulary.textAttr "of"], metas := [⟨Marker.inherited, []⟩] }),
    ("test.Crest", { metas := [⟨Marker.inherited, []⟩] }),
    ("test.Debt", {})]).addClasses [
    ("app.Heir", { superclass := some "app.Parent", annots := [⟨"test.Crest", []⟩] }),
    ("app.Parent", {
      superclass := some "app.Founder"
      annots := [⟨"test.Debt", []⟩, ⟨"test.Title", [("of", .text "parent")]⟩] }),
    ("app.Founder", {
      superclass := some "app.Heir"
      annots := [⟨"test.Title", [("of", .text "founder")]⟩, ⟨"test.Crest", []⟩] })]

/-- Of all that is declared above the heir the parent's title alone passes. -/
theorem dynasty_inherited : ∃ aboves, dynasty.Ancestry "app.Heir" aboves ∧
    dynasty.inheritedAnnots "app.Heir" = .ok [⟨"test.Title", [("of", .text "parent")]⟩] ∧
      dynasty.Inherits "app.Heir" aboves [⟨"test.Title", [("of", .text "parent")]⟩] := by
  obtain ⟨aboves, ancestry, _, inherits⟩ := inheritedAnnots_exact dynasty "app.Heir"
  have inherited : dynasty.inheritedAnnots "app.Heir" =
      .ok [⟨"test.Title", [("of", .text "parent")]⟩] := by with_unfolding_all rfl
  exact ⟨aboves, ancestry, inherited, inherits _ inherited⟩

end Registry
end Annotations
