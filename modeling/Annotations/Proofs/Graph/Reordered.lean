import Annotations.Action
import Annotations.Registry
import Mathlib.Data.List.Forall2

/-!
Registries that differ in the order of annotations only. What is declared on an element is the same
up to order, and a class inherits annotations of the same types: which ones does not depend on the
order in which a superclass declares them.
-/
namespace Annotations

namespace Outcome

variable {α β γ δ : Type} {R : α → β → Prop} {S : γ → δ → Prop}

/-- Where one computation succeeds the other does too, and their results are related. -/
def Matched (R : α → β → Prop) (outcome : Except Error α) (outcome' : Except Error β) : Prop :=
  ∀ a, outcome = .ok a → ∃ b, outcome' = .ok b ∧ R a b

namespace Matched

variable {outcome : Except Error α} {outcome' : Except Error β}

theorem ok {a : α} {b : β} (h : R a b) : Matched R (.ok a) (.ok b) := by
  intro _ same
  cases same
  exact ⟨b, rfl, h⟩

theorem bind {next : α → Except Error γ} {next' : β → Except Error δ}
    (h : Matched R outcome outcome') (hn : ∀ a b, R a b → Matched S (next a) (next' b)) :
    Matched S (outcome >>= next) (outcome' >>= next') := by
  intro c result
  obtain ⟨a, first, second⟩ := bind_ok result
  obtain ⟨b, first', related⟩ := h a first
  obtain ⟨d, second', related'⟩ := hn a b related c second
  refine ⟨d, ?_, related'⟩
  rw [first']
  exact second'

theorem foldlM {step : α → γ → Except Error α} {step' : β → γ → Except Error β}
    (h : ∀ a b c, R a b → Matched R (step a c) (step' b c)) (items : List γ) {a : α} {b : β}
    (start : R a b) : Matched R (items.foldlM step a) (items.foldlM step' b) := by
  induction items generalizing a b with
  | nil => exact ok start
  | cons item rest ih =>
    rw [List.foldlM_cons, List.foldlM_cons]
    exact (h a b item start).bind fun _ _ related => ih related

end Matched
end Outcome

open Outcome

namespace Entries

variable {α β : Type} {R : α → β → Prop}

/-- Entries of the same names in the same order, with related values. -/
def Paired (R : α → β → Prop) : Entries α → Entries β → Prop :=
  List.Forall₂ fun entry entry' => entry.1 = entry'.1 ∧ R entry.2 entry'.2

theorem Paired.get? {entries : Entries α} {entries' : Entries β} (h : Paired R entries entries')
    {name : String} {a : α} (found : entries.get? name = some a) :
    ∃ b, entries'.get? name = some b ∧ R a b := by
  induction h with
  | nil => cases found
  | @cons entry entry' rest rest' pair _ ih =>
    obtain ⟨key, value⟩ := entry
    obtain ⟨key', value'⟩ := entry'
    obtain ⟨rfl, related⟩ := pair
    by_cases same : key = name
    · simp only [get?_cons, if_pos same, Option.some.injEq] at found ⊢
      exact ⟨value', rfl, found ▸ related⟩
    · simp only [get?_cons, if_neg same] at found ⊢
      exact ih found

theorem Paired.map_eq {γ : Type} {entries : Entries α} {entries' : Entries β}
    (h : Paired R entries entries') {f : α → γ} {g : β → γ} (hf : ∀ a b, R a b → f a = g b) :
    (entries.map fun entry => (entry.1, f entry.2)) =
      entries'.map fun entry => (entry.1, g entry.2) := by
  induction h with
  | nil => rfl
  | cons pair _ ih => simp only [List.map_cons, pair.1, hf _ _ pair.2, ih]

theorem Paired.symm {S : β → α → Prop} {entries : Entries α} {entries' : Entries β}
    (h : Paired R entries entries') (hs : ∀ a b, R a b → S b a) : Paired S entries' entries :=
  h.flip.imp fun _ _ pair => ⟨pair.1.symm, hs _ _ pair.2⟩

end Entries

/-- The same annotation type with its meta-annotations in any order. -/
structure AnnotType.Reordered (type type' : AnnotType) : Prop where
  attrs : type.attrs = type'.attrs
  metas : type.metas.Perm type'.metas

/-- The same method with its annotations in any order. -/
structure MethodDecl.Reordered (method method' : MethodDecl) : Prop where
  name : method.name = method'.name
  parameters : method.parameters = method'.parameters
  bridge : method.bridge = method'.bridge
  annots : method.annots.Perm method'.annots

/-- The same class with its annotations and those of its methods in any order. -/
structure ClassDecl.Reordered (decl decl' : ClassDecl) : Prop where
  kind : decl.kind = decl'.kind
  superclass : decl.superclass = decl'.superclass
  interfaces : decl.interfaces = decl'.interfaces
  annots : decl.annots.Perm decl'.annots
  methods : List.Forall₂ MethodDecl.Reordered decl.methods decl'.methods

/-- The same registry with annotations in any order wherever they are declared. -/
structure Registry.Reordered (reg reg' : Registry) : Prop where
  types : Entries.Paired AnnotType.Reordered reg.types reg'.types
  classes : Entries.Paired ClassDecl.Reordered reg.classes reg'.classes

theorem AnnotType.Reordered.symm {type type' : AnnotType} (h : type.Reordered type') :
    type'.Reordered type := ⟨h.attrs.symm, h.metas.symm⟩

theorem AnnotType.Reordered.isInherited {type type' : AnnotType} (h : type.Reordered type') :
    type.isInherited = type'.isInherited := by
  have same := (h.metas.map (·.type)).mem_iff (a := Marker.inherited)
  have yes : type.isInherited = true ↔ type'.isInherited = true := by
    simpa [AnnotType.isInherited, metaTypes] using same
  exact Bool.eq_iff_iff.2 yes

theorem MethodDecl.Reordered.symm {method method' : MethodDecl} (h : method.Reordered method') :
    method'.Reordered method := ⟨h.name.symm, h.parameters.symm, h.bridge.symm, h.annots.symm⟩

theorem ClassDecl.Reordered.symm {decl decl' : ClassDecl} (h : decl.Reordered decl') :
    decl'.Reordered decl where
  kind := h.kind.symm
  superclass := h.superclass.symm
  interfaces := h.interfaces.symm
  annots := h.annots.symm
  methods := h.methods.flip.imp fun _ _ pair => pair.symm

theorem ClassDecl.Reordered.method? {decl decl' : ClassDecl} (h : decl.Reordered decl')
    {name : String} {parameters : List String} {method : MethodDecl}
    (found : decl.method? name parameters = some method) :
    ∃ method', decl'.method? name parameters = some method' ∧ method.Reordered method' := by
  have pairs := h.methods
  unfold ClassDecl.method? at found ⊢
  generalize decl.methods = methods at pairs found
  generalize decl'.methods = methods' at pairs ⊢
  induction pairs with
  | nil => cases found
  | @cons first first' rest rest' pair _ ih =>
    rw [List.find?_cons] at found ⊢
    rw [← pair.name, ← pair.parameters]
    split at found
    · cases found
      exact ⟨first', rfl, pair⟩
    · exact ih found

/-- Which annotation types there are annotations of. -/
def SameTypes (annots annots' : List Annot) : Prop :=
  ∀ name, name ∈ annots.map (·.type) ↔ name ∈ annots'.map (·.type)

namespace Registry

variable {reg reg' : Registry} {hidden : List String} {found annots result : List Annot}

theorem addInherited_cons (annot : Annot) (rest : List Annot) :
    reg.addInherited hidden found (annot :: rest) =
      if annot.type ∈ hidden ∨ annot.type ∈ found.map (·.type) then
        reg.addInherited hidden found rest
      else
        reg.type annot.type >>= fun type =>
          reg.addInherited hidden (if type.isInherited then found ++ [annot] else found) rest := by
  rw [Registry.addInherited]
  have passed : (hidden.contains annot.type || found.any (·.type == annot.type)) = true ↔
      annot.type ∈ hidden ∨ annot.type ∈ found.map (·.type) := by
    simp
  by_cases known : annot.type ∈ hidden ∨ annot.type ∈ found.map (·.type)
  · rw [if_pos (passed.2 known), if_pos known]
  · rw [if_neg (mt passed.1 known), if_neg known]
    congr 1
    funext type
    by_cases inherited : type.isInherited = true <;> simp [inherited]

/-- Annotations are taken over where each type is hidden, there already or known. -/
theorem addInherited_ok_iff :
    (∃ result, reg.addInherited hidden found annots = .ok result) ↔
      ∀ annot ∈ annots, annot.type ∈ hidden ∨ annot.type ∈ found.map (·.type) ∨
        ∃ type, reg.type annot.type = .ok type := by
  induction annots generalizing found with
  | nil =>
    constructor
    · intro _ annot mem
      cases mem
    · exact fun _ => ⟨found, rfl⟩
  | cons annot rest ih =>
    rw [addInherited_cons, List.forall_mem_cons]
    by_cases passed : annot.type ∈ hidden ∨ annot.type ∈ found.map (·.type)
    · rw [if_pos passed, ih]
      exact ⟨fun all => ⟨passed.imp_right .inl, all⟩, fun all => all.2⟩
    rw [if_neg passed]
    cases known : reg.type annot.type with
    | error e =>
      constructor
      · rintro ⟨_, impossible⟩
        cases impossible
      · rintro ⟨settled, _⟩
        obtain ⟨_, impossible⟩ := (or_assoc.2 settled).resolve_left passed
        cases impossible
    | ok type =>
      change (∃ result, reg.addInherited hidden _ rest = .ok result) ↔ _
      rw [ih]
      constructor
      · intro all
        refine ⟨by simp, fun other mem => ?_⟩
        have settled := all other mem
        split at settled <;> grind
      · rintro ⟨_, all⟩ other mem
        have settled := all other mem
        split <;> grind

/-- Those of an inherited type are taken over that is not hidden. -/
theorem addInherited_types (h : reg.addInherited hidden found annots = .ok result) (name : String) :
    name ∈ result.map (·.type) ↔ name ∈ found.map (·.type) ∨ name ∈ annots.map (·.type) ∧
      name ∉ hidden ∧ ∃ type, reg.type name = .ok type ∧ type.isInherited = true := by
  induction annots generalizing found with
  | nil =>
    cases h
    simp
  | cons annot rest ih =>
    rw [addInherited_cons] at h
    by_cases passed : annot.type ∈ hidden ∨ annot.type ∈ found.map (·.type)
    · rw [if_pos passed] at h
      rw [ih h, List.map_cons, List.mem_cons]
      grind
    · rw [if_neg passed] at h
      obtain ⟨type, known, h⟩ := Outcome.bind_ok h
      rw [ih h, List.map_cons, List.mem_cons]
      split <;> grind

namespace Reordered

variable (h : reg.Reordered reg')

include h

theorem symm : reg'.Reordered reg where
  types := h.types.symm fun _ _ pair => pair.symm
  classes := h.classes.symm fun _ _ pair => pair.symm

theorem type (name : String) : Matched AnnotType.Reordered (reg.type name) (reg'.type name) := by
  intro type known
  unfold Registry.type at known ⊢
  split at known
  · rename_i there
    obtain ⟨type', there', pair⟩ := h.types.get? there
    cases known
    exact ⟨type', by simp only [there'], pair⟩
  · cases known

theorem classDecl (name : String) :
    Matched ClassDecl.Reordered (reg.classDecl name) (reg'.classDecl name) := by
  intro decl known
  unfold Registry.classDecl at known ⊢
  split at known
  · rename_i there
    obtain ⟨decl', there', pair⟩ := h.classes.get? there
    cases known
    exact ⟨decl', by simp only [there'], pair⟩
  · cases known

theorem method (ref : MethodRef) :
    Matched MethodDecl.Reordered (reg.method ref) (reg'.method ref) := by
  refine (h.classDecl ref.owner).bind fun decl decl' pair => ?_
  intro method known
  split at known
  · rename_i there
    obtain ⟨method', there', pair⟩ := pair.method? there
    cases known
    exact ⟨method', by simp only [there'], pair⟩
  · cases known

theorem declaredAnnots (element : Element) :
    Matched List.Perm (reg.declaredAnnots element) (reg'.declaredAnnots element) := by
  cases element with
  | classLike name => exact (h.classDecl name).bind fun _ _ pair => .ok pair.annots
  | method ref => exact (h.method ref).bind fun _ _ pair => .ok pair.annots
  | annotType name => exact (h.type name).bind fun _ _ pair => .ok pair.metas

theorem superclasses (name : String) : reg.superclasses name = reg'.superclasses name := by
  have same : reg.superclassGraph = reg'.superclassGraph :=
    h.classes.map_eq fun _ _ pair => congrArg Option.toList pair.superclass
  unfold Registry.superclasses
  rw [same]

theorem addInherited {hidden hidden' : List String} {found found' annots annots' : List Annot}
    (hides : ∀ name, name ∈ hidden ↔ name ∈ hidden') (same : SameTypes found found')
    (perm : annots.Perm annots') :
    Matched SameTypes (reg.addInherited hidden found annots)
      (reg'.addInherited hidden' found' annots') := by
  intro result taken
  have fine : ∃ result', reg'.addInherited hidden' found' annots' = .ok result' := by
    refine addInherited_ok_iff.2 fun annot mem => ?_
    rcases addInherited_ok_iff.1 ⟨result, taken⟩ annot (perm.mem_iff.2 mem) with
      hides' | there | ⟨type, known⟩
    · exact .inl ((hides _).1 hides')
    · exact .inr (.inl ((same _).1 there))
    · obtain ⟨type', known', _⟩ := h.type _ _ known
      exact .inr (.inr ⟨type', known'⟩)
  obtain ⟨result', taken'⟩ := fine
  refine ⟨result', taken', fun name => ?_⟩
  have inherited : (∃ type, reg.type name = .ok type ∧ type.isInherited = true) ↔
      ∃ type, reg'.type name = .ok type ∧ type.isInherited = true := by
    constructor
    · rintro ⟨type, known, yes⟩
      obtain ⟨type', known', pair⟩ := h.type _ _ known
      exact ⟨type', known', pair.isInherited ▸ yes⟩
    · rintro ⟨type, known, yes⟩
      obtain ⟨type', known', pair⟩ := h.symm.type _ _ known
      exact ⟨type', known', pair.isInherited ▸ yes⟩
  have types := (perm.map (·.type)).mem_iff (a := name)
  rw [addInherited_types taken, addInherited_types taken', same name, hides name, inherited, types]

/-- A class inherits annotations of the same types. -/
theorem inheritedAnnots (name : String) :
    Matched SameTypes (reg.inheritedAnnots name) (reg'.inheritedAnnots name) := by
  refine (h.classDecl name).bind fun decl decl' pair => ?_
  rw [h.superclasses name]
  refine Matched.foldlM (fun found found' above same => ?_) _ (fun _ => Iff.rfl)
  refine (h.classDecl above).bind fun declAbove declAbove' pairAbove => ?_
  have hides (type : String) :
      type ∈ decl.annots.map (·.type) ↔ type ∈ decl'.annots.map (·.type) :=
    (pair.annots.map (·.type)).mem_iff
  exact h.addInherited hides same pairAbove.annots

end Reordered
end Registry
end Annotations
