import Annotations.Search

/-!
What a search asks the registry for: where the answer is a failure it is never a configuration
error, so it leaves out one element and does not end the search.
-/
namespace Annotations

/-- A failure that does not end a search. -/
def Registry.Harmless {α : Type} (outcome : Except Error α) : Prop :=
  ∀ e, outcome = .error e → e.isConfiguration = false

namespace Registry
namespace Harmless

variable {α β : Type}

theorem ok (a : α) : Harmless (.ok a) := fun _ h => by cases h

theorem error {e : Error} (h : e.isConfiguration = false) : Harmless (.error e : Except Error α) :=
  fun _ same => by
    cases same
    exact h

theorem bind {outcome : Except Error α} {next : α → Except Error β} (h : Harmless outcome)
    (hn : ∀ a, Harmless (next a)) : Harmless (outcome >>= next) := by
  cases outcome with
  | ok a => exact hn a
  | error e => exact error (h e rfl)

theorem foldlM {step : β → α → Except Error β} (h : ∀ b a, Harmless (step b a)) (items : List α)
    (start : β) : Harmless (items.foldlM step start) := by
  induction items generalizing start with
  | nil => exact ok start
  | cons item rest ih =>
    rw [List.foldlM_cons]
    exact (h start item).bind ih

end Harmless

variable (reg : Registry)

theorem type_harmless (name : String) : Harmless (reg.type name) := by
  unfold type
  split
  · exact .ok _
  · exact .error rfl

theorem classDecl_harmless (name : String) : Harmless (reg.classDecl name) := by
  unfold classDecl
  split
  · exact .ok _
  · exact .error rfl

theorem method_harmless (ref : MethodRef) : Harmless (reg.method ref) := by
  refine (reg.classDecl_harmless ref.owner).bind fun decl => ?_
  split
  · exact .ok _
  · exact .error rfl

theorem declaredAnnots_harmless (element : Element) : Harmless (reg.declaredAnnots element) := by
  cases element with
  | classLike name => exact (reg.classDecl_harmless name).bind fun decl => .ok _
  | method ref => exact (reg.method_harmless ref).bind fun decl => .ok _
  | annotType name => exact (reg.type_harmless name).bind fun type => .ok _

theorem addInherited_harmless (hidden : List String) (found annots : List Annot) :
    Harmless (reg.addInherited hidden found annots) := by
  induction annots generalizing found with
  | nil => exact .ok found
  | cons annot rest ih =>
    unfold addInherited
    split
    · exact ih found
    · refine (reg.type_harmless annot.type).bind fun type => ?_
      split
      · exact ih _
      · exact ih found

theorem inheritedAnnots_harmless (name : String) : Harmless (reg.inheritedAnnots name) := by
  refine (reg.classDecl_harmless name).bind fun decl => ?_
  refine Harmless.foldlM (fun found above => ?_) _ _
  exact (reg.classDecl_harmless above).bind fun decl => reg.addInherited_harmless _ _ _

theorem resolveBridge_harmless (ref : MethodRef) : Harmless (reg.resolveBridge ref) := by
  refine (reg.method_harmless ref).bind fun decl => ?_
  split
  · exact .ok ref
  · exact (reg.method_harmless _).bind fun _ => .ok _

theorem firstClass?_harmless (test : ClassDecl → Bool) (names : List String) :
    Harmless (reg.firstClass? test names) := by
  induction names with
  | nil => exact .ok none
  | cons name rest ih =>
    refine (reg.classDecl_harmless name).bind fun decl => ?_
    split
    · exact .ok _
    · exact ih

theorem findInterfaceMethod_harmless (start name : String) (parameters : List String) :
    Harmless (reg.findInterfaceMethod start name parameters) :=
  (reg.firstClass?_harmless _ _).bind fun _ => .ok _

theorem hasAnnotatedMethods_harmless (start : String) : Harmless (reg.hasAnnotatedMethods start) :=
  (reg.firstClass?_harmless _ _).bind fun _ => .ok _

end Registry

theorem Search.checkDepth_harmless (search : Search) (element : Element) (depth : Nat) :
    Registry.Harmless (search.checkDepth element depth) := by
  unfold checkDepth
  split
  · exact .error rfl
  · exact .ok ()

end Annotations
