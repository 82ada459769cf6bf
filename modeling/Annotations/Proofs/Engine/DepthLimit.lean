import Annotations.Proofs.Engine.Reachability
import Annotations.Proofs.Search.Detours

/-!
Presence and the depth limit. Nothing beyond the limit is present, and what a short chain leads to is
present unless each chain there leads through a type that the search may come to on a detour. Only in
that case does the order of annotations make a difference.
-/
namespace Annotations
namespace Engine

variable {engine : Engine} {element : Element} {type : String}

theorem finds_within (found : engine.finds .get element type = true) :
    engine.search.Within element type := by
  rcases engine.finds_sweeps .get element type with ⟨hits, _⟩ | ⟨_, none⟩
  · exact hits.within
  · cases none.symm.trans found

theorem finds_of_clear (clear : engine.search.Clear element type) :
    engine.finds .get element type = true := by
  rcases engine.finds_sweeps .get element type with ⟨_, found⟩ | ⟨⟨met, exhausted⟩, _⟩
  · exact found
  · exact absurd clear exhausted.not_clear

/-- After any calls: an annotation that is present lies within the depth limit, and one that some chain
leads to through no type on a detour is present. Where no annotation lies within the limit on detours
only, the limit alone decides, in whatever order annotations are declared. -/
theorem presence_depth_limit (engine : Engine) (element : Element) (type : String)
    (calls : List Call) :
    ((engine.isAnnotated element type (engine.run calls {}).2).1 = .ok true →
      engine.search.Within element type) ∧
    (engine.search.Clear element type →
      (engine.isAnnotated element type (engine.run calls {}).2).1 = .ok true) ∧
    ((engine.search.Within element type → engine.search.Clear element type) →
      ∀ reg', engine.reg.Reordered reg' → ∀ calls',
        (({ engine with reg := reg' } : Engine).isAnnotated element type
          (({ engine with reg := reg' } : Engine).run calls' {}).2).1 =
        (engine.isAnnotated element type (engine.run calls {}).2).1) := by
  simp only [isAnnotated_run, Except.ok.injEq]
  refine ⟨finds_within, finds_of_clear, fun direct reg' h calls' => ?_⟩
  have back : ({ engine with reg := reg' } : Engine).search.reg.Reordered engine.reg := h.symm
  rw [Bool.eq_iff_iff]
  constructor
  · intro found
    have within : engine.search.Within element type := (finds_within found).reordered back
    exact finds_of_clear (direct within)
  · intro found
    exact finds_of_clear ((direct (finds_within found)).reordered h)

end Engine

/-- Whether every annotation type, class and interface that is named is registered. -/
def Registry.complete (reg : Registry) : Bool :=
  reg.types.all (fun entry => entry.2.metaTypes.all reg.hasType) &&
    reg.classes.all fun entry =>
      (entry.2.interfaces ++ entry.2.superclass.toList).all reg.classes.has &&
        (entry.2.annots ++ entry.2.methods.flatMap (·.annots)).all fun annot =>
          reg.hasType annot.type

/-- A service and a wrapper round it, both of which may be on a class. -/
def Registry.wrapped (annots : List Annot) : Registry :=
  (base.addTypes [
    ("test.Base", {}),
    ("test.Config", { metas := [⟨"test.Base", []⟩] }),
    ("test.Service", { metas := [⟨"test.Config", []⟩] }),
    ("test.Wrapper", { metas := [⟨"test.Service", []⟩] })]).addClass "app.Door" { annots }

namespace Engine

/-- An engine that follows meta-annotations two levels deep. -/
def shallow (annots : List Annot) : Engine := ⟨.wrapped annots, { maxMetaDepth := 2 }⟩

def wrapperFirst : List Annot := [⟨"test.Wrapper", []⟩, ⟨"test.Service", []⟩]

def serviceFirst : List Annot := [⟨"test.Service", []⟩, ⟨"test.Wrapper", []⟩]

theorem wrapped_reordered :
    (Registry.wrapped wrapperFirst).Reordered (Registry.wrapped serviceFirst) where
  types := by
    have same (entries : Entries AnnotType) :
        Entries.Paired AnnotType.Reordered entries entries :=
      List.forall₂_same.2 fun _ _ => ⟨rfl, rfl, .refl _⟩
    exact same _
  classes := .cons ⟨rfl, rfl, rfl, rfl, .swap _ _ [], .nil⟩ .nil

/-- The chain over the service, from the class to what the service is configured with. -/
theorem service_climbs :
    (shallow wrapperFirst).search.Climbs .get (.classLike "app.Door")
      ["test.Service", "test.Config"] (.annotType "test.Config") := by
  have service : (shallow wrapperFirst).search.Bears .get (.classLike "app.Door")
      ⟨"test.Service", []⟩ := ⟨.inl ⟨_, rfl, .tail _ (.head [])⟩, by decide⟩
  have config : (shallow wrapperFirst).search.Bears .get (.annotType "test.Service")
      ⟨"test.Config", []⟩ := ⟨.inl ⟨_, rfl, .head []⟩, by decide⟩
  exact .up service (.up config .here)

/-- The order of the two annotations on the class decides whether the base of the service is present
two levels up, though the same short chain leads there in both. -/
theorem order_decides_presence :
    (Registry.wrapped wrapperFirst).complete = true ∧
      (Registry.wrapped wrapperFirst).Reordered (Registry.wrapped serviceFirst) ∧
      (shallow wrapperFirst).search.Within (.classLike "app.Door") "test.Base" ∧
      ((shallow wrapperFirst).isAnnotated (.classLike "app.Door") "test.Base" {}).1 = .ok false ∧
      ((shallow serviceFirst).isAnnotated (.classLike "app.Door") "test.Base" {}).1 = .ok true := by
  refine ⟨by decide, wrapped_reordered, ?_, by with_unfolding_all decide,
    by with_unfolding_all decide⟩
  have base : (shallow wrapperFirst).search.Bears .get (.annotType "test.Config")
      ⟨"test.Base", []⟩ := ⟨.inl ⟨_, rfl, .head []⟩, by decide⟩
  have climbs := service_climbs.snoc base
  exact ⟨_, by simp, climbs, by decide⟩

/-- How many annotations lead on from an element, at most. -/
def wrappedRank : Element → Nat
  | .classLike _ => 4
  | .annotType "test.Wrapper" => 3
  | .annotType "test.Service" => 2
  | .annotType "test.Config" => 1
  | _ => 0

/-- What the service is configured with is present in either order: the service itself is on no
detour. -/
theorem wrapped_presence_depth_limit :
    (shallow wrapperFirst).search.Clear (.classLike "app.Door") "test.Config" ∧
      ((shallow wrapperFirst).isAnnotated (.classLike "app.Door") "test.Config" {}).1 = .ok true ∧
      ((shallow serviceFirst).isAnnotated (.classLike "app.Door") "test.Config" {}).1 =
        .ok true := by
  have clear : (shallow wrapperFirst).search.Clear (.classLike "app.Door") "test.Config" := by
    refine ⟨_, by simp, service_climbs, fun between mem => ?_⟩
    cases List.mem_singleton.1 mem
    rintro ⟨chain, climbs, _, deep⟩
    have short := climbs.length_le wrappedRank (by with_unfolding_all decide)
    change 2 + chain.length ≤ 4 at short
    change 2 < chain.length at deep
    omega
  obtain ⟨_, present, ordered⟩ :=
    presence_depth_limit (shallow wrapperFirst) (.classLike "app.Door") "test.Config" []
  have yes := present clear
  have same := ordered (fun _ => clear) _ wrapped_reordered []
  exact ⟨clear, yes, same.trans yes⟩

end Engine
end Annotations
