import Annotations.Proofs.Engine.Reachability

/-!
Presence on methods is reachability too. Where classes and bridge targets are known a find search from a
method comes to all that bridges, overrides and interfaces lead to, in whatever order, so what is found
from one of those methods is found from it.
-/
namespace Annotations

open Relation (ReflTransGen)

namespace Registry

variable {reg : Registry} {ref there : MethodRef} {decl : MethodDecl}

/-- Where classes and bridge targets are known no question keeps a search from what a method leads
to. -/
theorem HierarchyKnown.surelyLeads (known : reg.HierarchyKnown)
    (lands : ∀ name parameters, reg.BridgesLand name parameters)
    (declared : reg.method ref = .ok decl) (way : ReflTransGen reg.Leads ref there) :
    ReflTransGen reg.SurelyLeads ref there := by
  have further : (∃ decl, reg.method there = .ok decl) ∧ ReflTransGen reg.SurelyLeads ref there := by
    induction way with
    | refl => exact ⟨⟨decl, declared⟩, .refl⟩
    | @tail other there _ leads ih =>
      obtain ⟨⟨_, declared'⟩, way⟩ := ih
      have answers := known.unhindered (lands other.name other.parameters) declared'
      exact ⟨leads.declared, way.tail ⟨answers, leads⟩⟩
  exact further.2

end Registry

namespace Search

variable {search : Search} {ref : MethodRef} {base : Element}

theorem starts_method_iff : search.Starts .find (.method ref) base ↔
    ∃ there, ReflTransGen search.reg.Leads ref there ∧ base = .method there := by
  constructor
  · intro starts
    cases starts with
    | stands stands =>
      cases stands
      exact ⟨ref, .refl, rfl⟩
    | beside _ way => exact ⟨_, way, rfl⟩
  · rintro ⟨there, way, rfl⟩
    exact .beside rfl way

end Search

namespace Engine

variable {engine : Engine} {ref there : MethodRef} {decl : MethodDecl} {type : String}
  (known : engine.reg.HierarchyKnown)
  (lands : ∀ name parameters, engine.reg.BridgesLand name parameters)
  (enough : engine.reg.typeNames.length ≤ engine.settings.maxMetaDepth)
  (declared : engine.reg.method ref = .ok decl)

include known lands enough declared

/-- An annotation is found from a method if a chain leads there from some method that this one leads
to. -/
theorem finds_method_iff : engine.finds .find (.method ref) type = true ↔
    ∃ there chain, ReflTransGen engine.reg.Leads ref there ∧ chain ≠ [] ∧
      engine.search.Climbs .find (.method there) chain (.annotType type) := by
  have answered : (engine.hunt .find (.method ref) type).Answered := by
    intro _ _ there root way
    cases root
    exact known.surelyLeads lands declared way
  rw [finds_iff_chain answered enough]
  constructor
  · rintro ⟨base, chain, starts, climbs⟩
    obtain ⟨there, way, rfl⟩ := Search.starts_method_iff.1 starts
    exact ⟨there, chain, way, climbs⟩
  · rintro ⟨there, chain, way, climbs⟩
    exact ⟨_, chain, Search.starts_method_iff.2 ⟨there, way, rfl⟩, climbs⟩

/-- What is found from a method is found from the methods that lead to it. -/
theorem finds_of_leads (leads : engine.reg.Leads ref there)
    (found : engine.finds .find (.method there) type = true) :
    engine.finds .find (.method ref) type = true := by
  obtain ⟨target, declared'⟩ := leads.declared
  obtain ⟨last, chain, way, climbs⟩ := (finds_method_iff known lands enough declared').1 found
  exact (finds_method_iff known lands enough declared).2 ⟨last, chain, .head leads way, climbs⟩

/-- After any calls: what is found from the target of a bridge is found from the bridge, and what is
found from a method on a superclass that is no bridge is found from the methods that override it. -/
theorem found_along_overrides (type : String) (calls calls' : List Call) :
    (∀ parameters, decl.bridge = some parameters →
      (engine.hasAnnot (.method { ref with parameters }) type (engine.run calls {}).2).1 = .ok true →
      (engine.hasAnnot (.method ref) type (engine.run calls' {}).2).1 = .ok true) ∧
    ∀ above overridden, engine.reg.superclassGraph.Reaches ref.owner above →
      engine.reg.method (ref.onClass above) = .ok overridden → overridden.bridge = none →
      (engine.hasAnnot (.method (ref.onClass above)) type (engine.run calls {}).2).1 = .ok true →
      (engine.hasAnnot (.method ref) type (engine.run calls' {}).2).1 = .ok true := by
  simp only [hasAnnot_run, Except.ok.injEq]
  constructor
  · intro parameters bridges found
    obtain ⟨target, bridged⟩ := lands ref.name ref.parameters ref.owner decl parameters declared bridges
    have bridge := Registry.resolveBridge_of_bridge declared bridges bridged
    exact finds_of_leads known lands enough declared (.bridged bridge) found
  · intro above overridden reaches redeclared plain found
    rcases List.mem_cons.1 (Registry.mem_lineage_of_reaches reaches) with rfl | mem
    · exact found
    · have bridge := Registry.resolveBridge_of_plain redeclared plain
      exact finds_of_leads known lands enough declared (.overridden mem bridge) found

end Engine

/-- A scribe whose writing stands in for writing a text, and who overrides what the crown, two steps
above, has both kinds of writing under seal. The desk in between extends itself and knows of no seal. -/
def Registry.chancery : Registry :=
  (base.addTypes [
    ("test.Seal", {}),
    ("test.Writ", { metas := [⟨"test.Seal", []⟩] })]).addClasses [
    ("app.Scribe", {
      superclass := some "app.Clerk"
      interfaces := ["app.Desk"]
      methods := [
        { name := "write", bridge := some ["text"] },
        { name := "write", parameters := ["text"] }] }),
    ("app.Clerk", { superclass := some "app.Crown", interfaces := ["app.Desk"] }),
    ("app.Crown", {
      methods := [
        { name := "write", annots := [⟨"test.Writ", []⟩] },
        { name := "write", parameters := ["text"], annots := [⟨"test.Seal", []⟩] }] }),
    ("app.Desk", {
      kind := .interface
      interfaces := ["app.Desk"]
      methods := [{ name := "write" }] })]

namespace Engine

def chancery : Engine := ⟨.chancery, {}⟩

/-- The scribe writes under the seal of the crown, and a bridge to such writing is under it too. -/
theorem chancery_found_along_overrides :
    chancery.reg.HierarchyKnown ∧
      (∀ name parameters, chancery.reg.BridgesLand name parameters) ∧
      chancery.reg.typeNames.length ≤ chancery.settings.maxMetaDepth ∧
      (chancery.hasAnnot (.method ⟨"app.Scribe", "write", []⟩) "test.Seal" {}).1 = .ok true ∧
      (chancery.hasAnnot (.method ⟨"app.Scribe", "write", []⟩) "test.Writ" {}).1 = .ok true := by
  have known : chancery.reg.HierarchyKnown := .of_classes (by decide)
  have lands : ∀ name parameters, chancery.reg.BridgesLand name parameters :=
    Registry.bridgesLand_of_classes (by decide)
  have enough : chancery.reg.typeNames.length ≤ chancery.settings.maxMetaDepth := by decide
  have declared : chancery.reg.method ⟨"app.Scribe", "write", []⟩ =
      .ok { name := "write", bridge := some ["text"] } := rfl
  obtain ⟨bridged, _⟩ := found_along_overrides known lands enough declared "test.Seal" [] []
  obtain ⟨_, overridden⟩ := found_along_overrides known lands enough declared "test.Writ" [] []
  have above : chancery.reg.superclassGraph.Reaches "app.Scribe" "app.Crown" :=
    .cons (b := "app.Clerk") (.head []) (.step (.head []))
  refine ⟨known, lands, enough, bridged ["text"] rfl (by with_unfolding_all decide), ?_⟩
  exact overridden "app.Crown" _ above rfl rfl (by with_unfolding_all decide)

end Engine
end Annotations
