import Annotations.Proofs.Alias.Symmetry
import Annotations.Vocabulary.Web
import Mathlib.Control.Monad.Basic

/-!
What a valid alias inside a type says of the attribute it names. The check looks at the attribute
that the partner's alias names and not at its type, so the partner is the other half of a pair only
if its alias stays inside the type as well. If it leaves the type it is an override, and lists the
first half only where its chain comes back to itself.
-/
namespace Annotations
namespace Registry

variable {reg : Registry} {type a b : String} {decl : AnnotType} {link : AliasLink}
  {groups : Entries (List String)}

/-- In a type whose alias map is there, the partner of a pair has a valid link of its own, to an
attribute named like the first half. -/
theorem AliasMapOf.partner_link (map : reg.AliasMapOf type decl groups)
    (h : reg.aliasLink type a = .ok (some link)) (pair : link.isPair = true) :
    ∃ mirror, reg.aliasLink type link.targetAttr = .ok (some mirror) ∧ mirror.targetAttr = a := by
  obtain ⟨_, attr, aim, known, declared, _, valid⟩ := aliasLink_declared h
  cases map.known.symm.trans known
  obtain ⟨_, rfl⟩ := mem_of_attr? declared
  obtain ⟨partner, back, aimed, _, _, aliased, named⟩ := checkAlias_pair valid pair
  obtain ⟨_, known', found⟩ := aliasTarget_declared aimed
  rw [(isPair_iff h).1 pair] at known'
  cases known.symm.trans known'
  exact ⟨_, map.link found aliased, named⟩

theorem aliasNames_of_pair (h : reg.aliasLink type a = .ok (some link))
    (pair : link.isPair = true) : reg.aliasNames type a = .ok [link.targetAttr] := by
  unfold aliasNames
  rw [h]
  simp only [bind, Except.bind, pair, if_true]
  rfl

theorem AliasMapOf.listed_of_pair (map : reg.AliasMapOf type decl groups)
    (h : reg.aliasLink type a = .ok (some link)) (pair : link.isPair = true) :
    listed groups a = [link.targetAttr] := by
  obtain ⟨_, attr, _, known, declared, _, _⟩ := aliasLink_declared h
  cases map.known.symm.trans known
  obtain ⟨mem, rfl⟩ := mem_of_attr? declared
  exact Except.ok.inj ((map.right attr mem).symm.trans (aliasNames_of_pair h pair))

/-- The chain of one half of a pair comes by the other half only. -/
theorem shares_half_iff (aims : reg.Aims (type, a) (type, b)) {source : String × String} :
    reg.Shares source (type, a) ↔ reg.Targets source (type, b) := by
  constructor
  · rintro ⟨target, behind, there⟩
    cases there.eq_of_pair aims rfl
    exact behind
  · exact fun behind => ⟨_, behind, .aim aims⟩

/-- Of a valid pair the first half lists the partner. The partner's alias is valid and names the
first half; it lists it if the alias stays inside the type, and otherwise only if its chain comes
back to itself. -/
theorem pair_mirrored (h : reg.aliasLink type a = .ok (some link)) (pair : link.isPair = true)
    (mapped : reg.aliasMap type = .ok groups) :
    listed groups a = [link.targetAttr] ∧ ∃ mirror,
      reg.aliasLink type link.targetAttr = .ok (some mirror) ∧ mirror.targetAttr = a ∧
      (mirror.isPair = true → listed groups link.targetAttr = [a]) ∧
      (mirror.isPair = false → (a ∈ listed groups link.targetAttr ↔
        reg.Targets (type, link.targetAttr) (type, link.targetAttr))) := by
  obtain ⟨decl, map⟩ := aliasMapOf_aliasMap mapped
  obtain ⟨mirror, linked, rfl⟩ := map.partner_link h pair
  have here := map.listed_of_pair h pair
  have mem : link.targetAttr ∈ listed groups mirror.targetAttr := here ▸ .head []
  refine ⟨here, mirror, linked, rfl, map.listed_of_pair linked, fun away => ?_⟩
  have away : mirror.target.1 ≠ type := by
    intro inside
    simp [(isPair_iff linked).2 inside] at away
  have aims : reg.Aims (type, mirror.targetAttr) (type, link.targetAttr) :=
    ⟨link, h, Prod.ext ((isPair_iff h).1 pair) rfl⟩
  rw [map.mem_iff_of_override (map.target_declared mem) ⟨_, ⟨_, linked, rfl⟩, away⟩,
    ← shares_half_iff aims]
  exact ⟨fun ⟨_, _, shares⟩ => shares, fun shares =>
    ⟨(map.partner mem).1.symm, map.source_declared mem, shares⟩⟩

section

open Vocabulary

/-- The alias of one half of a pair names the other half, but as an attribute of another type. -/
def lopsided : Registry :=
  base.addTypes [
    ("test.Far", { attrs := [textAttr "a"] }),
    ("test.Near", {
      metas := [⟨"test.Far", []⟩]
      attrs := [textAttr "a" (pairedWith "b"), textAttr "b" (overridingAttr "test.Far" "a")] })]

/-- The alias of one half of a pair leaves the type, and what it overrides leads back to it. -/
def returning : Registry :=
  base.addTypes [
    ("test.Far", {
      metas := [⟨"test.Near", []⟩]
      attrs := [textAttr "a" (overridingAttr "test.Near" "b")] }),
    ("test.Near", {
      metas := [⟨"test.Far", []⟩]
      attrs := [textAttr "a" (pairedWith "b"), textAttr "b" (overridingAttr "test.Far" "a")] })]

end

/-- The lopsided pair is accepted: its partner is an override and lists nothing. -/
theorem lopsided_pair :
    lopsided.aliasLink "test.Near" "a" = .ok (some ⟨"test.Near", "a", "test.Near", "b"⟩) ∧
      lopsided.aliasLink "test.Near" "b" = .ok (some ⟨"test.Near", "b", "test.Far", "a"⟩) ∧
      lopsided.aliasMap "test.Near" = .ok [("a", ["b"])] := by
  with_unfolding_all decide

/-- The partner of a pair of the web vocabulary lists the other half. The lopsided partner does not,
so its chain does not come back to it; the returning one does, so its chain comes back. -/
theorem partners_mirrored :
    (Registry.web.aliasLink "web.Mapping" "value" =
        .ok (some ⟨"web.Mapping", "value", "web.Mapping", "path"⟩) ∧
      Registry.web.aliasMap "web.Mapping" = .ok [("value", ["path"]), ("path", ["value"])] ∧
      listed [("value", ["path"]), ("path", ["value"])] "path" = ["value"]) ∧
    ¬ lopsided.Targets ("test.Near", "b") ("test.Near", "b") ∧
    returning.Targets ("test.Near", "b") ("test.Near", "b") := by
  refine ⟨⟨by with_unfolding_all decide, by with_unfolding_all decide, ?paired⟩, ?lopsided,
    ?returning⟩
  case paired =>
    obtain ⟨_, mirror, linked, _, stays, _⟩ :=
      @pair_mirrored Registry.web "web.Mapping" "value" ⟨"web.Mapping", "value", "web.Mapping", "path"⟩
        [("value", ["path"]), ("path", ["value"])] (by with_unfolding_all decide) (by decide)
        (by with_unfolding_all decide)
    have back : Registry.web.aliasLink "web.Mapping" "path" =
        .ok (some ⟨"web.Mapping", "path", "web.Mapping", "value"⟩) := by with_unfolding_all decide
    cases linked.symm.trans back
    exact stays (by decide)
  case lopsided =>
    obtain ⟨_, mirror, linked, _, _, leaves⟩ :=
      @pair_mirrored lopsided "test.Near" "a" ⟨"test.Near", "a", "test.Near", "b"⟩ [("a", ["b"])]
        (by with_unfolding_all decide) (by decide) (by with_unfolding_all decide)
    have back : lopsided.aliasLink "test.Near" "b" =
        .ok (some ⟨"test.Near", "b", "test.Far", "a"⟩) := by with_unfolding_all decide
    cases linked.symm.trans back
    exact fun around => absurd ((leaves (by decide)).2 around) (by decide)
  case returning =>
    obtain ⟨_, mirror, linked, _, _, leaves⟩ :=
      @pair_mirrored returning "test.Near" "a" ⟨"test.Near", "a", "test.Near", "b"⟩
        [("a", ["b"]), ("b", ["a"])] (by with_unfolding_all decide) (by decide)
        (by with_unfolding_all decide)
    have back : returning.aliasLink "test.Near" "b" =
        .ok (some ⟨"test.Near", "b", "test.Far", "a"⟩) := by with_unfolding_all decide
    cases linked.symm.trans back
    exact (leaves (by decide)).1 (by decide)

end Registry
end Annotations
