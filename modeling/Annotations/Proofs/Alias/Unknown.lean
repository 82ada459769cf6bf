import Annotations.Proofs.Alias.Faults
import Annotations.Proofs.Alias.Groups
import Annotations.Proofs.Alias.Synthesizable

/-!
Questions about aliases fail for introspection only over a type that is not registered: the type they
are asked about or, where they ask whether views of it need alias handling, one nested in it. All other
faults of alias declarations are configuration errors.
-/
namespace Annotations

open Annotations.Action SynthMemo

/-- No configuration error is one of introspection. -/
theorem Error.not_introspection {e : Error} (config : e.isConfiguration = true) :
    ¬ e.isIntrospection = true := by
  unfold isIntrospection
  rw [eq_of_beq config]
  exact Bool.false_ne_true

namespace Registry

variable {reg : Registry} {type attr : String} {link : AliasLink} {e : Error}

theorem checkAlias_configuration {attr : Attr} {aim : AliasFor}
    (h : reg.checkAlias type attr aim = .error e) : e.isConfiguration = true := by
  rcases Outcome.bind_error h with failed | ⟨target, _, h⟩
  · exact (aimedAttr_fault failed).ends
  · split at h
    · cases h
      rfl
    · exact (checkEnds_fault h).ends

variable (introspection : e.isIntrospection = true)

include introspection

theorem aliasLink_unknown (h : reg.aliasLink type attr = .error e) : reg.type type = .error e := by
  rcases Outcome.bind_error h with unknown | ⟨decl, _, h⟩
  · exact unknown
  · split at h
    · cases h
      cases introspection
    · split at h
      · cases h
      · have config := checkAlias_configuration (Outcome.error_of_map h)
        exact absurd introspection (Error.not_introspection config)

/-- The target of a valid link is registered, so nothing behind it is unknown. -/
theorem overrideLink_known (linked : reg.Linked link) : reg.overrideLink link ≠ .error e := by
  intro h
  unfold overrideLink at h
  split at h
  · cases h
  · obtain ⟨decl, _, known, _⟩ := linked.aims.declared
    cases known.symm.trans (aliasLink_unknown introspection h)

theorem overrideChain_known (linked : reg.Linked link) : reg.overrideChain link ≠ .error e := by
  unfold overrideChain
  generalize [link.source] = seen
  intro h
  fun_induction reg.overrideChainFrom seen link with
  | case1 seen link e' behind =>
    cases h
    exact overrideLink_known introspection linked behind
  | case2 seen link behind => cases h
  | case3 seen link next behind again => cases h
  | case4 seen link next behind fresh ih =>
    exact ih (overrideLink_some behind).1 (Outcome.error_of_map h)

theorem implicitAliases_unknown {attr : Attr} {others : List Attr} (linked : reg.Linked link)
    (h : reg.implicitAliases type attr link others = .error e) : reg.type type = .error e := by
  induction others with
  | nil => cases h
  | cons other rest ih =>
    unfold implicitAliases at h
    split at h
    · exact ih h
    · rcases Outcome.bind_error h with failed | ⟨found, linked', h⟩
      · exact aliasLink_unknown introspection failed
      · cases found with
        | none => exact ih h
        | some otherLink =>
          rcases Outcome.bind_error h with failed | ⟨chain, _, h⟩
          · exact absurd failed (overrideChain_known introspection linked)
          rcases Outcome.bind_error h with failed | ⟨otherChain, _, h⟩
          · exact absurd failed
              (overrideChain_known introspection (Linked.of_aliasLink linked').1)
          split at h
          · rcases Outcome.bind_error h with failed | ⟨_, _, h⟩
            · exact absurd introspection
                (Error.not_introspection (checkDefaults_fault failed).ends)
            · rcases Outcome.bind_error h with failed | ⟨_, _, h⟩
              · exact ih failed
              · cases h
          · exact ih h

theorem aliasNames_unknown (h : reg.aliasNames type attr = .error e) : reg.type type = .error e := by
  rcases Outcome.bind_error h with failed | ⟨found, linked, h⟩
  · exact aliasLink_unknown introspection failed
  · cases found with
    | none => cases h
    | some link =>
      simp only at h
      split at h
      · cases h
      · rcases Outcome.bind_error h with unknown | ⟨decl, _, h⟩
        · exact unknown
        · split at h
          · cases h
          · exact implicitAliases_unknown introspection (Linked.of_aliasLink linked).1 h

theorem aliasMap_unknown (h : reg.aliasMap type = .error e) : reg.type type = .error e := by
  rcases Outcome.bind_error h with unknown | ⟨decl, _, h⟩
  · exact unknown
  · generalize decl.attrs = attrs at h
    generalize ([] : Entries (List String)) = found at h
    induction attrs generalizing found with
    | nil => cases h
    | cons attr rest ih =>
      rcases Outcome.bind_error h with failed | ⟨_, _, h⟩
      · exact aliasNames_unknown introspection failed
      · exact ih _ h

/-- A fault within a type is one of introspection only if the type or one nested in it is not
registered. -/
theorem FaultyWithin.unknown (h : reg.FaultyWithin type e) :
    ∃ inner, Relation.ReflTransGen reg.Nests type inner ∧ reg.type inner = .error e := by
  obtain ⟨inner, way, unknown | ⟨_, _, _, _, invalid⟩⟩ := h
  · exact ⟨inner, way, unknown⟩
  · exact ⟨inner, way, aliasLink_unknown introspection invalid⟩

end Registry
end Annotations
