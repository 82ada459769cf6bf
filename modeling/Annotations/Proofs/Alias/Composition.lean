import Annotations.Proofs.Alias.Chain
import Annotations.Proofs.Alias.History
import Annotations.Proofs.Alias.Implicit

/-!
Override names compose. What an attribute overrides in a further type is what the attribute that it
overrides in a nearer type overrides there, also where the two chains come by a ring of overrides and
stop at different places of it.
-/
namespace Annotations
namespace Registry

open Annotations.Action SynthMemo

variable {reg : Registry} {type attr target other : String} {source : String × String}
  {seen : List (String × String)} {link found : AliasLink} {chain : List AliasLink}

/-- The first target in a type that the chain from an attribute comes by. -/
inductive Nearest (reg : Registry) (type : String) : String × String → String → Prop
  | aim {source : String × String} {attr : String} : reg.Aims source (type, attr) →
    reg.Nearest type source attr
  | override {source next : String × String} {attr : String} : reg.Aims source next →
    next.1 ≠ type → next.1 ≠ source.1 → reg.Nearest type next attr → reg.Nearest type source attr

theorem Nearest.targets (h : reg.Nearest type source attr) : reg.Targets source (type, attr) := by
  induction h with
  | aim aims => exact .aim aims
  | override aims _ away _ ih => exact .override aims away ih

theorem Nearest.unique {attr' : String} (h : reg.Nearest type source attr)
    (h' : reg.Nearest type source attr') : attr = attr' := by
  induction h with
  | aim aims =>
    cases h' with
    | aim aims' => exact (Prod.mk.inj (aims.unique aims')).2
    | override aims' elsewhere => exact absurd (congrArg Prod.fst (aims'.unique aims)) elsewhere
  | override aims elsewhere _ _ ih =>
    cases h' with
    | aim aims' => exact absurd (congrArg Prod.fst (aims.unique aims')) elsewhere
    | override aims' _ _ behind =>
      cases aims.unique aims'
      exact ih behind

/-- Past an override into another type the nearest target is the one from there on. -/
theorem nearest_iff_of_aims {next : String × String} (aims : reg.Aims source next)
    (elsewhere : next.1 ≠ type) (away : next.1 ≠ source.1) :
    reg.Nearest type source attr ↔ reg.Nearest type next attr := by
  refine ⟨fun h => ?_, .override aims elsewhere away⟩
  cases h with
  | aim aims' => exact absurd (congrArg Prod.fst (aims.unique aims')) elsewhere
  | override aims' _ _ behind =>
    cases aims.unique aims'
    exact behind

/-- A chain begins with its link and goes on with the chain of the link behind it, or ends. -/
theorem overrideChainFrom_cons (h : reg.overrideChainFrom seen link = .ok chain) :
    ∃ behind tail, reg.overrideLink link = .ok behind ∧ chain = link :: tail ∧ (tail = [] ∨
      ∃ next, behind = some next ∧ reg.overrideChainFrom (next.source :: seen) next = .ok tail) := by
  cases behind : reg.overrideLink link with
  | error e =>
    rw [overrideChainFrom_error behind] at h
    cases h
  | ok found =>
    cases found with
    | none =>
      rw [overrideChainFrom_last behind] at h
      cases h
      exact ⟨none, [], rfl, rfl, .inl rfl⟩
    | some next =>
      by_cases again : seen.contains next.source
      · rw [overrideChainFrom_again behind again] at h
        cases h
        exact ⟨some next, [], rfl, rfl, .inl rfl⟩
      · rw [overrideChainFrom_fresh behind again] at h
        obtain ⟨tail, rest, rfl⟩ := Outcome.map_ok h
        exact ⟨some next, tail, rfl, rfl, .inr ⟨next, rfl, rest⟩⟩

/-- Behind no link of a chain there is a failure. -/
theorem overrideLink_of_mem (h : reg.overrideChainFrom seen link = .ok chain) :
    ∀ item ∈ chain, ∃ behind, reg.overrideLink item = .ok behind := by
  induction chain generalizing seen link with
  | nil => simp
  | cons first tail ih =>
    obtain ⟨behind, _, step, same, rest⟩ := overrideChainFrom_cons h
    cases same
    refine List.forall_mem_cons.2 ⟨⟨behind, step⟩, ?_⟩
    rcases rest with rfl | ⟨next, _, rest⟩
    · simp
    · exact ih rest

/-- The first link of a chain that leads into a type leads to the nearest target there. -/
theorem nearest_of_find? (h : reg.overrideChainFrom seen link = .ok chain) (linked : reg.Linked link)
    (first : chain.find? (·.targetType == type) = some found) :
    reg.Nearest type link.source found.targetAttr := by
  induction chain generalizing seen link with
  | nil => cases first
  | cons head tail ih =>
    obtain ⟨behind, _, step, same, rest⟩ := overrideChainFrom_cons h
    cases same
    by_cases here : head.targetType = type
    · rw [List.find?_cons_of_pos (by simpa using here)] at first
      cases first
      subst here
      exact .aim linked.aims
    · rw [List.find?_cons_of_neg (by simpa using here)] at first
      rcases rest with rfl | ⟨next, rfl, rest⟩
      · cases first
      · obtain ⟨linked', source, away⟩ := overrideLink_some step
        exact .override linked.aims here away (source ▸ ih rest linked' first)

/-- An override name is that of the nearest target. -/
theorem overrideName_nearest {name? : Option String} (h : reg.overrideName type attr target = .ok name?)
    (name : String) : name? = some name ↔ reg.Nearest target (type, attr) name := by
  obtain ⟨link?, asked, h⟩ := Outcome.bind_ok h
  cases link? with
  | none =>
    cases h
    refine ⟨nofun, fun near => ?_⟩
    obtain ⟨_, link, linked, _⟩ := near.targets.aims
    cases asked.symm.trans linked
  | some link =>
    obtain ⟨chain, whole, h⟩ := Outcome.bind_ok h
    cases h
    obtain ⟨linked, source⟩ := Linked.of_aliasLink asked
    rw [← source]
    cases first : chain.find? (·.targetType == target) with
    | some found =>
      have near := nearest_of_find? whole linked first
      exact ⟨fun same => Option.some.inj same ▸ near, fun near' => congrArg some (near.unique near')⟩
    | none =>
      refine ⟨nofun, fun near => ?_⟩
      obtain ⟨item, mem, aims⟩ := (mem_overrideChain whole linked _).2 near.targets
      have missed := List.find?_eq_none.1 first item mem
      exact absurd (congrArg Prod.fst aims) (by simpa [AliasLink.target] using missed)

/-- Of a chain that starts outside a type, the first link that leads into the type is an override. From
its target on the nearest target in another type is the one from the start, if no link before leads into
that type. -/
theorem nearest_through (h : reg.overrideChainFrom seen link = .ok chain) (linked : reg.Linked link)
    (outside : target ≠ link.sourceType) (apart : other ≠ target)
    (first : chain.find? (·.targetType == target) = some found)
    (spared : ∀ before ∈ chain.takeWhile (·.targetType != target), before.targetType ≠ other) :
    found ∈ chain ∧ found.isPair = false ∧ found.targetType = target ∧
      ∀ name, reg.Nearest other link.source name ↔
        reg.Nearest other (target, found.targetAttr) name := by
  induction chain generalizing seen link with
  | nil => cases first
  | cons head tail ih =>
    obtain ⟨behind, _, step, same, rest⟩ := overrideChainFrom_cons h
    cases same
    by_cases here : head.targetType = target
    · rw [List.find?_cons_of_pos (by simpa using here)] at first
      cases first
      subst here
      refine ⟨.head tail, by simpa [AliasLink.isPair] using outside, rfl, fun name => ?_⟩
      exact nearest_iff_of_aims linked.aims apart.symm outside
    · rw [List.find?_cons_of_neg (by simpa using here)] at first
      rw [List.takeWhile_cons_of_pos (by simpa using here)] at spared
      obtain ⟨elsewhere, spared⟩ := List.forall_mem_cons.1 spared
      rcases rest with rfl | ⟨next, rfl, rest⟩
      · cases first
      · obtain ⟨linked', source, away⟩ := overrideLink_some step
        have outside' : target ≠ next.sourceType := by
          rw [show next.sourceType = head.targetType from congrArg Prod.fst source]
          exact Ne.symm here
        obtain ⟨mem, outward, into, nearest⟩ := ih rest linked' outside' first spared
        refine ⟨.tail head mem, outward, into, fun name => ?_⟩
        rw [nearest_iff_of_aims linked.aims elsewhere away, ← nearest name, source]

/-- Among links that have no failure behind them and lead to each other only, every chain comes to an
end. -/
theorem overrideChainFrom_isOk {inside : List AliasLink}
    (sound : ∀ item ∈ inside, ∃ behind, reg.overrideLink item = .ok behind ∧
      ∀ next, behind = some next → next ∈ inside) (mem : link ∈ inside) :
    ∃ chain, reg.overrideChainFrom seen link = .ok chain := by
  induction ahead : reg.attrKeysAhead seen using Nat.strongRecOn generalizing seen link with
  | ind bound ih =>
    obtain ⟨behind, step, closed⟩ := sound link mem
    cases behind with
    | none => exact ⟨_, overrideChainFrom_last step⟩
    | some next =>
      by_cases again : seen.contains next.source
      · exact ⟨_, overrideChainFrom_again step again⟩
      · have fewer := attrKeysAhead_lt (reg.overrideLink_mem step) again
        obtain ⟨tail, rest⟩ := ih _ (ahead ▸ fewer) (closed next rfl) rfl
        rw [overrideChainFrom_fresh step again, rest]
        exact ⟨_, rfl⟩

/-- What the links of a chain override is on the chain again. -/
theorem overrideChain_closed (h : reg.overrideChain link = .ok chain) (linked : reg.Linked link) :
    ∀ item ∈ chain, ∃ behind, reg.overrideLink item = .ok behind ∧
      ∀ next, behind = some next → next ∈ chain := by
  obtain ⟨start, all⟩ := mem_overrideChainFrom h linked
  intro item mem
  obtain ⟨behind, step⟩ := overrideLink_of_mem h item mem
  refine ⟨behind, step, ?_⟩
  rintro next rfl
  rcases (all item mem).2.2 next step with there | back
  · exact there
  · -- a chain that comes back to its start has the start's link already
    cases (overrideLink_some step).1.unique linked (List.mem_singleton.1 back)
    exact start

/-- From the target of an override on a chain every override name can be told. -/
theorem overrideName_isOk (h : reg.overrideChain link = .ok chain) (linked : reg.Linked link)
    (mem : found ∈ chain) (outward : found.isPair = false) (other : String) :
    ∃ name?, reg.overrideName found.targetType found.targetAttr other = .ok name? := by
  have closed := overrideChain_closed h linked
  obtain ⟨behind, step, inside⟩ := closed found mem
  have asked : reg.aliasLink found.targetType found.targetAttr = .ok behind := by
    simpa [overrideLink, outward] using step
  unfold overrideName
  rw [asked]
  cases behind with
  | none => exact ⟨none, rfl⟩
  | some next =>
    obtain ⟨chain', whole⟩ : ∃ chain', reg.overrideChain next = .ok chain' :=
      overrideChainFrom_isOk closed (inside next rfl)
    simp only [whole, bind, Except.bind]
    exact ⟨_, rfl⟩

/-- No override of an attribute leads into a type before one leads into the target's. -/
def Spares (reg : Registry) (type attr target other : String) : Prop :=
  ∀ link chain, reg.aliasLink type attr = .ok (some link) → reg.overrideChain link = .ok chain →
    ∀ before ∈ chain.takeWhile (·.targetType != target), before.targetType ≠ other

/-- Whatever was asked before: if an attribute overrides another in a type, and none of its overrides
leads into a further type before that, then asking either of the two what it overrides in the further
type has one outcome. -/
theorem overrideName_trans {through : String} (queries queries' queries'' : List AliasQuery)
    (outside : target ≠ type) (apart : other ≠ target)
    (overridden : (reg.recallOverrideName type attr target (reg.askAll queries)).1 =
      .ok (some through))
    (spared : reg.Spares type attr target other) :
    (reg.recallOverrideName type attr other (reg.askAll queries')).1 =
      (reg.recallOverrideName target through other (reg.askAll queries'')).1 := by
  have asked (queries : List AliasQuery) (type attr target : String) :
      (reg.recallOverrideName type attr target (reg.askAll queries)).1 =
        reg.overrideName type attr target :=
    (reg.recallOverrideName_computes type attr target _ (askAll_fair queries).sound).1
  rw [asked] at overridden
  rw [asked, asked]
  obtain ⟨link?, own, chosen⟩ := Outcome.bind_ok overridden
  cases link? with
  | none => cases chosen
  | some link =>
    obtain ⟨chain, whole, chosen⟩ := Outcome.bind_ok chosen
    obtain ⟨found, first, rfl⟩ := Option.map_eq_some_iff.1 (Except.ok.inj chosen)
    obtain ⟨linked, source⟩ := Linked.of_aliasLink own
    cases source
    obtain ⟨mem, outward, rfl, nearest⟩ :=
      nearest_through whole linked outside apart first (spared link chain own whole)
    obtain ⟨name?, here⟩ : ∃ name?, reg.overrideName link.sourceType link.sourceAttr other =
        .ok name? := by
      simp only [overrideName, own, whole, bind, Except.bind]
      exact ⟨_, rfl⟩
    obtain ⟨name?', there⟩ := overrideName_isOk whole linked mem outward other
    rw [here, there]
    refine congrArg _ (Option.ext fun name => ?_)
    rw [overrideName_nearest here, overrideName_nearest there]
    exact nearest name

/-- Two overrides lead into a ring of two; the chain from the first goes round it once, the chain from
the attribute on the ring stops one link earlier. -/
theorem pingPong_overrideName_trans :
    pingPong.Spares "test.Ping" "along" "test.Pong" "test.Ping" ∧
      (pingPong.recallOverrideName "test.Ping" "along" "test.Ping" {}).1 = .ok (some "around") ∧
      (pingPong.recallOverrideName "test.Pong" "around" "test.Ping" {}).1 = .ok (some "around") := by
  have spared : pingPong.Spares "test.Ping" "along" "test.Pong" "test.Ping" := by
    intro link chain own whole
    have known : pingPong.aliasLink "test.Ping" "along" =
        .ok (some ⟨"test.Ping", "along", "test.Pong", "around"⟩) := by with_unfolding_all decide
    cases known.symm.trans own
    obtain ⟨_, _, _, rfl, _⟩ := overrideChainFrom_cons whole
    simp
  have overridden : (pingPong.recallOverrideName "test.Ping" "along" "test.Pong" {}).1 =
      .ok (some "around") := by with_unfolding_all decide
  have further : (pingPong.recallOverrideName "test.Pong" "around" "test.Ping" {}).1 =
      .ok (some "around") := by with_unfolding_all decide
  refine ⟨spared, ?_, further⟩
  exact (overrideName_trans [] [] [] (by decide) (by decide) overridden spared).trans further

end Registry
end Annotations
