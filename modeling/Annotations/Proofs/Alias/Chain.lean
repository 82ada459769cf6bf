import Annotations.Alias

/-!
What a chain of overrides comes by. From each attribute at most one link starts, so the targets of a
chain lie on one path, which ends with a pair, with an attribute that declares no alias, or where it
comes again by an attribute. If pairs are mutual, two override chains that share a target share all
that lies behind it; sharing is then transitive.
-/
namespace Annotations
namespace Registry

/-- The first attribute declares a valid alias that aims at the second. -/
def Aims (reg : Registry) (source target : String × String) : Prop :=
  ∃ link, reg.aliasLink source.1 source.2 = .ok (some link) ∧ link.target = target

/-- What the chain from an attribute comes by: what it aims at and, behind an override, what lies on
the chain from there. -/
inductive Targets (reg : Registry) : String × String → String × String → Prop
  | aim {source target : String × String} : reg.Aims source target → reg.Targets source target
  | override {source next target : String × String} : reg.Aims source next → next.1 ≠ source.1 →
    reg.Targets next target → reg.Targets source target

/-- Two chains come by one target. -/
def Shares (reg : Registry) (left right : String × String) : Prop :=
  ∃ target, reg.Targets left target ∧ reg.Targets right target

/-- Attributes aliased inside one type aim back at each other. -/
def PairsBack (reg : Registry) : Prop :=
  ∀ source target home, reg.Aims source target → target.1 = source.1 → reg.Aims target home →
    home = source

variable {reg : Registry} {source target next : String × String}

theorem Aims.unique {other : String × String} (h : reg.Aims source target)
    (h' : reg.Aims source other) : target = other := by
  obtain ⟨link, found, rfl⟩ := h
  obtain ⟨link', found', rfl⟩ := h'
  cases found.symm.trans found'
  rfl

theorem Targets.aims (h : reg.Targets source target) : ∃ next, reg.Aims source next := by
  cases h with
  | aim h => exact ⟨_, h⟩
  | override h _ _ => exact ⟨_, h⟩

theorem Shares.symm {left right : String × String} (h : reg.Shares left right) :
    reg.Shares right left := by
  obtain ⟨target, behind, behind'⟩ := h
  exact ⟨target, behind', behind⟩

/-- The chain from one half of a pair comes by the other half only. -/
theorem Targets.eq_of_pair (pair : reg.Aims source next) (inside : next.1 = source.1)
    (h : reg.Targets source target) : target = next := by
  cases h with
  | aim h => exact h.unique pair
  | override h away _ =>
    rw [h.unique pair] at away
    exact absurd inside away

/-- An override chain that comes by an attribute comes by all that lies behind it: by a pair's half
it can only have come from the other half, or from an override. -/
theorem Targets.trans (back : reg.PairsBack) {first through : String × String}
    (aims : reg.Aims source first) (away : first.1 ≠ source.1) (h : reg.Targets source through)
    (further : reg.Targets through target) : reg.Targets source target := by
  induction h generalizing first with
  | aim here =>
    cases here.unique aims
    exact .override aims away further
  | @override source middle through here _ behind ih =>
    cases here.unique aims
    obtain ⟨second, aims'⟩ := behind.aims
    by_cases pair : second.1 = middle.1
    · -- the chain ends with the pair, and what lies behind its end is the half it came by
      cases behind.eq_of_pair aims' pair
      obtain ⟨home, aimsBack⟩ := further.aims
      have same := back _ _ _ aims' pair aimsBack
      subst same
      rw [further.eq_of_pair aimsBack pair.symm]
      exact .aim aims
    · exact .override aims away (ih aims' pair further)

/-- Of two targets of one chain, one lies behind the other. -/
theorem Targets.linear {left right : String × String} (h : reg.Targets source left)
    (h' : reg.Targets source right) :
    left = right ∨ reg.Targets left right ∨ reg.Targets right left := by
  induction h with
  | aim aims =>
    cases h' with
    | aim aims' => exact .inl (aims.unique aims')
    | override aims' _ behind =>
      cases aims.unique aims'
      exact .inr (.inl behind)
  | override aims away behind ih =>
    cases h' with
    | aim aims' =>
      cases aims.unique aims'
      exact .inr (.inr behind)
    | override aims' _ behind' =>
      cases aims.unique aims'
      exact ih behind'

/-- An attribute of a mutual pair that an override chain comes by, or whose partner it comes by, has
a chain that shares a target with it. -/
theorem Shares.of_pair (back : reg.PairsBack) {first half partner : String × String}
    (aims : reg.Aims source first) (away : first.1 ≠ source.1) (pair : reg.Aims half partner)
    (h : reg.Targets source half ∨ reg.Targets source partner) : reg.Shares source half := by
  rcases h with h | h
  · exact ⟨partner, .trans back aims away h (.aim pair), .aim pair⟩
  · exact ⟨partner, h, .aim pair⟩

/-- Whatever two override chains share with a third attribute, they share with each other. -/
theorem Shares.trans (back : reg.PairsBack) {left middle right first last : String × String}
    (aims : reg.Aims left first) (away : first.1 ≠ left.1) (h : reg.Shares left middle)
    (h' : reg.Shares middle right) (aims' : reg.Aims right last) :
    reg.Shares left right := by
  obtain ⟨u, leftU, middleU⟩ := h
  obtain ⟨v, middleV, rightV⟩ := h'
  rcases middleU.linear middleV with rfl | behind | behind
  · exact ⟨u, leftU, rightV⟩
  · exact ⟨v, .trans back aims away leftU behind, rightV⟩
  · by_cases pair : last.1 = right.1
    · -- the right chain is the partner alone, and the shared target lies behind it
      cases rightV.eq_of_pair aims' pair
      obtain ⟨home, aimsBack⟩ := behind.aims
      have same := back _ _ _ aims' pair aimsBack
      subst same
      cases behind.eq_of_pair aimsBack pair.symm
      exact .of_pair back aims away aims' (.inl leftU)
    · exact ⟨u, leftU, .trans back aims' pair rightV behind⟩

/-! The chain that is computed comes by all targets and by no other. -/

/-- A link is the one of its source. -/
def Linked (reg : Registry) (link : AliasLink) : Prop :=
  reg.aliasLink link.sourceType link.sourceAttr = .ok (some link)

theorem Linked.of_aliasLink {type attr : String} {link : AliasLink}
    (h : reg.aliasLink type attr = .ok (some link)) :
    reg.Linked link ∧ link.source = (type, attr) := by
  have source := (aliasLink_source h).1
  obtain ⟨rfl, rfl⟩ := Prod.mk.inj source
  exact ⟨h, rfl⟩

/-- A link is that of a pair if it stays inside the type it was looked up in. -/
theorem isPair_iff {type attr : String} {link : AliasLink}
    (h : reg.aliasLink type attr = .ok (some link)) :
    link.isPair = true ↔ link.targetType = type := by
  obtain ⟨rfl, _⟩ := Prod.mk.inj (aliasLink_source h).1
  simp [AliasLink.isPair]

theorem Linked.aims {link : AliasLink} (h : reg.Linked link) : reg.Aims link.source link.target :=
  ⟨link, h, rfl⟩

theorem Linked.unique {link other : AliasLink} (h : reg.Linked link) (h' : reg.Linked other)
    (same : link.source = other.source) : link = other := by
  obtain ⟨types, attrs⟩ := Prod.mk.inj same
  unfold Linked at h h'
  rw [types, attrs, h'] at h
  cases h
  rfl

theorem overrideLink_some {link behind : AliasLink}
    (h : reg.overrideLink link = .ok (some behind)) :
    reg.Linked behind ∧ behind.source = link.target ∧ link.target.1 ≠ link.source.1 := by
  unfold overrideLink at h
  split at h
  · cases h
  · rename_i away
    obtain ⟨linked, source⟩ := Linked.of_aliasLink h
    exact ⟨linked, source, by
      simpa [AliasLink.isPair, AliasLink.source, AliasLink.target] using away⟩

theorem overrideLink_of_over {link behind : AliasLink} (linked : reg.Linked behind)
    (source : behind.source = link.target) (away : link.target.1 ≠ link.source.1) :
    reg.overrideLink link = .ok (some behind) := by
  obtain ⟨types, attrs⟩ := Prod.mk.inj source
  unfold overrideLink
  have apart : ¬ link.isPair := by
    simpa [AliasLink.isPair, AliasLink.source, AliasLink.target] using away
  rw [if_neg apart, ← types, ← attrs]
  exact linked

/-- The links of a chain come by targets of its start, and what they override is in it too, but for
attributes that were seen before. -/
theorem mem_overrideChainFrom {seen : List (String × String)} {link : AliasLink}
    {chain : List AliasLink} (h : reg.overrideChainFrom seen link = .ok chain)
    (start : reg.Linked link) :
    link ∈ chain ∧ ∀ item ∈ chain, reg.Linked item ∧ reg.Targets link.source item.target ∧
      ∀ behind, reg.overrideLink item = .ok (some behind) →
        behind ∈ chain ∨ behind.source ∈ seen := by
  induction ahead : reg.attrKeysAhead seen using Nat.strongRecOn generalizing seen link chain with
  | ind bound ih =>
    cases behind : reg.overrideLink link with
    | error e =>
      rw [overrideChainFrom_error behind] at h
      cases h
    | ok found =>
      have alone (last : ∀ other, reg.overrideLink link = .ok (some other) → other.source ∈ seen) :
          link ∈ [link] ∧ ∀ item ∈ [link], reg.Linked item ∧ reg.Targets link.source item.target ∧
            ∀ other, reg.overrideLink item = .ok (some other) →
              other ∈ [link] ∨ other.source ∈ seen := by
        refine ⟨.head [], fun item mem => ?_⟩
        cases List.mem_singleton.1 mem
        exact ⟨start, .aim start.aims, fun other step => .inr (last other step)⟩
      cases found with
      | none =>
        rw [overrideChainFrom_last behind] at h
        cases h
        refine alone fun other step => ?_
        rw [behind] at step
        cases step
      | some following =>
        by_cases again : seen.contains following.source
        · rw [overrideChainFrom_again behind again] at h
          cases h
          refine alone fun other step => ?_
          rw [behind] at step
          cases step
          simpa using again
        · rw [overrideChainFrom_fresh behind again] at h
          obtain ⟨linked, source, away⟩ := overrideLink_some behind
          have fewer : reg.attrKeysAhead (following.source :: seen) < bound := by
            rw [← ahead]
            refine attrKeysAhead_lt ?_ again
            have found := aliasLink_source linked
            rw [found.1]
            exact found.2
          cases rest : reg.overrideChainFrom (following.source :: seen) following with
          | error e =>
            rw [rest] at h
            cases h
          | ok tail =>
            rw [rest] at h
            cases h
            obtain ⟨first, all⟩ := ih _ fewer rest linked rfl
            refine ⟨.head tail, fun item mem => ?_⟩
            rcases List.mem_cons.1 mem with rfl | mem
            · refine ⟨start, .aim start.aims, fun other step => .inl ?_⟩
              cases behind.symm.trans step
              exact .tail item first
            · obtain ⟨itemLinked, target, closed⟩ := all item mem
              refine ⟨itemLinked, .override start.aims away (source ▸ target), fun other step => ?_⟩
              rcases closed other step with inside | before
              · exact .inl (.tail link inside)
              · rcases List.mem_cons.1 before with same | before
                · have otherLinked := (overrideLink_some step).1
                  cases otherLinked.unique linked same
                  exact .inl (.tail link first)
                · exact .inr before

/-- A chain comes by the targets of its start. -/
theorem mem_overrideChain {link : AliasLink} {chain : List AliasLink}
    (h : reg.overrideChain link = .ok chain) (start : reg.Linked link) (target : String × String) :
    (∃ item ∈ chain, item.target = target) ↔ reg.Targets link.source target := by
  obtain ⟨first, all⟩ := mem_overrideChainFrom h start
  constructor
  · rintro ⟨item, mem, rfl⟩
    exact (all item mem).2.1
  · intro targets
    suffices from_any : ∀ source, reg.Targets source target → ∀ item ∈ chain,
        item.source = source → ∃ item ∈ chain, item.target = target from
      from_any _ targets link first rfl
    clear targets
    intro source way
    induction way with
    | aim aims =>
      rintro item mem rfl
      exact ⟨item, mem, (all item mem).1.aims.unique aims⟩
    | override aims away further ih =>
      rintro item mem rfl
      obtain ⟨linked, _, closed⟩ := all item mem
      cases linked.aims.unique aims
      obtain ⟨_, behind, found, _⟩ := further.aims
      obtain ⟨behindLinked, source⟩ := Linked.of_aliasLink found
      rcases closed behind (overrideLink_of_over behindLinked source away) with inside | seen
      · exact ih behind inside source
      · -- a chain that comes back to its start has the start's link already
        have same : behind.source = link.source := by simpa using seen
        cases behindLinked.unique start same
        exact ih link first source

theorem shareTarget_iff {left right : AliasLink} {chain chain' : List AliasLink}
    (h : reg.overrideChain left = .ok chain) (h' : reg.overrideChain right = .ok chain')
    (start : reg.Linked left) (start' : reg.Linked right) :
    shareTarget chain chain' = true ↔ reg.Shares left.source right.source := by
  simp only [shareTarget, List.any_eq_true, beq_iff_eq]
  constructor
  · rintro ⟨item, mem, other, mem', same⟩
    exact ⟨item.target, (mem_overrideChain h start _).1 ⟨item, mem, rfl⟩,
      (mem_overrideChain h' start' _).1 ⟨other, mem', same.symm⟩⟩
  · rintro ⟨target, behind, behind'⟩
    obtain ⟨item, mem, rfl⟩ := (mem_overrideChain h start _).2 behind
    obtain ⟨other, mem', same⟩ := (mem_overrideChain h' start' _).2 behind'
    exact ⟨item, mem, other, mem', same.symm⟩

end Registry
end Annotations
