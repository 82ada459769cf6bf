import Annotations.Proofs.Merge.Slots
import Annotations.Proofs.Search.Trail

/-!
How an annotation overlays pending attributes: what each of its attributes writes, in order, and
what that makes of the pending attributes of a trail, which have a slot for each attribute of the
type.
-/
namespace Annotations

open Annotations.Action SynthMemo Registry

variable {merge : Merge} {element : Element} {view : View} {groups : Entries (List String)}

namespace Merge

/-- The value that an attribute of a view has in a merged store. -/
def read (merge : Merge) (element : Element) (view : View) (source : String) :
    Action SynthMemo Value := do
  merge.reg.render element merge.rendering (← view.attr merge.reg source)

theorem read_keeps (merge : Merge) (element : Element) (view : View) (source : String) :
    Keeps (Sound merge.reg) (merge.read element view source) :=
  (Keeps.closed _).bind (merge.reg.asked_keeps.attr view source) fun value =>
    merge.reg.asked_keeps.render element merge.rendering value

end Merge

/-- Gives one value to several attributes. -/
def Pending.giveAll (pending : Pending) (value : Value) (names : List String) : Pending :=
  names.foldl (fun pending name => pending.putGiven name value) pending

namespace Pending

variable {pending : Pending} {value : Value} {names : List String}

theorem putGiven_get? (name other : String) :
    (pending.putGiven name value).slots.get? other =
      if name = other then some (.given value) else pending.slots.get? other :=
  Entries.get?_put _ _ _ _

theorem giveAll_type : (pending.giveAll value names).type = pending.type := by
  induction names generalizing pending with
  | nil => rfl
  | cons name rest ih => exact ih.trans rfl

theorem giveAll_get? (other : String) :
    (pending.giveAll value names).slots.get? other =
      if other ∈ names then some (.given value) else pending.slots.get? other := by
  induction names generalizing pending with
  | nil => rfl
  | cons name rest ih =>
    change ((pending.putGiven name value).giveAll value rest).slots.get? other = _
    rw [ih, putGiven_get?]
    by_cases later : other ∈ rest
    · simp [later]
    · by_cases here : name = other
      · simp [here]
      · simp [later, here, Ne.symm here]

/-- A property that every written value keeps is kept by writing to several attributes. -/
theorem giveAll_keeps {P : Pending → Prop}
    (put : ∀ pending name value, P pending → P (pending.putGiven name value)) (h : P pending) :
    P (pending.giveAll value names) := by
  induction names generalizing pending with
  | nil => exact h
  | cons name rest ih => exact ih (put _ _ _ h)

end Pending

namespace Merge

theorem mem_unwritten {names written : List String} {name : String} :
    name ∈ (unwritten names written).1 ↔ name ∈ names ∧ name ∉ written := by
  induction names generalizing written with
  | nil => simp [unwritten]
  | cons first rest ih =>
    unfold unwritten
    split
    · rename_i before
      have before : first ∈ written := by simpa using before
      rw [ih, List.mem_cons]
      constructor
      · exact fun ⟨mem, fresh⟩ => ⟨.inr mem, fresh⟩
      · rintro ⟨rfl | mem, fresh⟩
        · exact absurd before fresh
        · exact ⟨mem, fresh⟩
    · rename_i fresh
      have fresh : first ∉ written := by simpa using fresh
      simp only [List.mem_cons, ih, not_or]
      constructor
      · rintro (rfl | ⟨mem, _, other⟩)
        · exact ⟨.inl rfl, fresh⟩
        · exact ⟨.inr mem, other⟩
      · rintro ⟨rfl | mem, other⟩
        · exact .inl rfl
        · by_cases same : name = first
          · exact .inl same
          · exact .inr ⟨mem, same, other⟩

theorem mem_unwritten_written {names written : List String} {name : String} :
    name ∈ (unwritten names written).2 ↔ name ∈ names ∨ name ∈ written := by
  induction names generalizing written with
  | nil => simp [unwritten]
  | cons first rest ih =>
    unfold unwritten
    split
    · rename_i before
      have before : first ∈ written := by simpa using before
      rw [ih, List.mem_cons, or_assoc]
      constructor
      · exact .inr
      · rintro (rfl | mem)
        · exact .inr before
        · exact mem
    · simp only [ih, List.mem_cons]
      constructor
      · rintro (mem | same | mem)
        · exact .inl (.inr mem)
        · exact .inl (.inl same)
        · exact .inr mem
      · rintro ((same | mem) | mem)
        · exact .inr (.inl same)
        · exact .inl mem
        · exact .inr (.inr mem)

/-- What one attribute of a view does to pending attributes and to the names written so far. -/
inductive Writes (merge : Merge) (element : Element) (view : View) (groups : Entries (List String))
    (attr : Attr) : List String × Pending → List String × Pending → Prop
  | group {name : String} {value : Value} {written : List String} {pending : Pending} :
    merge.reg.overrideName view.name attr.name pending.type = .ok (some name) → name ∉ written →
    Yields (Sound merge.reg) (merge.read element view attr.name) (.ok value) →
    Writes merge element view groups attr (written, pending)
      ((unwritten (name :: listed groups name) written).2,
        pending.giveAll value (unwritten (name :: listed groups name) written).1)
  | again {name : String} {written : List String} {pending : Pending} :
    merge.reg.overrideName view.name attr.name pending.type = .ok (some name) → name ∈ written →
    Writes merge element view groups attr (written, pending) (written, pending)
  | named {value : Value} {written : List String} {pending : Pending} :
    merge.reg.overrideName view.name attr.name pending.type = .ok none → attr.name ≠ valueAttr →
    pending.slots.has attr.name = true →
    Yields (Sound merge.reg) (merge.read element view attr.name) (.ok value) →
    Writes merge element view groups attr (written, pending)
      (written, pending.putGiven attr.name value)
  | pass {written : List String} {pending : Pending} :
    merge.reg.overrideName view.name attr.name pending.type = .ok none →
    Writes merge element view groups attr (written, pending) (written, pending)

theorem Writes.type {attr : Attr} {start stop : List String × Pending}
    (h : Writes merge element view groups attr start stop) : stop.2.type = start.2.type := by
  cases h with
  | group _ _ _ => exact Pending.giveAll_type
  | again _ _ => rfl
  | named _ _ _ _ => rfl
  | pass _ => rfl

/-- What several attributes do one after another. -/
inductive Overlays (merge : Merge) (element : Element) (view : View)
    (groups : Entries (List String)) :
    List Attr → List String × Pending → List String × Pending → Prop
  | nil {state : List String × Pending} : Overlays merge element view groups [] state state
  | cons {attr : Attr} {rest : List Attr} {start middle stop : List String × Pending} :
    Writes merge element view groups attr start middle →
    Overlays merge element view groups rest middle stop →
    Overlays merge element view groups (attr :: rest) start stop

theorem writeAll_eq (source : String) (targets : List String) (pending : Pending) :
    merge.writeAll element view source targets pending =
      merge.read element view source >>= fun value => pure (pending.giveAll value targets) := by
  unfold writeAll read
  rw [bind_assoc]
  rfl

theorem writeAll_ok {source : String} {targets : List String} {pending result : Pending}
    (h : Yields (Sound merge.reg) (merge.writeAll element view source targets pending)
      (.ok result)) :
    ∃ value, Yields (Sound merge.reg) (merge.read element view source) (.ok value) ∧
      result = pending.giveAll value targets := by
  rw [writeAll_eq] at h
  obtain ⟨value, reads, h⟩ := h.bind_ok (merge.read_keeps element view source)
  cases h.pure
  exact ⟨value, reads, rfl⟩

theorem overlay_overlays {attrs : List Attr} {written : List String} {pending result : Pending}
    (h : Yields (Sound merge.reg) (merge.overlay element view groups attrs written pending)
      (.ok result)) :
    ∃ written', Overlays merge element view groups attrs (written, pending) (written', result) := by
  induction attrs generalizing written pending with
  | nil =>
    cases h.pure
    exact ⟨written, .nil⟩
  | cons attr rest ih =>
    unfold overlay at h
    obtain ⟨aim, asked, h⟩ := h.bind_ok (merge.reg.asked_keeps.overrideName _ _ _)
    have asked := (asked.computes (merge.reg.recallOverrideName_computes _ _ _)).symm
    cases aim with
    | some name =>
      simp only at h
      split at h
      · rename_i before
        obtain ⟨written', later⟩ := ih h
        exact ⟨written', .cons (.again asked (by simpa using before)) later⟩
      · rename_i fresh
        obtain ⟨middle, writes, h⟩ := h.bind_ok (writeAll_asked merge.reg.asked_keeps _ _ _ _ _)
        obtain ⟨value, reads, rfl⟩ := writeAll_ok writes
        obtain ⟨written', later⟩ := ih h
        exact ⟨written', .cons (.group asked (by simpa using fresh) reads) later⟩
    | none =>
      simp only at h
      split at h
      · rename_i named
        obtain ⟨apart, there⟩ := Bool.and_eq_true_iff.1 named
        obtain ⟨middle, writes, h⟩ := h.bind_ok (writeAll_asked merge.reg.asked_keeps _ _ _ _ _)
        obtain ⟨value, reads, rfl⟩ := writeAll_ok writes
        obtain ⟨written', later⟩ := ih h
        exact ⟨written', .cons (.named asked (by simpa using apart) there reads) later⟩
      · obtain ⟨written', later⟩ := ih h
        exact ⟨written', .cons (.pass asked) later⟩

/-- An override is a run over the attributes of the annotation's view. -/
theorem override_overlays {annot : Annot} {pending result : Pending}
    (h : Yields (Sound merge.reg) (merge.override element annot pending) (.ok result)) :
    ∃ view groups written,
      Yields (Sound merge.reg) (merge.reg.viewAnnot annot (some element)) (.ok view) ∧
      merge.reg.aliasMap pending.type = .ok groups ∧
      Overlays merge element view groups view.type.attrs ([], pending) (written, result) := by
  obtain ⟨view, seen, h⟩ := h.bind_ok (merge.reg.asked_keeps.viewAnnot annot _)
  obtain ⟨groups, mapped, h⟩ := h.bind_ok (merge.reg.asked_keeps.aliasMap _)
  have mapped := (mapped.computes (merge.reg.recallAliasMap_computes _)).symm
  obtain ⟨written, overlays⟩ := overlay_overlays h
  exact ⟨view, groups, written, seen, mapped, overlays⟩

/-- A property that each attribute's writes keep is kept by overlays. -/
theorem Overlays.keeps_by {P : Pending → Prop}
    (step : ∀ attr start stop, Writes merge element view groups attr start stop →
      P start.2 → P stop.2) {attrs : List Attr} {start stop : List String × Pending}
    (h : Overlays merge element view groups attrs start stop) (before : P start.2) : P stop.2 := by
  induction h with
  | nil => exact before
  | cons writes _ ih => exact ih (step _ _ _ writes before)

/-- A property that every written value keeps is kept by overlays. -/
theorem Overlays.keeps {P : Pending → Prop}
    (put : ∀ pending name value, P pending → P (pending.putGiven name value)) {attrs : List Attr}
    {start stop : List String × Pending} (h : Overlays merge element view groups attrs start stop)
    (before : P start.2) : P stop.2 := by
  refine h.keeps_by (fun attr start stop writes before => ?_) before
  cases writes with
  | group _ _ _ => exact Pending.giveAll_keeps put before
  | again _ _ => exact before
  | named _ _ _ _ => exact put _ _ _ before
  | pass _ => exact before

/-- What a merge has of a trail comes from its last annotation, overlaid by each one before it. -/
theorem builds_induction {P : Trail → Pending → Prop}
    (last : ∀ element annot pending, annot.type = merge.target →
      Yields (Sound merge.reg) (merge.reg.retrieve element merge.rendering annot) (.ok pending) →
      P [(element, annot)] pending)
    (step : ∀ element annot trail inner pending view groups written,
      merge.processor.Builds (Sound merge.reg) trail inner → P trail inner →
      Yields (Sound merge.reg) (merge.reg.viewAnnot annot (some element)) (.ok view) →
      merge.reg.aliasMap inner.type = .ok groups →
      Overlays merge element view groups view.type.attrs ([], inner) (written, pending) →
      P ((element, annot) :: trail) pending)
    {trail : Trail} {pending : Pending}
    (h : merge.processor.Builds (Sound merge.reg) trail pending) : P trail pending := by
  induction h with
  | last yields =>
    rename_i annot _ pending
    simp only [processor] at yields
    split at yields
    · rename_i own
      obtain ⟨pending, retrieved, same⟩ := yields.map_ok
      cases same
      exact last _ _ _ (by simpa using own) retrieved
    · cases yields.pure
  | step inner yields ih =>
    obtain ⟨view, groups, written, seen, mapped, overlays⟩ := override_overlays yields
    exact step _ _ _ _ _ _ _ _ inner ih seen mapped overlays

end Merge

variable {reg : Registry}

/-- Every declared attribute has a slot, and a slot left at its default holds the declared one. -/
structure Pending.Filled (reg : Registry) (pending : Pending) : Prop where
  distinct : pending.slots.names.Nodup
  slot : ∀ decl, reg.type pending.type = .ok decl → ∀ attr ∈ decl.attrs, ∃ slot,
    pending.slots.get? attr.name = some slot ∧
      ∀ value, slot = .default value → Value.sameOption attr.default? (some value) = true

theorem Pending.Filled.putGiven {pending : Pending} (h : pending.Filled reg) (name : String)
    (value : Value) : (pending.putGiven name value).Filled reg where
  distinct := Entries.nodup_names_put h.distinct name _
  slot decl known attr mem := by
    rw [putGiven_get?]
    split
    · exact ⟨.given value, rfl, fun _ isDefault => by cases isDefault⟩
    · exact h.slot decl known attr mem

/-- An attribute that was given nothing is left at its declared default. -/
theorem Pending.Filled.default_of_undeclared {pending : Pending} (h : pending.Filled reg)
    {decl : AnnotType} (known : reg.type pending.type = .ok decl) {name : String} {attr : Attr}
    (found : decl.attr? name = some attr) (undeclared : pending.declared.get? name = none) :
    ∃ value, pending.slots.get? name = some (.default value) ∧
      Value.sameOption attr.default? (some value) = true := by
  obtain ⟨mem, rfl⟩ := mem_of_attr? found
  obtain ⟨slot, own, isDefault⟩ := h.slot decl known attr mem
  rw [Pending.declared_get? h.distinct, own] at undeclared
  cases slot with
  | given _ => cases undeclared
  | default value => exact ⟨value, own, isDefault value rfl⟩

theorem Registry.retrieveWith_filled {render : Value → Action SynthMemo Value}
    (keeps : ∀ value, Keeps (Sound reg) (render value)) (distinct : reg.DistinctAttrs)
    {annot : Annot}
    {pending : Pending} (h : Yields (Sound reg) (reg.retrieveWith render annot) (.ok pending)) :
    pending.type = annot.type ∧ pending.Filled reg := by
  obtain ⟨decl, known, origin⟩ := retrieveWith_from keeps h
  refine ⟨origin.type, origin.distinct, fun decl' known' attr mem => ?_⟩
  rw [origin.type] at known'
  cases known.symm.trans known'
  obtain ⟨slot, found⟩ := origin.filled attr mem
  obtain ⟨other, otherMem, same, value, _, kind⟩ := origin.slot attr.name slot found
  have one := attr?_of_mem (distinct _ _ known) otherMem
  rw [same, attr?_of_mem (distinct _ _ known) mem] at one
  cases one
  refine ⟨slot, found, fun value' isDefault => ?_⟩
  rcases kind with ⟨default', rfl⟩ | ⟨_, rendered, rfl, _⟩
  · cases isDefault
    exact default'
  · cases isDefault

/-- Whatever a merge makes of a trail is of its type and filled. -/
theorem Merge.builds_filled (merge : Merge) (distinct : merge.reg.DistinctAttrs) {trail : Trail}
    {pending : Pending} (h : merge.processor.Builds (Sound merge.reg) trail pending) :
    pending.type = merge.target ∧ pending.Filled merge.reg := by
  refine Merge.builds_induction
    (P := fun _ pending => pending.type = merge.target ∧ pending.Filled merge.reg)
    (fun element annot pending own retrieved => ?last)
    (fun element annot trail inner pending view groups written _ ih _ _ overlays => ?step) h
  case last =>
    obtain ⟨type, filled⟩ :=
      retrieveWith_filled (merge.reg.asked_keeps.render element merge.rendering) distinct retrieved
    exact ⟨type.trans own, filled⟩
  case step =>
    exact overlays.keeps
      (P := fun pending => pending.type = merge.target ∧ pending.Filled merge.reg)
      (fun pending name value h => ⟨h.1, h.2.putGiven name value⟩) ih

end Annotations
