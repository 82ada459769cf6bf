import Annotations.Proofs.Alias.Symmetry
import Annotations.Proofs.Merge.Aliases
import Annotations.Proofs.Merge.Overlay

/-!
Which annotation of a trail decides an alias group: the first one whose type declares an attribute
that overrides a member of the group, as long as no annotation up to it names a member by an
attribute that overrides nothing. It writes the whole group, and no annotation before it touches any
member.
-/
namespace Annotations

open Annotations.Action SynthMemo Registry Value

/-- An attribute of an annotation type that overrides a member of a group of a target type. -/
def Registry.AimsInto (reg : Registry) (target : String) (group : List String) (type : String)
    (attr : Attr) : Prop :=
  ∃ name ∈ group, reg.overrideName type attr.name target = .ok (some name)

/-- An attribute that overrides nothing of a target type and is named like a member of a group. -/
def Registry.NamesInto (reg : Registry) (target : String) (group : List String) (type : String)
    (attr : Attr) : Prop :=
  attr.name ∈ group ∧ attr.name ≠ valueAttr ∧ reg.overrideName type attr.name target = .ok none

/-- The value that a merged store holds for an attribute of an annotation on an element: read
through a view, then rendered. -/
def Merge.Synthesizes (merge : Merge) (element : Element) (annot : Annot) (source : String)
    (value : Value) : Prop :=
  ∃ view, Yields (Sound merge.reg) (merge.reg.viewAnnot annot (some element)) (.ok view) ∧
    Yields (Sound merge.reg) (merge.read element view source) (.ok value)

namespace Merge

variable {merge : Merge} {element : Element} {view : View} {groups : Entries (List String)}
  {target : String} {group : List String}

/-- A set of names that holds an attribute's whole alias group or nothing of it, and is the alias
group of each name in it. -/
structure WholeGroup (groups : Entries (List String)) (group : List String) : Prop where
  closed : ∀ name, ∀ other ∈ aliasGroup groups name, name ∈ group ↔ other ∈ group
  whole : ∀ name ∈ group, ∀ other ∈ group, other ∈ aliasGroup groups name

/-- In a type that is not meta-present on itself, alias groups are whole. -/
theorem wholeGroup_aliasGroup {reg : Registry} {type : String} {decl : AnnotType}
    (map : reg.AliasMapOf type decl groups) (back : reg.PairsMutual) (distinct : reg.DistinctAttrs)
    (apart : reg.isMetaPresent type type = false) (name : String) :
    WholeGroup groups (aliasGroup groups name) := by
  have same {a b c : String} (mem : b ∈ aliasGroup groups a) :
      c ∈ aliasGroup groups a ↔ c ∈ aliasGroup groups b :=
    map.mem_aliasGroup_iff (back.matched distinct) apart mem
  have symm {a b : String} : a ∈ aliasGroup groups b ↔ b ∈ aliasGroup groups a :=
    ⟨fun mem => (same mem).1 (.head _), fun mem => (same mem).1 (.head _)⟩
  exact ⟨fun one other mem => symm.trans ((same mem).trans symm),
    fun one mem other mem' => (same mem).1 mem'⟩

theorem Overlays.split {first second : List Attr} {start stop : List String × Pending}
    (h : Overlays merge element view groups (first ++ second) start stop) :
    ∃ middle, Overlays merge element view groups first start middle ∧
      Overlays merge element view groups second middle stop := by
  induction first generalizing start with
  | nil => exact ⟨start, .nil, h⟩
  | cons attr rest ih =>
    cases h with
    | cons writes later =>
      obtain ⟨middle, before, after⟩ := ih later
      exact ⟨middle, .cons writes before, after⟩

/-- What one attribute leaves as it was. -/
structure Leaves (target : String) (group : List String) (start stop : List String × Pending) :
    Prop where
  type : stop.2.type = target
  written : ∀ name ∈ group, name ∈ stop.1 ↔ name ∈ start.1
  slots : ∀ name ∈ group, stop.2.slots.get? name = start.2.slots.get? name

/-- An attribute that overrides only members that are written already, and names none, leaves the
group as it is. -/
theorem Writes.leaves (whole : WholeGroup groups group) {attr : Attr}
    {start stop : List String × Pending} (h : Writes merge element view groups attr start stop)
    (type : start.2.type = target)
    (free : ∀ name ∈ group, merge.reg.overrideName view.name attr.name target = .ok (some name) →
      name ∈ start.1)
    (unnamed : ¬ merge.reg.NamesInto target group view.name attr) :
    Leaves target group start stop := by
  cases h with
  | @group name value written pending lands fresh _ =>
    cases type
    have out : name ∉ group := fun mem => fresh (free name mem lands)
    have apart {other : String} (mem : other ∈ group) : other ∉ aliasGroup groups name :=
      fun inside => out ((whole.closed name other inside).2 mem)
    refine ⟨Pending.giveAll_type, fun other mem => ?_, fun other mem => ?_⟩
    · rw [mem_unwritten_written]
      exact or_iff_right (apart mem)
    · rw [Pending.giveAll_get?, if_neg]
      exact fun inside => apart mem (mem_unwritten.1 inside).1
  | again _ _ => exact ⟨type, fun _ _ => .rfl, fun _ _ => rfl⟩
  | named none own _ _ =>
    cases type
    refine ⟨rfl, fun _ _ => .rfl, fun other mem => ?_⟩
    rw [Pending.putGiven_get?, if_neg]
    rintro rfl
    exact unnamed ⟨mem, own, none⟩
  | pass _ => exact ⟨type, fun _ _ => .rfl, fun _ _ => rfl⟩

theorem Overlays.leaves (whole : WholeGroup groups group) {attrs : List Attr}
    {start stop : List String × Pending} (h : Overlays merge element view groups attrs start stop)
    (type : start.2.type = target)
    (free : ∀ attr ∈ attrs, ∀ name ∈ group,
      merge.reg.overrideName view.name attr.name target = .ok (some name) → name ∈ start.1)
    (unnamed : ∀ attr ∈ attrs, ¬ merge.reg.NamesInto target group view.name attr) :
    Leaves target group start stop := by
  induction h with
  | nil => exact ⟨type, fun _ _ => .rfl, fun _ _ => rfl⟩
  | @cons attr rest start middle stop writes _ ih =>
    have here := writes.leaves whole type (free attr (.head rest)) (unnamed attr (.head rest))
    have later := ih here.type
      (fun other mem name inside lands =>
        (here.written name inside).2 (free other (.tail attr mem) name inside lands))
      fun other mem => unnamed other (.tail attr mem)
    exact ⟨later.type, fun name mem => (later.written name mem).trans (here.written name mem),
      fun name mem => (later.slots name mem).trans (here.slots name mem)⟩

/-- The first attribute that overrides a member of a group gives all members its value, and no later
one of the same annotation takes it back. -/
theorem Overlays.decides (whole : WholeGroup groups group) {before after : List Attr} {attr : Attr}
    {pending : Pending} {stop : List String × Pending}
    (h : Overlays merge element view groups (before ++ attr :: after) ([], pending) stop)
    (type : pending.type = target) (aims : merge.reg.AimsInto target group view.name attr)
    (first : ∀ other ∈ before, ¬ merge.reg.AimsInto target group view.name other)
    (unnamed : ∀ other ∈ before ++ attr :: after,
      ¬ merge.reg.NamesInto target group view.name other) :
    stop.2.type = target ∧ ∃ value,
      Yields (Sound merge.reg) (merge.read element view attr.name) (.ok value) ∧
      ∀ name ∈ group, stop.2.slots.get? name = some (.given value) := by
  obtain ⟨middle, earlier, later⟩ := h.split
  have clear := earlier.leaves whole type
    (fun other mem name inside lands => absurd ⟨name, inside, lands⟩ (first other mem))
    fun other mem => unnamed other (List.mem_append_left _ mem)
  obtain ⟨name, inside, lands⟩ := aims
  cases later with
  | cons writes later =>
    cases writes with
    | @group aimed value written pending' lands' _ reads =>
      have same : aimed = name := by
        have := clear.type
        simp only at this
        rw [this, lands] at lands'
        exact (Option.some.inj (Except.ok.inj lands')).symm
      subst same
      have rest : Leaves target group _ _ := later.leaves whole
        (Pending.giveAll_type.trans clear.type)
        (fun _ _ other mem _ => mem_unwritten_written.2 (.inl (whole.whole _ inside other mem)))
        fun other mem => unnamed other (List.mem_append_right _ (.tail attr mem))
      refine ⟨rest.type, value, reads, fun other mem => ?_⟩
      rw [rest.slots other mem, Pending.giveAll_get?, if_pos]
      refine mem_unwritten.2 ⟨whole.whole _ inside other mem, fun before => ?_⟩
      cases (clear.written other mem).1 before
    | again lands' before =>
      have same := lands'
      rw [clear.type, lands] at same
      cases same
      cases (clear.written name inside).1 before
    | named none _ _ _ =>
      rw [clear.type, lands] at none
      cases none
    | pass none =>
      rw [clear.type, lands] at none
      cases none

end Merge
end Annotations
