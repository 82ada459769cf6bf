import Annotations.Proofs.Merge.Rereading

/-!
How deeply defaults nest. Reading a value falls back on the default of an attribute wherever an
annotation inside it does not give that attribute. If no default comes to fall back on itself, each is
come by once at most on the way inwards, so the depth of the value and of all defaults together bounds
the nesting, and no reading goes on without end.
-/
namespace Annotations

open Annotations.Action SynthMemo Registry

variable {reg : Registry}

namespace Registry

/-- An attribute of a type is read from what stands under a name: its own or that of an alias. -/
def ReadsFrom (reg : Registry) (type : String) (attr : Attr) (name : String) : Prop :=
  ∃ decl groups, reg.type type = .ok decl ∧ reg.aliasMap type = .ok groups ∧
    decl.attr? attr.name = some attr ∧ name ∈ aliasGroup groups attr.name

/-- Reading a value at a declared type falls back on the default of an attribute: an annotation inside
the value, or a store that stands for one, does not give the attribute. -/
inductive FallsBack (reg : Registry) (key : String × String) : AttrType → Value → Prop
  | here {declared : AttrType} {value inner : Value} {source : Source} :
    declared.inmost = .annot key.1 → value.Holds inner → inner.Stands key.1 source →
    source.value? key.2 = none → FallsBack reg key declared value
  | given {declared : AttrType} {value inner given : Value} {source : Source} {type name : String}
    {attr : Attr} :
    declared.inmost = .annot type → value.Holds inner → inner.Stands type source →
    reg.ReadsFrom type attr name → source.value? name = some given →
    FallsBack reg key attr.type given → FallsBack reg key declared value

/-- Filling in the default of one attribute comes by that of another. -/
def DefaultNeeds (reg : Registry) (key key' : String × String) : Prop :=
  ∃ decl attr value, reg.type key.1 = .ok decl ∧ decl.default? key.2 = some value ∧
    reg.ReadsFrom key.1 attr key.2 ∧ reg.FallsBack key' attr.type value

/-- No default contains itself: filling it in never comes by it again. -/
def DefaultsFinite (reg : Registry) : Prop := ∀ key, ¬ Relation.TransGen reg.DefaultNeeds key key

theorem FallsBack.of_holds {key : String × String} {declared : AttrType} {type : String}
    {value inner : Value} (own : declared.inmost = .annot type) (held : value.Holds inner)
    (h : reg.FallsBack key (.annot type) inner) : reg.FallsBack key declared value := by
  cases h with
  | here same held' stands absent => exact .here (own.trans same) (held.trans held') stands absent
  | given same held' stands reads given inside =>
    exact .given (own.trans same) (held.trans held') stands reads given inside

theorem FallsBack.inmost {key : String × String} {declared : AttrType} {value : Value}
    (h : reg.FallsBack key declared value) : ∃ type, declared.inmost = .annot type := by
  cases h with
  | here same _ _ _ => exact ⟨_, same⟩
  | given same _ _ _ _ _ => exact ⟨_, same⟩

/-- What a value falls back on is of a type that the declared one does not rank below. -/
theorem FallsBack.rank_le {rank : String → Nat}
    (below : ∀ type decl attr nested, reg.type type = .ok decl → attr ∈ decl.attrs →
      attr.type.inmost = .annot nested → rank nested < rank type)
    {key : String × String} {declared : AttrType} {value : Value} {type : String}
    (own : declared.inmost = .annot type) (h : reg.FallsBack key declared value) :
    rank key.1 ≤ rank type := by
  induction h generalizing type with
  | here same _ _ _ =>
    rw [own] at same
    cases same
    exact Nat.le_refl _
  | @given declared value inner given source outer name attr same _ _ reads _ inside ih =>
    rw [own] at same
    cases same
    obtain ⟨decl, groups, known, _, found, _⟩ := reads
    obtain ⟨nested, same⟩ := inside.inmost
    have lower := below _ decl attr nested known (mem_of_attr? found).1 same
    have inner := ih same
    omega

/-- Defaults are finite where the types can be ranked, each above those nested in it. -/
theorem defaultsFinite_of_rank (rank : String → Nat)
    (below : ∀ entry ∈ reg.types, ∀ attr ∈ entry.2.attrs, ∀ nested ∈ attr.type.inmost.nested?,
      rank nested < rank entry.1) : reg.DefaultsFinite := by
  have below (type : String) (decl : AnnotType) (attr : Attr) (nested : String)
      (known : reg.type type = .ok decl) (mem : attr ∈ decl.attrs)
      (own : attr.type.inmost = .annot nested) : rank nested < rank type := by
    apply below _ (mem_of_type known) attr mem
    simp [own, AttrType.nested?]
  have step {key key' : String × String} (needs : reg.DefaultNeeds key key') :
      rank key'.1 < rank key.1 := by
    obtain ⟨decl, attr, value, known, _, ⟨decl', _, known', _, found, _⟩, falls⟩ := needs
    obtain ⟨nested, own⟩ := falls.inmost
    have lower := below _ decl' attr nested known' (mem_of_attr? found).1 own
    have inner := falls.rank_le below own
    omega
  intro key cycle
  have lower : ∀ key', Relation.TransGen reg.DefaultNeeds key key' → rank key'.1 < rank key.1 := by
    intro key' way
    induction way with
    | single needs => exact step needs
    | tail _ needs ih => exact Nat.lt_trans (step needs) ih
  exact absurd (lower key cycle) (Nat.lt_irrefl _)

/-- No key that reading a value as an annotation of a type falls back on, or that this needs in turn, was
used. -/
def Unused (reg : Registry) (used : List (String × String)) (type : String) (value : Value) : Prop :=
  ∀ key key', reg.FallsBack key (.annot type) value →
    Relation.ReflTransGen reg.DefaultNeeds key key' → key' ∉ used

/-- The depths of all defaults. -/
def defaultDepths (reg : Registry) : List ((String × String) × Nat) :=
  reg.types.flatMap fun entry =>
    entry.2.attrs.map fun attr => ((entry.1, attr.name), (attr.default?.map Value.depth).getD 0)

end Registry

/-- The depths of the keys that were not used, together. -/
def depthLeft (used : List (String × String)) : List ((String × String) × Nat) → Nat
  | [] => 0
  | (key, depth) :: rest => (if key ∈ used then 0 else depth) + depthLeft used rest

theorem depthLeft_append (used : List (String × String)) (left right : List ((String × String) × Nat)) :
    depthLeft used (left ++ right) = depthLeft used left + depthLeft used right := by
  induction left with
  | nil => simp [depthLeft]
  | cons head rest ih =>
    simp only [List.cons_append, depthLeft, ih]
    omega

theorem depthLeft_cons_le (key : String × String) (used : List (String × String))
    (depths : List ((String × String) × Nat)) :
    depthLeft (key :: used) depths ≤ depthLeft used depths := by
  induction depths with
  | nil => simp [depthLeft]
  | cons head rest ih =>
    simp only [depthLeft, List.mem_cons]
    split <;> split <;> simp_all
    omega

/-- To use a key takes its depth off what is left. -/
theorem depthLeft_cons {key : String × String} {used : List (String × String)} {depth : Nat}
    {depths : List ((String × String) × Nat)} (mem : (key, depth) ∈ depths) (fresh : key ∉ used) :
    depth + depthLeft (key :: used) depths ≤ depthLeft used depths := by
  induction depths with
  | nil => cases mem
  | cons head rest ih =>
    obtain ⟨first, size⟩ := head
    have later := depthLeft_cons_le key used rest
    simp only [depthLeft, List.mem_cons]
    rcases List.mem_cons.1 mem with same | mem
    · cases same
      simp only [true_or, if_true, if_neg fresh]
      omega
    · have rest := ih mem
      split <;> split <;> simp_all <;> omega

namespace Registry

theorem defaultDepth_eq (reg : Registry) : reg.defaultDepth = depthLeft [] reg.defaultDepths := by
  unfold defaultDepth defaultDepths
  generalize reg.types = types
  have each (name : String) (attrs : List Attr) (total : Nat) :
      attrs.foldr (fun attr total => (attr.default?.map Value.depth).getD 0 + total) total =
        depthLeft [] (attrs.map fun attr =>
          ((name, attr.name), (attr.default?.map Value.depth).getD 0)) + total := by
    induction attrs with
    | nil => simp [depthLeft]
    | cons attr rest ih =>
      simp only [List.foldr_cons, List.map_cons, depthLeft, ih, List.not_mem_nil, if_false]
      omega
  induction types with
  | nil => rfl
  | cons entry rest ih =>
    rw [List.foldr_cons, ih, each entry.1, List.flatMap_cons, depthLeft_append]

theorem mem_defaultDepths {key : String × String} {decl : AnnotType} {value : Value}
    (known : reg.type key.1 = .ok decl) (own : decl.default? key.2 = some value) :
    (key, value.depth) ∈ reg.defaultDepths := by
  obtain ⟨attr, found, own⟩ := Option.bind_eq_some_iff.1 own
  obtain ⟨mem, named⟩ := mem_of_attr? found
  apply List.mem_flatMap.2
  refine ⟨_, mem_of_type known, List.mem_map.2 ⟨attr, mem, ?_⟩⟩
  simp [named, own]

end Registry

namespace Value

theorem Stands.depth_pos {value : Value} {type : String} {source : Source}
    (h : value.Stands type source) : 0 < value.depth := by
  cases h <;> simp [depth]

theorem Stands.depth_lt {value given : Value} {type name : String} {source : Source}
    (h : value.Stands type source) (own : source.value? name = some given) :
    given.depth < value.depth := by
  cases h <;> exact Nat.lt_succ_of_le (depth_le_entriesDepth own)

end Value

namespace View

variable {view : View} {source : Source} {type : String} {attr : Attr} {value : Value} {e : Error}

/-- Once a value is there, going through aliases ends with one. -/
theorem settle_isSome {default? : Option Value} {partners : List String} {own result : Option Value}
    {declaredBy : String} (there : own.isSome = true)
    (h : view.settle default? partners own declaredBy = .ok result) : result.isSome = true := by
  induction partners generalizing own declaredBy with
  | nil =>
    cases h
    exact there
  | cons partner rest ih =>
    unfold settle at h
    dsimp only at h
    split at h
    · cases h
    · split at h
      · rename_i take
        exact ih (by simp_all) h
      · exact ih there h

/-- What is picked is given by the source under the name of a member of the group, or is a member's
default where the source gives none. -/
theorem pick_origin (of : view.Of reg source type) (found : view.type.attr? attr.name = some attr)
    (h : view.pick attr = .ok value) : ∃ name, reg.ReadsFrom type attr name ∧
      (source.value? name = some value ∨
        source.value? name = none ∧ view.type.default? name = some value) := by
  have reads {name : String} (mem : name ∈ aliasGroup view.aliases attr.name) :
      reg.ReadsFrom type attr name := ⟨view.type, view.aliases, of.type, of.aliases, found, mem⟩
  obtain ⟨settled, went, chosen⟩ := pick_ok h
  obtain ⟨name, mem, rfl⟩ := settle_from rfl went
  cases own : view.raw name with
  | some value' =>
    rw [own] at chosen
    cases chosen
    refine ⟨name, reads mem, ?_⟩
    unfold raw at own
    rw [of.source] at own
    cases source with
    | store store => exact .inl own
    | annot annot =>
      simp only at own
      cases given : annot.value? name with
      | some value' =>
        rw [given] at own
        exact .inl (given.trans own)
      | none =>
        rw [given] at own
        exact .inr ⟨given, own⟩
  | none =>
    rw [own, Option.none_or] at chosen
    refine ⟨attr.name, reads (.head _), .inr ⟨?_, by simp [AnnotType.default?, found, chosen]⟩⟩
    rw [Option.eq_none_iff_forall_ne_some]
    intro given there
    have settled := settle_isSome (by rw [raw_of_value of there]; rfl) went
    rw [own] at settled
    cases settled

theorem pick_ends (h : view.pick attr = .error e) : e ≠ .endlessDefault := by
  rintro rfl
  rcases Outcome.bind_error h with failed | ⟨settled, _, h⟩
  · cases settle_conflict failed
  · split at h <;> cases h

end View

section

variable (finite : reg.DefaultsFinite)

include finite

/-- What is picked for an attribute nests less deeply than what it is read from, where a default that is
picked is used up. -/
theorem View.pick_nests {view : View} {source : Source} {type nested : String} {attr : Attr}
    {value picked inner : Value} {used : List (String × String)} (of : view.Of reg source type)
    (stands : value.Stands type source) (unused : reg.Unused used type value)
    (found : view.type.attr? attr.name = some attr) (h : view.pick attr = .ok picked)
    (held : picked.Holds inner) (own : attr.type.inmost = .annot nested) :
    ∃ used', reg.Unused used' nested inner ∧
      inner.depth + depthLeft used' reg.defaultDepths <
        value.depth + depthLeft used reg.defaultDepths := by
  have shallow := held.depth_le
  obtain ⟨name, reads, ⟨given⟩ | ⟨absent, default'⟩⟩ := pick_origin of found h
  · have lower := stands.depth_lt given
    refine ⟨used, fun key key' falls way => ?_, by omega⟩
    apply unused key key' _ way
    exact .given rfl .here stands reads given (falls.of_holds own held)
  · have here : reg.FallsBack (type, name) (.annot type) value := .here rfl .here stands absent
    have mem : ((type, name), picked.depth) ∈ reg.defaultDepths := mem_defaultDepths of.type default'
    have left := depthLeft_cons mem (unused _ _ here .refl)
    have positive := stands.depth_pos
    refine ⟨(type, name) :: used, fun key key' falls way => ?_, by omega⟩
    have needs : reg.DefaultNeeds (type, name) key :=
      ⟨view.type, attr, picked, of.type, default', reads, falls.of_holds own held⟩
    rw [List.mem_cons, not_or]
    constructor
    · rintro rfl
      exact finite _ (.head' needs way)
    · exact unused _ key' here (.head needs way)

/-- A source is not read without end where its depth and those of the defaults not used are within the
bound. -/
theorem Registry.materialize_ends {element : Option Element} {bound : Nat} {source : Source}
    {type : String} {value : Value} {used : List (String × String)} (stands : value.Stands type source)
    (unused : reg.Unused used type value)
    (deep : value.depth + depthLeft used reg.defaultDepths ≤ bound) :
    ¬ Yields (Sound reg) (reg.materialize element bound source type) (.error .endlessDefault) := by
  induction bound generalizing used source type value with
  | zero =>
    have positive := stands.depth_pos
    omega
  | succ bound ih =>
    intro h
    have nested := fun _ : Value => reg.asked_keeps.materialize element bound
    rw [materialize_succ] at h
    rcases h.bind_error (reg.asked_keeps.viewSource element source type) with failed | ⟨view, seen, h⟩
    · exact ((viewSource_faults _ _ _).yields failed).ends rfl
    rcases h.bind_error (reg.asked_keeps.valuesWith nested view) with failed | ⟨_, _, h⟩
    · have of := viewSource_of seen
      rw [stands.readAs] at of
      obtain ⟨own, mem, failed⟩ := View.valuesWith_error nested failed
      obtain ⟨attr, found⟩ := attr?_of_name (List.mem_map.2 ⟨own, mem, rfl⟩)
      obtain ⟨_, named⟩ := mem_of_attr? found
      rcases View.attrWith_error found failed with refused | ⟨picked, chosen, failed⟩
      · exact View.pick_ends refused rfl
      obtain ⟨inner, source', type', held, stands', inmost, failed⟩ :=
        View.fit_error (nested picked) (by simp [Error.category]) failed
      obtain ⟨used', unused', lower⟩ := View.pick_nests finite of stands unused (named ▸ found) chosen
        (View.holds_of_wrap stands' held) inmost
      exact ih stands' unused' (by omega) failed
    · cases h.pure

/-- No attribute of a view is read without end. -/
theorem View.attr_ends {view : View} {name : String} {e : Error}
    (h : Yields (Sound reg) (view.attr reg name) (.error e)) :
    e ≠ .endlessDefault := by
  rintro rfl
  cases found : view.type.attr? name with
  | none =>
    rw [attr, attrWith_undeclared found] at h
    cases h.throw
  | some attr =>
    rcases attrWith_error found h with refused | ⟨picked, chosen, failed⟩
    · exact pick_ends refused rfl
    · obtain ⟨inner, source', type', held, stands, _, failed⟩ :=
        fit_error (reg.asked_keeps.materialize _ _) (by simp [Error.category]) failed
      have shallow := (holds_of_wrap stands held).depth_le
      have unused : reg.Unused [] type' inner := fun _ _ _ _ => List.not_mem_nil
      apply materialize_ends finite stands unused _ failed
      rw [← defaultDepth_eq]
      unfold nestingBound
      omega

end

end Annotations
