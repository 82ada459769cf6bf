import Annotations.Proofs.Typed.RoundTrip
import Annotations.Proofs.View.Typing

/-!
Well-typed values can be read. Where the registry declares the fields of a schema and of those nested
in it with the types of their kinds, every value of a declared type is read at the kind, through and
through. A whole number of 32 bits is declared as one of 64, so its kind does not read all of them. A
schema with lists of itself is declared together with all it unfolds to, down to one without fields.
-/
namespace Annotations

open Registry

variable {reg : Registry}

namespace Kind

/-- The plain kinds with a declared type all of whose values they read. -/
def isExact : Kind → Bool
  | .text | .boolean | .long | .double | .classRef => true
  | _ => false

/-- The registry has an attribute for each field of the nested schemas, with the declared type, and all
plain kinds are exact. -/
abbrev DeclaredIn (reg : Registry) : Kind → Prop :=
  Made (·.isExact = true) fun schema => ∃ decl, reg.type schema.name = .ok decl ∧
    ∀ field ∈ schema.fields, ∃ attr, decl.attr? field.name = some attr ∧
      field.kind.declared? = some attr.type

end Kind

/-- The attributes that fields declare: one of each name and type, in the fields' order. -/
theorem attrs_of_fields {fields : List Field} {attrs : List Attr}
    (declared : fields.mapM Field.attr? = some attrs) :
    attrs.map (·.name) = fields.map (·.name) ∧ ∀ field ∈ fields, ∃ attr ∈ attrs,
      attr.name = field.name ∧ field.kind.declared? = some attr.type := by
  induction fields generalizing attrs with
  | nil =>
    cases declared
    exact ⟨rfl, by simp⟩
  | cons field rest ih =>
    rw [List.mapM_cons] at declared
    obtain ⟨attr, here, rest⟩ := Option.bind_eq_some_iff.1 declared
    obtain ⟨attrs, later, same⟩ := Option.bind_eq_some_iff.1 rest
    cases same
    obtain ⟨type, own, rfl⟩ := Option.map_eq_some_iff.1 here
    obtain ⟨names, each⟩ := ih later
    refine ⟨by rw [List.map_cons, List.map_cons, names], List.forall_mem_cons.2 ⟨?_, ?_⟩⟩
    · exact ⟨_, .head _, rfl, own⟩
    · intro other mem
      obtain ⟨attr, mem, fits⟩ := each other mem
      exact ⟨attr, .tail _ mem, fits⟩

/-- Schemas that are registered as they register themselves, and in which no two fields share a name,
are declared. -/
theorem Kind.declaredIn_of_registered {kind : Kind} (distinct : kind.Distinct)
    (registered : kind.Made (·.isExact = true) fun schema =>
      ∃ decl, schema.annotType? = some decl ∧ reg.type schema.name = .ok decl) :
    kind.DeclaredIn reg := by
  induction registered with
  | plain simple exact => exact .plain simple exact
  | list _ ih =>
    cases distinct with
    | plain simple => cases simple
    | list distinct => exact .list (ih distinct)
  | @record schema own _ ih =>
    cases distinct with
    | plain simple => cases simple
    | record names distinct =>
      obtain ⟨decl, registers, known⟩ := own
      obtain ⟨attrs, declared, same⟩ := Option.bind_eq_some_iff.1 registers
      cases same
      obtain ⟨named, each⟩ := attrs_of_fields declared
      refine .record ⟨_, known, fun field mem => ?_⟩ fun field mem => ih field mem (distinct field mem)
      obtain ⟨attr, mem, same, own⟩ := each field mem
      exact ⟨attr, same ▸ attr?_of_mem (named ▸ names) mem, own⟩

/-- Items that can be read each can be read together. -/
theorem readItems_ok {read : Value → Option Typed} {items : List Value}
    (each : ∀ item ∈ items, ∃ t, read item = some t) : ∃ ts, readItems read items = some ts := by
  induction items with
  | nil => exact ⟨[], rfl⟩
  | cons item rest ih =>
    obtain ⟨⟨t, here⟩, later⟩ := List.forall_mem_cons.1 each
    obtain ⟨ts, later⟩ := ih later
    exact ⟨t :: ts, by simp [readItems, here, later]⟩

/-- Fields with readable values in a store can be read from it. -/
theorem readFields_ok {fields : List Field} {store : Store}
    (each : ∀ field ∈ fields, ∃ value t, store.get? field.name = some value ∧
      field.kind.read value = some t) : ∃ values, readFields fields store = .ok values := by
  induction fields with
  | nil => exact ⟨[], rfl⟩
  | cons field rest ih =>
    obtain ⟨⟨value, t, own, read⟩, later⟩ := List.forall_mem_cons.1 each
    obtain ⟨values, later⟩ := ih later
    refine ⟨(field.name, t) :: values, ?_⟩
    rw [readFields, Field.ofStore_of_read own read, later]
    rfl

/-- A value of the declared type of a kind can be read at the kind. -/
theorem Kind.read_of_wellTyped {kind : Kind} (declared : kind.DeclaredIn reg) {type : AttrType}
    {value : Value} (own : kind.declared? = some type) (typed : value.WellTyped reg type) :
    ∃ t, kind.read value = some t := by
  induction declared generalizing type value with
  | @plain kind _ exact =>
    cases typed with
    | plain _ _ conforms =>
      cases kind <;> cases exact <;> cases own <;> cases value <;> cases conforms <;> exact ⟨_, rfl⟩
    | array _ => cases kind <;> cases exact <;> cases own
    | annot _ _ _ => cases kind <;> cases exact <;> cases own
  | @list item _ ih =>
    obtain ⟨element, inner, rfl⟩ := Option.map_eq_some_iff.1 own
    cases typed with
    | plain scalar _ _ => exact absurd rfl (scalar element)
    | @array _ items each =>
      obtain ⟨ts, read⟩ := readItems_ok fun item mem => ih inner (each item mem)
      exact ⟨.list ts, congrArg (Option.map Typed.list) read⟩
  | @record schema fields _ ih =>
    obtain ⟨decl, known, declares⟩ := fields
    cases own
    cases typed with
    | plain _ flat _ => exact absurd rfl (flat schema.name)
    | @annot _ decl' values known' full each =>
      cases known.symm.trans known'
      have stored : ∀ field ∈ schema.fields, ∃ value t,
          (Store.ofAnnot ⟨schema.name, values⟩).get? field.name = some value ∧
            field.kind.read value = some t := by
        intro field mem
        obtain ⟨attr, found, own⟩ := declares field mem
        have there : (Entries.get? values field.name).isSome = true := by rw [full, found]; rfl
        obtain ⟨value, held⟩ := Option.isSome_iff_exists.1 there
        obtain ⟨t, read⟩ := ih field mem own (each field.name attr value found held)
        exact ⟨value, t, held, read⟩
      obtain ⟨entries, read⟩ := readFields_ok stored
      refine ⟨.record schema.name entries, ?_⟩
      rw [Kind.read, Schema.ofStore_eq, read]
      rfl

end Annotations
