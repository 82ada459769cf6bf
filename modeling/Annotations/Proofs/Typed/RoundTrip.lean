import Annotations.Vocabulary.Records

/-!
Typed values survive being written and read back. A list is written as an array, so the reading of a
single value as a list of it alone never comes in; a record is written as an annotation with a value
for each field, so no default does. A schema with lists of itself stands here unfolded: a value of it
nests only so deep and is one of the schema unfolded further than that (`Schema.unfolded`).
-/
namespace Annotations

namespace Kind

/-- Neither a record nor a list. -/
def isPlain : Kind → Bool
  | .record _ | .list _ => false
  | _ => true

/-- What the plain kinds that a kind is made of and the schemas nested in it are. -/
inductive Made (plain : Kind → Prop) (each : Schema → Prop) : Kind → Prop
  | plain {kind : Kind} : kind.isPlain = true → plain kind → Made plain each kind
  | list {item : Kind} : Made plain each item → Made plain each (.list item)
  | record {schema : Schema} : each schema →
    (∀ field ∈ schema.fields, Made plain each field.kind) → Made plain each (.record schema)

/-- In every nested schema no two fields share a name. -/
abbrev Distinct : Kind → Prop :=
  Made (fun _ => True) fun schema => (schema.fields.map (·.name)).Nodup

end Kind

/-- A schema given over what stands for it inside, unfolded to a depth. -/
def Schema.unfolded (body : Schema → Schema) (inmost : Schema) : Nat → Schema
  | 0 => inmost
  | depth + 1 => body (unfolded body inmost depth)

theorem Kind.Made.unfolded {plain : Kind → Prop} {each : Schema → Prop} {body : Schema → Schema}
    {inmost : Schema} (start : (Kind.record inmost).Made plain each)
    (step : ∀ inner, (Kind.record inner).Made plain each → (Kind.record (body inner)).Made plain each)
    (depth : Nat) : (Kind.record (Schema.unfolded body inmost depth)).Made plain each := by
  induction depth with
  | zero => exact start
  | succ depth ih => exact step _ ih

mutual

/-- Whether a typed value is one of a kind. -/
def Kind.has : Kind → Typed → Bool
  | .any, .any _ => true
  | .text, .text _ => true
  | .boolean, .boolean _ => true
  | .long, .long _ => true
  | .int, .int _ => true
  | .double, .double _ => true
  | .classRef, .classRef _ => true
  | .className, .classRef _ => true
  | .enum, .enum _ _ => true
  | .annot, .annot _ => true
  | .store, .store _ => true
  | .record schema, .record name values => schema.has name values
  | .list item, .list items => items.all item.has
  | _, _ => false

/-- Whether values are those of the schema's fields, in their order. -/
def Schema.has : Schema → String → List (String × Typed) → Bool
  | ⟨own, _, _, fields⟩, name, values => own == name && fieldsHave fields values

def fieldsHave : List Field → List (String × Typed) → Bool
  | [], [] => true
  | field :: rest, value :: values => field.has value && fieldsHave rest values
  | _, _ => false

def Field.has : Field → String × Typed → Bool
  | ⟨own, kind, _, _⟩, value => own == value.1 && kind.has value.2

end

theorem Schema.has_iff {schema : Schema} {name : String} {values : List (String × Typed)} :
    schema.has name values = true ↔ schema.name = name ∧ fieldsHave schema.fields values = true := by
  cases schema
  simp [Schema.has]

theorem Field.has_iff {field : Field} {value : String × Typed} :
    field.has value = true ↔ field.name = value.1 ∧ field.kind.has value.2 = true := by
  cases field
  simp [Field.has]

theorem Schema.ofStore_eq (schema : Schema) (store : Store) :
    schema.ofStore store = (readFields schema.fields store).map (.record schema.name) := by
  cases schema
  rw [Schema.ofStore]
  rfl

theorem Field.ofStore_of_read {field : Field} {store : Store} {value : Value} {t : Typed}
    (own : store.get? field.name = some value) (read : field.kind.read value = some t) :
    field.ofStore store = .ok t := by
  obtain ⟨name, kind, default?, aliasFor⟩ := field
  rw [Field.ofStore.eq_def]
  simp only [show store.get? name = some value from own, show kind.read value = some t from read]

theorem narrow?_toInt64 (number : Int32) : narrow? number.toInt64 = some number := by
  simp [narrow?]

namespace Typed

theorem itemValues_eq (items : List Typed) : itemValues items = items.map toValue := by
  induction items with
  | nil => rfl
  | cons item rest ih => rw [itemValues, ih, List.map_cons]

theorem fieldValues_eq (values : List (String × Typed)) :
    fieldValues values = values.map fun value => (value.1, value.2.toValue) := by
  induction values with
  | nil => rfl
  | cons value rest ih => rw [fieldValues, ih, List.map_cons]

/-- Each field's value stands under its name. -/
theorem get?_fieldValues {values : List (String × Typed)} (distinct : (values.map Prod.fst).Nodup)
    {value : String × Typed} (mem : value ∈ values) :
    Entries.get? (Entries.ofPairs (fieldValues values)) value.1 = some value.2.toValue := by
  have names : Entries.names (fieldValues values) = values.map Prod.fst := by
    rw [fieldValues_eq, Entries.names, List.map_map]
    rfl
  rw [Entries.get?_ofPairs (names ▸ distinct)]
  apply Entries.get?_of_mem (names ▸ distinct)
  rw [fieldValues_eq]
  exact List.mem_map.2 ⟨value, mem, rfl⟩

end Typed

/-- Items that are read back each are read back together. -/
theorem readItems_toValue {read : Value → Option Typed} {items : List Typed}
    (back : ∀ item ∈ items, read item.toValue = some item) :
    readItems read (items.map Typed.toValue) = some items := by
  induction items with
  | nil => rfl
  | cons item rest ih =>
    obtain ⟨first, later⟩ := List.forall_mem_cons.1 back
    simp [readItems, first, ih later]

theorem names_of_fieldsHave {fields : List Field} {values : List (String × Typed)}
    (own : fieldsHave fields values = true) : values.map Prod.fst = fields.map (·.name) := by
  induction fields generalizing values with
  | nil =>
    cases values with
    | nil => rfl
    | cons _ _ => cases own
  | cons field rest ih =>
    cases values with
    | nil => cases own
    | cons value values =>
      obtain ⟨here, later⟩ := Bool.and_eq_true_iff.1 own
      rw [List.map_cons, List.map_cons, ih later, (Field.has_iff.1 here).1]

/-- Fields whose values stand in a store are read back from it. -/
theorem readFields_toValue {fields : List Field} {values : List (String × Typed)} {store : Store}
    (back : ∀ field ∈ fields, ∀ item, field.kind.has item = true →
      field.kind.read item.toValue = some item)
    (stored : ∀ value ∈ values, store.get? value.1 = some value.2.toValue)
    (own : fieldsHave fields values = true) : readFields fields store = .ok values := by
  induction fields generalizing values with
  | nil =>
    cases values with
    | nil => rfl
    | cons _ _ => cases own
  | cons field rest ih =>
    cases values with
    | nil => cases own
    | cons value values =>
      obtain ⟨here, later⟩ := Bool.and_eq_true_iff.1 own
      obtain ⟨named, kinded⟩ := Field.has_iff.1 here
      obtain ⟨back, backs⟩ := List.forall_mem_cons.1 back
      obtain ⟨stored, storeds⟩ := List.forall_mem_cons.1 stored
      have first : field.ofStore store = .ok value.2 :=
        Field.ofStore_of_read (named ▸ stored) (back value.2 kinded)
      rw [readFields, first, ih backs storeds later, named]
      rfl

namespace Kind

/-- A value of a kind is read back from what it is written as. -/
theorem read_toValue_of_distinct {kind : Kind} (distinct : kind.Distinct) {t : Typed}
    (own : kind.has t = true) : kind.read t.toValue = some t := by
  induction distinct generalizing t with
  | @plain kind simple _ =>
    -- only a whole number of 32 bits is written as a value of another width
    cases kind <;> cases t <;> try first | rfl | cases own | cases simple
    exact congrArg (Option.map Typed.int) (narrow?_toInt64 _)
  | @list item _ ih =>
    cases t with
    | list items =>
      rw [Typed.toValue, Typed.itemValues_eq, Kind.read, readItems_toValue, Option.map_some]
      intro inner mem
      exact ih (List.all_eq_true.1 own inner mem)
    | _ => cases own
  | @record schema names _ ih =>
    cases t with
    | record name values =>
      obtain ⟨rfl, held⟩ := Schema.has_iff.1 own
      have distinct : (values.map Prod.fst).Nodup := names_of_fieldsHave held ▸ names
      let store := Store.ofAnnot ⟨schema.name, Entries.ofPairs (Typed.fieldValues values)⟩
      have read : readFields schema.fields store = .ok values :=
        readFields_toValue (fun field mem item => ih field mem)
          (fun value mem => Typed.get?_fieldValues distinct mem) held
      rw [Typed.toValue, Kind.read, Schema.ofStore_eq, read]
      rfl
    | _ => cases own

/-- A value of a kind, in whose schemas no two fields share a name, is read back from what it is
written as. A list, the empty one too, is written as an array of as many items, and each item is read
back by itself: however deeply lists nest, none is taken for a single value. -/
theorem read_toValue {kind : Kind} (distinct : kind.Distinct) {t : Typed}
    (own : kind.has t = true) :
    kind.read t.toValue = some t ∧ ∀ item, kind = .list item →
      ∃ items, t = .list items ∧ t.toValue = .array (items.map Typed.toValue) ∧
        ∀ inner ∈ items, item.has inner = true ∧ item.read inner.toValue = some inner := by
  refine ⟨read_toValue_of_distinct distinct own, ?_⟩
  rintro item rfl
  cases t with
  | list items =>
    refine ⟨items, rfl, congrArg Value.array (Typed.itemValues_eq items), fun inner mem => ?_⟩
    have held := List.all_eq_true.1 own inner mem
    cases distinct with
    | plain simple => cases simple
    | list distinct => exact ⟨held, read_toValue_of_distinct distinct held⟩
  | _ => cases own

end Kind

namespace Records

/-- A tree with a list of trees below it. -/
def tree (depth : Nat) : Schema :=
  Schema.unfolded (fun inner => ⟨"typed.Tree", false, [], [
    ⟨"label", .text, none, none⟩,
    ⟨"below", .list (.record inner), some (.list []), none⟩]⟩) ⟨"typed.Tree", false, [], []⟩ depth

theorem tree_distinct (depth : Nat) : (Kind.record (tree depth)).Distinct := by
  refine .unfolded (.record .nil (by simp)) (fun inner distinct => ?_) depth
  refine .record (by simp) ?_
  simp only [List.forall_mem_cons]
  exact ⟨.plain rfl trivial, .list distinct, by simp⟩

/-- A tree of three levels. -/
def oak : Typed :=
  .record "typed.Tree" [("label", .text "trunk"), ("below", .list [
    .record "typed.Tree" [("label", .text "branch"), ("below", .list [
      .record "typed.Tree" [("label", .text "leaf"), ("below", .list [])]])],
    .record "typed.Tree" [("label", .text "twig"), ("below", .list [])]])]

/-- Grids of whole numbers with a column and a grid left empty, and lists of trees. -/
theorem grids_and_trees_read_toValue :
    let grids := Kind.list (.list (.list .int))
    let sample := Typed.list [.list [.list [.int 1, .int (-2)], .list []], .list []]
    grids.Distinct ∧ grids.has sample = true ∧ grids.read sample.toValue = some sample ∧
      (Kind.list (.record (tree 3))).read (Typed.list [oak, oak]).toValue =
        some (.list [oak, oak]) := by
  have distinct : (Kind.list (.list (.list .int))).Distinct :=
    .list (.list (.list (.plain rfl trivial)))
  refine ⟨distinct, by decide, (Kind.read_toValue distinct (by decide)).1, ?_⟩
  exact (Kind.read_toValue (.list (tree_distinct 3)) (by decide)).1

end Records
end Annotations
