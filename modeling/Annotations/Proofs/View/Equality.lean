import Annotations.Proofs.Alias.Replays
import Annotations.Proofs.Merge.Twins
import Annotations.Proofs.Value.Hashing
import Annotations.Vocabulary.Web

/-!
Equality of values and of views is an equivalence that goes with what is hashed of them. Values,
annotations and stores have all of it. Two views are compared by what is read of both, one after the
other, so their equality is as good as their reading: it has all of it among views that are read alike
in every later state, and such are all views of sound declarations, and all that were read once.
-/
namespace Annotations

open Annotations.Action SynthMemo Registry

/-- An equality that is an equivalence and that a hash goes with. -/
structure Consistent {α : Type} (same : α → α → Bool) (digest : α → List Atom) : Prop where
  refl : ∀ a, same a a = true
  symm : ∀ a b, same a b = same b a
  trans : ∀ a b c, same a b = true → same b c = true → same a c = true
  digest : ∀ a b, same a b = true → digest a = digest b

theorem Value.consistent : Consistent Value.same Value.digest where
  refl := same_refl
  symm _ _ := Bool.eq_iff_iff.2 ⟨same_symm, same_symm⟩
  trans _ _ _ := same_trans
  digest _ _ := same_digest

/-- What is compared and hashed as values is as consistent as they are. -/
theorem Consistent.comap {α β : Type} {same : β → β → Bool} {digest : β → List Atom}
    (h : Consistent same digest) (f : α → β) :
    Consistent (fun a b => same (f a) (f b)) fun a => digest (f a) where
  refl a := h.refl (f a)
  symm a b := h.symm (f a) (f b)
  trans a b c := h.trans (f a) (f b) (f c)
  digest a b := h.digest (f a) (f b)

theorem Value.Reordered.same_eq {a a' b b' : Value} (left : a.Reordered a') (right : b.Reordered b') :
    a.same b = a'.same b' :=
  same_congr left.twins.same right.twins.same

namespace Source

/-- The same source with its entries put in in another order, at any depth. -/
def Reordered : Source → Source → Prop
  | .annot a, .annot b => a.toValue.Reordered b.toValue
  | .store a, .store b => a.toValue.Reordered b.toValue
  | _, _ => False

theorem Reordered.twins {source source' : Source} (h : source.Reordered source') :
    source.Twins source' := by
  match source, source', h with
  | .annot a, .annot b, h =>
    obtain ⟨type, values⟩ := a
    obtain ⟨type', values'⟩ := b
    cases Value.Reordered.twins h with
    | refl => exact .refl _
    | annot _ _ all => exact ⟨rfl, all⟩
  | .store a, .store b, h =>
    obtain ⟨type, shown, values⟩ := a
    obtain ⟨type', shown', values'⟩ := b
    cases Value.Reordered.twins h with
    | refl => exact .refl _
    | store _ _ all => exact all

theorem Twins.same {source source' : Source} (h : source.Twins source') : source.Same source' := by
  match source, source', h with
  | .annot a, .annot b, ⟨types, all⟩ => exact ⟨types, fun name => View.Twins.sameOption (all name)⟩
  | .store a, .store b, all => exact fun name => View.Twins.sameOption (all name)

/-- The annotation or the store as a value. -/
def toValue : Source → Value
  | .annot given => given.toValue
  | .store kept => kept.toValue

theorem same_eq (source source' : Source) :
    source.same source' = source.toValue.same source'.toValue := by
  cases source <;> cases source' <;> rfl

theorem Reordered.toValue {source source' : Source} (h : source.Reordered source') :
    source.toValue.Reordered source'.toValue := by
  match source, source', h with
  | .annot a, .annot b, h => exact h
  | .store a, .store b, h => exact h

end Source

namespace Entries

variable {α β : Type}

/-- The names of entries, and their order, come from the names put in. -/
theorem names_putAll_congr {entries : Entries α} {entries' : Entries β} {pairs : List (String × α)}
    {pairs' : List (String × β)} (start : entries.names = entries'.names)
    (names : Entries.names pairs = Entries.names pairs') :
    (entries.putAll pairs).names = (entries'.putAll pairs').names := by
  induction pairs generalizing entries entries' pairs' with
  | nil =>
    cases pairs' with
    | nil => exact start
    | cons pair' rest' => cases names
  | cons pair rest ih =>
    cases pairs' with
    | nil => cases names
    | cons pair' rest' =>
      have here : pair.1 = pair'.1 := (List.cons.inj names).1
      have later : Entries.names rest = Entries.names rest' := (List.cons.inj names).2
      have started : (entries.put pair.1 pair.2).names = (entries'.put pair'.1 pair'.2).names := by
        rw [names_put, names_put, start, here]
      change ((entries.put pair.1 pair.2).putAll rest).names =
        ((entries'.put pair'.1 pair'.2).putAll rest').names
      exact ih started later

/-- Entries with the same distinct names in the same order are related one by one if what is found
under each name is. -/
theorem forall₂_of_names {R : α → β → Prop} {entries : Entries α} {entries' : Entries β}
    (distinct : entries.names.Nodup) (names : entries.names = entries'.names)
    (all : ∀ name, Option.Rel R (entries.get? name) (entries'.get? name)) :
    List.Forall₂ (fun entry entry' => entry.1 = entry'.1 ∧ R entry.2 entry'.2) entries entries' := by
  induction entries generalizing entries' with
  | nil =>
    cases entries' with
    | nil => exact .nil
    | cons entry' rest' => cases names
  | cons entry rest ih =>
    cases entries' with
    | nil => cases names
    | cons entry' rest' =>
      obtain ⟨key, value⟩ := entry
      obtain ⟨key', value'⟩ := entry'
      obtain rfl : key = key' := (List.cons.inj names).1
      have later : Entries.names rest = Entries.names rest' := (List.cons.inj names).2
      obtain ⟨fresh, distinct⟩ := List.nodup_cons.1 distinct
      have here := all key
      simp only [get?_cons, if_true] at here
      cases here with
      | some here =>
        refine .cons ⟨rfl, here⟩ (ih distinct later fun name => ?_)
        by_cases same : key = name
        · subst same
          rw [get?_eq_none_iff.2 fresh, get?_eq_none_iff.2 (later ▸ fresh)]
          exact .none
        · simpa [same] using all name

end Entries

variable {reg : Registry} {memo later : SynthMemo} {u v w : View}

theorem Registry.Asked.values {P : ∀ {α : Type}, Action SynthMemo α → Prop} (h : reg.Asked P)
    (view : View) : P (view.values reg) :=
  h.valuesWith (fun value => h.materialize view.element (reg.nestingBound value)) view

namespace View

theorem values_twins {u' : View} {R : SynthMemo → SynthMemo → Prop}
    (asked : reg.Asked fun f => Alike R f f) (views : u.Twins u') :
    Paired R (fun _ _ => True) Error.SameButTexts (u.values reg) (u'.values reg) := by
  unfold values
  rw [views.element]
  refine valuesWith_twins views fun value value' twins source source' type sources => ?_
  rw [twins.nestingBound]
  exact materialize_twins asked _ _ sources type

/-- What the comparison of two views makes of what is read of them. -/
def verdict (u v : View) (left right : Except Error (Entries Value)) : Bool :=
  u.name == v.name &&
    match left, right with
    | .ok xs, .ok ys => Value.sameEntries xs ys
    | .error _, .error _ => u.source.same v.source
    | _, _ => false

/-- What a hash of a view is computed from, given what is read of it. -/
def digestOf (view : View) : Except Error (Entries Value) → List Atom
  | .error _ => [.text view.name]
  | .ok values => .text view.name :: values.flatMap fun entry => .text entry.1 :: entry.2.digest

theorem attempt_apply {α : Type} (f : Action SynthMemo α) (memo : SynthMemo) :
    attempt f memo = (.ok (f memo).1, (f memo).2) := rfl

theorem same_outcome (u v : View) (reg : Registry) (memo : SynthMemo) :
    (u.same v reg memo).1 =
      .ok (u.verdict v (u.values reg memo).1 (v.values reg (u.values reg memo).2).1) := by
  unfold same verdict
  by_cases names : u.name = v.name
  · simp only [names, bne_self_eq_false, Bool.false_eq_true, if_false, beq_self_eq_true,
      Bool.true_and, bind_apply, attempt_apply]
    cases (u.values reg memo).1 <;> cases (v.values reg (u.values reg memo).2).1 <;> rfl
  · simp [names]

theorem digest_outcome (view : View) (reg : Registry) (memo : SynthMemo) :
    (view.digest reg memo).1 = .ok (view.digestOf (view.values reg memo).1) := by
  unfold digest
  simp only [bind_apply, attempt_apply]
  cases (view.values reg memo).1 <;> rfl

section

variable {left right other : Except Error (Entries Value)}

theorem verdict_refl (u : View) (outcome : Except Error (Entries Value)) :
    u.verdict u outcome outcome = true := by
  unfold verdict
  cases outcome with
  | ok values => simp [Value.sameEntries_iff, Value.sameOption_refl]
  | error e => simp [Source.same_eq, Value.same_refl]

theorem verdict_symm (u v : View) (left right : Except Error (Entries Value)) :
    u.verdict v left right = v.verdict u right left := by
  have entries (xs ys : Entries Value) : Value.sameEntries xs ys = Value.sameEntries ys xs := by
    rw [Bool.eq_iff_iff, Value.sameEntries_iff, Value.sameEntries_iff]
    exact forall_congr' fun name => by rw [Value.sameOption_comm]
  unfold verdict
  rw [Bool.beq_comm]
  cases left <;> cases right <;>
    simp only [entries, Source.same_eq, Value.consistent.symm u.source.toValue]

theorem verdict_trans (h : u.verdict v left right = true) (h' : v.verdict w right other = true) :
    u.verdict w left other = true := by
  unfold verdict at h h' ⊢
  simp only [Bool.and_eq_true, beq_iff_eq] at h h' ⊢
  refine ⟨h.1.trans h'.1, ?_⟩
  cases left <;> cases right <;> cases other <;> simp only [Bool.false_eq_true, and_false] at h h' ⊢
  · rw [Source.same_eq] at h h' ⊢
    exact Value.same_trans h.2 h'.2
  · refine Value.sameEntries_iff.2 fun name => ?_
    have here := Value.sameEntries_iff.1 h.2 name
    rw [Value.sameOption_congr here (Value.sameOption_refl _)]
    exact Value.sameEntries_iff.1 h'.2 name

end

/-- Views of one name list the same attributes in the same order. -/
theorem values_names (of : u.Of reg u.source u.name) (of' : v.Of reg v.source v.name)
    (names : u.name = v.name) {xs ys : Entries Value}
    (read : Yields (Sound reg) (u.values reg) (.ok xs))
    (read' : Yields (Sound reg) (v.values reg) (.ok ys)) : xs.names = ys.names := by
  have types : u.type = v.type := Except.ok.inj (of.type.symm.trans (names ▸ of'.type))
  have keeps (view : View) (value : Value) := reg.asked_keeps.materialize view.element (reg.nestingBound value)
  have listed {pairs : List (String × Value)} {view : View}
      (made : List.Forall₂ (fun attr pair => pair.1 = attr.name ∧
        Yields (Sound reg) (view.attr reg attr.name) (.ok pair.2)) view.type.attrs pairs) :
      Entries.names pairs = view.type.attrs.map (·.name) := by
    generalize view.type.attrs = attrs at made
    induction made with
    | nil => rfl
    | cons here _ later => exact congrArg₂ List.cons here.1 later
  obtain ⟨pairs, rfl, made⟩ := valuesWith_yields (keeps u) read
  obtain ⟨pairs', rfl, made'⟩ := valuesWith_yields (keeps v) read'
  exact Entries.names_putAll_congr rfl ((listed made).trans (types ▸ (listed made').symm))

/-- Views that compare equal have equal hashed content. -/
theorem verdict_digestOf (of : u.Of reg u.source u.name) (of' : v.Of reg v.source v.name)
    (sound : Sound reg memo) (sound' : Sound reg later)
    (h : u.verdict v (u.values reg memo).1 (v.values reg later).1 = true) :
    u.digestOf (u.values reg memo).1 = v.digestOf (v.values reg later).1 := by
  unfold verdict at h
  simp only [Bool.and_eq_true, beq_iff_eq] at h
  obtain ⟨names, alike⟩ := h
  cases left : (u.values reg memo).1 with
  | error e =>
    cases right : (v.values reg later).1 with
    | error e' => rw [digestOf, digestOf, names]
    | ok ys => simp [left, right] at alike
  | ok xs =>
    cases right : (v.values reg later).1 with
    | error e' => simp [left, right] at alike
    | ok ys =>
      simp only [left, right, Value.sameEntries_iff] at alike
      have listed := values_names of of' names ⟨memo, sound, left⟩ ⟨later, sound', right⟩
      have distinct : xs.names.Nodup := by
        obtain ⟨pairs, rfl, _⟩ := valuesWith_yields
          (fun value => reg.asked_keeps.materialize u.element (reg.nestingBound value))
          ⟨memo, sound, left⟩
        exact Entries.nodup_names_ofPairs pairs
      have all := Entries.forall₂_of_names distinct listed fun name =>
        Value.sameOption_iff.1 (alike name)
      simp only [digestOf, names, List.cons.injEq, true_and]
      clear * - all
      induction all with
      | nil => rfl
      | cons here _ later =>
        rw [List.flatMap_cons, List.flatMap_cons, later, here.1, Value.same_digest here.2]

/-- A view of the same source with its entries in another order is read together with the view. -/
theorem reordered_verdict (of : u.Of reg u.source u.name) {source : Source}
    (h : u.source.Reordered source) (sound : Sound reg memo) :
    u.verdict { u with source } (u.values reg memo).1
        (({ u with source } : View).values reg memo).1 = true ∧
      (u.values reg memo).2 = (({ u with source } : View).values reg memo).2 := by
  have views : u.Twins { u with source } :=
    ⟨rfl, rfl, rfl, rfl, raw_twins h.twins rfl rfl rfl⟩
  obtain ⟨meet, after, _⟩ := values_twins reg.asked_once views memo memo ⟨rfl, sound⟩
  refine ⟨?_, after⟩
  unfold verdict
  cases left : (u.values reg memo).1 with
  | error e =>
    cases right : (({ u with source } : View).values reg memo).1 with
    | error e' => simpa [Source.same_eq] using h.toValue.twins.same
    | ok ys =>
      rw [left, right] at meet
      cases meet
  | ok xs =>
    cases right : (({ u with source } : View).values reg memo).1 with
    | error e' =>
      rw [left, right] at meet
      cases meet
    | ok ys =>
      have keeps (value : Value) := reg.asked_keeps.materialize u.element (reg.nestingBound value)
      have of' : ({ u with source } : View).Of reg source u.name := ⟨rfl, rfl, of.type, of.aliases⟩
      have entries := valuesWith_same of of' h.twins.same
        ⟨keeps, keeps, fun _ _ => Registry.materialize_same⟩ ⟨memo, sound, left⟩
        ⟨memo, sound, right⟩
      simpa [Value.sameEntries_iff] using entries

/-- What is read of a view stays the same in every later state. -/
def Settled (reg : Registry) (memo : SynthMemo) (view : View) : Prop :=
  ∀ later, Sound reg later → memo.Within later → (view.values reg later).1 = (view.values reg memo).1

theorem values_replays (view : View) (reg : Registry) : Replays reg (view.values reg) :=
  reg.asked_replays.values view

/-- What failed fails again until there is another answer on synthesizability. -/
theorem values_failed (view : View) (sound : Sound reg memo) {e : Error}
    (h : (view.values reg memo).1 = .error e) (sound' : Sound reg later)
    (kept : Answers (view.values reg memo).2.synthesizable later) :
    (view.values reg later).1 = .error e :=
  ((view.values_replays reg).error memo e sound h later sound' kept).1

/-- A view that was read is settled. -/
theorem settled_of_ok (sound : Sound reg memo) {values : Entries Value}
    (h : (u.values reg memo).1 = .ok values) : u.Settled reg (u.values reg memo).2 := by
  have replays := u.values_replays reg
  intro later sound' within
  rw [(replays.ok memo values sound h later sound' within).1, replays.again sound, h]

/-- All views over sound declarations are settled. -/
theorem settled_of_valid (valid : reg.AliasesValid) (known : reg.NestedKnown) (sound : Sound reg memo) :
    u.Settled reg memo := fun _ sound' _ =>
  (((asked_alike valid known).values u).outcome ⟨sound', sound⟩).1

/-- Settled views compare by what is read of them at first. -/
theorem same_settled (left : u.Settled reg memo) (right : v.Settled reg memo)
    (sound : Sound reg later) (within : memo.Within later) :
    (u.same v reg later).1 = .ok (u.verdict v (u.values reg memo).1 (v.values reg memo).1) := by
  have replays := u.values_replays reg
  rw [same_outcome, left later sound within,
    right _ (replays.keeps later sound) (within.trans (replays.within later sound))]

/-- Whichever way round it is compared, a view and the same with its entries in another order are one. -/
theorem same_reordered (v : View) (of : u.Of reg u.source u.name) {source : Source}
    (h : u.source.Reordered source) (sound : Sound reg memo) :
    (u.same v reg memo).1 = (({ u with source } : View).same v reg memo).1 ∧
      (v.same u reg memo).1 = (v.same { u with source } reg memo).1 := by
  simp only [same_outcome]
  have exchange {later : SynthMemo} (sound : Sound reg later) (outcome : Except Error (Entries Value)) :
      u.verdict v (u.values reg later).1 outcome = ({ u with source } : View).verdict v
        (({ u with source } : View).values reg later).1 outcome := by
    have one := (reordered_verdict of h sound).1
    exact Bool.eq_iff_iff.2
      ⟨verdict_trans (verdict_symm u { u with source } _ _ ▸ one), verdict_trans one⟩
  constructor
  · rw [← (reordered_verdict of h sound).2, exchange sound]
  · rw [verdict_symm v u, verdict_symm v { u with source },
      exchange ((v.values_replays reg).keeps memo sound)]

end View

/-- Equality of the views described is, in all states that a memo may get to, one equivalence that
their hashed content goes with. -/
structure Registry.ConsistentAmong (reg : Registry) (memo : SynthMemo) (among : View → Prop) :
    Prop where
  refl : ∀ u, among u → ∀ later, Sound reg later → memo.Within later →
    (u.same u reg later).1 = .ok true
  symm : ∀ u v, among u → among v → ∀ later, Sound reg later → memo.Within later →
    ∀ other, Sound reg other → memo.Within other → (u.same v reg later).1 = (v.same u reg other).1
  trans : ∀ u v w, among u → among v → among w → ∀ later, Sound reg later → memo.Within later →
    (u.same v reg later).1 = .ok true → (v.same w reg later).1 = .ok true →
      ∀ other, Sound reg other → memo.Within other → (u.same w reg other).1 = .ok true
  digest : ∀ u v, among u → among v → ∀ later, Sound reg later → memo.Within later →
    (u.same v reg later).1 = .ok true →
      ∀ other, Sound reg other → memo.Within other → (u.digest reg other).1 = (v.digest reg other).1

/-- Views over a registry that are read alike in every later state are compared and hashed
consistently. -/
theorem Registry.settled_consistent (sound : Sound reg memo) : reg.ConsistentAmong memo fun view =>
    view.Of reg view.source view.name ∧ view.Settled reg memo where
  refl u settled later sound' within := by
    rw [View.same_settled settled.2 settled.2 sound' within, View.verdict_refl]
  symm u v left right later sound' within other sound'' within' := by
    rw [View.same_settled left.2 right.2 sound' within, View.same_settled right.2 left.2 sound'' within',
      View.verdict_symm]
  trans u v w left middle right later sound' within first second other sound'' within' := by
    rw [View.same_settled left.2 middle.2 sound' within] at first
    rw [View.same_settled middle.2 right.2 sound' within] at second
    rw [View.same_settled left.2 right.2 sound'' within',
      View.verdict_trans (Except.ok.inj first) (Except.ok.inj second)]
  digest u v left right later sound' within same other sound'' within' := by
    rw [View.same_settled left.2 right.2 sound' within] at same
    rw [View.digest_outcome, View.digest_outcome, left.2 other sound'' within',
      right.2 other sound'' within',
      View.verdict_digestOf left.1 right.1 sound sound (Except.ok.inj same)]

/-- Equality of values, annotations and stores is an equivalence, does not see the order of entries,
and goes with what is hashed. So is and does that of the views over a registry that are read alike in
every later state: of each view once it was read, and of all where all declarations are sound. Of the
others a view that could not be read stays so until there is another answer on synthesizability; each
is equal to itself, and to itself with its entries in another order. -/
theorem equality_consistent (reg : Registry) (memo : SynthMemo) :
    Consistent Value.same Value.digest ∧
      Consistent Annot.same (fun annot => annot.toValue.digest) ∧
      Consistent Store.same (fun store => store.toValue.digest) ∧
      (∀ a a' b b' : Value, a.Reordered a' → b.Reordered b' → a.same b = a'.same b') ∧
      (Sound reg memo →
        (reg.ConsistentAmong memo fun view =>
          view.Of reg view.source view.name ∧ view.Settled reg memo) ∧
        (∀ (view : View) values, (view.values reg memo).1 = .ok values →
          view.Settled reg (view.values reg memo).2) ∧
        (reg.AliasesValid → reg.NestedKnown → ∀ view : View, view.Settled reg memo) ∧
        (∀ (view : View) e, (view.values reg memo).1 = .error e → ∀ later, Sound reg later →
          Answers (view.values reg memo).2.synthesizable later →
            (view.values reg later).1 = .error e) ∧
        (∀ u v : View, ∃ answer, (u.same v reg memo).1 = .ok answer) ∧
        (∀ view : View, (view.same view reg memo).1 = .ok true) ∧
        ∀ (u v : View) source, u.Of reg u.source u.name → u.source.Reordered source →
          (u.same v reg memo).1 = (({ u with source } : View).same v reg memo).1 ∧
            (v.same u reg memo).1 = (v.same { u with source } reg memo).1 ∧
            (u.digest reg memo).1 = (({ u with source } : View).digest reg memo).1) := by
  refine ⟨Value.consistent, Value.consistent.comap Annot.toValue,
    Value.consistent.comap Store.toValue, fun _ _ _ _ => Value.Reordered.same_eq,
    fun sound => ⟨settled_consistent sound, fun view values => View.settled_of_ok sound,
      fun valid known view => View.settled_of_valid valid known sound,
      fun view e failed later sound' => view.values_failed sound failed sound',
      fun u v => ⟨_, View.same_outcome u v reg memo⟩, fun view => ?_, fun u v source of h => ?_⟩⟩
  · rw [View.same_outcome, (view.values_replays reg).again sound, View.verdict_refl]
  · obtain ⟨left, right⟩ := View.same_reordered v of h sound
    have of' : ({ u with source } : View).Of reg source u.name := ⟨rfl, rfl, of.type, of.aliases⟩
    refine ⟨left, right, ?_⟩
    rw [View.digest_outcome, View.digest_outcome,
      View.verdict_digestOf of of' sound sound (View.reordered_verdict of h sound).1]

section

open Vocabulary

/-- Shelves and books hold each other, and an alias of the shelf aims at nothing. A room has shelves, a
house a room and a book. -/
def houses : Registry :=
  base.addTypes [
    ("test.Shelf", {
      attrs := [{ name := "book", type := .annot "test.Book" }, textAttr "bad" (pairedWith "missing")] }),
    ("test.Book", {
      attrs := [arrayAttr "shelves" (.annot "test.Shelf"), textAttr "name" (pairedWith "title"),
        textAttr "title" (pairedWith "name")] }),
    ("test.Room", { attrs := [{ name := "shelves", type := .array (.annot "test.Shelf") }] }),
    ("test.House", {
      attrs := [{ name := "room", type := .annot "test.Room" },
        { name := "book", type := .annot "test.Book" }] })]

/-- A house with an empty room and a book. -/
def house (room : Value) : Store where
  type := some "test.House"
  values := [("room", room), ("book", .annot "test.Book" [])]

/-- Two views of a house, its room a store in the one and an annotation in the other, compared one way
round and then the other. -/
def bothWays : Action SynthMemo (Bool × Bool) := do
  let stored ← houses.viewStore (house (.store (some "test.Room") none [("shelves", .array [])]))
    "test.House" none
  let live ← houses.viewStore (house (.annot "test.Room" [("shelves", .array [])])) "test.House" none
  return (← stored.same live houses, ← live.same stored houses)

/-- At first the book of the stored house cannot be read. Reading the live room then finds the book's
own aliases, and so the two are equal the other way round. -/
theorem equality_turns : (bothWays {}).1 = .ok (false, true) := by
  with_unfolding_all rfl

end
end Annotations
