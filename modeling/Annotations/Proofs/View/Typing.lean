import Annotations.Proofs.View.Nesting
import Annotations.View.Resolved
import Annotations.Vocabulary.Web

/-!
Views are well typed. Whatever a source holds, an attribute of a view of it is read as a value of its
declared type, through and through, or not at all. What is kept of earlier reads is as well typed.
-/
namespace Annotations

open Annotations.Action SynthMemo Registry

variable {reg : Registry}

namespace Value

variable {value : Value} {declared : AttrType}

/-- A value of a declared type, through and through: an array item by item, and an annotation of the
type named, with a value of the declared type for each of its attributes and nothing else. -/
inductive WellTyped (reg : Registry) : AttrType → Value → Prop
  | plain {declared : AttrType} {value : Value} : (∀ element, declared ≠ .array element) →
    (∀ type, declared ≠ .annot type) → value.conformsTo declared = true → WellTyped reg declared value
  | array {element : AttrType} {items : List Value} : (∀ item ∈ items, WellTyped reg element item) →
    WellTyped reg (.array element) (.array items)
  | annot {type : String} {decl : AnnotType} {values : Entries Value} : reg.type type = .ok decl →
    (∀ name, (values.get? name).isSome = (decl.attr? name).isSome) →
    (∀ name attr value, decl.attr? name = some attr → values.get? name = some value →
      WellTyped reg attr.type value) → WellTyped reg (.annot type) (.annot type values)

/-- What conforms to a declared type and is whole is of that type through and through. -/
theorem Whole.wellTyped (h : value.Whole reg) (conforms : value.conformsTo declared = true) :
    value.WellTyped reg declared := by
  induction h generalizing declared with
  | @intro value flat each inside ih =>
    suffices all : ∀ inner, value.Holds inner → inner.conformsTo declared = true →
        inner.WellTyped reg declared from all value .here conforms
    clear conforms
    induction declared with
    | array element deeper =>
      intro inner held conforms
      cases inner with
      | array items =>
        apply WellTyped.array
        intro item mem
        apply deeper item (held.trans (.item mem .here))
        exact itemsConformTo_iff.1 conforms item mem
      | _ => cases conforms
    | annot name =>
      intro inner held conforms
      cases inner with
      | annot type values =>
        have named : type = name := by simpa [conformsTo] using conforms
        subst named
        obtain ⟨decl, groups, complete⟩ := each type values held
        apply WellTyped.annot complete.known
        · intro name
          cases found : decl.attr? name with
          | none =>
            rw [show Entries.get? values name = none from complete.closed name found]
            rfl
          | some attr =>
            obtain ⟨value, own, _⟩ := complete.full name attr found
            rw [show Entries.get? values name = some value from own]
            rfl
        · intro name attr value found own
          obtain ⟨value', own', fits⟩ := complete.full name attr found
          cases own.symm.trans own'
          obtain ⟨mem, rfl⟩ := mem_of_attr? found
          exact ih _ _ _ _ _ held complete.known mem own fits
      | store given shown values => exact absurd held (flat _ _ _)
      | _ => cases conforms
    | _ => exact fun inner _ conforms => .plain (by simp) (by simp) conforms

end Value

namespace View

variable {view : View} {source : Source} {type : String} {element : Option Element}

/-- A value is of the type declared for an attribute of a view. -/
def Types (view : View) (reg : Registry) (name : String) (value : Value) : Prop :=
  ∃ attr, view.type.attr? name = some attr ∧ value.conformsTo attr.type = true ∧ value.Whole reg

/-- What an attribute is read as is of its type. -/
theorem attr_types {name : String} {value : Value}
    (h : Yields (Sound reg) (view.attr reg name) (.ok value)) : view.Types reg name value := by
  have keeps (value : Value) := reg.asked_keeps.materialize view.element (reg.nestingBound value)
  obtain ⟨attr, found⟩ := attrWith_declared h
  exact ⟨attr, found, attrWith_throughout keeps (fun _ _ _ _ => materialize_whole) found h⟩

end View

/-- A view in use keeps right answers on aliases, and values of the declared types. -/
structure Reading.Typed (reg : Registry) (view : View) (reading : Reading) : Prop where
  sound : Sound reg reading.memo
  resolved : ∀ name value, reading.resolved.get? name = some value → view.Types reg name value

namespace View

variable {view : View} {source : Source} {type : String} {element : Option Element}

/-- One read of a view in use: the value is of the declared type, and so is all that is kept. -/
theorem read_typed {reading : Reading} (typed : reading.Typed reg view) (name : String) :
    (∀ value, (view.read reg name reading).1 = .ok value → view.Types reg name value) ∧
      (∀ e, (view.read reg name reading).1 = .error e →
        Yields (Sound reg) (view.attr reg name) (.error e)) ∧
      (view.read reg name reading).2.Typed reg view := by
  have after := reg.asked_keeps.attr view name reading.memo typed.sound
  unfold read
  cases kept : reading.resolved.get? name with
  | some value =>
    refine ⟨?_, ?_, typed⟩
    · intro value' same
      cases same
      exact typed.resolved name value kept
    · intro e failed
      cases failed
  | none =>
    generalize first : view.attr reg name reading.memo = result at after
    obtain ⟨outcome, memo⟩ := result
    have yields : Yields (Sound reg) (view.attr reg name) outcome :=
      ⟨reading.memo, typed.sound, by rw [first]⟩
    cases outcome with
    | error e =>
      refine ⟨?_, ?_, after, typed.resolved⟩
      · intro value failed
        cases failed
      · intro e' same
        cases same
        exact yields
    | ok value =>
      have types := attr_types yields
      refine ⟨?_, ?_, after, ?_⟩
      · intro value' same
        cases same
        exact types
      · intro e failed
        cases failed
      · intro other value' held
        simp only [Entries.get?_put] at held
        split at held
        · rename_i here
          subst here
          cases held
          exact types
        · exact typed.resolved other value' held

/-- Whatever was read before, all that is kept is of the declared types. -/
theorem readAll_typed (names : List String) {reading : Reading} (typed : reading.Typed reg view) :
    (view.readAll reg names reading).Typed reg view := by
  induction names generalizing reading with
  | nil => exact typed
  | cons name rest ih => exact ih (read_typed typed name).2.2

/-- Whatever the values of the source, and whatever was read before, an attribute is read as a value of
its declared type, in which every annotation is of the declared type, holds exactly the attributes of
that and values of their types, and in which no store stands; or it is refused. -/
theorem read_wellTyped (finite : reg.DefaultsFinite)
    (made : Yields (Sound reg) (reg.viewSource element source type) (.ok view)) {memo : SynthMemo}
    (sound : Sound reg memo) (names : List String) (name : String) :
    (∃ decl attr value, reg.type view.name = .ok decl ∧ decl.attr? name = some attr ∧
        (view.read reg name (view.readAll reg names ⟨memo, []⟩)).1 = .ok value ∧
        value.conformsTo attr.type = true ∧
        (∀ given shown values, ¬ value.Holds (.store given shown values)) ∧
        value.WellTyped reg attr.type) ∨
      ∃ e, (view.read reg name (view.readAll reg names ⟨memo, []⟩)).1 = .error e ∧
        e ≠ .endlessDefault := by
  have of := viewSource_of made
  have start : Reading.Typed reg view ⟨memo, []⟩ := ⟨sound, by simp⟩
  obtain ⟨types, refused, _⟩ := read_typed (readAll_typed names start) name
  cases outcome : (view.read reg name (view.readAll reg names ⟨memo, []⟩)).1 with
  | ok value =>
    obtain ⟨attr, found, conforms, whole⟩ := types value outcome
    exact .inl ⟨view.type, attr, value, of.named ▸ of.type, found, rfl, conforms,
      fun _ _ _ => whole.flat, whole.wellTyped conforms⟩
  | error e => exact .inr ⟨e, rfl, attr_ends finite (refused e outcome)⟩

end View

namespace Registry

theorem web_defaultsFinite : web.DefaultsFinite :=
  defaultsFinite_of_rank (fun name => if name = "web.Header" then 0 else 1)
    (by with_unfolding_all decide)

/-- A path and a single header, itself kept as a store without a type. -/
def keptMapping : Store where
  values := [("path", .text "/users"), ("headers", .store none none [("name", .text "Accept")])]

/-- The single header is read as an array of one annotation, with the default that the store leaves
out. -/
theorem keptMapping_wellTyped :
    web.DefaultsFinite ∧ ∃ view, (web.viewStore keptMapping "web.Mapping" none {}).1 = .ok view ∧
      ∃ value, (view.read web "headers" (view.readAll web ["value"] ⟨{}, []⟩)).1 = .ok value ∧
        value.same (.array [.annot "web.Header" [("name", .text "Accept"), ("value", .text "")]]) = true ∧
        value.WellTyped web (.array (.annot "web.Header")) := by
  refine ⟨web_defaultsFinite, ?_⟩
  have reads : ((web.viewStore keptMapping "web.Mapping" none {}).1.toOption.bind fun view =>
      ((view.read web "headers" (view.readAll web ["value"] ⟨{}, []⟩)).1.toOption.map fun value =>
        (value.same (.array [.annot "web.Header" [("name", .text "Accept"), ("value", .text "")]]),
          (web.type view.name).toOption.bind fun decl => (decl.attr? "headers").map (·.type)))) =
      some (true, some (.array (.annot "web.Header"))) := by with_unfolding_all decide
  obtain ⟨view, seen, reads⟩ := Option.bind_eq_some_iff.1 reads
  obtain ⟨value, read, means⟩ := Option.map_eq_some_iff.1 reads
  obtain ⟨same, types⟩ := Prod.mk.inj means
  have made : Yields (Sound web) (web.viewSource none (.store keptMapping) "web.Mapping") (.ok view) :=
    ⟨{}, sound_empty, Outcome.ok_of_toOption seen⟩
  refine ⟨view, Outcome.ok_of_toOption seen, value, Outcome.ok_of_toOption read, same, ?_⟩
  rcases View.read_wellTyped web_defaultsFinite made sound_empty ["value"] "headers" with
    ⟨decl, attr, value', known, found, read', _, _, typed⟩ | ⟨e, failed, _⟩
  · cases (Outcome.ok_of_toOption read).symm.trans read'
    rw [known] at types
    have declared : (decl.attr? "headers").map (·.type) = some (.array (.annot "web.Header")) := types
    rw [found] at declared
    rw [← Option.some.inj declared]
    exact typed
  · cases (Outcome.ok_of_toOption read).symm.trans failed

end Registry
end Annotations
