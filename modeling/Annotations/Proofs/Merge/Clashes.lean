import Annotations.Proofs.Alias.Symmetry
import Annotations.Proofs.Alias.Unknown
import Annotations.Proofs.Merge.Aliases
import Annotations.Proofs.Merge.Held

/-!
Where conflicts and failures of introspection come from. Reading a view fails with a conflict only over
an annotation, or a store that stands for one, that gives two attributes of one alias list different
values, both different from the declared defaults. It fails for introspection only over one whose type,
or a type nested in that, is not registered.
-/
namespace Annotations

open Annotations.Action SynthMemo Registry
open Value (sameOption sameOption_congr sameOption_refl sameOption_symm same_refl)

variable {reg : Registry} {e : Error}

/-- Errors that are traced to what is read: conflicts and failures of introspection. -/
def Error.isTraced (e : Error) : Bool := e.isConflict || e.isIntrospection

theorem Error.traced_of_conflict (conflict : e.isConflict = true) : e.isTraced = true := by
  rw [isTraced, conflict, Bool.true_or]

theorem Error.traced_of_introspection (introspection : e.isIntrospection = true) :
    e.isTraced = true := by
  rw [isTraced, introspection, Bool.or_true]

theorem Error.not_lookup_of_traced (traced : e.isTraced = true) : e.category ≠ .lookup := by
  intro lookup
  rcases Bool.or_eq_true_iff.1 traced with conflict | introspection
  · cases lookup.symm.trans (category_of_conflict conflict)
  · cases lookup.symm.trans (eq_of_beq introspection)

/-- The value that a source gives an attribute. -/
def Source.value? : Source → String → Option Value
  | .annot given, name => given.value? name
  | .store given, name => given.get? name

/-- A text, or annotations inside each other that give one value each at most. -/
def Value.lone : Value → Bool
  | .text _ => true
  | .annot _ [] => true
  | .annot _ [(_, value)] => lone value
  | _ => false

namespace Registry

/-- An annotation of a type, or a store that stands for one, is in a value: it is the value, in an
item of it, in what it gives or in a default that its type declares. -/
inductive Inside (reg : Registry) (type : String) (source : Source) : Value → Prop
  | here {value : Value} : value.Stands type source → Inside reg type source value
  | item {items : List Value} {item : Value} : item ∈ items → Inside reg type source item →
    Inside reg type source (.array items)
  | given {value inner : Value} {owner name : String} {outer : Source} : value.Stands owner outer →
    outer.value? name = some inner → Inside reg type source inner → Inside reg type source value
  | default {value inner : Value} {owner : String} {outer : Source} {decl : AnnotType}
      {attr : Attr} :
    value.Stands owner outer → reg.type owner = .ok decl → attr ∈ decl.attrs →
    attr.default? = some inner → Inside reg type source inner → Inside reg type source value

/-- A source gives two attributes of one alias list different values, both different from the
declared defaults. -/
def Contradicts (reg : Registry) (type : String) (source : Source) : Prop :=
  ∃ decl groups name, reg.type type = .ok decl ∧ reg.aliasMap type = .ok groups ∧
    ∃ first ∈ decl.attrs, ∃ second ∈ decl.attrs, ∃ left right,
      first.name ∈ aliasGroup groups name ∧ second.name ∈ aliasGroup groups name ∧
      source.value? first.name = some left ∧ source.value? second.name = some right ∧
      sameOption first.default? (some left) = false ∧
      sameOption second.default? (some right) = false ∧ left.same right = false

/-- Something in a value contradicts itself. -/
def Clashes (reg : Registry) (value : Value) : Prop :=
  ∃ type source, reg.Inside type source value ∧ reg.Contradicts type source

/-- A value that a source gives or that its type declares as a default. -/
def Offers (reg : Registry) (type : String) (source : Source) (value : Value) : Prop :=
  (∃ name, source.value? name = some value) ∨
    ∃ decl, reg.type type = .ok decl ∧ ∃ attr ∈ decl.attrs, attr.default? = some value

theorem Inside.of_holds {type : String} {source : Source} {value inner : Value}
    (held : value.Holds inner) (h : reg.Inside type source inner) : reg.Inside type source value := by
  induction held with
  | here => exact h
  | item mem _ ih => exact .item mem (ih h)

theorem Inside.of_offers {type owner : String} {source outer : Source} {value inner : Value}
    (stands : value.Stands owner outer) (offers : reg.Offers owner outer inner)
    (h : reg.Inside type source inner) : reg.Inside type source value := by
  rcases offers with ⟨name, given⟩ | ⟨decl, known, attr, mem, default'⟩
  · exact .given stands given h
  · exact .default stands known mem default' h

/-- A source cannot be resolved by itself: its type or one nested in that is not registered, or it
gives no value where its type requires one. -/
inductive Unresolved (reg : Registry) (e : Error) (type : String) (source : Source) : Prop
  | unknown {name : String} : Relation.ReflTransGen reg.Nests type name → reg.type name = .error e →
    Unresolved reg e type source
  | missing {decl : AnnotType} {attr : Attr} : reg.type type = .ok decl → attr ∈ decl.attrs →
    source.value? attr.name = none → attr.default? = none →
    e = .missingAttributeValue type attr.name → Unresolved reg e type source

/-- Something in a value explains an error: it contradicts itself where the error is a conflict, or it
cannot be resolved. -/
def Explains (reg : Registry) (value : Value) (e : Error) : Prop :=
  ∃ type source, reg.Inside type source value ∧
    ((e.isConflict = true ∧ reg.Contradicts type source) ∨ reg.Unresolved e type source)

theorem Unresolved.fault {type : String} {source : Source} (h : reg.Unresolved e type source) :
    e.IsFault := by
  cases h with
  | unknown _ unknown => exact (type_fault unknown).fault
  | missing _ _ _ _ same =>
    subst same
    rfl

theorem Explains.clashes {value : Value} (h : reg.Explains value e)
    (conflict : e.isConflict = true) : reg.Clashes value := by
  obtain ⟨type, source, inside, ⟨_, contradicts⟩ | unresolved⟩ := h
  · exact ⟨type, source, inside, contradicts⟩
  · exact (unresolved.fault.false conflict).elim

theorem Explains.unresolved {value : Value} (h : reg.Explains value e)
    (introspection : e.isIntrospection = true) :
    ∃ type source, reg.Inside type source value ∧ reg.Unresolved e type source := by
  obtain ⟨type, source, inside, ⟨conflict, _⟩ | unresolved⟩ := h
  · cases (eq_of_beq introspection).symm.trans (Error.category_of_conflict conflict)
  · exact ⟨type, source, inside, unresolved⟩

theorem Explains.of_holds {value inner : Value} (held : value.Holds inner)
    (h : reg.Explains inner e) : reg.Explains value e := by
  obtain ⟨type, source, inside, cause⟩ := h
  exact ⟨type, source, inside.of_holds held, cause⟩

theorem Explains.of_offers {type : String} {source : Source} {value inner : Value}
    (stands : value.Stands type source) (offers : reg.Offers type source inner)
    (h : reg.Explains inner e) : reg.Explains value e := by
  obtain ⟨type', source', inside, cause⟩ := h
  exact ⟨type', source', inside.of_offers stands offers, cause⟩

theorem Offers.of_or {annot : Annot} {decl : AnnotType} {attr : Attr} {value : Value}
    (known : reg.type annot.type = .ok decl) (mem : attr ∈ decl.attrs)
    (h : (annot.value? attr.name).or attr.default? = some value) :
    reg.Offers annot.type (.annot annot) value := by
  cases given : annot.value? attr.name with
  | some value' =>
    rw [given] at h
    cases h
    exact .inl ⟨attr.name, given⟩
  | none =>
    rw [given, Option.none_or] at h
    exact .inr ⟨decl, known, attr, mem, h⟩

theorem Clashes.of_offers {type : String} {source : Source} {value inner : Value}
    (stands : value.Stands type source) (offers : reg.Offers type source inner)
    (h : reg.Clashes inner) : reg.Clashes value := by
  obtain ⟨type', source', inside, contradicts⟩ := h
  exact ⟨type', source', inside.of_offers stands offers, contradicts⟩

/-- What clashes in an annotation is the annotation itself or something it offers. -/
theorem Clashes.of_annot {type : String} {values : Entries Value}
    (h : reg.Clashes (.annot type values)) : reg.Contradicts type (.annot ⟨type, values⟩) ∨
      ∃ inner, reg.Offers type (.annot ⟨type, values⟩) inner ∧ reg.Clashes inner := by
  obtain ⟨type', source, inside, contradicts⟩ := h
  cases inside with
  | here stands =>
    cases stands
    exact .inl contradicts
  | given stands own inside =>
    cases stands
    exact .inr ⟨_, .inl ⟨_, own⟩, type', source, inside, contradicts⟩
  | default stands known mem own inside =>
    cases stands
    exact .inr ⟨_, .inr ⟨_, known, _, mem, own⟩, type', source, inside, contradicts⟩

theorem not_inside_text {type content : String} {source : Source} :
    ¬ reg.Inside type source (.text content) := by
  intro inside
  cases inside with
  | here stands => cases stands
  | given stands _ _ => cases stands
  | default stands _ _ _ _ => cases stands

theorem not_clashes_text {content : String} : ¬ reg.Clashes (.text content) :=
  fun ⟨_, _, inside, _⟩ => not_inside_text inside

/-- An annotation contradicts itself by two values at least. -/
theorem Contradicts.two_values {type owner : String} {values : Entries Value}
    (h : reg.Contradicts type (.annot ⟨owner, values⟩)) : 2 ≤ values.length := by
  obtain ⟨_, _, _, _, _, first, _, second, _, left, right, _, _, own, theirs, _, _, differ⟩ := h
  have one := Entries.mem_of_get? own
  have other := Entries.mem_of_get? theirs
  match values with
  | [] => cases one
  | [entry] =>
    have same := (List.mem_singleton.1 one).trans (List.mem_singleton.1 other).symm
    rw [(Prod.mk.inj same).2, same_refl] at differ
    cases differ
  | _ :: _ :: rest => exact Nat.le_add_left 2 rest.length

/-- A text, or annotations inside each other that give one value each at most, do not clash as long
as all defaults are texts. -/
theorem not_clashes_of_lone (texts : ∀ entry ∈ reg.types, ∀ attr ∈ entry.2.attrs,
      attr.default?.all (fun value => value.text?.isSome) = true) {value : Value}
    (lone : value.lone = true) : ¬ reg.Clashes value := by
  have declared {decl : AnnotType} {type : String} (known : reg.type type = .ok decl) {attr : Attr}
      (mem : attr ∈ decl.attrs) {inner : Value} (own : attr.default? = some inner) :
      ¬ reg.Clashes inner := by
    have text := texts _ (mem_of_type known) attr mem
    rw [own] at text
    cases inner with
    | text content => exact not_clashes_text
    | _ => cases text
  fun_induction Value.lone value with
  | case1 content => exact not_clashes_text
  | case2 type =>
    intro h
    rcases h.of_annot with
      contradicts | ⟨inner, ⟨name, own⟩ | ⟨decl, known, attr, mem, own⟩, clashes⟩
    · exact absurd contradicts.two_values (by simp)
    · cases own
    · exact declared known mem own clashes
  | case3 type name value ih =>
    intro h
    rcases h.of_annot with
      contradicts | ⟨inner, ⟨other, own⟩ | ⟨decl, known, attr, mem, own⟩, clashes⟩
    · exact absurd contradicts.two_values (by simp)
    · have same := (Prod.mk.inj (List.mem_singleton.1 (Entries.mem_of_get? own))).2
      exact ih lone (same ▸ clashes)
    · exact declared known mem own clashes
  | case4 => cases lone

end Registry

namespace View

variable {view : View} {source : Source} {type : String}

/-- Going through aliases fails over two members that are set to different values. -/
theorem settle_error {default? : Option Value} {partners : List String} {value : Option Value}
    {declaredBy : String} (own : value = view.raw declaredBy)
    (h : view.settle default? partners value declaredBy = .error e) :
    ∃ p ∈ declaredBy :: partners, ∃ q ∈ partners, isSet (view.raw p) default? = true ∧
      isSet (view.raw q) default? = true ∧ sameOption (view.raw p) (view.raw q) = false := by
  induction partners generalizing value declaredBy with
  | nil => cases h
  | cons partner rest ih =>
    unfold settle at h
    dsimp only at h
    split at h
    · rename_i differ
      rw [own] at differ
      simp only [Bool.and_eq_true, Bool.not_eq_true'] at differ
      exact ⟨declaredBy, .head _, partner, .head rest, differ.1.1, differ.1.2, differ.2⟩
    · split at h
      · obtain ⟨p, mem, q, mem', found⟩ := ih rfl h
        exact ⟨p, .tail _ mem, q, .tail partner mem', found⟩
      · obtain ⟨p, mem, q, mem', found⟩ := ih own h
        have inside := List.cons_subset_cons declaredBy (List.subset_cons_self partner rest)
        exact ⟨p, inside mem, q, .tail partner mem', found⟩

/-- Going through aliases ends at what some member has by itself. -/
theorem settle_from {default? : Option Value} {partners : List String} {value result : Option Value}
    {declaredBy : String} (own : value = view.raw declaredBy)
    (h : view.settle default? partners value declaredBy = .ok result) :
    ∃ name ∈ declaredBy :: partners, result = view.raw name := by
  induction partners generalizing value declaredBy with
  | nil =>
    cases h
    exact ⟨declaredBy, .head _, own⟩
  | cons partner rest ih =>
    unfold settle at h
    dsimp only at h
    split at h
    · cases h
    · split at h
      · obtain ⟨name, mem, found⟩ := ih rfl h
        exact ⟨name, .tail _ mem, found⟩
      · obtain ⟨name, mem, found⟩ := ih own h
        have inside := List.cons_subset_cons declaredBy (List.subset_cons_self partner rest)
        exact ⟨name, inside mem, found⟩

theorem raw_offers (of : view.Of reg source type) {name : String} {value : Value}
    (h : view.raw name = some value) : reg.Offers type source value := by
  unfold raw at h
  rw [of.source] at h
  match source with
  | .store store => exact .inl ⟨name, h⟩
  | .annot annot =>
    simp only at h
    cases given : annot.value? name with
    | some value' =>
      rw [given] at h
      cases h
      exact .inl ⟨name, given⟩
    | none =>
      rw [given] at h
      obtain ⟨attr, found, default'⟩ := Option.bind_eq_some_iff.1 h
      exact .inr ⟨view.type, of.type, attr, (mem_of_attr? found).1, default'⟩

theorem pick_offers (of : view.Of reg source type) {attr : Attr} (mem : attr ∈ view.type.attrs)
    {value : Value} (h : view.pick attr = .ok value) : reg.Offers type source value := by
  obtain ⟨settled, went, found⟩ := pick_ok h
  obtain ⟨name, _, rfl⟩ := settle_from rfl went
  cases own : view.raw name with
  | none =>
    rw [own, Option.none_or] at found
    exact .inr ⟨view.type, of.type, attr, mem, found⟩
  | some value' =>
    rw [own] at found
    cases found
    exact raw_offers of own

/-- What an attribute of an annotation has by itself is what is given, or else the default. -/
theorem Of.raw_annot {annot : Annot} (of : view.Of reg (.annot annot) annot.type) {attr : Attr}
    {name : String} (found : view.type.attr? name = some attr) :
    view.raw name = (annot.value? name).or attr.default? := by
  simp only [raw, of.source, AnnotType.default?, found, Option.bind_some]

/-- The members of an alias group are declared with equal defaults. -/
theorem Of.member (of : view.Of reg source type) {attr : Attr}
    (found : view.type.attr? attr.name = some attr) {name : String}
    (mem : name ∈ aliasGroup view.aliases attr.name) :
    ∃ member, view.type.attr? name = some member ∧
      sameOption attr.default? member.default? = true := by
  obtain ⟨decl, map⟩ := aliasMapOf_aliasMap of.aliases
  cases of.type.symm.trans map.known
  rcases List.mem_cons.1 mem with rfl | mem
  · exact ⟨attr, found, sameOption_refl _⟩
  · obtain ⟨_, _, member, found', declared, left, right, own, theirs, same⟩ := map.partner mem
    cases found.symm.trans found'
    refine ⟨member, declared, ?_⟩
    rw [own, theirs]
    exact same

/-- A member of an alias group that is set differently from the group's default is given by the
source. -/
theorem given_of_isSet (of : view.Of reg source type) {attr : Attr}
    (found : view.type.attr? attr.name = some attr) {name : String}
    (mem : name ∈ aliasGroup view.aliases attr.name)
    (set : isSet (view.raw name) attr.default? = true) :
    ∃ member ∈ view.type.attrs, ∃ value, member.name = name ∧ source.value? name = some value ∧
      view.raw name = some value ∧ sameOption member.default? (some value) = false := by
  obtain ⟨member, declared, equal⟩ := of.member found mem
  obtain ⟨memberMem, rfl⟩ := mem_of_attr? declared
  obtain ⟨there, differ⟩ := Bool.and_eq_true_iff.1 set
  obtain ⟨value, own⟩ := Option.isSome_iff_exists.1 there
  rw [own] at differ
  have apart : sameOption member.default? (some value) = false := by
    rw [← sameOption_congr equal (sameOption_refl (some value))]
    by_contra same
    rw [sameOption_symm (by simpa using same)] at differ
    cases differ
  refine ⟨member, memberMem, value, rfl, ?_, own, apart⟩
  unfold raw at own
  rw [of.source] at own
  match source with
  | .store store => exact own
  | .annot annot =>
    simp only at own
    cases given : annot.value? member.name with
    | some value' =>
      rw [given] at own
      cases own
      exact given
    | none =>
      rw [given, Option.none_or, AnnotType.default?, declared] at own
      rw [Option.bind_some] at own
      rw [own, sameOption_refl] at apart
      cases apart

/-- No value is picked for a conflict only where the source gives two members of the group different
values, both different from their defaults. -/
theorem pick_conflict (of : view.Of reg source type) {attr : Attr}
    (found : view.type.attr? attr.name = some attr) (conflict : e.isConflict = true)
    (h : view.pick attr = .error e) :
    ∃ first ∈ view.type.attrs, ∃ second ∈ view.type.attrs, ∃ left right,
      first.name ∈ aliasGroup view.aliases attr.name ∧
      second.name ∈ aliasGroup view.aliases attr.name ∧
      source.value? first.name = some left ∧ source.value? second.name = some right ∧
      sameOption first.default? (some left) = false ∧
      sameOption second.default? (some right) = false ∧ left.same right = false := by
  rcases Outcome.bind_error h with failed | ⟨settled, _, h⟩
  · obtain ⟨p, pMem, q, qMem, pSet, qSet, differ⟩ := settle_error rfl failed
    obtain ⟨first, firstMem, left, rfl, given, raw, apart⟩ := given_of_isSet of found pMem pSet
    obtain ⟨second, secondMem, right, rfl, given', raw', apart'⟩ :=
      given_of_isSet of found (.tail attr.name qMem) qSet
    rw [raw, raw'] at differ
    exact ⟨first, firstMem, second, secondMem, left, right, pMem, .tail _ qMem, given, given', apart,
      apart', differ⟩
  · cases own : settled.or attr.default? with
    | some value =>
      rw [own] at h
      cases h
    | none =>
      rw [own] at h
      cases h
      cases conflict

theorem pick_contradicts (of : view.Of reg source type) {attr : Attr}
    (found : view.type.attr? attr.name = some attr) (conflict : e.isConflict = true)
    (h : view.pick attr = .error e) : reg.Contradicts type source :=
  ⟨view.type, view.aliases, attr.name, of.type, of.aliases, pick_conflict of found conflict h⟩

/-- Going through aliases fails with a conflict only. -/
theorem settle_conflict {default? : Option Value} {partners : List String} {value : Option Value}
    {declaredBy : String} (h : view.settle default? partners value declaredBy = .error e) :
    e.isConflict = true := by
  induction partners generalizing value declaredBy with
  | nil => cases h
  | cons partner rest ih =>
    unfold settle at h
    dsimp only at h
    split at h
    · cases h
      rfl
    · split at h
      · exact ih h
      · exact ih h

variable (traced : e.isTraced = true) {value : Value}

include traced

/-- No value is picked, for an error that something read explains, only where the source contradicts
itself. -/
theorem pick_traced (of : view.Of reg source type) {attr : Attr}
    (found : view.type.attr? attr.name = some attr) (h : view.pick attr = .error e) :
    e.isConflict = true ∧ reg.Contradicts type source := by
  have conflict : e.isConflict = true := by
    rcases Outcome.bind_error h with failed | ⟨settled, _, h⟩
    · exact settle_conflict failed
    · split at h
      · cases h
      · cases h
        cases traced
  exact ⟨conflict, pick_contradicts of found conflict h⟩

/-- Where an attribute cannot be read, the source or something nested in it explains that. -/
theorem attrWith_explains (of : view.Of reg source type) (stands : value.Stands type source)
    {nested : Value → Source → String → Action SynthMemo Annot}
    (keeps : ∀ value source type, Keeps (Sound reg) (nested value source type))
    (deeper : ∀ picked source type, Yields (Sound reg) (nested picked source type) (.error e) →
      ∀ value : Value, value.Stands type source → reg.Explains value e) {name : String}
    (h : Yields (Sound reg) (view.attrWith nested name) (.error e)) : reg.Explains value e := by
  cases found : view.type.attr? name with
  | none =>
    rw [attrWith_undeclared found] at h
    cases h.throw
    cases traced
  | some attr =>
    obtain ⟨mem, rfl⟩ := mem_of_attr? found
    rcases attrWith_error found h with failed | ⟨picked, chosen, h⟩
    · exact ⟨type, source, .here stands, .inl (pick_traced traced of found failed)⟩
    · obtain ⟨inner, source', type', held, stands', _, failed⟩ :=
        fit_error (keeps picked) (Error.not_lookup_of_traced traced) h
      exact .of_offers stands (pick_offers of mem chosen)
        (.of_holds (holds_of_wrap stands' held) (deeper picked source' type' failed inner stands'))

theorem valuesWith_explains (of : view.Of reg source type) (stands : value.Stands type source)
    {nested : Value → Source → String → Action SynthMemo Annot}
    (keeps : ∀ value source type, Keeps (Sound reg) (nested value source type))
    (deeper : ∀ picked source type, Yields (Sound reg) (nested picked source type) (.error e) →
      ∀ value : Value, value.Stands type source → reg.Explains value e)
    (h : Yields (Sound reg) (view.valuesWith nested) (.error e)) : reg.Explains value e := by
  obtain ⟨attr, _, failed⟩ := valuesWith_error keeps h
  exact attrWith_explains traced of stands keeps deeper failed

end View

namespace Registry

variable (traced : e.isTraced = true)

include traced

/-- There is no view of a source only where a type is not registered. -/
theorem viewSource_unresolved {element : Option Element} {source : Source} {type : String}
    (h : Yields (Sound reg) (reg.viewSource element source type) (.error e)) :
    reg.Unresolved e (source.readAs type) source := by
  have introspection : e.isIntrospection = true :=
    (Bool.or_eq_true_iff.1 traced).resolve_left fun conflict =>
      ((viewSource_faults _ _ _).yields h).false conflict
  suffices within : reg.FaultyWithin (source.readAs type) e ∨
      reg.aliasMap (source.readAs type) = .error e by
    rcases within with faulty | unmapped
    · obtain ⟨inner, way, unknown⟩ := faulty.unknown introspection
      exact .unknown way unknown
    · exact .unknown .refl (aliasMap_unknown introspection unmapped)
  cases source with
  | annot annot =>
    rcases h.bind_error (reg.asked_keeps.lift _) with failed | ⟨_, _, h⟩
    · exact .inl ⟨annot.type, .refl, .inl failed.lift.symm⟩
    · rcases h.bind_error (reg.asked_keeps.synthesizable _) with failed | ⟨answer, _, h⟩
      · exact .inl (isSynthesizable_fault failed)
      · cases answer with
        | false => cases h.pure
        | true =>
          rcases h.bind_error (reg.asked_keeps.aliasMap _) with failed | ⟨_, _, h⟩
          · exact .inr (failed.computes (reg.recallAliasMap_computes _)).symm
          · cases h.pure
  | store store =>
    rcases h.bind_error (reg.asked_keeps.lift _) with failed | ⟨_, _, h⟩
    · exact .inl ⟨type, .refl, .inl failed.lift.symm⟩
    · rcases h.bind_error (reg.asked_keeps.aliasMap _) with failed | ⟨_, _, h⟩
      · exact .inr (failed.computes (reg.recallAliasMap_computes _)).symm
      · cases h.pure

theorem materialize_explains {element : Option Element} {bound : Nat} {source : Source}
    {type : String}
    (h : Yields (Sound reg) (reg.materialize element bound source type) (.error e)) {value : Value}
    (stands : value.Stands type source) : reg.Explains value e := by
  induction bound generalizing source type value with
  | zero =>
    cases h.throw
    cases traced
  | succ bound ih =>
    rcases materialize_error h with rfl | refused | ⟨_, view, size, of, failed⟩
    · cases traced
    · have unresolved := viewSource_unresolved traced refused
      rw [stands.readAs] at unresolved
      exact ⟨type, source, .here stands, .inr unresolved⟩
    · cases size
      rw [stands.readAs] at of
      exact View.valuesWith_explains traced of stands
        (fun _ => reg.asked_keeps.materialize element bound)
        (fun _ _ _ failed _ stands => ih failed stands) failed

/-- Where an attribute of a view cannot be read, what the view reads from explains that. -/
theorem attr_explains {view : View} {source : Source} {type : String} (of : view.Of reg source type)
    {value : Value} (stands : value.Stands type source) {name : String}
    (h : Yields (Sound reg) (view.attr reg name) (.error e)) : reg.Explains value e :=
  View.attrWith_explains traced of stands
    (fun value => reg.asked_keeps.materialize view.element (reg.nestingBound value))
    (fun _ _ _ failed _ stands => materialize_explains traced failed stands) h

end Registry
end Annotations
