import Annotations.Action
import Annotations.Proofs.Alias.Chain

/-!
Alias lists: which attributes of a type stand on the alias list of another. A pair lists its other
half, an override every attribute whose chain shares a target with its own. Attributes on one list
declare equal defaults; where pairs are mutual, two attributes that list each other list the same
others, and of any two on one list one lists the other.
-/
namespace Annotations
namespace Registry

variable {reg : Registry} {type : String} {decl : AnnotType}

/-- Attribute names are distinct within each type. -/
def DistinctAttrs (reg : Registry) : Prop :=
  ∀ type decl, reg.type type = .ok decl → (decl.attrs.map (·.name)).Nodup

/-- An attribute declared as an alias inside its own type names one that is declared as an alias for
it, inside the same type as well. -/
def PairsMutual (reg : Registry) : Prop :=
  ∀ type decl attr aim, reg.type type = .ok decl → attr ∈ decl.attrs → attr.aliasFor = some aim →
    (declaredLink type attr aim).isPair = true → ∃ partner ∈ decl.attrs, ∃ back,
      partner.aliasFor = some back ∧ partner.name = (declaredLink type attr aim).targetAttr ∧
        (declaredLink type partner back).target = (type, attr.name)

/-- Pairs are mutual among the attributes that names are looked up to. -/
def PairsMatched (reg : Registry) : Prop :=
  ∀ type decl name attr aim, reg.type type = .ok decl → decl.attr? name = some attr →
    attr.aliasFor = some aim → (declaredLink type attr aim).isPair = true → ∃ partner back,
      decl.attr? (declaredLink type attr aim).targetAttr = some partner ∧
        partner.aliasFor = some back ∧ (declaredLink type partner back).target = (type, attr.name)

theorem distinctAttrs_of_entries (h : ∀ entry ∈ reg.types, (entry.2.attrs.map (·.name)).Nodup) :
    reg.DistinctAttrs :=
  fun _ _ known => h _ (mem_of_type known)

theorem pairsMutual_of_entries
    (h : ∀ entry ∈ reg.types, ∀ attr ∈ entry.2.attrs, ∀ aim ∈ attr.aliasFor,
      (declaredLink entry.1 attr aim).isPair = true → ∃ partner ∈ entry.2.attrs,
        partner.name = (declaredLink entry.1 attr aim).targetAttr ∧
          partner.aliasFor.any fun back =>
            (declaredLink entry.1 partner back).target = (entry.1, attr.name)) :
    reg.PairsMutual := by
  intro type decl attr aim known mem aliased pair
  obtain ⟨partner, partnerMem, named, leadsBack⟩ :=
    h _ (mem_of_type known) attr mem aim aliased pair
  obtain ⟨back, aliased', same⟩ := (Option.any_eq_true _ _).1 leadsBack
  exact ⟨partner, partnerMem, back, aliased', named, by simpa using same⟩

theorem attr?_of_mem {attr : Attr} (distinct : (decl.attrs.map (·.name)).Nodup)
    (mem : attr ∈ decl.attrs) : decl.attr? attr.name = some attr := by
  unfold AnnotType.attr?
  revert distinct mem
  induction decl.attrs with
  | nil => simp
  | cons head rest ih =>
    intro distinct mem
    obtain ⟨fresh, distinct⟩ := List.nodup_cons.1 distinct
    rcases List.mem_cons.1 mem with rfl | mem
    · simp
    · have other : head.name ≠ attr.name := by
        intro same
        exact fresh (List.mem_map.2 ⟨attr, mem, same.symm⟩)
      rw [List.find?_cons_of_neg (by simpa using other)]
      exact ih distinct mem

theorem mem_of_attr? {name : String} {attr : Attr} (h : decl.attr? name = some attr) :
    attr ∈ decl.attrs ∧ attr.name = name :=
  ⟨List.mem_of_find?_eq_some h, by simpa using List.find?_some h⟩

theorem attr?_of_name {name : String} (h : name ∈ decl.attrs.map (·.name)) :
    ∃ attr, decl.attr? name = some attr := by
  obtain ⟨attr, mem, same⟩ := List.mem_map.1 h
  cases found : decl.attr? name with
  | some attr => exact ⟨attr, rfl⟩
  | none => exact absurd same (by simpa using List.find?_eq_none.1 found attr mem)

/-- Both attributes declare a default, and these are equal. -/
def SameDefault (left right : Attr) : Prop :=
  ∃ a b, left.default? = some a ∧ right.default? = some b ∧ a.same b = true

theorem SameDefault.sameOption {left right : Attr} (h : SameDefault left right) :
    Value.sameOption left.default? right.default? = true := by
  obtain ⟨a, b, own, own', same⟩ := h
  rw [own, own']
  exact same

theorem sameDefault_of_check {attr target : Attr} {targetType : String}
    (h : checkDefaults type attr targetType target = .ok ()) : SameDefault attr target := by
  unfold checkDefaults at h
  split at h
  · rename_i a b left right
    split at h
    · rename_i same
      exact ⟨a, b, left, right, same⟩
    · cases h
  · cases h

/-- Where a valid alias link comes from. -/
theorem aliasLink_declared {name : String} {link : AliasLink}
    (h : reg.aliasLink type name = .ok (some link)) :
    ∃ decl attr aim, reg.type type = .ok decl ∧ decl.attr? name = some attr ∧
      attr.aliasFor = some aim ∧ reg.checkAlias type attr aim = .ok link := by
  obtain ⟨decl, known, h⟩ := Outcome.bind_ok h
  split at h
  · cases h
  · rename_i attr found
    split at h
    · cases h
    · rename_i aim declared
      obtain ⟨checked, valid, same⟩ := Outcome.map_ok h
      cases same
      exact ⟨decl, attr, aim, known, found, declared, valid⟩

/-- A valid link leads to another attribute, inside its type or on a meta-annotation, and both ends
were checked. -/
theorem checkAlias_ends {attr : Attr} {aim : AliasFor} {link : AliasLink}
    (h : reg.checkAlias type attr aim = .ok link) :
    ∃ target, reg.aliasTarget link = .ok target ∧ link.target ≠ link.source ∧
      (link.isPair = false → reg.isMetaPresent type link.targetType = true) ∧
      checkEnds attr link target = .ok link := by
  cases checkAlias_eq h
  unfold checkAlias at h
  obtain ⟨target, aimed, h⟩ := Outcome.bind_ok h
  have known : reg.aliasTarget (declaredLink type attr aim) = .ok target ∧
      (declaredLink type attr aim).target ≠ (declaredLink type attr aim).source := by
    unfold aimedAttr at aimed
    split at aimed
    · cases aimed
    · rename_i other
      exact ⟨aimed, other⟩
  split at h
  · cases h
  · rename_i reached
    exact ⟨target, known.1, known.2, by simpa using reached, h⟩

/-- Both halves of a pair are declared, are not the same attribute and have equal defaults, and the
other half is declared as an alias of an attribute of the name of the first. -/
theorem checkAlias_pair {attr : Attr} {aim : AliasFor} {link : AliasLink}
    (h : reg.checkAlias type attr aim = .ok link) (pair : link.isPair = true) :
    ∃ target back, reg.aliasTarget link = .ok target ∧ SameDefault attr target ∧
      link.target ≠ link.source ∧ target.aliasFor = some back ∧
      back.attr.getD target.name = attr.name := by
  obtain ⟨target, aimed, apart, _, ends⟩ := checkAlias_ends h
  cases checkAlias_eq h
  unfold checkEnds at ends
  simp only [pair, Bool.true_and] at ends
  split at ends
  · cases ends
  · rename_i named
    obtain ⟨back, aliased, named⟩ :=
      Option.map_eq_some_iff.1 (show namedBack target = some attr.name by simpa using named)
    split at ends
    · cases ends
    · obtain ⟨_, same, _⟩ := Outcome.bind_ok ends
      exact ⟨target, back, aimed, sameDefault_of_check same, apart, aliased, named⟩

theorem aliasTarget_declared {link : AliasLink} {target : Attr}
    (h : reg.aliasTarget link = .ok target) :
    ∃ decl, reg.type link.targetType = .ok decl ∧ decl.attr? link.targetAttr = some target := by
  unfold aliasTarget at h
  split at h
  · rename_i found
    cases h
    obtain ⟨decl, known, attr⟩ := Option.bind_eq_some_iff.1 found
    refine ⟨decl, ?_, attr⟩
    unfold Registry.type
    rw [known]
  · cases h

/-- What an attribute aims at is declared. -/
theorem Aims.declared {source target : String × String} (h : reg.Aims source target) :
    ∃ decl attr, reg.type target.1 = .ok decl ∧ decl.attr? target.2 = some attr := by
  obtain ⟨link, found, rfl⟩ := h
  obtain ⟨_, attr, aim, _, _, _, valid⟩ := aliasLink_declared found
  obtain ⟨target, aimed, _⟩ := checkAlias_ends valid
  obtain ⟨decl, known, declared⟩ := aliasTarget_declared aimed
  exact ⟨decl, target, known, declared⟩

/-- All that a chain comes by is declared. -/
theorem Targets.declared {source target : String × String} (h : reg.Targets source target) :
    ∃ decl attr, reg.type target.1 = .ok decl ∧ decl.attr? target.2 = some attr := by
  induction h with
  | aim aims => exact aims.declared
  | override _ _ _ ih => exact ih

/-- Where attribute names are distinct, each name is looked up to its only attribute. -/
theorem PairsMutual.matched (pairs : reg.PairsMutual) (distinct : reg.DistinctAttrs) :
    reg.PairsMatched := by
  intro type decl name attr aim known declared aliased pair
  obtain ⟨partner, partnerMem, back, aliased', named, leadsBack⟩ :=
    pairs type decl attr aim known (mem_of_attr? declared).1 aliased pair
  refine ⟨partner, back, ?_, aliased', leadsBack⟩
  rw [← named]
  exact attr?_of_mem (distinct type decl known) partnerMem

/-- What a valid link inside a type aims at is declared as an alias for where the link starts. -/
theorem PairsMatched.partner (matched : reg.PairsMatched) {name other : String}
    (aims : reg.Aims (type, name) (type, other)) :
    ∃ decl partner back, reg.type type = .ok decl ∧ decl.attr? other = some partner ∧
      partner.aliasFor = some back ∧ (declaredLink type partner back).target = (type, name) := by
  obtain ⟨link, found, same⟩ := aims
  obtain ⟨decl, attr, aim, known, declared, aliased, valid⟩ := aliasLink_declared found
  obtain ⟨_, rfl⟩ := mem_of_attr? declared
  cases checkAlias_eq valid
  have pair : (declaredLink type attr aim).isPair = true := by
    have := congrArg Prod.fst same
    simpa [AliasLink.isPair, AliasLink.target, declaredLink] using this
  obtain ⟨partner, back, found, aliased', leadsBack⟩ :=
    matched type decl attr.name attr aim known declared aliased pair
  rw [show (declaredLink type attr aim).targetAttr = other from congrArg Prod.snd same] at found
  exact ⟨decl, partner, back, known, found, aliased', leadsBack⟩

/-- Where pairs are declared mutually, aims inside a type lead back. -/
theorem PairsMatched.back (matched : reg.PairsMatched) : reg.PairsBack := by
  rintro ⟨type, name⟩ ⟨type', name'⟩ home aims inside ⟨link, found, same⟩
  cases inside
  obtain ⟨decl, partner, back, known, declared, aliased, leadsBack⟩ := matched.partner aims
  obtain ⟨decl', partner', aim, known', declared', aliased', valid⟩ := aliasLink_declared found
  cases known.symm.trans known'
  cases declared.symm.trans declared'
  cases aliased.symm.trans aliased'
  cases checkAlias_eq valid
  exact same.symm.trans leadsBack

/-- An attribute that overrides one of another type. -/
def Overriding (reg : Registry) (source : String × String) : Prop :=
  ∃ target, reg.Aims source target ∧ target.1 ≠ source.1

/-- The next attribute is on the list if it is another one whose chain shares a target, and was then
found to have an equal default. -/
theorem implicitAliases_cons {attr other : Attr} {link : AliasLink} {rest : List Attr}
    {names : List String} (h : reg.implicitAliases type attr link (other :: rest) = .ok names)
    (linked : reg.Linked link) (source : link.source = (type, attr.name)) :
    ∃ tail, reg.implicitAliases type attr link rest = .ok tail ∧
      (names = tail ∧
          ¬ (other.name ≠ attr.name ∧ reg.Shares (type, attr.name) (type, other.name)) ∨
        names = other.name :: tail ∧ other.name ≠ attr.name ∧
          reg.Shares (type, attr.name) (type, other.name) ∧ SameDefault attr other) := by
  unfold implicitAliases at h
  split at h
  · rename_i same
    exact ⟨names, h, .inl ⟨rfl, fun listing => listing.1 same⟩⟩
  · rename_i apart
    obtain ⟨found, asked, h⟩ := Outcome.bind_ok h
    cases found with
    | none =>
      refine ⟨names, h, .inl ⟨rfl, ?_⟩⟩
      rintro ⟨_, target, _, behind⟩
      obtain ⟨_, otherLink, found, _⟩ := behind.aims
      cases asked.symm.trans found
    | some otherLink =>
      obtain ⟨otherLinked, otherSource⟩ := Linked.of_aliasLink asked
      obtain ⟨chain, made, h⟩ := Outcome.bind_ok h
      obtain ⟨otherChain, otherMade, h⟩ := Outcome.bind_ok h
      have share := shareTarget_iff made otherMade linked otherLinked
      rw [source, otherSource] at share
      split at h
      · rename_i shared
        obtain ⟨_, checked, h⟩ := Outcome.bind_ok h
        obtain ⟨tail, later, h⟩ := Outcome.bind_ok h
        cases h
        exact ⟨tail, later, .inr ⟨rfl, apart, share.1 shared, sameDefault_of_check checked⟩⟩
      · rename_i unshared
        exact ⟨names, h, .inl ⟨rfl, fun listing => unshared (share.2 listing.2)⟩⟩

/-- The implicit aliases of an attribute are the others whose chains share a target with its own. -/
theorem mem_implicitAliases {attr : Attr} {link : AliasLink} {others : List Attr}
    {names : List String} (h : reg.implicitAliases type attr link others = .ok names)
    (linked : reg.Linked link) (source : link.source = (type, attr.name)) (name : String) :
    name ∈ names ↔ name ≠ attr.name ∧ name ∈ others.map (·.name) ∧
      reg.Shares (type, attr.name) (type, name) := by
  induction others generalizing names with
  | nil =>
    cases h
    simp
  | cons other rest ih =>
    rw [List.map_cons, List.mem_cons]
    obtain ⟨tail, made, ⟨rfl, unlisted⟩ | ⟨rfl, apart, shares, _⟩⟩ :=
      implicitAliases_cons h linked source
    · rw [ih made]
      constructor
      · exact fun ⟨apart, mem, shares⟩ => ⟨apart, .inr mem, shares⟩
      · rintro ⟨apart, rfl | mem, shares⟩
        · exact absurd ⟨apart, shares⟩ unlisted
        · exact ⟨apart, mem, shares⟩
    · rw [List.mem_cons, ih made]
      constructor
      · rintro (rfl | ⟨apart, mem, shares⟩)
        · exact ⟨apart, .inl rfl, shares⟩
        · exact ⟨apart, .inr mem, shares⟩
      · rintro ⟨apart, rfl | mem, shares⟩
        · exact .inl rfl
        · exact .inr ⟨apart, mem, shares⟩

/-- Implicit aliases were found to have equal defaults. -/
theorem sameDefault_of_implicitAliases {attr : Attr} {link : AliasLink} {others : List Attr}
    {names : List String} (h : reg.implicitAliases type attr link others = .ok names)
    (linked : reg.Linked link) (source : link.source = (type, attr.name)) {other : Attr}
    (mem : other ∈ others) (listed : other.name ∈ names) : SameDefault attr other := by
  induction others generalizing names with
  | nil => cases mem
  | cons head rest ih =>
    obtain ⟨apart, _, shares⟩ := (mem_implicitAliases h linked source other.name).1 listed
    obtain ⟨tail, made, step⟩ := implicitAliases_cons h linked source
    rcases List.mem_cons.1 mem with rfl | mem
    · rcases step with ⟨_, unlisted⟩ | ⟨_, _, _, same⟩
      · exact absurd ⟨apart, shares⟩ unlisted
      · exact same
    · exact ih made mem ((mem_implicitAliases made linked source other.name).2
        ⟨apart, List.mem_map_of_mem mem, shares⟩)

/-- The alias list of an attribute is empty, the other half of its pair, or found among the attributes
of its type. -/
theorem aliasNames_cases {name : String} {names : List String} (known : reg.type type = .ok decl)
    (h : reg.aliasNames type name = .ok names) :
    (reg.aliasLink type name = .ok none ∧ names = []) ∨
    ∃ link, reg.aliasLink type name = .ok (some link) ∧
      (link.isPair = true ∧ names = [link.targetAttr] ∨
        link.targetType ≠ type ∧ ∃ attr, decl.attr? name = some attr ∧
          reg.implicitAliases type attr link decl.attrs = .ok names) := by
  obtain ⟨found, asked, h⟩ := Outcome.bind_ok h
  cases found with
  | none =>
    cases h
    exact .inl ⟨asked, rfl⟩
  | some link =>
    refine .inr ⟨link, asked, ?_⟩
    simp only at h
    split at h
    · rename_i pair
      cases h
      exact .inl ⟨pair, rfl⟩
    · rename_i away
      obtain ⟨_, known', h⟩ := Outcome.bind_ok h
      cases known.symm.trans known'
      obtain ⟨_, attr, _, known', declared, _, _⟩ := aliasLink_declared asked
      cases known.symm.trans known'
      rw [declared] at h
      exact .inr ⟨fun inside => away ((isPair_iff asked).2 inside), attr, declared, h⟩

/-- What an alias list holds: the other half of a pair, or all that an override shares a target
with. -/
theorem mem_aliasNames {name other : String} {names : List String}
    (known : reg.type type = .ok decl) (h : reg.aliasNames type name = .ok names) :
    other ∈ names ↔ reg.Aims (type, name) (type, other) ∨ reg.Overriding (type, name) ∧
      other ≠ name ∧ other ∈ decl.attrs.map (·.name) ∧ reg.Shares (type, name) (type, other) := by
  obtain ⟨asked, rfl⟩ | ⟨link, asked, ⟨pair, rfl⟩ | ⟨away, attr, declared, made⟩⟩ :=
    aliasNames_cases known h
  · constructor
    · intro mem
      cases mem
    · rintro (⟨link, found, _⟩ | ⟨⟨_, ⟨link, found, _⟩, _⟩, _⟩)
      · cases asked.symm.trans found
      · cases asked.symm.trans found
  · have inside := (isPair_iff asked).1 pair
    rw [List.mem_singleton]
    constructor
    · rintro rfl
      exact .inl ⟨link, asked, Prod.ext inside rfl⟩
    · rintro (aims | ⟨⟨target, aims, away⟩, _⟩)
      · exact congrArg Prod.snd (aims.unique ⟨link, asked, rfl⟩)
      · rw [aims.unique ⟨link, asked, rfl⟩] at away
        exact absurd inside away
  · obtain ⟨linked, source⟩ := Linked.of_aliasLink asked
    obtain ⟨_, rfl⟩ := mem_of_attr? declared
    rw [mem_implicitAliases made linked source]
    constructor
    · exact fun listed => .inr ⟨⟨link.target, ⟨link, asked, rfl⟩, away⟩, listed⟩
    · rintro (aims | ⟨_, listed⟩)
      · have same := aims.unique ⟨link, asked, rfl⟩
        exact absurd (congrArg Prod.fst same).symm away
      · exact listed

/-- Attributes on one alias list are declared, differ, and have equal defaults. -/
theorem declared_of_aliasNames {name other : String} {names : List String}
    (known : reg.type type = .ok decl) (h : reg.aliasNames type name = .ok names)
    (mem : other ∈ names) :
    other ≠ name ∧ ∃ attr partner, decl.attr? name = some attr ∧ decl.attr? other = some partner ∧
      SameDefault attr partner := by
  obtain ⟨_, rfl⟩ | ⟨link, asked, kind⟩ := aliasNames_cases known h
  · cases mem
  obtain ⟨linked, source⟩ := Linked.of_aliasLink asked
  rcases kind with ⟨pair, rfl⟩ | ⟨_, attr, declared, made⟩
  · cases List.mem_singleton.1 mem
    obtain ⟨decl', attr, aim, known', declared, _, valid⟩ := aliasLink_declared asked
    cases known.symm.trans known'
    obtain ⟨_, rfl⟩ := mem_of_attr? declared
    obtain ⟨target, _, aimed, same, apart, _⟩ := checkAlias_pair valid pair
    obtain ⟨decl', known', found⟩ := aliasTarget_declared aimed
    have inside := (isPair_iff asked).1 pair
    rw [inside] at known'
    cases known.symm.trans known'
    refine ⟨fun itself => apart ?_, attr, target, declared, found, same⟩
    rw [source]
    exact Prod.ext inside itself
  · obtain ⟨_, rfl⟩ := mem_of_attr? declared
    obtain ⟨apart, inside, _⟩ := (mem_implicitAliases made linked source other).1 mem
    obtain ⟨partner, found⟩ := attr?_of_name inside
    obtain ⟨partnerMem, rfl⟩ := mem_of_attr? found
    exact ⟨apart, attr, partner, declared, found,
      sameDefault_of_implicitAliases made linked source partnerMem mem⟩

/-- The alias list of an attribute in an alias map. -/
def listed (groups : Entries (List String)) (name : String) : List String :=
  (groups.get? name).getD []

/-- What an alias map holds once some attributes were put in. -/
structure MapsAliases (reg : Registry) (type : String) (groups : Entries (List String)) : Prop where
  distinct : groups.names.Nodup
  right : ∀ name names, groups.get? name = some names → reg.aliasNames type name = .ok names

theorem MapsAliases.put {groups : Entries (List String)} (h : reg.MapsAliases type groups)
    {name : String} {names : List String} (found : reg.aliasNames type name = .ok names) :
    reg.MapsAliases type (groups.put name names) where
  distinct := Entries.nodup_names_put h.distinct name names
  right other names' := by
    rw [Entries.get?_put]
    split
    · rename_i same
      rintro ⟨⟩
      exact same ▸ found
    · exact h.right other names'

theorem aliasMapOf_maps {found groups : Entries (List String)} {attrs : List Attr}
    (h : reg.aliasMapOf type found attrs = .ok groups) (maps : reg.MapsAliases type found) :
    reg.MapsAliases type groups ∧ (∀ name, found.has name → groups.has name) ∧
      (∀ name, groups.has name → found.has name ∨ name ∈ attrs.map (·.name)) ∧
      ∀ attr ∈ attrs, reg.aliasNames type attr.name = .ok (listed groups attr.name) := by
  induction attrs generalizing found with
  | nil =>
    cases h
    exact ⟨maps, fun _ => id, fun _ => .inl, by simp⟩
  | cons attr rest ih =>
    obtain ⟨aliases, asked, h⟩ := Outcome.bind_ok h
    by_cases none : aliases.isEmpty
    · simp only [none, if_true] at h
      obtain ⟨maps, grows, from', right⟩ := ih h maps
      refine ⟨maps, grows, fun name there => (from' name there).imp_right (.tail _), ?_⟩
      intro other mem
      rcases List.mem_cons.1 mem with rfl | mem
      · cases kept : groups.get? other.name with
        | none =>
          rw [asked, listed, kept, List.isEmpty_iff.1 none]
          rfl
        | some names =>
          rw [maps.right _ names kept, listed, kept]
          rfl
      · exact right other mem
    · simp only [none, Bool.false_eq_true, if_false] at h
      obtain ⟨maps, grows, from', right⟩ := ih h (maps.put asked)
      refine ⟨maps, fun name there => grows name ?_, fun name there => ?_, fun other mem => ?_⟩
      · rw [Entries.has, Entries.get?_put]
        split
        · rfl
        · exact there
      · rcases from' name there with there | there
        · rw [Entries.has, Entries.get?_put] at there
          split at there
          · rename_i same
            exact .inr (same ▸ .head _)
          · exact .inl there
        · exact .inr (.tail _ there)
      · rcases List.mem_cons.1 mem with rfl | mem
        · have there := grows other.name (by simp [Entries.has])
          obtain ⟨names, kept⟩ := Option.isSome_iff_exists.1 there
          rw [maps.right _ names kept, listed, kept]
          rfl
        · exact right other mem

/-- The alias map of a type holds the alias list of each of its attributes and of nothing else. -/
structure AliasMapOf (reg : Registry) (type : String) (decl : AnnotType)
    (groups : Entries (List String)) : Prop where
  known : reg.type type = .ok decl
  maps : reg.MapsAliases type groups
  declared : ∀ name, groups.has name → name ∈ decl.attrs.map (·.name)
  right : ∀ attr ∈ decl.attrs, reg.aliasNames type attr.name = .ok (listed groups attr.name)

/-- Attributes without links have no aliases. -/
theorem aliasMap_of_plain {type : String} {decl : AnnotType}
    (known : reg.type type = .ok decl)
    (plain : ∀ attr ∈ decl.attrs, reg.aliasLink type attr.name = .ok none) :
    reg.aliasMap type = .ok [] := by
  have all (attrs : List Attr) (sub : attrs ⊆ decl.attrs) :
      reg.aliasMapOf type [] attrs = .ok [] := by
    induction attrs with
    | nil => rfl
    | cons attr rest ih =>
      have own : reg.aliasNames type attr.name = .ok [] := by
        rw [aliasNames, plain attr (sub (.head rest))]
        rfl
      rw [aliasMapOf, own]
      exact ih fun other mem => sub (.tail attr mem)
  rw [aliasMap, known]
  exact all decl.attrs (List.Subset.refl _)

theorem aliasMapOf_aliasMap {groups : Entries (List String)} (h : reg.aliasMap type = .ok groups) :
    ∃ decl, reg.AliasMapOf type decl groups := by
  obtain ⟨decl, known, h⟩ := Outcome.bind_ok h
  obtain ⟨maps, _, from', right⟩ := aliasMapOf_maps h ⟨by simp, by simp⟩
  refine ⟨decl, known, maps, fun name there => ?_, right⟩
  rcases from' name there with there | there
  · simp [Entries.has] at there
  · exact there

namespace AliasMapOf

variable {groups : Entries (List String)} {a b p q : String}

theorem aliasNames (h : reg.AliasMapOf type decl groups) (mem : b ∈ listed groups a) :
    reg.aliasNames type a = .ok (listed groups a) := by
  cases kept : groups.get? a with
  | none =>
    rw [listed, kept] at mem
    cases mem
  | some names =>
    rw [h.maps.right a names kept, listed, kept]
    rfl

theorem mem_iff (h : reg.AliasMapOf type decl groups) (mem : a ∈ decl.attrs.map (·.name)) :
    b ∈ listed groups a ↔ reg.Aims (type, a) (type, b) ∨ reg.Overriding (type, a) ∧
      b ≠ a ∧ b ∈ decl.attrs.map (·.name) ∧ reg.Shares (type, a) (type, b) := by
  obtain ⟨attr, attrMem, rfl⟩ := List.mem_map.1 mem
  exact mem_aliasNames h.known (h.right attr attrMem)

/-- An override lists the others whose chains share a target with its own. -/
theorem mem_iff_of_override (h : reg.AliasMapOf type decl groups)
    (mem : a ∈ decl.attrs.map (·.name)) (outward : reg.Overriding (type, a)) :
    b ∈ listed groups a ↔
      b ≠ a ∧ b ∈ decl.attrs.map (·.name) ∧ reg.Shares (type, a) (type, b) := by
  rw [h.mem_iff mem]
  constructor
  · rintro (aims | ⟨_, listing⟩)
    · obtain ⟨first, aims', away⟩ := outward
      cases aims.unique aims'
      exact absurd rfl away
    · exact listing
  · exact fun listing => .inr ⟨outward, listing⟩

theorem source_declared (h : reg.AliasMapOf type decl groups) (mem : b ∈ listed groups a) :
    a ∈ decl.attrs.map (·.name) := by
  refine h.declared a ?_
  cases kept : groups.get? a with
  | none =>
    rw [listed, kept] at mem
    cases mem
  | some names => simp [Entries.has, kept]

/-- An alias is another declared attribute with an equal default. -/
theorem partner (h : reg.AliasMapOf type decl groups) (mem : b ∈ listed groups a) :
    b ≠ a ∧ ∃ attr partner, decl.attr? a = some attr ∧ decl.attr? b = some partner ∧
      SameDefault attr partner :=
  declared_of_aliasNames h.known (h.aliasNames mem) mem

theorem target_declared (h : reg.AliasMapOf type decl groups) (mem : b ∈ listed groups a) :
    b ∈ decl.attrs.map (·.name) := by
  obtain ⟨_, _, partner, _, found, _⟩ := h.partner mem
  obtain ⟨partnerMem, rfl⟩ := mem_of_attr? found
  exact List.mem_map_of_mem partnerMem

/-- In a type whose alias map is there, every declared alias is valid. -/
theorem link (h : reg.AliasMapOf type decl groups) {attr : Attr} {aim : AliasFor}
    (found : decl.attr? a = some attr) (aliased : attr.aliasFor = some aim) :
    reg.aliasLink type a = .ok (some (declaredLink type attr aim)) := by
  obtain ⟨mem, rfl⟩ := mem_of_attr? found
  obtain ⟨other, asked, _⟩ := Outcome.bind_ok (h.right attr mem)
  have made := asked
  obtain ⟨decl', known, made⟩ := Outcome.bind_ok made
  cases h.known.symm.trans known
  rw [found] at made
  simp only [aliased] at made
  obtain ⟨checked, valid, rfl⟩ := Outcome.map_ok made
  cases checkAlias_eq valid
  exact asked

/-- Of two overrides, both list each other or neither does. -/
theorem listed_symm_of_overrides (h : reg.AliasMapOf type decl groups)
    (outward : reg.Overriding (type, a)) (outward' : reg.Overriding (type, b))
    (mem : b ∈ listed groups a) : a ∈ listed groups b := by
  have aMem := h.source_declared mem
  obtain ⟨apart, bMem, shares⟩ := (h.mem_iff_of_override aMem outward).1 mem
  exact (h.mem_iff_of_override bMem outward').2 ⟨apart.symm, aMem, shares.symm⟩

variable (matched : reg.PairsMatched)

include matched

/-- In a type whose alias map is there, the other half of a pair aims back. -/
theorem aims_back (h : reg.AliasMapOf type decl groups) (aims : reg.Aims (type, a) (type, b)) :
    reg.Aims (type, b) (type, a) := by
  obtain ⟨_, partner, back, known, declared, aliased, leadsBack⟩ := matched.partner aims
  cases h.known.symm.trans known
  exact ⟨_, h.link declared aliased, leadsBack⟩

/-- Of two attributes on one alias list, one is on the list of the other. -/
theorem comparable (h : reg.AliasMapOf type decl groups) (left : p ∈ listed groups a)
    (right : q ∈ listed groups a) (apart : p ≠ q) : p ∈ listed groups q ∨ q ∈ listed groups p := by
  have mem := h.source_declared left
  have leftMem := h.target_declared left
  have rightMem := h.target_declared right
  rcases (h.mem_iff mem).1 left with aims | ⟨outward, _, _, leftShares⟩
  · rcases (h.mem_iff mem).1 right with aims' | ⟨⟨first, aims', away⟩, _⟩
    · exact absurd (congrArg Prod.snd (aims.unique aims')) apart
    · cases aims.unique aims'
      exact absurd rfl away
  · obtain ⟨_, _, rightShares⟩ := (h.mem_iff_of_override mem outward).1 right
    have ⟨u, behindU, leftU⟩ := leftShares
    have ⟨v, behindV, rightV⟩ := rightShares
    obtain ⟨leftNext, leftAims⟩ := leftU.aims
    obtain ⟨rightNext, rightAims⟩ := rightV.aims
    have back := matched.back
    by_cases leftOver : leftNext.1 ≠ type
    · exact .inr ((h.mem_iff_of_override leftMem ⟨leftNext, leftAims, leftOver⟩).2
        ⟨apart.symm, rightMem,
          .trans back leftAims leftOver leftShares.symm rightShares rightAims⟩)
    · by_cases rightOver : rightNext.1 ≠ type
      · exact .inl ((h.mem_iff_of_override rightMem ⟨rightNext, rightAims, rightOver⟩).2
          ⟨apart, leftMem,
            .trans back rightAims rightOver rightShares.symm leftShares leftAims⟩)
      · -- two pairs: both partners lie on one chain, so the pairs are one
        obtain ⟨leftType, leftName⟩ := leftNext
        obtain ⟨rightType, rightName⟩ := rightNext
        have leftInside : leftType = type := Decidable.not_not.1 leftOver
        have rightInside : rightType = type := Decidable.not_not.1 rightOver
        subst leftInside
        subst rightInside
        cases leftU.eq_of_pair leftAims rfl
        cases rightV.eq_of_pair rightAims rfl
        have leftBack := h.aims_back matched leftAims
        have rightBack := h.aims_back matched rightAims
        rcases behindU.linear behindV with same | behind | behind
        · cases same
          exact absurd (congrArg Prod.snd (leftBack.unique rightBack)) apart
        · cases behind.eq_of_pair leftBack rfl
          exact .inl ((h.mem_iff rightMem).2 (.inl rightAims))
        · cases behind.eq_of_pair rightBack rfl
          exact .inr ((h.mem_iff leftMem).2 (.inl leftAims))

/-- An attribute lists all that an attribute on its list does, but for itself. -/
theorem listed_trans (h : reg.AliasMapOf type decl groups) (mem : b ∈ listed groups a)
    (mem' : p ∈ listed groups b) (apart : p ≠ a) : p ∈ listed groups a := by
  have aMem := h.source_declared mem
  have bMem := h.source_declared mem'
  have pMem := h.target_declared mem'
  rcases (h.mem_iff aMem).1 mem with aims | ⟨outward, _, _, shares⟩
  · -- the other half of a pair lists the first half only
    have back := h.aims_back matched aims
    rcases (h.mem_iff bMem).1 mem' with aims' | ⟨⟨first, aims', away⟩, _⟩
    · exact absurd (congrArg Prod.snd (aims'.unique back)) apart
    · cases back.unique aims'
      exact absurd rfl away
  · refine (h.mem_iff_of_override aMem outward).2 ⟨apart, pMem, ?_⟩
    obtain ⟨first, aims, away⟩ := outward
    rcases (h.mem_iff bMem).1 mem' with pair | ⟨_, _, _, shares'⟩
    · obtain ⟨u, behind, behind'⟩ := shares
      cases behind'.eq_of_pair pair rfl
      exact .of_pair matched.back aims away (h.aims_back matched pair) (.inl behind)
    · obtain ⟨v, behindV, rightV⟩ := shares'
      obtain ⟨last, aims'⟩ := rightV.aims
      exact .trans matched.back aims away shares ⟨v, behindV, rightV⟩ aims'

end AliasMapOf
end Registry
end Annotations
