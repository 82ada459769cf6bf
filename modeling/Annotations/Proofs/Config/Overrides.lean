import Annotations.Config.Override
import Annotations.Proofs.Value.Hashing

/-!
What overrides leave of a configuration. Where variables can be applied at all, every setting is in the
end what the last variable that addresses it says, and a setting that none addresses is as it was.
-/
namespace Annotations

/-- The last of what is picked from a list comes from behind its head, if anything does. -/
theorem getLast?_filterMap_cons {α β : Type} (pick : α → Option β) (item : α) (rest : List α) :
    ((item :: rest).filterMap pick).getLast? =
      ((rest.filterMap pick).getLast?).or (pick item) := by
  rw [List.filterMap_cons]
  cases pick item with
  | none => exact (Option.or_none).symm
  | some picked =>
    rw [List.getLast?_cons]
    cases (rest.filterMap pick).getLast? <;> rfl

/-- What a setting holds. -/
inductive Setting where
  | flag (on : Bool)
  | number (number : Nat)
  | spaces (spaces : List String)
  | text (text : String)
  | format (format : LogFormat)
deriving DecidableEq, Repr

namespace Address

/-- What a configuration has at an address; a label may be left out. -/
def read (config : Config) : Address → Option Setting
  | .cacheEnabled => some (.flag config.engine.cacheEnabled)
  | .maxMetaDepth => some (.number config.engine.maxMetaDepth)
  | .classesAsText => some (.flag config.engine.classesAsText)
  | .nestedAsStores => some (.flag config.engine.nestedAsStores)
  | .builtinSpaces => some (.spaces config.engine.builtinSpaces)
  | .logEnabled => some (.flag config.logging.enabled)
  | .logLevel => some (.text config.logging.level)
  | .logFormat => some (.format config.logging.format)
  | .spanEvents => some (.flag config.logging.spanEvents)
  | .fileLineInfo => some (.flag config.logging.fileLineInfo)
  | .threadIds => some (.flag config.logging.threadIds)
  | .includeTarget => some (.flag config.logging.includeTarget)
  | .metricsEnabled => some (.flag config.metrics.enabled)
  | .globalLabel name => (config.metrics.globalLabels.get? name).map .text

/-- What a text says at an address, if it says anything there. -/
def means? (text : String) : Address → Option Setting
  | .maxMetaDepth => (Override.word? text).map .number
  | .builtinSpaces => some (.spaces (Override.spaces text))
  | .logFormat => (LogFormat.ofText? text).map .format
  | .logLevel | .globalLabel _ => some (.text text)
  | _ => (Override.flag? text).map .flag

end Address

namespace Override

variable {lead text : String} {config config' : Config} {address : Address}

theorem bind_expect {α : Type} {what : String} {found : Option α}
    {next : α → Except String Config} (h : (expect what found >>= next) = .ok config') :
    ∃ value, found = some value ∧ next value = .ok config' := by
  cases found with
  | none => cases h
  | some value => exact ⟨value, rfl, h⟩

/-- A text that is put into a setting is what the setting then holds, and no other is touched. -/
theorem assign_read (h : assign config text address = .ok config') (other : Address) :
    other.read config' = if address = other then other.means? text else other.read config := by
  cases address with
  | builtinSpaces | logLevel =>
    cases h
    cases other <;> rfl
  | globalLabel name =>
    cases h
    cases other with
    | globalLabel label =>
      simp only [Address.read, MetricsConfig.withLabel, Entries.get?_putSorted, Address.globalLabel.injEq]
      split <;> rfl
    | _ => rfl
  | _ =>
    obtain ⟨value, said, h⟩ := bind_expect h
    cases h
    cases other <;> simp [Address.read, Address.means?, said]

/-- The setting that a variable addresses under a lead-in. -/
def address? (lead name : String) : Option Address := (path? lead name).bind Address.ofPath?

/-- The text of the last variable that addresses a setting. -/
def last? (lead : String) (vars : List (String × String)) (address : Address) : Option String :=
  (vars.filterMap fun given =>
    if address? lead given.1 = some address then some given.2 else none).getLast?

/-- What a variable does under a lead-in, in any configuration: nothing if it does not start with that,
nothing but fail where no setting is, or what its text does to the setting that it addresses. -/
inductive Effect (lead : String) (given : String × String) : Prop
  | plain : address? lead given.1 = none → (∀ config, apply lead config given = .ok config) →
    Effect lead given
  | lost (e : ConfigError) : (∀ config, apply lead config given = .error e) → Effect lead given
  | aimed (address : Address) : address? lead given.1 = some address →
    (∀ config, apply lead config given =
      (assign config given.2 address).mapError fun reason => .badVariable given.1 reason) →
    Effect lead given

theorem effect (lead : String) (given : String × String) : Effect lead given := by
  cases leads : path? lead given.1 with
  | none =>
    refine .plain ?_ fun config => ?_
    · rw [address?, leads, Option.bind_none]
    · rw [apply, leads]
  | some path =>
    cases addressed : Address.ofPath? path with
    | none =>
      exact .lost (.unknownField ("__".intercalate path.tail) (path.headD ""))
        fun config => by simp only [apply, leads, addressed]
    | some address =>
      refine .aimed address ?_ fun config => ?_
      · rw [address?, leads, Option.bind_some, addressed]
      · simp only [apply, leads, addressed]

/-- A variable that can be applied does nothing, or it puts its text into the setting that it
addresses. -/
theorem apply_cases {given : String × String} (h : apply lead config given = .ok config') :
    (address? lead given.1 = none ∧ config' = config) ∨ ∃ address,
      address? lead given.1 = some address ∧ assign config given.2 address = .ok config' := by
  cases effect lead given with
  | plain unaddressed does =>
    cases (does config).symm.trans h
    exact .inl ⟨unaddressed, rfl⟩
  | lost e fails => cases (fails config).symm.trans h
  | aimed address addressed does =>
    refine .inr ⟨address, addressed, ?_⟩
    rw [does] at h
    cases assigned : assign config given.2 address with
    | error reason =>
      rw [assigned] at h
      cases h
    | ok after =>
      rw [assigned] at h
      cases h
      rfl

/-- A variable that can be applied changes the setting that it addresses, if any. -/
theorem apply_read {given : String × String} (h : apply lead config given = .ok config')
    (address : Address) :
    address.read config' =
      if address? lead given.1 = some address then address.means? given.2 else address.read config := by
  rcases apply_cases h with ⟨unaddressed, rfl⟩ | ⟨there, addressed, assigned⟩
  · rw [unaddressed, if_neg (by simp)]
  · rw [assign_read assigned address, addressed]
    simp only [Option.some.injEq]

theorem applyAll_cons_ok {given : String × String} {rest : List (String × String)} :
    applyAll lead config (given :: rest) = .ok config' ↔
      ∃ middle, apply lead config given = .ok middle ∧ applyAll lead middle rest = .ok config' := by
  rw [applyAll, List.foldlM_cons]
  cases apply lead config given with
  | error e => simp [bind, Except.bind]
  | ok middle => simp [bind, Except.bind, applyAll]

/-- Of variables that can be applied, the last one to address a setting decides what it holds. -/
theorem applyAll_read {vars : List (String × String)} (h : applyAll lead config vars = .ok config')
    (address : Address) :
    address.read config' =
      ((last? lead vars address).map fun text => address.means? text).getD (address.read config) := by
  induction vars generalizing config with
  | nil =>
    cases h
    rfl
  | cons given rest ih =>
    obtain ⟨middle, first, later⟩ := applyAll_cons_ok.1 h
    rw [ih later, apply_read first, last?, last?, getLast?_filterMap_cons]
    cases List.getLast? _ with
    | some text => rfl
    | none =>
      rw [Option.none_or]
      split <;> rfl

end Override
end Annotations
