import Annotations.Proofs.Config.Layering

/-!
Overrides that address different settings do not meddle with each other. Whether a variable can be
applied does not hang on the configuration, and two of them may change places, so the order of a whole
list counts neither for whether it can be applied nor for what comes out.
-/
namespace Annotations

namespace Entries

variable {α : Type}

section

variable {key name : String} (rest : Entries α) (old value : α)

theorem putSorted_cons_self :
    putSorted ((key, old) :: rest) key value = (key, value) :: rest := by
  rw [putSorted, if_pos rfl]

theorem putSorted_cons_of_lt (less : name < key) :
    putSorted ((key, old) :: rest) name value = (name, value) :: (key, old) :: rest := by
  rw [putSorted, if_neg less.ne', if_pos less]

theorem putSorted_cons_of_gt (greater : key < name) :
    putSorted ((key, old) :: rest) name value = (key, old) :: putSorted rest name value := by
  rw [putSorted, if_neg greater.ne, if_neg greater.not_gt]

end

/-- Values under different names can be put in in either order, also where the entries do not stand in
name order. -/
theorem putSorted_comm {name name' : String} (apart : name ≠ name') (entries : Entries α)
    (value value' : α) :
    (entries.putSorted name value).putSorted name' value' =
      (entries.putSorted name' value').putSorted name value := by
  wlog less : name < name' generalizing name name' value value'
  · exact (this apart.symm value' value (lt_of_le_of_ne (not_lt.1 less) apart.symm)).symm
  induction entries with
  | nil =>
    change putSorted [(name, value)] name' value' = putSorted [(name', value')] name value
    rw [putSorted_cons_of_gt _ _ _ less, putSorted_cons_of_lt _ _ _ less]
    rfl
  | cons entry rest ih =>
    obtain ⟨key, old⟩ := entry
    rcases lt_trichotomy name key with below | rfl | above
    · -- the lesser name comes in front, wherever the other one goes
      rw [putSorted_cons_of_lt rest old value below, putSorted_cons_of_gt _ value value' less]
      rcases lt_trichotomy name' key with below' | rfl | above'
      · rw [putSorted_cons_of_lt _ _ _ below', putSorted_cons_of_lt _ _ _ less]
      · rw [putSorted_cons_self, putSorted_cons_of_lt _ _ _ below]
      · rw [putSorted_cons_of_gt _ _ _ above', putSorted_cons_of_lt _ _ _ below]
    · rw [putSorted_cons_self, putSorted_cons_of_gt _ _ _ less, putSorted_cons_of_gt _ _ _ less,
        putSorted_cons_self]
    · have above' := above.trans less
      rw [putSorted_cons_of_gt _ _ _ above, putSorted_cons_of_gt _ _ _ above',
        putSorted_cons_of_gt _ _ _ above', putSorted_cons_of_gt _ _ _ above, ih]

end Entries

/-- A configuration is what it has at each address, with its labels in their order. -/
theorem Config.ext_read {config config' : Config}
    (same : ∀ address : Address, address.read config = address.read config')
    (labels : config.metrics.globalLabels = config'.metrics.globalLabels) : config = config' := by
  obtain ⟨⟨_, _, _, _, _⟩, ⟨_, _, _, _, _, _, _⟩, ⟨_, _⟩⟩ := config
  obtain ⟨⟨_, _, _, _, _⟩, ⟨_, _, _, _, _, _, _⟩, ⟨_, _⟩⟩ := config'
  cases same .builtinSpaces
  cases same .cacheEnabled
  cases same .classesAsText
  cases same .nestedAsStores
  cases same .maxMetaDepth
  cases same .logEnabled
  cases same .logLevel
  cases same .logFormat
  cases same .spanEvents
  cases same .fileLineInfo
  cases same .threadIds
  cases same .includeTarget
  cases same .metricsEnabled
  cases labels
  rfl

namespace Override

variable {lead text reason : String} {config config' after : Config} {address : Address}
  {given other : String × String} {vars vars' : List (String × String)} {e : ConfigError}

/-! ## Refusals -/

theorem bind_expect_error {α : Type} {what : String} {found : Option α}
    {next : α → Except String Config} (total : ∀ value, ∃ after, next value = .ok after)
    (h : (expect what found >>= next) = .error reason) :
    found = none ∧ reason = "expected " ++ what := by
  cases found with
  | none =>
    cases h
    exact ⟨rfl, rfl⟩
  | some value =>
    obtain ⟨after, done⟩ := total value
    cases done.symm.trans h

/-- A text that gives no value for a setting gives none in any configuration. -/
theorem assign_error (h : assign config text address = .error reason) (config' : Config) :
    assign config' text address = .error reason := by
  cases address with
  | builtinSpaces | logLevel | globalLabel => cases h
  | _ =>
    obtain ⟨said, rfl⟩ := bind_expect_error (fun _ => ⟨_, rfl⟩) h
    rw [assign, said]
    rfl

/-- A variable that cannot be applied fails in the same way whatever the configuration is. -/
theorem apply_error (h : apply lead config given = .error e) (config' : Config) :
    apply lead config' given = .error e := by
  cases effect lead given with
  | plain _ does => cases (does config).symm.trans h
  | lost e' fails =>
    cases (fails config).symm.trans h
    exact fails config'
  | aimed address _ does =>
    rw [does] at h ⊢
    cases assigned : assign config given.2 address with
    | error reason =>
      rw [assigned] at h
      rw [assign_error assigned config']
      exact h
    | ok after =>
      rw [assigned] at h
      cases h

theorem apply_ok (h : apply lead config given = .ok after) (config' : Config) :
    ∃ after', apply lead config' given = .ok after' := by
  cases applied : apply lead config' given with
  | error e => cases h.symm.trans (apply_error applied config)
  | ok after' => exact ⟨after', rfl⟩

/-- Whether a variable can be applied does not hang on the configuration. -/
theorem apply_isOk (config config' : Config) :
    (apply lead config given).isOk = (apply lead config' given).isOk := by
  cases applied : apply lead config given with
  | error e => rw [apply_error applied config']
  | ok after =>
    obtain ⟨after', applied'⟩ := apply_ok applied config'
    rw [applied']
    rfl

/-- A list can be applied where each of its variables can be. -/
theorem applyAll_isOk (config : Config) :
    (applyAll lead config vars).isOk = vars.all fun given => (apply lead config given).isOk := by
  induction vars generalizing config with
  | nil => rfl
  | cons given rest ih =>
    rw [applyAll, List.foldlM_cons, List.all_cons]
    cases first : apply lead config given with
    | error e => rfl
    | ok middle =>
      have same : (rest.all fun given => (apply lead middle given).isOk) =
          rest.all fun given => (apply lead config given).isOk :=
        congrArg rest.all (funext fun given => apply_isOk middle config)
      exact (ih middle).trans same

/-- A list fails with what one of its variables fails with. -/
theorem applyAll_error (h : applyAll lead config vars = .error e) :
    ∃ given ∈ vars, ∀ config, apply lead config given = .error e := by
  induction vars generalizing config with
  | nil => cases h
  | cons given rest ih =>
    rw [applyAll, List.foldlM_cons] at h
    cases first : apply lead config given with
    | error e' =>
      rw [first] at h
      cases h
      exact ⟨given, .head rest, apply_error first⟩
    | ok middle =>
      rw [first] at h
      obtain ⟨there, mem, fails⟩ := ih h
      exact ⟨there, .tail given mem, fails⟩

/-! ## Order -/

/-- Two variables do not address one setting. -/
def Apart (lead : String) (given other : String × String) : Prop :=
  address? lead given.1 = address? lead other.1 → address? lead given.1 = none

instance : DecidableRel (Apart lead) := fun given other =>
  inferInstanceAs
    (Decidable (address? lead given.1 = address? lead other.1 → address? lead given.1 = none))

theorem Apart.symm (h : Apart lead given other) : Apart lead other given :=
  fun same => same.trans (h same.symm)

theorem Apart.not_both (h : Apart lead given other) (here : address? lead given.1 = some address) :
    address? lead other.1 ≠ some address := by
  intro there
  cases here.symm.trans (h (here.trans there.symm))

/-- The labels after a variable. -/
def relabel (lead : String) (given : String × String) (labels : Entries String) : Entries String :=
  match address? lead given.1 with
  | some (.globalLabel name) => labels.putSorted name given.2
  | _ => labels

theorem relabel_comm (apart : Apart lead given other) (labels : Entries String) :
    relabel lead other (relabel lead given labels) = relabel lead given (relabel lead other labels) := by
  unfold relabel
  split
  · rename_i name' there
    split
    · rename_i name here
      have names : name ≠ name' := by
        rintro rfl
        exact apart.not_both here there
      exact Entries.putSorted_comm names labels _ _
    · rfl
  · rfl

theorem apply_labels (h : apply lead config given = .ok after) :
    after.metrics.globalLabels = relabel lead given config.metrics.globalLabels := by
  rw [relabel]
  rcases apply_cases h with ⟨unaddressed, rfl⟩ | ⟨address, addressed, assigned⟩
  · rw [unaddressed]
  · rw [addressed]
    cases address with
    | builtinSpaces | logLevel | globalLabel =>
      cases assigned
      rfl
    | _ =>
      obtain ⟨value, _, done⟩ := bind_expect assigned
      cases done
      rfl

/-- Variables that do not address one setting can change places. -/
theorem apply_comm {middle : Config} (apart : Apart lead given other)
    (first : apply lead config given = .ok middle) (second : apply lead middle other = .ok after) :
    ∃ middle', apply lead config other = .ok middle' ∧ apply lead middle' given = .ok after := by
  obtain ⟨middle', first'⟩ := apply_ok second config
  obtain ⟨after', second'⟩ := apply_ok first middle'
  have reads (address : Address) : address.read after' = address.read after := by
    rw [apply_read second', apply_read first', apply_read second, apply_read first]
    by_cases here : address? lead given.1 = some address
    · rw [if_pos here, if_neg (apart.not_both here), if_pos here]
    · rw [if_neg here, if_neg here]
  have labels : after'.metrics.globalLabels = after.metrics.globalLabels := by
    rw [apply_labels second', apply_labels first', apply_labels second, apply_labels first,
      relabel_comm apart]
  cases Config.ext_read reads labels
  exact ⟨middle', first', second'⟩

theorem applyAll_singleton (given : String × String) (config : Config) :
    applyAll lead config [given] = apply lead config given := by
  rw [applyAll, List.foldlM_cons]
  exact bind_pure _

/-- Where no two variables address one setting, their order does not count. -/
theorem applyAll_perm (perm : vars.Perm vars') (apart : vars.Pairwise (Apart lead))
    (h : applyAll lead config vars = .ok after) : applyAll lead config vars' = .ok after := by
  induction perm generalizing config with
  | nil => exact h
  | cons given _ ih =>
    obtain ⟨middle, first, rest⟩ := applyAll_cons_ok.1 h
    exact applyAll_cons_ok.2 ⟨middle, first, ih (List.pairwise_cons.1 apart).2 rest⟩
  | swap given other _ =>
    -- both ways end in one configuration, from which the rest goes on
    obtain ⟨middle, first, later⟩ := applyAll_cons_ok.1 h
    obtain ⟨both, second, rest⟩ := applyAll_cons_ok.1 later
    have others := (List.pairwise_cons.1 apart).1 given (.head _)
    obtain ⟨middle', first', second'⟩ := apply_comm others first second
    exact applyAll_cons_ok.2 ⟨middle', first', applyAll_cons_ok.2 ⟨both, second', rest⟩⟩
  | trans first _ ih ih' => exact ih' (apart.perm first Apart.symm) (ih apart h)

/-! ## What is addressed -/

theorem last?_eq_none (away : ∀ given ∈ vars, address? lead given.1 ≠ some address) :
    last? lead vars address = none := by
  induction vars with
  | nil => rfl
  | cons given rest ih =>
    have none := ih fun other mem => away other (.tail given mem)
    rw [last?] at none
    rw [last?, getLast?_filterMap_cons, none, if_neg (away given (.head rest))]
    rfl

/-- A variable that shares its setting with no other one is the last to address it. -/
theorem last?_of_mem (apart : vars.Pairwise (Apart lead)) (mem : given ∈ vars)
    (here : address? lead given.1 = some address) : last? lead vars address = some given.2 := by
  induction vars with
  | nil => cases mem
  | cons first rest ih =>
    obtain ⟨others, apart⟩ := List.pairwise_cons.1 apart
    rw [last?, getLast?_filterMap_cons]
    rcases List.mem_cons.1 mem with rfl | mem
    · have none := last?_eq_none fun other mem => (others other mem).not_both here
      rw [last?] at none
      rw [none, if_pos here, Option.none_or]
    · have found := ih apart mem
      rw [last?] at found
      rw [found, Option.some_or]

/-- A name starts with the lead-in and two underscores. -/
def leads (lead name : String) : Bool := (lead.toList ++ ['_', '_']).isPrefixOf name.toList

theorem apply_of_not_leads (h : leads lead given.1 = false) (config : Config) :
    apply lead config given = .ok config := by
  have plain : path? lead given.1 = none := by
    rw [leads] at h
    rw [path?, h]
    rfl
  rw [apply, plain]

/-- Variables without the lead-in can be left out. -/
theorem applyAll_filter (config : Config) :
    applyAll lead config (vars.filter fun given => leads lead given.1) = applyAll lead config vars := by
  induction vars generalizing config with
  | nil => rfl
  | cons given rest ih =>
    cases here : leads lead given.1 with
    | false =>
      rw [List.filter_cons_of_neg (by simp [here]), ih, applyAll, applyAll, List.foldlM_cons,
        apply_of_not_leads here]
      rfl
    | true =>
      rw [List.filter_cons_of_pos (by simp [here]), applyAll, applyAll, List.foldlM_cons,
        List.foldlM_cons]
      exact congrArg (apply lead config given >>= ·) (funext ih)

end Override

namespace Loader

variable {around : Surroundings} {loader after : Loader} {vars : List (String × String)}

theorem add_vars (around : Surroundings) (loader : Loader) (vars : List (String × String)) :
    add around loader (.vars vars) = (Override.applyAll loader.leadIn loader.config vars).map
      fun config => { loader with config } := by
  rw [add]
  cases Override.applyAll loader.leadIn loader.config vars <;> rfl

theorem add_vars_isOk (around : Surroundings) (loader : Loader) (vars : List (String × String)) :
    (add around loader (.vars vars)).isOk =
      vars.all fun given => (Override.apply loader.leadIn loader.config given).isOk := by
  rw [add_vars, ← Override.applyAll_isOk]
  cases Override.applyAll loader.leadIn loader.config vars <;> rfl

theorem add_vars_error {e : ConfigError} : add around loader (.vars vars) = .error e ↔
    Override.applyAll loader.leadIn loader.config vars = .error e := by
  rw [add_vars]
  cases Override.applyAll loader.leadIn loader.config vars <;> simp [Except.map]

theorem add_vars_ok : add around loader (.vars vars) = .ok after ↔
    ∃ config, Override.applyAll loader.leadIn loader.config vars = .ok config ∧
      after = { loader with config } := by
  rw [add_vars]
  cases Override.applyAll loader.leadIn loader.config vars with
  | error e => simp [Except.map]
  | ok config => simp [Except.map, eq_comm]

/-- Variables of which no two address one setting, given to a loader in any state: in every other order
they can be applied or not as in this one, and what comes out is the same. If they cannot, one of them
fails by itself in the same way in every state; where several would, the order says which of them is
named. If they can, only the configuration changes, a setting that one of them addresses is what that
one says, and every other setting stays as it was. What does not start with the lead-in and two
underscores is as good as left out, and by itself changes nothing. -/
theorem vars_independent (around : Surroundings) (loader : Loader) (vars : List (String × String))
    (apart : vars.Pairwise (Override.Apart loader.leadIn)) :
    (∀ vars', vars.Perm vars' →
      (add around loader (.vars vars')).isOk = (add around loader (.vars vars)).isOk ∧
      ∀ after, add around loader (.vars vars) = .ok after →
        add around loader (.vars vars') = .ok after) ∧
    (∀ e, add around loader (.vars vars) = .error e → ∃ given ∈ vars, ∀ config,
      add around { loader with config } (.vars [given]) = .error e) ∧
    (∀ after, add around loader (.vars vars) = .ok after →
      after = { loader with config := after.config } ∧ ∀ address : Address,
        (∀ given ∈ vars, Override.address? loader.leadIn given.1 = some address →
          address.read after.config = address.means? given.2) ∧
        ((∀ given ∈ vars, Override.address? loader.leadIn given.1 ≠ some address) →
          address.read after.config = address.read loader.config)) ∧
    add around loader (.vars (vars.filter fun given => Override.leads loader.leadIn given.1)) =
      add around loader (.vars vars) ∧
    ∀ given, Override.leads loader.leadIn given.1 = false →
      add around loader (.vars [given]) = .ok loader := by
  refine ⟨fun vars' perm => ⟨?_, fun after h => ?_⟩, fun e h => ?_, fun after h => ?_, ?_,
    fun given plain => ?_⟩
  · rw [add_vars_isOk, add_vars_isOk, perm.all_eq]
  · obtain ⟨config, applied, rfl⟩ := add_vars_ok.1 h
    exact add_vars_ok.2 ⟨config, Override.applyAll_perm perm apart applied, rfl⟩
  · obtain ⟨given, mem, fails⟩ := Override.applyAll_error (add_vars_error.1 h)
    refine ⟨given, mem, fun config => add_vars_error.2 ?_⟩
    exact (Override.applyAll_singleton given config).trans (fails config)
  · obtain ⟨config, applied, rfl⟩ := add_vars_ok.1 h
    refine ⟨rfl, fun address => ⟨fun given mem here => ?_, fun away => ?_⟩⟩
    · rw [Override.applyAll_read applied, Override.last?_of_mem apart mem here]
      rfl
    · rw [Override.applyAll_read applied, Override.last?_eq_none away]
      rfl
  · rw [add_vars, add_vars, Override.applyAll_filter]
  · rw [add_vars, Override.applyAll_singleton, Override.apply_of_not_leads plain]
    rfl

/-- Two labels and a setting, a name that only nearly has the lead-in and one that does not. -/
def mixed : List (String × String) :=
  [("APP__METRICS__GLOBAL_LABELS__Zone", "b"), ("APP__ENGINE__CACHE_ENABLED", "off"),
    ("APP_ENGINE__CACHE_ENABLED", "on"), ("PATH", "/bin"), ("APP__METRICS__GLOBAL_LABELS__AREA", "a")]

theorem mixed_vars_independent :
    let loader : Loader := { lead := some "APP" }
    mixed.Pairwise (Override.Apart loader.leadIn) ∧ ∃ after,
      add {} loader (.vars mixed) = .ok after ∧ add {} loader (.vars mixed.reverse) = .ok after ∧
      Address.read after.config .cacheEnabled = some (.flag false) ∧
      Address.read after.config .metricsEnabled = some (.flag true) := by
  intro loader
  have apart : mixed.Pairwise (Override.Apart loader.leadIn) := by with_unfolding_all decide
  have fits : (add {} loader (.vars mixed)).isOk = true := by with_unfolding_all decide
  obtain ⟨order, _, kept, _⟩ := vars_independent {} loader mixed apart
  cases done : add {} loader (.vars mixed) with
  | error e =>
    rw [done] at fits
    cases fits
  | ok after =>
    obtain ⟨_, reads⟩ := kept after done
    refine ⟨apart, after, rfl, (order _ (List.reverse_perm mixed).symm).2 after done, ?_, ?_⟩
    · exact (reads .cacheEnabled).1 _ (.tail _ (.head _)) (by with_unfolding_all decide)
    · exact (reads .metricsEnabled).2 (by with_unfolding_all decide)

end Loader
end Annotations
