import Annotations.Config.Loader
import Annotations.Proofs.Config.Overrides

/-!
Configurations put together from layers. The order of the calls on a loader matters only among calls of
one kind: what is loaded is the last whole configuration, with the variables of files and then those of
the environment on top of it, all under the lead-in that was set last.
-/
namespace Annotations

/-- The variables of a file, none if there is no such file. -/
def Surroundings.varsAt (around : Surroundings) (path : String) : List (String × String) :=
  ((around.files.find? path).bind fun content =>
    (Loader.readVariables around content).toOption).getD []

namespace Layer

/-- The whole configuration that a call sets, if it sets one. -/
def whole? (around : Surroundings) : Layer → Option Config
  | .defaults => some {}
  | .development => some .development
  | .production => some .production
  | .text content name =>
    (Loader.parse (some name) (.invalid ("unsupported configuration format: " ++ name)) content).toOption
  | .file path | .optionalFile path => (Loader.readFile around path).toOption
  | _ => none

/-- The variables that a call reads from a file. -/
def fileVars (around : Surroundings) : Layer → List (String × String)
  | .envFile => around.varsAt ".env"
  | .envFileAt path => around.varsAt path
  | _ => []

def lead? : Layer → Option String
  | .lead name => some (Text.upper name)
  | _ => none

end Layer

namespace Loader

variable {around : Surroundings} {loader loader' : Loader} {layer : Layer} {layers : List Layer}

/-- What calls add to a loader: a whole configuration in place of the one there, variables behind those
there, and a lead-in in place of the one there. -/
structure Grows (whole : Option Config) (vars : List (String × String)) (lead : Option String)
    (before after : Loader) : Prop where
  config : after.config = whole.getD before.config
  vars : after.vars = before.vars ++ vars
  lead : after.lead = lead.or before.lead

theorem Grows.idle : Grows none [] none loader loader :=
  ⟨rfl, (List.append_nil _).symm, rfl⟩

theorem Grows.whole {config : Config} {fileLoaded : Bool} :
    Grows (some config) [] none loader { loader with config, fileLoaded } :=
  ⟨rfl, (List.append_nil _).symm, rfl⟩

/-- A call that reads a file of variables puts them behind those there. -/
theorem addVariables_grows {content : FileContent} {path : String}
    (found : around.files.find? path = some content)
    (h : loader.addVariables around content = .ok loader') :
    Grows none (around.varsAt path) none loader loader' := by
  unfold addVariables at h
  rw [Surroundings.varsAt, found, Option.bind_some]
  cases read : readVariables around content with
  | error e =>
    rw [read] at h
    cases h
  | ok vars =>
    rw [read] at h
    cases h
    exact ⟨rfl, rfl, rfl⟩

/-- A call that reads a whole configuration sets it. -/
theorem read_grows {read : Except ConfigError Config} {set : Config → Loader}
    (sets : ∀ config, ∃ fileLoaded, set config = { loader with config, fileLoaded })
    (h : (do return set (← read)) = Except.ok (ε := ConfigError) loader') :
    Grows read.toOption [] none loader loader' := by
  cases read with
  | error e => cases h
  | ok config =>
    cases h
    obtain ⟨fileLoaded, same⟩ := sets config
    rw [same]
    exact .whole

theorem add_grows (plain : ∀ given, layer ≠ .vars given) (h : add around loader layer = .ok loader') :
    Grows (layer.whole? around) (layer.fileVars around) layer.lead? loader loader' := by
  cases layer with
  | defaults | development | production =>
    cases h
    exact .whole
  | text content name => exact read_grows (fun _ => ⟨_, rfl⟩) h
  | file path => exact read_grows (fun _ => ⟨_, rfl⟩) h
  | optionalFile path =>
    rw [add] at h
    split at h
    · exact read_grows (fun _ => ⟨_, rfl⟩) h
    · rename_i missing
      cases h
      have missing : around.files.find? path = none := by simpa using missing
      have none : Layer.whole? around (.optionalFile path) = none := by
        simp [Layer.whole?, readFile, missing, Except.toOption]
      rw [none]
      exact .idle
  | envFile =>
    have idle (empty : around.varsAt ".env" = []) :
        Grows none (Layer.fileVars around .envFile) none loader loader := by
      rw [Layer.fileVars, empty]
      exact .idle
    rw [add] at h
    split at h
    · rename_i missing
      cases h
      exact idle (by rw [Surroundings.varsAt, missing, Option.bind_none, Option.getD_none])
    · rename_i folder
      cases h
      exact idle (by rw [Surroundings.varsAt, folder]; rfl)
    · rename_i content _ found
      exact addVariables_grows found h
  | envFileAt path =>
    rw [add] at h
    split at h
    · cases h
    · rename_i content found
      exact addVariables_grows found h
  | lead name =>
    cases h
    exact ⟨rfl, (List.append_nil _).symm, rfl⟩
  | vars given => exact absurd rfl (plain given)

/-- The configuration of the last call that sets a whole one, or the defaults. -/
def wholeOf (around : Surroundings) (layers : List Layer) : Config :=
  (layers.filterMap (Layer.whole? around)).getLast?.getD {}

/-- The lead-in of the last call that sets one. -/
def leadOf (layers : List Layer) : Option String := (layers.filterMap Layer.lead?).getLast?

theorem addAll_grows (plain : ∀ given, .vars given ∉ layers)
    (h : addAll around loader layers = .ok loader') :
    Grows (layers.filterMap (Layer.whole? around)).getLast? (layers.flatMap (Layer.fileVars around))
      (leadOf layers) loader loader' := by
  induction layers generalizing loader with
  | nil =>
    cases h
    exact .idle
  | cons layer rest ih =>
    rw [addAll, List.foldlM_cons] at h
    cases first : add around loader layer with
    | error e =>
      rw [first] at h
      cases h
    | ok middle =>
      rw [first] at h
      have one := add_grows (fun given same => plain given (same ▸ .head rest)) first
      have later := ih (fun given mem => plain given (.tail layer mem)) h
      constructor
      case config =>
        rw [later.config, one.config, getLast?_filterMap_cons]
        cases List.getLast? _ <;> rfl
      case vars => rw [later.vars, one.vars, List.flatMap_cons, List.append_assoc]
      case lead => rw [later.lead, one.lead, leadOf, leadOf, getLast?_filterMap_cons, Option.or_assoc]

theorem applyAll_append (lead : String) (config : Config) (vars vars' : List (String × String)) :
    Override.applyAll lead config (vars ++ vars') =
      (do Override.applyAll lead (← Override.applyAll lead config vars) vars') :=
  List.foldlM_append

theorem validated_ok {config config' : Config} (h : config.validated = .ok config') :
    config' = config := by
  rw [Config.validated] at h
  cases valid : config.validate with
  | error e =>
    rw [valid] at h
    cases h
  | ok _ =>
    rw [valid] at h
    cases h
    rfl

/-- Loading after calls in any order is applying, to the last whole configuration that a call set, the
variables of files as they were read and then, if a lead-in was set, those of the environment in name
order, all under the last lead-in, and checking what comes out. So what a loaded configuration has is
everywhere what the last of these variables says that addresses it, no matter which call came when, and
only elsewhere what the whole configuration has. -/
theorem load_layered (plain : ∀ given, .vars given ∉ layers)
    (calls : addAll around {} layers = .ok loader) :
    ∃ env : Entries String, env.Ordered ∧ (∀ name, env.get? name = around.env.get? name) ∧
      let lead := (leadOf layers).getD "STELE"
      let overrides := layers.flatMap (Layer.fileVars around) ++
        if (leadOf layers).isSome then env else []
      loader.load around =
          (Override.applyAll lead (wholeOf around layers) overrides >>= Config.validated) ∧
        ∀ config, loader.load around = .ok config → ∀ address : Address,
          address.read config = ((Override.last? lead overrides address).map
            fun text => address.means? text).getD (address.read (wholeOf around layers)) := by
  refine ⟨around.env.sorted, around.env.ordered_sorted, around.env.get?_sorted, ?_⟩
  intro lead overrides
  have grows := addAll_grows plain calls
  have leads : loader.lead = leadOf layers := grows.lead.trans Option.or_none
  have leadIn : loader.leadIn = lead := congrArg (·.getD defaultLead) leads
  have whole : loader.config = wholeOf around layers := grows.config
  have vars : loader.vars = layers.flatMap (Layer.fileVars around) := grows.vars
  have loads : loader.load around =
      (Override.applyAll lead (wholeOf around layers) overrides >>= Config.validated) := by
    rw [load, leadIn, leads, whole, vars, show overrides = _ ++ _ from rfl, applyAll_append, bind_assoc]
    congr 1
    funext config
    split
    · rfl
    · rfl
  refine ⟨loads, fun config loaded address => ?_⟩
  rw [loads] at loaded
  cases applied : Override.applyAll lead (wholeOf around layers) overrides with
  | error e =>
    rw [applied] at loaded
    cases loaded
  | ok config' =>
    rw [applied] at loaded
    rw [validated_ok loaded]
    exact Override.applyAll_read applied address

/-- Surroundings with a file of variables and an environment that address different settings. -/
def scratch : Surroundings where
  files := [(["local.env"], .text "APP__ENGINE__MAX_META_DEPTH=12")]
  env := [("APP__ENGINE__CACHE_ENABLED", "off")]

/-- A preset, variables read before their lead-in is set, and a text that comes last and takes the place
of the preset but not of the variables. -/
theorem scratch_load_layered :
    let layers := [.development, .envFileAt "local.env", .lead "app", .text "\x7b\x7d" "json"]
    (∀ given, .vars given ∉ layers) ∧ ∃ loader, addAll scratch {} layers = .ok loader ∧
      ∃ config, loader.load scratch = .ok config ∧
        Address.read config .maxMetaDepth = some (.number 12) ∧
        Address.read config .cacheEnabled = some (.flag false) ∧
        Address.read config .logFormat = some (.format .json) := by
  intro layers
  have plain : ∀ given, .vars given ∉ layers := by simp [layers]
  obtain ⟨loader, calls⟩ : ∃ loader, addAll scratch {} layers = .ok loader := by
    with_unfolding_all exact ⟨_, rfl⟩
  have loads : (do (← addAll scratch {} layers).load scratch).isOk = true := by
    with_unfolding_all rfl
  rw [calls] at loads
  obtain ⟨env, ordered, same, _, reads⟩ := @load_layered scratch loader layers plain calls
  obtain rfl : env = scratch.env := ordered.ext (List.pairwise_singleton _ _) same
  refine ⟨plain, loader, calls, ?_⟩
  cases loaded : loader.load scratch with
  | error e =>
    have failed : (loader.load scratch).isOk = true := loads
    rw [loaded] at failed
    cases failed
  | ok config =>
    refine ⟨config, rfl, ?_, ?_, ?_⟩
    · rw [reads config loaded .maxMetaDepth]
      with_unfolding_all decide
    · rw [reads config loaded .cacheEnabled]
      with_unfolding_all decide
    · rw [reads config loaded .logFormat]
      with_unfolding_all decide

end Loader
end Annotations
