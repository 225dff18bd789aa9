import Turnrail.Engine.Observer
import Turnrail.Engine.Toml
import Turnrail.Text.Path

/-!
# Overrides of a task

The Engine puts the overrides of its command line and then those of a task into
one layer.  The router refuses overrides whose innermost values belong to the
routing settings, but the Engine replaces whole tables and splits keys at every
dot.
-/

namespace Turnrail

open Toml List

mutual

/-- The TOML value of a JSON value. -/
def jsonToToml : Json → Toml
  | .null => .string ""
  | .bool value => .boolean value
  | .number value => .number value
  | .string text => .string text
  | .array items => .array (itemsToToml items)
  | .object fields => .table (fieldsToToml fields)

/-- The TOML values of some items. -/
def itemsToToml : List Json → List Toml
  | [] => []
  | item :: rest => jsonToToml item :: itemsToToml rest

/-- The TOML entries of some fields. -/
def fieldsToToml : Object → Toml.Table
  | [] => []
  | (key, item) :: rest => insert key (jsonToToml item) (fieldsToToml rest)

end

/-- What the router needs to configure the Engine. -/
structure Routing where
  baseURL : String
  catalog : String
  command : String
  trusted : List (String × String)

namespace Routing

variable (routing : Routing)

/-- A hook that runs the command of the router. -/
def hook : Toml :=
  .array [.table [("hooks", .array [.table [("type", .string "command"),
    ("command", .string routing.command), ("timeout", .number 90)]])]]

/-- The hashes of the trusted hooks. -/
def state : Toml :=
  .table (routing.trusted.map fun entry =>
    (entry.1, .table [("trusted_hash", .string entry.2)]))

/-- The settings the router overrides. -/
def configuration : List (String × Toml) :=
  [("model_provider", .string "openai"), ("openai_base_url", .string routing.baseURL),
    ("features.hooks", .boolean true), ("model_catalog_json", .string routing.catalog),
    ("features.remote_models", .boolean false),
    ("features.enable_request_compression", .boolean false),
    ("hooks.UserPromptSubmit", routing.hook), ("hooks.PreCompact", routing.hook),
    ("hooks.Stop", routing.hook), ("hooks.state", routing.state)]

/-- A router on the loopback interface without trusted hooks. -/
def loopback : Routing := ⟨"http://127.0.0.1:49152/v1", "/models.json", "turnrail hook", []⟩

end Routing

namespace ConfigManager

variable (rules : Rules)

/-- The names of a dotted key. -/
def segments (key : String) : List String := (key.toList.splitOn '.').map String.ofList

/-- A feature that is switched becomes a table when it is entered. -/
def enterFeature (path : List String) (current : Toml) : Toml :=
  match isStructuredFeaturePath path, current with
  | true, .boolean enabled => .table [("enabled", .boolean enabled)]
  | _, _ => current

/-- A switch is stored in the table of its feature. -/
def storeFeature (path : List String) (existing : Option Toml) (value : Toml) : Toml :=
  match isStructuredFeaturePath path, existing, value with
  | true, some (.table feature), .boolean enabled =>
    .table (insert "enabled" (.boolean enabled) feature)
  | true, some (.boolean enabled), .table _ =>
    mergeAtPath rules [] (.table [("enabled", .boolean enabled)]) value
  | true, some (.table feature), .table _ => mergeAtPath rules [] (.table feature) value
  | _, _, _ => value

/-- Put one override into a configuration. -/
def applyTomlOverride (root : Toml) (override : String × Toml) : Toml :=
  put enterFeature (storeFeature rules) override.2 [] (segments override.1) root

/-- The configuration of all overrides. -/
def buildCliOverridesLayer (overrides : List (String × Toml)) : Toml :=
  overrides.foldl (applyTomlOverride rules) (.table [])

/-- An override that the Engine takes for itself is a Boolean. -/
def trusts (config : Object) : Bool :=
  config.all fun entry => entry.1 != "bypass_hook_trust" || entry.2 matches .bool _

/-- The layer of the command line and of a task. -/
def loadWithCliOverrides (cli : List (String × Toml)) (config : Object) : Except String Toml :=
  if trusts config then
    .ok (buildCliOverridesLayer rules (cli ++ (config.removeValue "bypass_hook_trust").map
      fun entry => (entry.1, jsonToToml entry.2)))
  else .error "`bypass_hook_trust` override must be a boolean"

theorem toList_of_segments
    {key : String}
    {names : List String}
    (split : segments key = names) :
    key.toList = ['.'].intercalate (names.map String.toList) := by
  rw [← split, segments, map_map]
  have same : String.toList ∘ String.ofList = id := funext fun text => by simp
  rw [same, map_id]
  exact (intercalate_splitOn '.').symm

theorem segments_injective
    {key other : String}
    (same : segments key = segments other) :
    key = other := by
  rw [← String.toList_inj, toList_of_segments same, ← toList_of_segments rfl]

end ConfigManager

namespace RouterEngineObserver

open ConfigManager

/-- A layer has the routing settings of the command line.  A title task may
disable the hooks. -/
def KeepsRouting (rules : Rules) (routing : Routing) (title : Bool) (layer : Toml) : Prop :=
  ∀ setting ∈ routingSettings, valueAt (segments setting) layer =
      valueAt (segments setting) (buildCliOverridesLayer rules routing.configuration) ∨
    title = true ∧ setting = "features.hooks" ∧
      valueAt (segments setting) layer = some (.boolean false)

/-- An override does not lead to a routing setting, into one or past one, except
that a title task may disable the hooks. -/
def SparesRouting (title : Bool) (entry : String × Json) : Prop :=
  (∃ setting ∈ routingSettings, Meets (segments entry.1) (segments setting)) →
    title = true ∧ entry = ("features.hooks", .bool false)

theorem segments_known :
    segments "openai_base_url" = ["openai_base_url"] ∧
      segments "model_provider" = ["model_provider"] ∧
      segments "model_providers" = ["model_providers"] ∧
      segments "model_catalog_json" = ["model_catalog_json"] ∧
      segments "hooks" = ["hooks"] ∧ segments "features" = ["features"] ∧
      segments "features.hooks" = ["features", "hooks"] ∧
      segments "features.remote_models" = ["features", "remote_models"] ∧
      segments "features.enable_request_compression" =
        ["features", "enable_request_compression"] ∧
      segments "hooks.UserPromptSubmit" = ["hooks", "UserPromptSubmit"] ∧
      segments "hooks.PreCompact" = ["hooks", "PreCompact"] ∧
      segments "hooks.Stop" = ["hooks", "Stop"] ∧
      segments "hooks.state" = ["hooks", "state"] ∧
      segments "bypass_hook_trust" = ["bypass_hook_trust"] := by
  decide +kernel

variable {setting : String}

theorem of_mem_routingSettings
    {P : List String → Prop}
    (member : setting ∈ routingSettings)
    (single : ∀ name ∈ ["openai_base_url", "model_provider",
        "model_providers", "model_catalog_json", "hooks"], P [name])
    (feature : ∀ name ∈ ["hooks", "remote_models"], P ["features", name]) :
    P (segments setting) := by
  simp only [routingSettings, mem_cons, not_mem_nil, or_false] at member
  rcases member with rfl | rfl | rfl | rfl | rfl | rfl | rfl <;>
    simp only [segments_known] <;> simp_all

theorem layer_configuration
    (rules : Rules)
    (routing : Routing) :
    buildCliOverridesLayer rules routing.configuration =
      .table [("model_provider", .string "openai"),
        ("openai_base_url", .string routing.baseURL),
        ("features", .table [("hooks", .boolean true),
          ("remote_models", .boolean false),
          ("enable_request_compression", .boolean false)]),
        ("model_catalog_json", .string routing.catalog),
        ("hooks", .table [("UserPromptSubmit", routing.hook),
          ("PreCompact", routing.hook), ("Stop", routing.hook),
          ("state", routing.state)])] := by
  simp only [buildCliOverridesLayer, Routing.configuration, foldl_cons, foldl_nil,
    applyTomlOverride, segments_known]
  simp [put, storeFeature, enterFeature, Toml.insert, fields,
    isStructuredFeaturePath, lookup_cons]

variable {routing : Routing} {value : Toml} {rules : Rules}

theorem configured_scalar
    {rest : List String}
    (member : setting ∈ routingSettings)
    (other : setting ≠ "hooks")
    (found : (valueAt (segments setting)
      (buildCliOverridesLayer rules routing.configuration)).bind
        (valueAt rest) = some value) :
    rest = [] ∧ (∀ fields, value ≠ .table fields) ∧
      (setting = "features.hooks" → value = .boolean true) := by
  simp only [routingSettings, mem_cons, not_mem_nil, or_false] at member
  rw [layer_configuration] at found
  rcases member with rfl | rfl | rfl | rfl | rfl | rfl | rfl <;>
    simp [segments_known, valueAt, fields, lookup_cons] at found other <;>
    (cases rest <;> simp [valueAt, fields] at found; subst found; simp)

theorem meets_routing
    {path : List String}
    (member : setting ∈ routingSettings)
    (meets : Meets path (segments setting)) :
    path = [] ∨ path = ["features"] ∨ segments setting <+: path := by
  rcases meets with leads | leads
  · revert leads
    refine of_mem_routingSettings (P := fun target => path <+: target →
      path = [] ∨ path = ["features"] ∨ target <+: path) member ?_ ?_ <;>
    · simp only [prefix_cons_iff, prefix_nil]
      grind
  · exact .inr (.inr leads)

theorem not_structured
    {path : List String}
    (member : setting ∈ routingSettings)
    (meets : Meets path (segments setting)) :
    isStructuredFeaturePath path = false := by
  rcases meets_routing member meets with rfl | rfl | ⟨rest, rfl⟩
  · rfl
  · rfl
  · refine of_mem_routingSettings (P := fun target =>
      isStructuredFeaturePath (target ++ rest) = false) member ?_ ?_ <;>
    · intro name named
      unfold isStructuredFeaturePath
      split <;> simp_all <;> grind

theorem valueAt_applied
    {root : Toml}
    {key setting : String}
    (member : setting ∈ routingSettings)
    (meets : Meets (segments key) (segments setting)) :
    valueAt (segments key) (applyTomlOverride rules root (key, value)) =
      some value := by
  have filled : segments key ≠ [] := by simp [segments]
  obtain ⟨old, stored⟩ := @valueAt_put enterFeature (storeFeature rules) value [] _ root filled
  have plain := not_structured member meets
  refine stored.trans ?_
  simp [storeFeature, plain]

theorem valueAt_applied_of_apart
    {root : Toml}
    {override : String × Toml}
    (member : setting ∈ routingSettings)
    (apart : ¬Meets (segments override.1) (segments setting)) :
    valueAt (segments setting) (applyTomlOverride rules root override) =
      valueAt (segments setting) root := by
  refine valueAt_put_of_apart apart fun front leads current => ?_
  have plain := not_structured member (.inl leads)
  rw [nil_append, enterFeature]
  simp [plain]

variable {title : Bool} {entry : String × Json}

theorem KeepsRouting.applied
    {layer : Toml}
    (keeps : KeepsRouting rules routing title layer)
    (spares : SparesRouting title entry) :
    KeepsRouting rules routing title
      (applyTomlOverride rules layer (entry.1, jsonToToml entry.2)) := by
  intro setting member
  by_cases meets : Meets (segments entry.1) (segments setting)
  · obtain ⟨helper, rfl⟩ := spares ⟨setting, member, meets⟩
    have same : segments setting = ["features", "hooks"] := by
      simp only [segments_known] at meets
      revert meets
      refine of_mem_routingSettings (P := fun target => Meets ["features", "hooks"] target →
        target = ["features", "hooks"]) member ?_ ?_ <;> simp [meets_cons]
    obtain rfl : setting = "features.hooks" := segments_injective (same.trans rfl)
    exact .inr ⟨helper, rfl, valueAt_applied member meets⟩
  · have same := @valueAt_applied_of_apart setting rules layer
      (entry.1, jsonToToml entry.2) member meets
    rw [same]
    exact keeps setting member

theorem routingSetting_self
    (texts : Texts)
    (member : setting ∈ routingSettings) :
    routingSetting texts setting = true :=
  any_eq_true.mpr ⟨setting, member, by simp⟩

variable {texts : Texts}

theorem routingSetting_below
    {setting text : String}
    {rest : List Char}
    (member : setting ∈ routingSettings)
    (split : text.toList = setting.toList ++ '.' :: rest)
    (apart : ∀ next ∈ rest.head?, texts.segmentation.attaches next = false) :
    routingSetting texts text = true := by
  refine any_eq_true.mpr ⟨setting, member, ?_⟩
  rw [Bool.or_eq_true]
  exact .inr ((@Text.Segmentation.hasPrefix_iff texts.segmentation text (setting ++ ".")
    setting.toList '.' (by simp) (by decide)).mpr ⟨rest, by simpa using split, apart⟩)

/-- The router admits the overrides of a task. -/
def Admits (texts : Texts) (title : Bool) (config : Object) : Prop :=
  ∀ leaf ∈ leaves "" config, routingSetting texts leaf.1 = true →
    leaf.1 = "features.hooks" ∧ leaf.2.asBool = some false ∧ title = true

variable {titles next : List String} {method : String} {message params config : Object}

theorem admits_of_request
    (asks : (message.get "method").bind Json.asString = some method)
    (told : (message.get "params").bind Json.asObject = some params)
    (given : (params.get "config").bind Json.asObject = some config)
    (admitted : request texts titles message = .ok next) :
    Admits texts (startsTitle method params) config := by
  unfold request at admitted
  simp only [asks, told] at admitted
  obtain ⟨_, -, admitted⟩ := bind_eq_ok.mp admitted
  obtain ⟨_, checked, -⟩ := bind_eq_ok.mp admitted
  simp only [checkConfig, given] at checked
  split at checked
  · cases checked
  · rename_i passed
    intro leaf member routed
    by_contra other
    refine passed (any_eq_true.mpr ⟨leaf, member, ?_⟩)
    rw [routed, Bool.true_and, Bool.not_eq_true', Bool.eq_false_iff]
    intro excused
    rw [Bool.and_eq_true, Bool.and_eq_true, beq_iff_eq, beq_iff_eq, and_assoc] at excused
    exact other excused

theorem leaves_of_mem
    {fields : Object}
    {parent key : String}
    {item : Json}
    (member : (key, item) ∈ fields) :
    leavesBelow (if parent.isEmpty then key else parent ++ "." ++ key) item ⊆
      leaves parent fields := by
  induction fields with
  | nil => cases member
  | cons field rest ih =>
    rw [leaves]
    rcases mem_cons.mp member with rfl | member
    · exact subset_append_left _ _
    · exact fun leaf inside => mem_append_right _ (ih member inside)

theorem exists_leaf
    (path : String)
    (filled : path ≠ "") :
    ∀ item : Json, ∃ leaf ∈ leavesBelow path item, leaf.1 = path ∨
      path.toList ++ ['.'] <+: leaf.1.toList
  | .object ((key, item) :: rest) => by
    obtain ⟨leaf, member, leads⟩ := exists_leaf (path ++ "." ++ key) (by simp) item
    have nested := @leaves_of_mem ((key, item) :: rest) path key item mem_cons_self
    rw [if_neg (by simpa using filled)] at nested
    refine ⟨leaf, nested member, .inr ?_⟩
    have start : path.toList ++ ['.'] <+: (path ++ "." ++ key).toList := by simp
    rcases leads with same | leads
    · rwa [same]
    · exact start.trans ((prefix_append _ _).trans leads)
  | .object [] | .null | .bool _ | .number _ | .string _ | .array _ =>
    ⟨_, mem_cons_self, .inl rfl⟩

theorem exists_leaf_under
    {path : String}
    (filled : path ≠ "")
    (item : Json) :
    ∃ leaf ∈ leavesBelow path item, path.toList <+: leaf.1.toList := by
  obtain ⟨leaf, member, same | leads⟩ := exists_leaf path filled item
  · exact ⟨leaf, member, by rw [same]⟩
  · exact ⟨leaf, member, (prefix_append _ _).trans leads⟩

theorem Admits.no_hook
    (admits : Admits texts title config)
    {leaf : String × Json}
    (member : leaf ∈ leaves "" config)
    {first : Char}
    (printable : Text.Printable first)
    (hooks : "hooks.".toList ++ [first] <+: leaf.1.toList) :
    False := by
  obtain ⟨rest, same⟩ := hooks
  have routed : routingSetting texts leaf.1 = true := by
    refine @routingSetting_below texts "hooks" _ (first :: rest) (by decide)
      (by simpa using same.symm) ?_
    rintro next ⟨⟩
    exact texts.segmentation.attaches_printable printable
  rw [(admits leaf member routed).1] at same
  exact absurd (congrArg head? same) (by simp)

variable {name : String}

theorem printable_of_hook
    {rest : List String}
    (found : valueAt ("hooks" :: name :: rest)
      (buildCliOverridesLayer rules routing.configuration) = some value) :
    ∃ first, Text.Printable first ∧ [first] <+: name.toList := by
  rw [layer_configuration] at found
  have named : name = "UserPromptSubmit" ∨ name = "PreCompact" ∨ name = "Stop" ∨
      name = "state" := by
    by_contra other
    simp only [not_or] at other
    simp [valueAt, fields, lookup_cons, other] at found
  rcases named with rfl | rfl | rfl | rfl
  · exact ⟨'U', by decide, by simp⟩
  · exact ⟨'P', by decide, by simp⟩
  · exact ⟨'S', by decide, by simp⟩
  · exact ⟨'s', by decide, by simp⟩

variable {entries : Object}

theorem exists_of_lookup_fieldsToToml
    {key : String}
    (found : (fieldsToToml entries).lookup key = some value) :
    ∃ inner, (key, inner) ∈ entries ∧ jsonToToml inner = value := by
  induction entries with
  | nil => cases found
  | cons entry others ih =>
    rw [fieldsToToml, lookup_insert] at found
    split at found
    · rename_i same
      cases found
      exact ⟨entry.2, by simp [same], rfl⟩
    · obtain ⟨inner, member, same⟩ := ih found
      exact ⟨inner, mem_cons_of_mem _ member, same⟩

theorem leaves_of_lookup
    {key : String}
    {item : Json}
    (member : (key, item) ∈ config)
    (filled : key ≠ "")
    (found : valueAt [name] (jsonToToml item) = some value) :
    ∃ inner, jsonToToml inner = value ∧
      leavesBelow (key ++ "." ++ name) inner ⊆ leaves "" config := by
  obtain ⟨middle, here, same⟩ := Option.bind_eq_some_iff.mp found
  cases same
  cases item with
  | object entries =>
    obtain ⟨inner, inside, same⟩ := exists_of_lookup_fieldsToToml here
    refine ⟨inner, same, fun leaf below => leaves_of_mem member ?_⟩
    have nested := @leaves_of_mem entries key name inner inside
    rw [if_neg (by simpa using filled)] at nested
    cases entries with
    | nil => cases inside
    | cons => exact nested below
  | _ => cases here

theorem eq_bool_of_jsonToToml
    {item : Json}
    {flag : Bool}
    (same : jsonToToml item = .boolean flag) :
    item = .bool flag := by
  cases item <;> simp_all [jsonToToml]

section Admitted

variable {texts : Texts} {title : Bool} {config : Object} {rules : Rules} {routing : Routing}
  {key : String} {item : Json} {rest : List String}

variable (admits : Admits texts title config)
include admits

theorem Admits.hooks_changed
    (member : (key, item) ∈ config)
    (split : segments key = "hooks" :: rest) :
    valueAt ("hooks" :: rest)
        (buildCliOverridesLayer rules routing.configuration) ≠
      some (jsonToToml item) := by
  intro same
  have text := toList_of_segments split
  cases rest with
  | nil =>
    have hook : valueAt ["UserPromptSubmit"] (jsonToToml item) = some routing.hook := by
      have below := congrArg (Option.bind · (valueAt ["UserPromptSubmit"])) same
      rw [layer_configuration] at below
      exact below.symm
    have named : key = "hooks" := String.toList_inj.mp (text.trans (by simp [intercalate]))
    subst named
    obtain ⟨inner, -, below⟩ := leaves_of_lookup member (by decide) hook
    obtain ⟨leaf, inside, leads⟩ := @exists_leaf_under ("hooks" ++ "." ++ "UserPromptSubmit")
      (by decide) inner
    exact admits.no_hook (below inside) (by decide : Text.Printable 'U')
      (.trans (by decide +kernel) leads)
  | cons name rest =>
    obtain ⟨first, printable, begins⟩ := printable_of_hook same
    obtain ⟨leaf, inside, leads⟩ := @exists_leaf_under key (by rintro rfl; simp at text) item
    refine admits.no_hook
      (leaves_of_mem member (by simpa using inside)) printable (.trans ?_ leads)
    rw [text, map_cons, map_cons, intercalate_cons_cons, append_assoc,
      Text.intercalate_cons]
    obtain ⟨others, same⟩ := begins
    rw [← same]
    exact ⟨_, by simp; rfl⟩

theorem Admits.setting_changed
    {setting : String}
    (member : (key, item) ∈ config)
    (protects : setting ∈ routingSettings)
    (other : setting ≠ "hooks")
    (split : segments setting ++ rest = segments key) :
    (valueAt (segments setting)
        (buildCliOverridesLayer rules routing.configuration)).bind
        (valueAt rest) ≠ some (jsonToToml item) := by
  intro same
  obtain ⟨rfl, scalar, enabled⟩ := configured_scalar protects other same
  rw [append_nil] at split
  obtain rfl := segments_injective split
  have leaf : (setting, item) ∈ leaves "" config := by
    refine leaves_of_mem member ?_
    cases item with
    | object fields => exact absurd rfl (scalar _)
    | _ => exact mem_singleton_self _
  obtain ⟨hooks, disabled, -⟩ := admits _ leaf (routingSetting_self texts protects)
  dsimp only at hooks disabled
  rw [eq_bool_of_jsonToToml (enabled hooks)] at disabled
  cases disabled

theorem Admits.features_changed (member : ("features", item) ∈ config) :
    valueAt ["remote_models"] (jsonToToml item) ≠ some (.boolean false) := by
  intro same
  obtain ⟨inner, value, below⟩ := leaves_of_lookup member (by decide) same
  rw [eq_bool_of_jsonToToml value] at below
  have leaf := below (mem_singleton_self _)
  exact absurd (admits _ leaf (routingSetting_self texts (by decide))).1 (by decide)

theorem Admits.not_keepsRouting
    {entry : String × Json}
    (member : entry ∈ config)
    (touches : ¬SparesRouting title entry)
    (root : Toml) :
    ¬KeepsRouting rules routing title
      (applyTomlOverride rules root (entry.1, jsonToToml entry.2)) := by
  intro keeps
  obtain ⟨key, item⟩ := entry
  simp only [SparesRouting, not_forall] at touches
  obtain ⟨⟨setting, protects, meets⟩, spares⟩ := touches
  have applied : valueAt (segments key) (applyTomlOverride rules root (key, jsonToToml item)) =
      some (jsonToToml item) := valueAt_applied protects meets
  rcases meets_routing protects meets with none | all | ⟨rest, split⟩
  · simp [segments] at none
  · obtain rfl : key = "features" :=
      segments_injective (all.trans segments_known.2.2.2.2.2.1.symm)
    have kept := (keeps "features.remote_models" (by decide)).resolve_right (by simp)
    rw [layer_configuration] at kept
    simp only [segments_known] at kept applied
    refine admits.features_changed member ?_
    rw [← Option.bind_some (jsonToToml item) (valueAt ["remote_models"]), ← applied,
      ← valueAt_append]
    exact kept
  · rw [← split, valueAt_append] at applied
    rcases keeps setting protects with same | ⟨helper, rfl, disabled⟩
    · dsimp only at same
      rw [same] at applied
      by_cases hooks : setting = "hooks"
      · subst hooks
        simp only [segments_known] at split applied
        exact admits.hooks_changed member split.symm
          ((valueAt_append ["hooks"] rest _).trans applied)
      · exact admits.setting_changed member protects hooks split applied
    · dsimp only at disabled
      rw [disabled] at applied
      cases rest with
      | nil =>
        refine spares ⟨helper, ?_⟩
        rw [append_nil] at split
        rw [← segments_injective split, eq_bool_of_jsonToToml (Option.some.inj applied).symm]
      | cons => cases applied

end Admitted

theorem KeepsRouting.foldl
    {layer : Toml}
    (keeps : KeepsRouting rules routing title layer)
    (spares : ∀ entry ∈ entries, SparesRouting title entry) :
    KeepsRouting rules routing title ((entries.map fun entry => (entry.1,
            jsonToToml entry.2)).foldl (applyTomlOverride rules) layer) := by
  induction entries generalizing layer with
  | nil => exact keeps
  | cons entry others ih =>
    obtain ⟨first, later⟩ := forall_mem_cons.mp spares
    exact ih (keeps.applied first) later

theorem trusts_perm
    {first second : Object}
    (shuffled : first.Perm second) :
    trusts first = trusts second := by
  rw [Bool.eq_iff_iff, trusts, trusts, all_eq_true, all_eq_true]
  exact forall_congr' fun entry => by rw [shuffled.mem_iff]

theorem bypass_of_touches (touches : ¬SparesRouting title entry) :
    entry.1 ≠ "bypass_hook_trust" := by
  intro bypass
  refine touches fun ⟨setting, member, meets⟩ => absurd meets ?_
  rw [bypass, segments_known.2.2.2.2.2.2.2.2.2.2.2.2.2]
  refine of_mem_routingSettings (P := (¬Meets ["bypass_hook_trust"] ·)) member ?_ ?_ <;>
    simp [meets_cons]

theorem exists_loaded
    (rules : Rules)
    (cli : List (String × Toml))
    (entries : Object)
    (other : entry.1 ≠ "bypass_hook_trust")
    (trusted : trusts (entries ++ [entry]) = true) :
    ∃ root, loadWithCliOverrides rules cli (entries ++ [entry]) =
      .ok (applyTomlOverride rules root (entry.1, jsonToToml entry.2)) := by
  have kept : Object.removeValue (entries ++ [entry]) "bypass_hook_trust" =
      entries.removeValue "bypass_hook_trust" ++ [entry] := by
    simp [Object.removeValue, other]
  rw [loadWithCliOverrides, if_pos trusted, kept, map_append, ← append_assoc,
    buildCliOverridesLayer, foldl_append]
  exact ⟨_, rfl⟩

/-- Admitted overrides leave the routing alone in every order if and only if
none of them meets a routing setting, unless the Engine refuses them. -/
theorem task_overrides_keep_routing_iff
    (rules : Rules)
    (routing : Routing)
    (asks : (message.get "method").bind Json.asString = some method)
    (told : (message.get "params").bind Json.asObject = some params)
    (given : (params.get "config").bind Json.asObject = some config)
    (admitted : request texts titles message = .ok next) :
    (∀ order layer, order.Perm config →
        loadWithCliOverrides rules routing.configuration order = .ok layer →
        KeepsRouting rules routing (startsTitle method params) layer) ↔
      (trusts config = true →
        ∀ entry ∈ config, SparesRouting (startsTitle method params) entry) := by
  have admits := admits_of_request asks told given admitted
  constructor
  · intro keeps trusted entry member
    by_contra touches
    obtain ⟨before, after, rfl⟩ := append_of_mem member
    have moved : (before ++ after ++ [entry]).Perm (before ++ entry :: after) := by
      rw [append_assoc]
      exact (perm_append_singleton entry after).append_left before
    obtain ⟨root, loaded⟩ := exists_loaded rules routing.configuration (before ++ after)
      (bypass_of_touches touches) ((trusts_perm moved).trans trusted)
    exact admits.not_keepsRouting member touches root (keeps _ _ moved loaded)
  · intro spares order layer shuffled loaded
    unfold loadWithCliOverrides at loaded
    split at loaded
    · rename_i trusted
      cases loaded
      rw [buildCliOverridesLayer, foldl_append]
      refine KeepsRouting.foldl (fun _ _ => .inl rfl) fun entry member => ?_
      exact spares ((trusts_perm shuffled).symm.trans trusted) entry
        (shuffled.mem_iff.mp (mem_filter.mp member).1)
    · cases loaded

/-- A task may disable a feature by its path. -/
theorem feature_path_keeps_routing :
    KeepsRouting .plain .loopback false
      (buildCliOverridesLayer .plain
        (Routing.loopback.configuration ++
          [("features.apps", .boolean false)])) := by
  have admitted : request .plain [] [("method", .string "thread/start"), ("params", .object
      [("config", .object [("features.apps", .bool false)])])] = .ok [] := by decide +kernel
  refine (task_overrides_keep_routing_iff .plain .loopback
    rfl rfl rfl admitted).mpr (fun _ => ?_)
    [("features.apps", .bool false)] _ (.refl _) rfl
  rintro entry inside ⟨setting, member, meets⟩
  have split : segments "features.apps" = ["features", "apps"] := by decide +kernel
  rw [mem_singleton.mp inside, split] at meets
  refine absurd meets (of_mem_routingSettings (P :=
      (¬Meets ["features", "apps"] ·)) member ?_ ?_) <;>
    simp [meets_cons]

/-- A task that sets a feature in a table replaces the features of the command
line. -/
theorem features_table_disturbs_routing :
    request .plain [] [("method", .string "thread/start"),
        ("params", .object [("config",
          .object [("features", .object [("apps", .bool false)])])])] =
        .ok [] ∧
      ∃ layer, loadWithCliOverrides .plain Routing.loopback.configuration
          [("features", .object [("apps", .bool false)])] = .ok layer ∧
        ¬KeepsRouting .plain .loopback false layer := by
  have admitted : request .plain [] [("method", .string "thread/start"), ("params", .object
      [("config", .object [("features", .object [("apps", .bool false)])])])] = .ok [] := by
    decide +kernel
  have admits := admits_of_request rfl rfl rfl admitted
  obtain ⟨root, loaded⟩ :=
    @exists_loaded ("features", .object [("apps", .bool false)]) .plain
      Routing.loopback.configuration [] (by decide) (by decide)
  refine ⟨admitted, _, loaded, admits.not_keepsRouting mem_cons_self ?_ root⟩
  intro spares
  refine absurd (spares ⟨"features.hooks", by decide, ?_⟩).1 (by decide)
  simp [segments_known, Meets]

end RouterEngineObserver

end Turnrail
