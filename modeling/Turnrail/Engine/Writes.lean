import Turnrail.Engine.KeyPath
import Turnrail.Engine.Overrides

/-!
# Edits of the user configuration

The Engine applies the edits of a request to the user configuration one by one.
An edit without a value clears its path, and another one is merged or put there.
The router refuses edits that touch the routing settings.
-/

namespace Turnrail

open Toml List

namespace ConfigManager

/-- What to do with the value that an edit finds. -/
inductive MergeStrategy
  | replace
  | upsert
  deriving DecidableEq

/-- An edit of the configuration. -/
structure Edit where
  keyPath : String
  value : Json
  strategy : MergeStrategy

/-- The edit of an object. -/
def readEdit (edit : Object) : Option Edit := do
  let path ← (edit.get "keyPath").bind Json.asString
  let value ← edit.get "value"
  match (edit.get "mergeStrategy").bind Json.asString with
  | some "replace" => some ⟨path, value, .replace⟩
  | some "upsert" => some ⟨path, value, .upsert⟩
  | _ => none

/-- The edits of a request. -/
def readEdits (method : String) (params : Object) : Option (List Edit) :=
  if method = "config/value/write" then (readEdit params).map ([·])
  else if method = "config/batchWrite" then
    ((params.get "edits").bind Json.asObjects).bind (·.mapM readEdit)
  else none

/-- What the Engine takes from its libraries. -/
structure Libraries where
  blank : Char → Bool
  index : String → Option Nat
  rules : Rules
  value : Json → Except String Toml
  entries_of_value : ∀ {item entries}, value item = .ok (.table entries) → ∃ fields,
    item = .object fields ∧ ∀ entry ∈ entries, ∃ inner, (entry.1, inner) ∈ fields

/-- Libraries that read truth values. -/
def Libraries.booleans : Libraries where
  blank := (· == ' ')
  index _ := none
  rules := .plain
  value
    | .bool value => .ok (.boolean value)
    | _ => .error "invalid value"
  entries_of_value {item _} read := by cases item <;> cases read

variable (libraries : Libraries)

/-- The value at a path, also inside lists. -/
def valueAtPath : List String → Toml → Option Toml
  | [], value => some value
  | key :: rest, .table fields => (fields.lookup key).bind (valueAtPath rest)
  | key :: rest, .array items =>
    ((libraries.index key).bind (items[·]?)).bind (valueAtPath rest)
  | _, _ => none

/-- How deep a path leads into a structured feature. -/
def structuredFeatureDepth (segments : List String) : Option Nat :=
  let depth := match segments with
    | profiles :: _ :: _ :: _ :: _ => some (if profiles = "profiles" then 4 else 2)
    | _ :: _ :: _ => some 2
    | _ => none
  depth.filter fun depth => isStructuredFeaturePath (segments.take depth)

/-- An edit switches a feature without losing its settings. -/
def preservesFeature (root : Toml) (segments : List String) (value : Toml) : Bool :=
  match structuredFeatureDepth segments with
  | none => false
  | some depth =>
    match valueAtPath libraries (segments.take depth) root with
    | some (.boolean _) => decide (depth < segments.length) || value.isTable
    | some (.table _) => segments.length == depth && (value matches .boolean _)
    | _ => false

/-- The two forms of a filter of the shell environment. -/
inductive FilterRepresentation
  | filters
  | legacy
  deriving DecidableEq

namespace FilterRepresentation

/-- The representation that a policy has. -/
def fromPolicy (policy : Toml) : Option FilterRepresentation :=
  if (policy.fields.lookup "filters").isSome then some .filters
  else if (policy.fields.lookup "exclude").isSome ||
    (policy.fields.lookup "include_only").isSome then
    some .legacy
  else none

/-- The form that an edit needs. -/
def fromEdit (value : Toml) : List String → Option FilterRepresentation
  | ["shell_environment_policy"] => fromPolicy value
  | "shell_environment_policy" :: "filters" :: _ => some .filters
  | "shell_environment_policy" :: field :: _ =>
    if field = "exclude" ∨ field = "include_only" then some .legacy else none
  | _ => none

end FilterRepresentation

/-- An edit changes the form of the filter. -/
def switchesRepresentation (root : Toml) (segments : List String) (value : Toml) : Bool :=
  match (root.fields.lookup "shell_environment_policy").bind FilterRepresentation.fromPolicy,
      FilterRepresentation.fromEdit value segments with
  | some current, some edited => current != edited
  | _, _ => false

/-- A value alone at a path. -/
def sparseOverlay (segments : List String) (value : Toml) : Toml :=
  segments.foldr (fun segment value => .table [(segment, value)]) value

/-- Merge a value into the configuration. -/
def applyMerge (root : Toml) (segments : List String)
  (value : Toml) (strategy : MergeStrategy) :
    Except String Toml :=
  if preservesFeature libraries root segments value || strategy == .upsert &&
      (segments.take 3 == ["features", "network_proxy", "credentials"] ||
        switchesRepresentation root segments value ||
        (valueAtPath libraries segments root).any Toml.isTable && value.isTable) then
    .ok (mergeAtPath libraries.rules [] root (sparseOverlay segments value))
  else
    match valueAt segments.dropLast root with
    | none | some (.table _) =>
      .ok (put (fun _ current => current) (fun _ _ value => value) value []
        segments root)
    | _ => .error "cannot set value on non-table parent"

/-- Remove the value at a path. -/
def clearPath : List String → Toml → Toml
  | [last], .table fields => .table (fields.filter fun field => field.1 ≠ last)
  | key :: next :: rest, .table fields =>
    match fields.lookup key with
    | some value => .table (insert key (clearPath (next :: rest) value) fields)
    | none => .table fields
  | _, root => root

/-- Apply an edit to the configuration. -/
def applyEdit (root : Toml) (edit : Edit) : Except String Toml := do
  let segments ← parseKeyPath libraries.blank edit.keyPath
  match edit.value with
  | .null => .ok (clearPath segments root)
  | value => applyMerge libraries root segments (← libraries.value value) edit.strategy

/-- Apply some edits in turn. -/
def applyEdits (root : Toml) (edits : List Edit) : Except String Toml :=
  edits.foldlM (applyEdit libraries) root

variable {libraries} {segments target : List String} {root value : Toml}

theorem valueAt_clearPath (apart : ¬Meets segments target) :
    valueAt target (clearPath segments root) = valueAt target root := by
  fun_induction clearPath segments root generalizing target with
  | case1 last fields =>
    cases target with
    | nil => exact absurd (.inr nil_prefix) apart
    | cons first others =>
      rw [meets_cons, not_and] at apart
      have different : first ≠ last := fun same => apart same.symm (.inl nil_prefix)
      simp only [valueAt, Toml.fields]
      congr 1
      induction fields with
      | nil => rfl
      | cons field rest ih =>
        obtain ⟨name, value⟩ := field
        rw [filter_cons, lookup_cons]
        split <;> simp_all [lookup_cons]
  | case2 key next rest fields value found ih =>
    cases target with
    | nil => exact absurd (.inr nil_prefix) apart
    | cons first others =>
      rw [meets_cons, not_and] at apart
      simp only [valueAt, Toml.fields, lookup_insert]
      split
      · rename_i same
        subst same
        rw [found]
        exact ih (apart rfl)
      · rfl
  | case3 => rfl
  | case4 => rfl

theorem misses_sparseOverlay (apart : ¬Meets segments target) :
    Misses target (sparseOverlay segments value) := by
  induction segments generalizing target with
  | nil => exact absurd (.inl nil_prefix) apart
  | cons key rest ih =>
    cases target with
    | nil => exact absurd (.inr nil_prefix) apart
    | cons first others =>
      rw [meets_cons, not_and] at apart
      intro inner member
      obtain ⟨same, rfl⟩ := Prod.mk.inj (mem_singleton.mp member)
      exact ih (apart same.symm)

theorem applyMerge_cases
    {strategy : MergeStrategy}
    {after : Toml}
    (applied : applyMerge libraries root segments value strategy = .ok after) :
    after = mergeAtPath libraries.rules [] root (sparseOverlay segments value) ∨
      after = put (fun _ current => current) (fun _ _ value =>
        value) value [] segments root ∧ (strategy = .upsert →
        ∀ old new, valueAtPath libraries segments root = some (.table old) →
        value ≠ .table new) := by
  unfold applyMerge at applied
  split at applied
  · exact .inl (Except.ok.inj applied).symm
  · rename_i kept
    refine .inr ⟨?_, ?_⟩
    · split at applied <;> cases applied <;> rfl
    · rintro rfl old new found rfl
      simp [found, isTable] at kept

variable {names : List String} {before after : Toml} {edit : Edit}

/-- What the Engine does with an edit that it accepts. -/
theorem applyEdit_eq_ok :
    applyEdit libraries before edit = .ok after ↔
      ∃ names, parseKeyPath libraries.blank edit.keyPath = .ok names ∧
      (edit.value = .null ∧ clearPath names before = after ∨
        edit.value ≠ .null ∧ ∃ value, libraries.value edit.value = .ok value ∧
        applyMerge libraries before names value edit.strategy = .ok after) := by
  unfold applyEdit
  rw [bind_eq_ok]
  refine exists_congr fun names => and_congr_right fun _ => ?_
  split
  · rename_i null
    simp [null]
  · rename_i given
    have present : edit.value ≠ .null := given
    simp [present, bind_eq_ok]

/-- A cleared path has no value. -/
theorem valueAt_clearPath_self (filled : segments ≠ []) :
    valueAt segments (clearPath segments root) = none := by
  fun_induction clearPath segments root with
  | case1 last fields =>
    rw [valueAt, Toml.fields, lookup_eq_none_iff.mpr, Option.bind_none]
    intro entry member
    rw [bne_iff_ne]
    rintro rfl
    simp at member
  | case2 key next rest fields value found ih =>
    rw [valueAt, Toml.fields, lookup_insert, if_pos rfl, Option.bind_some]
    exact ih (by simp)
  | case3 key next rest fields absent => simp [valueAt, Toml.fields, absent]
  | case4 keys root single several =>
    cases keys with
    | nil => exact absurd rfl filled
    | cons key keys =>
      cases root with
      | table fields =>
        cases keys with
        | nil => exact (single key fields rfl rfl).elim
        | cons next rest => exact (several key next rest fields rfl rfl).elim
      | _ => rfl

theorem valueAt_sparseOverlay :
    valueAt segments (sparseOverlay segments value) = some value := by
  induction segments with
  | nil => rfl
  | cons key rest ih => simpa [sparseOverlay, valueAt, Toml.fields] using ih

/-- A value that is put into an empty configuration. -/
theorem applyMerge_empty
    {strategy : MergeStrategy}
    (filled : segments ≠ [])
    (other : segments.take 3 ≠ ["features", "network_proxy", "credentials"]) :
    ∃ after,
      applyMerge libraries (.table []) segments value strategy = .ok after ∧
      valueAt segments after = some value := by
  obtain ⟨key, rest, rfl⟩ := exists_cons_of_ne_nil filled
  have kept : preservesFeature libraries (.table []) (key :: rest) value = false := by
    unfold preservesFeature
    cases structuredFeatureDepth (key :: rest) with
    | none => rfl
    | some depth => cases depth <;> rfl
  have switched : switchesRepresentation (.table []) (key :: rest) value = false := rfl
  have found : valueAtPath libraries (key :: rest) (.table []) = none := rfl
  have parent : valueAt (key :: rest).dropLast (.table []) = none ∨
      valueAt (key :: rest).dropLast (.table []) = some (.table []) := by
    cases rest with
    | nil => exact .inr rfl
    | cons => exact .inl rfl
  refine ⟨put (fun _ current => current) (fun _ _ value => value) value [] (key :: rest)
    (.table []), ?_, ?_⟩
  · unfold applyMerge
    rw [kept, switched, found, if_neg (by simpa using fun _ => other)]
    rcases parent with none | table
    · rw [none]
    · rw [table]
  · obtain ⟨_, stored⟩ :=
      @valueAt_put (fun _ current => current) (fun _ _ value => value) value
      [] (key :: rest) (.table []) filled
    exact stored

/-- A scalar of a key path structures it or is a part of a segment. -/
theorem mem_of_scan
    {scalars : List Char}
    {read : List (List Char)}
    {segment : List Char}
    {quoted : Bool}
    (scans : scan scalars read segment quoted = .ok names) :
    names ≠ [] ∧ ∀ scalar,
      scalar ∈ scalars ∨ scalar ∈ segment ∨ scalar ∈ read.flatten →
      scalar ∈ ['"', '\\', '.'] ∨ ∃ name ∈ names, scalar ∈ name.toList := by
  fun_induction scan scalars read segment quoted with
  | case1 | case2 | case6 | case8 | case10 => cases scans
  | case3 read segment =>
    cases scans
    refine ⟨by simp, fun scalar inside => .inr ?_⟩
    rcases inside with none | here | earlier
    · cases none
    · exact ⟨String.ofList segment, by simp, by simpa using here⟩
    · obtain ⟨ended, listed, inside⟩ := mem_flatten.mp earlier
      exact ⟨String.ofList ended, mem_map_of_mem (by simp [listed]), by simpa using inside⟩
  | case4 | case5 | case7 | case9 | case11 =>
    rename_i ih
    have rest := ih scans
    grind [flatten_cons]

theorem mem_of_parseKeyPath
    {blank : Char → Bool}
    {path : String}
    (accepted : parseKeyPath blank path = .ok names) :
    names ≠ [] ∧ ∀ scalar ∈ path.toList,
      scalar ∈ ['"', '\\', '.'] ∨ ∃ name ∈ names, scalar ∈ name.toList := by
  unfold parseKeyPath at accepted
  split at accepted
  · cases accepted
  · simpa using mem_of_scan accepted

end ConfigManager

namespace RouterEngineObserver

open ConfigManager

variable {texts : Texts} {libraries : Libraries}

/-- The Engine reads the key path of an edit away from every routing setting, or
the edit merges a table that names none into the features.  It also spares the
settings if its value cannot be read, because it is refused then. -/
def Spares (libraries : Libraries) (edit : Edit) : Prop :=
  ∀ names, parseKeyPath libraries.blank edit.keyPath = .ok names →
    (∀ setting ∈ routingSettings, ¬Meets names (segments setting)) ∨
      (names = ["features"] ∧ ∃ entries,
        libraries.value edit.value = .ok (.table entries) ∧
          ∀ name ∈ ["hooks", "remote_models"], ∀ value, (name, value) ∉ entries) ∨
      edit.value ≠ .null ∧ ∃ reason, libraries.value edit.value = .error reason

variable {object : Object} {edit : Edit}

theorem readEdit_eq_some (read : readEdit object = some edit) :
    (object.get "keyPath").bind Json.asString = some edit.keyPath ∧
      object.get "value" = some edit.value ∧
      ((object.get "mergeStrategy").bind Json.asString = some "replace" ∨
        edit.strategy = .upsert) := by
  obtain ⟨path, first, read⟩ := Option.bind_eq_some_iff.mp read
  obtain ⟨value, second, read⟩ := Option.bind_eq_some_iff.mp read
  split at read <;> cases read <;> simp_all

variable {names : List String} {setting : String}

/-- The routing settings are as before. -/
def SameSettings (before after : Toml) : Prop :=
  ∀ setting ∈ routingSettings,
    valueAt (segments setting) after = valueAt (segments setting) before

theorem plain_routing (member : setting ∈ routingSettings) :
    Toml.Plain [] (segments setting) := by
  refine of_mem_routingSettings (P := Toml.Plain []) member ?_ ?_
  · intro name _ front leads different
    rcases prefix_cons_iff.mp leads with rfl | ⟨_, rfl, last⟩
    · rfl
    · exact absurd (by rw [prefix_nil.mp last]) different
  · intro name _ front leads different
    rcases prefix_cons_iff.mp leads with rfl | ⟨_, rfl, last⟩
    · rfl
    · rcases prefix_cons_iff.mp last with rfl | ⟨_, rfl, none⟩
      · rfl
      · exact absurd (by rw [prefix_nil.mp none]) different

variable {after before : Toml}

theorem applyEdit_of_apart
    (accepted : parseKeyPath libraries.blank edit.keyPath = .ok names)
    (apart : ∀ setting ∈ routingSettings, ¬Meets names (segments setting))
    (applied : applyEdit libraries before edit = .ok after) :
    SameSettings before after := by
  intro setting member
  obtain ⟨_, again, applied⟩ := applyEdit_eq_ok.mp applied
  cases accepted.symm.trans again
  rcases applied with ⟨-, rfl⟩ | ⟨-, value, -, applied⟩
  · exact valueAt_clearPath (apart setting member)
  · rcases applyMerge_cases applied with rfl | ⟨rfl, -⟩
    · exact (misses_sparseOverlay (apart setting member)).valueAt_merge (plain_routing member)
    · exact valueAt_put_of_apart (apart setting member) fun _ _ _ => rfl

variable {entries : Toml.Table}

theorem applyEdit_features
    (accepted : parseKeyPath libraries.blank edit.keyPath = .ok ["features"])
    (upserts : edit.strategy = .upsert)
    (reads : libraries.value edit.value = .ok (.table entries))
    (absent :
      ∀ name ∈ ["hooks", "remote_models"], ∀ value, (name, value) ∉ entries)
    (applied : applyEdit libraries before edit = .ok after) :
    SameSettings before after := by
  obtain ⟨_, again, applied⟩ := applyEdit_eq_ok.mp applied
  cases accepted.symm.trans again
  have merged : applyMerge libraries before ["features"] (.table entries) edit.strategy =
      .ok after := by
    rcases applied with ⟨null, -⟩ | ⟨-, value, same, applied⟩
    · obtain ⟨fields, object, -⟩ := libraries.entries_of_value (null ▸ reads)
      cases object
    · cases reads.symm.trans same
      exact applied
  have merged := applyMerge_cases merged
  intro setting member
  have plain := plain_routing member
  revert plain
  refine of_mem_routingSettings (P := fun target => Toml.Plain [] target →
    valueAt target after = valueAt target before) member ?_ ?_
  · intro name named plain
    have apart : ¬Meets ["features"] [name] := by
      rw [meets_cons, not_and]
      rintro rfl
      simp at named
    rcases merged with rfl | ⟨rfl, -⟩
    · exact (misses_sparseOverlay apart).valueAt_merge plain
    · exact valueAt_put_of_apart apart fun _ _ _ => rfl
  · intro name named plain
    rcases merged with rfl | ⟨rfl, other⟩
    · refine Misses.valueAt_merge ?_ plain
      intro inner inside
      cases (Prod.mk.inj (mem_singleton.mp inside)).2
      exact fun value below => absent name named value below
    · have after : valueAt ["features", name] (put (fun _ current => current)
          (fun _ _ value => value) (.table entries) [] ["features"] before) = none := by
        simp only [put, valueAt, fields, lookup_insert, if_true, Option.bind_some]
        rw [lookup_eq_none_iff.mpr, Option.bind_none]
        intro entry listed
        rw [bne_iff_ne]
        rintro rfl
        exact absent _ named _ listed
      rw [after, eq_comm, Option.eq_none_iff_forall_not_mem]
      intro value found
      obtain ⟨features, here, found⟩ := Option.bind_eq_some_iff.mp found
      cases before with
      | table root =>
        have here : root.lookup "features" = some features := here
        cases features with
        | table old => exact other upserts old entries (by simp [valueAtPath, here]) rfl
        | _ => cases found
      | _ => cases here

/-- The router refuses to replace the features. -/
theorem upserts_of_admitted
    (accepted : parseKeyPath libraries.blank edit.keyPath = .ok ["features"])
    (read : readEdit object = some edit)
    (admitted : changesRouting texts object = false) :
    edit.strategy = .upsert := by
  obtain ⟨named, -, merges⟩ := readEdit_eq_some read
  have printable : ∀ scalar ∈ edit.keyPath.toList, Text.Printable scalar := by
    intro scalar inside
    rcases (mem_of_parseKeyPath accepted).2 scalar inside with structural
      | ⟨name, only, inside⟩
    · exact Text.printable_of_all (by decide) scalar structural
    · obtain rfl := mem_singleton.mp only
      exact Text.printable_of_all (by decide) scalar inside
  have path := configurationPath_of_printable texts printable accepted
  have joined : ".".intercalate ["features"] = "features" := rfl
  refine merges.resolve_left fun replaces => ?_
  simp [changesRouting, named, path, joined, replaces] at admitted

theorem Spares.sameSettings
    (spares : Spares libraries edit)
    (read : readEdit object = some edit)
    (admitted : changesRouting texts object = false)
    (applied : applyEdit libraries before edit = .ok after) :
    SameSettings before after := by
  obtain ⟨names, accepted, does⟩ := applyEdit_eq_ok.mp applied
  rcases spares names accepted with apart | ⟨rfl, entries, reads, absent⟩ | ⟨given, _, unread⟩
  · exact applyEdit_of_apart accepted apart applied
  · exact applyEdit_features accepted (upserts_of_admitted accepted read admitted) reads absent
      applied
  · rcases does with ⟨null, -⟩ | ⟨-, value, reads, -⟩
    · exact absurd null given
    · cases unread.symm.trans reads

theorem not_sameSettings
    (member : setting ∈ routingSettings)
    (leads : segments setting <+: names)
    (changed : valueAt names after ≠ valueAt names before) :
    ¬SameSettings before after := by
  intro same
  obtain ⟨rest, rfl⟩ := leads
  exact changed (by rw [valueAt_append, valueAt_append, same setting member])

/-- Whatever is done at a routing setting or below it changes some
configuration. -/
theorem exists_changed_below
    (accepted : parseKeyPath libraries.blank edit.keyPath = .ok names)
    (member : setting ∈ routingSettings)
    (leads : segments setting <+: names)
    (readable : edit.value = .null ∨
      ∃ value, libraries.value edit.value = .ok value) :
    ∃ before after, applyEdit libraries before edit = .ok after ∧
      ¬SameSettings before after := by
  have filled := (mem_of_parseKeyPath accepted).1
  by_cases null : edit.value = .null
  · refine ⟨sparseOverlay names (.boolean true), _,
      applyEdit_eq_ok.mpr ⟨names, accepted, .inl ⟨null, rfl⟩⟩,
        not_sameSettings member leads ?_⟩
    rw [valueAt_clearPath_self filled, valueAt_sparseOverlay]
    simp
  · obtain ⟨value, reads⟩ := readable.resolve_left null
    have other : names.take 3 ≠ ["features", "network_proxy", "credentials"] := by
      obtain ⟨rest, rfl⟩ := leads
      refine of_mem_routingSettings (P := fun target => (target ++ rest).take 3 ≠
        ["features", "network_proxy", "credentials"]) member ?_ ?_ <;> simp
    obtain ⟨after, merged, found⟩ :=
      @applyMerge_empty libraries names value edit.strategy filled
      other
    refine ⟨.table [], after, applyEdit_eq_ok.mpr ⟨names, accepted, .inr ⟨null, value, reads,
      merged⟩⟩, not_sameSettings member leads ?_⟩
    obtain ⟨key, rest, rfl⟩ := exists_cons_of_ne_nil filled
    rw [found]
    exact Option.some_ne_none value

/-- The features lose the hooks unless a table is merged into them that names no
routing setting. -/
theorem exists_changed_features
    (accepted : parseKeyPath libraries.blank edit.keyPath = .ok ["features"])
    (readable : edit.value = .null ∨
      ∃ value, libraries.value edit.value = .ok value)
    (names : ∀ entries, libraries.value edit.value = .ok (.table entries) →
      ∃ name ∈ ["hooks", "remote_models"], ∃ value, (name, value) ∈ entries) :
    ∃ before after, applyEdit libraries before edit = .ok after ∧
      ¬SameSettings before after := by
  have hooked : ∀ after, valueAt ["features", "hooks"] after = none →
      ¬SameSettings (.table [("features", .table [("hooks", .boolean true)])]) after := by
    intro after lost same
    have kept := same "features.hooks" (by decide)
    rw [segments_known.2.2.2.2.2.2.1, lost] at kept
    cases kept
  by_cases null : edit.value = .null
  · exact ⟨_, _, applyEdit_eq_ok.mpr ⟨_, accepted, .inl ⟨null, rfl⟩⟩, hooked _ rfl⟩
  · obtain ⟨value, reads⟩ := readable.resolve_left null
    by_cases table : ∃ entries, value = .table entries
    · obtain ⟨entries, rfl⟩ := table
      obtain ⟨name, named, inner, inside⟩ := names entries reads
      obtain ⟨after, merged, found⟩ :=
        @applyMerge_empty libraries ["features"] (.table entries)
        edit.strategy (by simp) (by simp)
      have protects : ∃ setting ∈ routingSettings, segments setting = ["features", name] := by
        rcases mem_pair.mp named with rfl | rfl
        · exact ⟨"features.hooks", by decide, segments_known.2.2.2.2.2.2.1⟩
        · exact ⟨"features.remote_models", by decide, segments_known.2.2.2.2.2.2.2.1⟩
      obtain ⟨setting, member, split⟩ := protects
      refine ⟨.table [], after,
        applyEdit_eq_ok.mpr ⟨_, accepted, .inr ⟨null, _, reads, merged⟩⟩,
        not_sameSettings member (by rw [split]) fun lost => ?_⟩
      have added : entries.lookup name = none := by
        have whole := valueAt_append ["features"] [name] after
        rw [found, Option.bind_some, singleton_append, lost] at whole
        simpa [valueAt, fields] using whole.symm
      simpa using lookup_eq_none_iff.mp added (name, inner) inside
    · have bare : value.isTable = false ∧ value.fields = [] := by
        cases value with
        | table entries => exact absurd ⟨entries, rfl⟩ table
        | _ => exact ⟨rfl, rfl⟩
      refine ⟨_, put (fun _ current => current) (fun _ _ value => value) value [] ["features"]
        (.table [("features", .table [("hooks", .boolean true)])]),
        applyEdit_eq_ok.mpr ⟨_, accepted, .inr ⟨null, value, reads, ?_⟩⟩, hooked _ ?_⟩
      · simp [applyMerge, preservesFeature, structuredFeatureDepth, switchesRepresentation,
          FilterRepresentation.fromEdit, valueAt, bare.1]
      · rw [put, valueAt, fields, lookup_insert, if_pos rfl, Option.bind_some, valueAt, bare.2]
        rfl

/-- An edit that does not spare the settings changes them in some
configuration. -/
theorem exists_changed (touches : ¬Spares libraries edit) :
    ∃ before after, applyEdit libraries before edit = .ok after ∧
      ¬SameSettings before after := by
  simp only [Spares, not_forall, not_or] at touches
  obtain ⟨names, accepted, met, features, refused⟩ := touches
  have readable : edit.value = .null ∨ ∃ value, libraries.value edit.value = .ok value := by
    cases reads : libraries.value edit.value with
    | error reason => exact .inl (not_not.mp fun given => refused ⟨given, reason, reads⟩)
    | ok value => exact .inr ⟨value, rfl⟩
  obtain ⟨setting, member, meets⟩ := met
  rcases meets_routing member (not_not.mp meets) with none | rfl | leads
  · exact absurd none (mem_of_parseKeyPath accepted).1
  · refine exists_changed_features accepted readable fun entries reads => ?_
    by_contra absent
    refine features ⟨rfl, entries, reads, fun name named value inside => ?_⟩
    exact absent ⟨name, named, value, inside⟩
  · exact exists_changed_below accepted member leads readable

variable {edits : List Edit}

theorem exists_of_mapM
    {objects : List Object}
    (reads : objects.mapM readEdit = some edits)
    (member : edit ∈ edits) :
    ∃ object ∈ objects, readEdit object = some edit := by
  induction objects generalizing edits with
  | nil =>
    cases reads
    cases member
  | cons object rest ih =>
    rw [mapM_cons] at reads
    obtain ⟨first, here, reads⟩ := Option.bind_eq_some_iff.mp reads
    obtain ⟨others, later, same⟩ := Option.bind_eq_some_iff.mp reads
    cases same
    rcases mem_cons.mp member with rfl | member
    · exact ⟨object, mem_cons_self, here⟩
    · obtain ⟨found, inside, read⟩ := ih later member
      exact ⟨found, mem_cons_of_mem _ inside, read⟩

variable {titles next : List String} {method : String} {message params : Object}

theorem admitted_of_request
    (asks : (message.get "method").bind Json.asString = some method)
    (told : (message.get "params").bind Json.asObject = some params)
    (admitted : request texts titles message = .ok next)
    (reads : readEdits method params = some edits) :
    ∀ edit ∈ edits, ∃ object, readEdit object = some edit ∧
      changesRouting texts object = false := by
  unfold request at admitted
  simp only [asks, told] at admitted
  obtain ⟨_, -, admitted⟩ := bind_eq_ok.mp admitted
  obtain ⟨_, -, admitted⟩ := bind_eq_ok.mp admitted
  obtain ⟨_, checked, -⟩ := bind_eq_ok.mp admitted
  unfold checkEdits at checked
  unfold readEdits at reads
  split at reads
  · rename_i single
    obtain ⟨edit, read, rfl⟩ := Option.map_eq_some_iff.mp reads
    intro other member
    obtain rfl := mem_singleton.mp member
    refine ⟨params, read, Bool.eq_false_iff.mpr fun changes => ?_⟩
    simp [single, changes] at checked
  · rename_i other
    split at reads
    · rename_i batch
      obtain ⟨objects, listed, reads⟩ := Option.bind_eq_some_iff.mp reads
      have spared : ∀ object ∈ objects, changesRouting texts object = false := by
        simpa [batch, listed] using checked
      intro edit member
      obtain ⟨object, inside, read⟩ := exists_of_mapM reads member
      exact ⟨object, read, spared object inside⟩
    · cases reads

/-- An admitted edit leaves the routing settings of every configuration as they
were exactly if the Engine reads it away from them.  A list of such edits leaves
them as they were. -/
theorem configuration_edits_keep_routing
    (libraries : Libraries)
    {texts : Texts}
    (asks : (message.get "method").bind Json.asString = some method)
    (told : (message.get "params").bind Json.asObject = some params)
    (admitted : request texts titles message = .ok next)
    (reads : readEdits method params = some edits) :
    (∀ edit ∈ edits,
      (∀ before after, applyEdit libraries before edit = .ok after →
        SameSettings before after) ↔ Spares libraries edit) ∧
      ((∀ edit ∈ edits, Spares libraries edit) →
        ∀ before after, applyEdits libraries before edits = .ok after →
          SameSettings before after) := by
  have each := admitted_of_request asks told admitted reads
  have spared : ∀ edit ∈ edits, Spares libraries edit → ∀ before after,
      applyEdit libraries before edit = .ok after → SameSettings before after := by
    intro edit member spares before after applied
    obtain ⟨object, read, passed⟩ := each edit member
    exact spares.sameSettings read passed applied
  refine ⟨fun edit member => ⟨fun keeps => ?_, spared edit member⟩, fun spares => ?_⟩
  · by_contra touches
    obtain ⟨before, after, applied, changed⟩ := exists_changed touches
    exact changed (keeps before after applied)
  · clear reads each
    induction edits with
    | nil =>
      rintro before after ⟨⟩
      exact fun _ _ => rfl
    | cons edit rest ih =>
      obtain ⟨here, others⟩ := forall_mem_cons.mp spares
      obtain ⟨first, later⟩ := forall_mem_cons.mp spared
      intro before after applied
      obtain ⟨middle, start, applied⟩ := bind_eq_ok.mp applied
      have step := first here before middle start
      have further := ih later others middle after applied
      exact fun setting member => (further setting member).trans (step setting member)

namespace Sample

/-- An edit that trusts a project whose name has an accent. -/
def trust : Edit := ⟨"projects.\"/cafe\u0301\".trust_level", .bool true, .upsert⟩

/-- The request with that edit. -/
def trusting : Object :=
  [("method", .string "config/value/write"), ("params", .object
    [("keyPath", .string trust.keyPath), ("value", .bool true),
      ("mergeStrategy", .string "upsert")])]

end Sample

/-- An edit of another setting is admitted, and the accent in its path does no
harm. -/
theorem project_edit_keeps_routing :
    request .plain [] Sample.trusting = .ok [] ∧
      ∃ after,
        applyEdits .booleans (.table [("model_provider", .string "openai")])
          [Sample.trust] = .ok after ∧
        SameSettings (.table [("model_provider", .string "openai")]) after := by
  have admitted : request .plain [] Sample.trusting = .ok [] := by decide +kernel
  have accepted : parseKeyPath Libraries.booleans.blank Sample.trust.keyPath =
      .ok ["projects", "/cafe\u0301", "trust_level"] := by decide +kernel
  have spares : Spares .booleans Sample.trust := by
    intro names again
    cases accepted.symm.trans again
    refine .inl fun setting member => ?_
    refine of_mem_routingSettings
      (P := (¬Meets ["projects", "/cafe\u0301", "trust_level"] ·)) member ?_ ?_ <;>
      simp [meets_cons]
  have applied : ∃ after, applyEdits .booleans (.table [("model_provider", .string "openai")])
      [Sample.trust] = .ok after := by
    simp only [applyEdits, applyEdit, foldlM, accepted]
    exact ⟨_, rfl⟩
  obtain ⟨after, applied⟩ := applied
  obtain ⟨-, keeps⟩ := configuration_edits_keep_routing .booleans rfl rfl admitted rfl
  refine ⟨admitted, after, applied, keeps (fun edit member => ?_) _ _ applied⟩
  rw [mem_singleton.mp member]
  exact spares

/-- An edit without a value removes the features of the routing. -/
theorem cleared_features_lose_routing :
    request .plain [] [("method", .string "config/value/write"),
        ("params", .object [("keyPath", .string "features"),
          ("value", .null), ("mergeStrategy", .string "upsert")])] = .ok [] ∧
      applyEdits .booleans
        (.table [("features", .table [("hooks", .boolean true)])])
        [⟨"features", .null, .upsert⟩] = .ok (.table []) ∧
      ¬SameSettings (.table [("features", .table [("hooks", .boolean true)])])
        (.table []) := by
  have accepted : parseKeyPath Libraries.booleans.blank "features" = .ok ["features"] := by
    decide +kernel
  refine ⟨by decide +kernel, ?_, fun same => ?_⟩
  · simp only [applyEdits, applyEdit, foldlM, accepted]
    rfl
  · have lost := same "features.hooks" (by decide)
    rw [segments_known.2.2.2.2.2.2.1] at lost
    cases lost

end RouterEngineObserver

end Turnrail
