import Turnrail.Foundation

/-!
# The command line path of helpers

Helpers of a task must call the official command line tool and not the router
again.  A task that is started, resumed or forked with a configuration gets the
official path wherever the configuration gives the router to a helper.

The router joins keys to a path and compares characters.  The settings that are
meant are given by the keys and their scalars.  Both agree unless a scalar is
combined with one of the dots, or the outermost key is empty.
-/

namespace Turnrail

open Object

namespace RouterHelperConfiguration

variable (texts : Texts) (router engine : String)

/-- The path of a key below a path. -/
def extend (parent key : String) : String :=
  if parent.isEmpty then key else parent ++ "." ++ key

/-- A path of the command of a helper. -/
def isHelperPath (path : String) : Bool :=
  texts.segmentation.hasPrefix path "mcp_servers." &&
    texts.segmentation.hasSuffix path ".env.CODEX_CLI_PATH"

/-- A value is the path of the router. -/
def isRouter (value : Json) : Bool :=
  match value.asString with
  | some text => texts.same text router
  | none => false

mutual

/-- Correct the values below a path. -/
def rewriteValue (path : String) : Json → Json
  | .object fields => .object (rewrite path fields)
  | value =>
    if isHelperPath texts path && isRouter texts router value then .string engine
    else value

/-- Rewrite the values of an object.  Each key is assigned in its place. -/
def rewrite (parent : String) : Object → Object
  | [] => []
  | (key, value) :: rest =>
    (key, rewriteValue (extend parent key) value) :: rewrite parent rest

end

/-- The configuration of a task that is loaded, with the parameters around it. -/
def loaded (message : Object) : Option (Object × Object) := do
  let method ← (message.get "method").bind Json.asString
  let params ← (message.get "params").bind Json.asObject
  let config ← (params.get "config").bind Json.asObject
  if ["thread/start", "thread/resume", "thread/fork"].contains method then
    some (params, config)
  else none

/-- Correct the configuration of a message. -/
def prepare (message : Object) : Object :=
  match loaded message with
  | none => message
  | some (params, config) =>
    message.set "params" (.object
      (params.set "config" (.object (rewrite texts router engine "" config))))

/-- The value at the end of a path of keys. -/
def valueAt : List String → Json → Option Json
  | [], value => some value
  | key :: rest, .object fields => (get fields key).bind (valueAt rest)
  | _ :: _, _ => none

/-- The dotted path of keys. -/
def dotted : List String → String
  | [] => ""
  | [key] => key
  | key :: next :: rest => key ++ "." ++ dotted (next :: rest)

/-- A path that gives a command line path to a helper. -/
def Helps (path : String) : Prop :=
  "mcp_servers.".toList <+: path.toList ∧ ".env.CODEX_CLI_PATH".toList <:+ path.toList

instance (path : String) : Decidable (Helps path) :=
  inferInstanceAs (Decidable (_ ∧ _))

/-- A value without keys. -/
def IsLeaf (value : Json) : Prop :=
  value.asObject = none

/-- The keys lead to the router. -/
def Routes (config : Json) (keys : List String) : Prop :=
  ∃ text, valueAt keys config = some (.string text) ∧ texts.same text router = true

section Rewriting

variable {texts router engine}
variable {path : String} {value : Json} {fields : Object}

theorem rewriteValue_of_isLeaf (leaf : IsLeaf value) :
    rewriteValue texts router engine path value =
      if isHelperPath texts path && isRouter texts router value then
        .string engine
      else value := by
  rw [rewriteValue]
  rintro fields rfl
  cases leaf

theorem get_rewrite (key : String) :
    (rewrite texts router engine path fields).get key = (fields.get key).map
        (rewriteValue texts router engine (extend path key)) := by
  induction fields with
  | nil => simp [rewrite, Object.get]
  | cons field rest ih =>
    obtain ⟨name, value⟩ := field
    rw [rewrite, Object.get_cons, Object.get_cons, ih]
    split
    · rename_i same
      rw [same]
      rfl
    · rfl

theorem isLeaf_rewriteValue (leaf : IsLeaf value) :
    IsLeaf (rewriteValue texts router engine path value) := by
  rw [rewriteValue_of_isLeaf leaf]
  split
  · rfl
  · exact leaf

theorem valueAt_cons_of_isLeaf
    {key : String}
    {rest : List String}
    (leaf : IsLeaf value) :
    valueAt (key :: rest) value = none := by
  cases value with
  | object fields => cases leaf
  | null | bool | number | string | array => rfl

theorem valueAt_rewriteValue (keys : List String) :
    valueAt keys (rewriteValue texts router engine path value) =
      (valueAt keys value).map
        (rewriteValue texts router engine (keys.foldl extend path)) := by
  induction keys generalizing path value with
  | nil => rfl
  | cons key rest ih =>
    by_cases leaf : IsLeaf value
    · rw [valueAt_cons_of_isLeaf leaf, valueAt_cons_of_isLeaf (isLeaf_rewriteValue leaf)]
      rfl
    · cases value with
      | object fields =>
        rw [rewriteValue, valueAt, valueAt, get_rewrite]
        cases get fields key with
        | none => rfl
        | some below => exact ih
      | null | bool | number | string | array => exact absurd rfl leaf

end Rewriting

/-- No scalar is combined with a dot that decides about a path. -/
def Bounded (path : String) : Prop :=
  (∀ rest, path.toList = "mcp_servers.".toList ++ rest →
    ∀ next ∈ rest.head?, texts.segmentation.attaches next = false) ∧
  ∀ start, path.toList = start ++ ".env.CODEX_CLI_PATH".toList →
    ∀ last ∈ start.getLast?, texts.segmentation.prepends last = false

/-- The keys mean what the router takes them for. -/
def Clear (keys : List String) : Prop :=
  (Helps (dotted keys) → Bounded texts (dotted keys)) ∧
  (keys.head? = some "" → ¬ (Helps (dotted (keys.dropWhile (·.isEmpty))) ∧
      Bounded texts (dotted (keys.dropWhile (·.isEmpty)))))

section Paths

variable {texts} {parent path : String} {keys : List String}

theorem dotted_extended
    (key : String)
    (rest : List String) :
    dotted ((parent ++ "." ++ key) :: rest) =
      dotted (parent :: key :: rest) := by
  cases rest with
  | nil => rfl
  | cons next rest => simp only [dotted, String.append_assoc]

theorem foldl_extend (filled : parent ≠ "") :
    keys.foldl extend parent = dotted (parent :: keys) := by
  induction keys generalizing parent with
  | nil => rfl
  | cons key rest ih =>
    have kept : parent.isEmpty = false := by
      rw [Bool.eq_false_iff, ne_eq, String.isEmpty_iff]
      exact filled
    have longer : parent ++ "." ++ key ≠ "" := by simp
    rw [List.foldl_cons, extend, kept, if_neg (by decide), ih longer, dotted_extended]

theorem foldl_extend_empty :
    keys.foldl extend "" = dotted (keys.dropWhile (·.isEmpty)) := by
  induction keys with
  | nil => rfl
  | cons key rest ih =>
    have first : extend "" key = key := rfl
    rw [List.foldl_cons, first, List.dropWhile_cons]
    by_cases empty : key = ""
    · subst empty
      exact ih
    · have kept : key.isEmpty = false := by
        rw [Bool.eq_false_iff, ne_eq, String.isEmpty_iff]
        exact empty
      rw [foldl_extend empty, kept]
      rfl

theorem isHelperPath_iff :
    isHelperPath texts path = true ↔ Helps path ∧ Bounded texts path := by
  have starts := @Text.Segmentation.hasPrefix_iff texts.segmentation path
    "mcp_servers." "mcp_servers".toList '.' rfl (by decide)
  have ends := @Text.Segmentation.hasSuffix_iff texts.segmentation path
    ".env.CODEX_CLI_PATH" '.' "env.CODEX_CLI_PATH".toList rfl
    (Text.printable_of_all (by decide))
  rw [isHelperPath, Bool.and_eq_true, starts, ends]
  constructor
  · rintro ⟨⟨rest, begun, apart⟩, start, ended, apart'⟩
    refine ⟨⟨⟨rest, begun.symm⟩, start, ended.symm⟩, ?_, ?_⟩
    · intro other same
      rw [begun] at same
      rw [← List.append_cancel_left same]
      exact apart
    · intro other same
      rw [ended] at same
      rw [← List.append_cancel_right same]
      exact apart'
  · rintro ⟨⟨⟨rest, begun⟩, start, ended⟩, after, before⟩
    exact ⟨⟨rest, begun.symm, after rest begun.symm⟩, start, ended.symm,
      before start ended.symm⟩

theorem not_helps_of_empty (empty : keys.head? = some "") :
    ¬ Helps (dotted keys) := by
  cases keys with
  | nil => cases empty
  | cons key rest =>
    cases empty
    rintro ⟨begun, -⟩
    cases rest with
    | nil => exact absurd begun (by decide)
    | cons next rest =>
      obtain ⟨more, same⟩ := begun
      have first := congrArg List.head? same
      simp [dotted] at first

theorem clear_iff :
    Clear texts keys ↔ (isHelperPath texts (keys.foldl extend "") = true ↔
        Helps (dotted keys)) := by
  rw [foldl_extend_empty, isHelperPath_iff, Clear]
  by_cases empty : keys.head? = some ""
  · have useless := not_helps_of_empty empty
    simp [empty, useless]
  · have kept : keys.dropWhile (·.isEmpty) = keys := by
      cases keys with
      | nil => rfl
      | cons key rest =>
        have filled : key.isEmpty = false := by
          rw [Bool.eq_false_iff, ne_eq, String.isEmpty_iff]
          rintro rfl
          exact empty rfl
        rw [List.dropWhile_cons, filled]
        rfl
    rw [kept]
    simp [empty]

end Paths

/-- A configuration is corrected at the helpers only. -/
structure Corrected (config corrected : Json) : Prop where
  absent : ∀ keys, valueAt keys config = none → valueAt keys corrected = none
  objects : ∀ keys fields, valueAt keys config = some (.object fields) →
    ∃ rewritten, valueAt keys corrected = some (.object rewritten)
  leaves : ∀ keys value, IsLeaf value → valueAt keys config = some value →
    valueAt keys corrected =
      some (if Helps (dotted keys) ∧ isRouter texts router value = true then
        .string engine
      else value)

/-- A message changes in its configuration only. -/
structure Faithful (message prepared : Object) : Prop where
  others : loaded message = none → prepared = message
  frame : ∀ params config, loaded message = some (params, config) → ∃ params' config',
      (∀ key, key ≠ "params" → prepared.get key = message.get key) ∧
      prepared.get "params" = some (.object params') ∧
      (∀ key, key ≠ "config" → get params' key = params.get key) ∧
      get params' "config" = some (.object config') ∧
      Corrected texts router engine (.object config) (.object config') ∧
      ∀ keys, Helps (dotted keys) → ¬ Routes texts router (.object config') keys
  again : prepare texts router engine prepared = prepared

section Preparation

variable {texts router engine}
variable {config : Object} {params message : Object} {value : Json}

theorem isRouter_eq_true :
    isRouter texts router value = true ↔
      ∃ text, value = .string text ∧ texts.same text router = true := by
  cases value <;> simp [isRouter, Json.asString]

theorem corrected_rewrite
    (clear : ∀ keys, Routes texts router (.object config) keys →
      Clear texts keys) :
    Corrected texts router engine (.object config)
      (.object (rewrite texts router engine "" config)) := by
  have rewritten : ∀ keys, valueAt keys (.object (rewrite texts router engine "" config)) =
        (valueAt keys (.object config)).map
          (rewriteValue texts router engine (keys.foldl extend "")) := by
    intro keys
    rw [← valueAt_rewriteValue, rewriteValue]
  refine ⟨?_, ?_, ?_⟩
  · intro keys absent
    rw [rewritten, absent]
    rfl
  · intro keys fields held
    rw [rewritten, held, Option.map_some, rewriteValue]
    exact ⟨_, rfl⟩
  · intro keys value leaf held
    rw [rewritten, held, Option.map_some, rewriteValue_of_isLeaf leaf]
    refine congrArg some (if_congr ?_ rfl rfl)
    rw [Bool.and_eq_true]
    refine and_congr_left fun routes => ?_
    obtain ⟨text, rfl, same⟩ := isRouter_eq_true.mp routes
    exact clear_iff.mp (clear keys ⟨text, held, same⟩)

variable {keys : List String}

theorem Corrected.not_routes
    {config corrected : Json}
    (corrects : Corrected texts router engine config corrected)
    (different : texts.same engine router = false)
    (helps : Helps (dotted keys)) :
    ¬ Routes texts router corrected keys := by
  rintro ⟨text, held, same⟩
  cases before : valueAt keys config with
  | none =>
    rw [corrects.absent keys before] at held
    cases held
  | some value =>
    by_cases leaf : IsLeaf value
    · rw [corrects.leaves keys value leaf before] at held
      split at held
      · cases held
        rw [different] at same
        cases same
      · rename_i kept
        cases held
        exact kept ⟨helps, isRouter_eq_true.mpr ⟨text, rfl, same⟩⟩
    · cases value with
      | object fields =>
        obtain ⟨rewritten, after⟩ := corrects.objects keys fields before
        rw [after] at held
        cases held
      | null | bool | number | string | array => exact absurd rfl leaf

theorem rewriteValue_leaf_again
    {path : String}
    (leaf : IsLeaf value) :
    rewriteValue texts router engine path
        (rewriteValue texts router engine path value) =
      rewriteValue texts router engine path value := by
  rw [rewriteValue_of_isLeaf (isLeaf_rewriteValue leaf), rewriteValue_of_isLeaf leaf]
  split
  · split
    · rfl
    · rfl
  · rfl

mutual

theorem rewriteValue_again (path : String) :
    (value : Json) →
      rewriteValue texts router engine path
          (rewriteValue texts router engine path value) =
        rewriteValue texts router engine path value
  | .object fields => by rw [rewriteValue, rewriteValue, rewrite_again path fields]
  | .null | .bool _ | .number _ | .string _ | .array _ => rewriteValue_leaf_again rfl

theorem rewrite_again (parent : String) :
    (fields : Object) →
      rewrite texts router engine parent
          (rewrite texts router engine parent fields) =
        rewrite texts router engine parent fields
  | [] => by rw [rewrite, rewrite]
  | (key, value) :: rest => by
    rw [rewrite, rewrite, rewriteValue_again _ value, rewrite_again parent rest]

end

theorem removeValue_removeValue
    (object : Object)
    (key : String) :
    (object.removeValue key).removeValue key = object.removeValue key := by
  simp [removeValue]

theorem set_set
    (object : Object)
    (key : String)
    (first second : Json) :
    (object.set key first).set key second = object.set key second := by
  rw [Object.set, Object.set, Object.removeValue_cons, if_pos rfl,
    removeValue_removeValue, Object.set]

theorem loaded_eq_some :
    loaded message = some (params, config) ↔
      (∃ method ∈ ["thread/start", "thread/resume", "thread/fork"],
        (message.get "method").bind Json.asString = some method) ∧
      (message.get "params").bind Json.asObject = some params ∧
      (params.get "config").bind Json.asObject = some config := by
  constructor
  · intro loads
    obtain ⟨method, called, loads⟩ := Option.bind_eq_some_iff.mp loads
    obtain ⟨ours, held, loads⟩ := Option.bind_eq_some_iff.mp loads
    obtain ⟨inner, below, loads⟩ := Option.bind_eq_some_iff.mp loads
    split at loads
    · rename_i known
      cases loads
      exact ⟨⟨method, List.contains_iff_mem.mp known, called⟩, held, below⟩
    · cases loads
  · rintro ⟨⟨method, known, called⟩, held, below⟩
    refine Option.bind_eq_some_iff.mpr ⟨method, called, ?_⟩
    refine Option.bind_eq_some_iff.mpr ⟨params, held, ?_⟩
    refine Option.bind_eq_some_iff.mpr ⟨config, below, ?_⟩
    rw [if_pos (List.contains_iff_mem.mpr known)]

theorem loaded_prepare (loads : loaded message = some (params, config)) :
    loaded (prepare texts router engine message) =
      some (params.set "config"
          (.object (rewrite texts router engine "" config)),
        rewrite texts router engine "" config) := by
  obtain ⟨method, -, -⟩ := loaded_eq_some.mp loads
  rw [prepare, loads]
  refine loaded_eq_some.mpr ⟨?_, ?_, ?_⟩
  · rw [get_set_of_ne _ _ (by decide)]
    exact method
  · rw [get_set_self]
    rfl
  · rw [get_set_self]
    rfl

theorem prepare_prepare :
    prepare texts router engine (prepare texts router engine message) =
      prepare texts router engine message := by
  cases loads : loaded message with
  | none =>
    have same : prepare texts router engine message = message := by rw [prepare, loads]
    rw [same, same]
  | some found =>
    obtain ⟨params, config⟩ := found
    have first : prepare texts router engine message =
        message.set "params" (.object (params.set "config"
          (.object (rewrite texts router engine "" config)))) := by
      rw [prepare, loads]
    rw [prepare, loaded_prepare loads]
    dsimp only
    rw [first, set_set, set_set, rewrite_again]

theorem Faithful.clear
    (different : texts.same engine router = false)
    (faithful : Faithful texts router engine message
      (prepare texts router engine message))
    (loads : loaded message = some (params, config))
    (routes : Routes texts router (.object config) keys) :
    Clear texts keys := by
  obtain ⟨text, held, same⟩ := routes
  obtain ⟨params', config', -, after, -, below, corrected, -⟩ :=
    faithful.frame params config loads
  rw [prepare, loads, get_set_self] at after
  cases after
  rw [get_set_self] at below
  cases below
  -- The router is different, so the new value tells whether it was replaced.
  have wanted := corrected.leaves keys (.string text) rfl held
  have got : valueAt keys (.object (rewrite texts router engine "" config)) =
      some (rewriteValue texts router engine (keys.foldl extend "") (.string text)) := by
    rw [← rewriteValue, valueAt_rewriteValue, held]
    rfl
  have routes : isRouter texts router (.string text) = true :=
    isRouter_eq_true.mpr ⟨text, rfl, same⟩
  have leaf : IsLeaf (.string text) := rfl
  rw [got, rewriteValue_of_isLeaf leaf, Option.some.injEq] at wanted
  have other : engine ≠ text := by
    rintro rfl
    rw [different] at same
    cases same
  rw [clear_iff]
  constructor
  · intro taken
    by_contra useless
    rw [if_pos (by rw [taken, routes]; rfl), if_neg fun both => useless both.1] at wanted
    exact other (Json.string.inj wanted)
  · intro helps
    by_contra missed
    rw [if_neg fun both => missed (Bool.and_eq_true_iff.mp both).1,
      if_pos ⟨helps, routes⟩] at wanted
    exact other (Json.string.inj wanted).symm

end Preparation

/-- Exactly the router's own path is replaced, and only for helpers, if and only
if every path to the router means what the router takes it for. -/
theorem helper_paths_are_corrected
    (texts : Texts)
    (router engine : String)
    (different : texts.same engine router = false)
    (message : Object) :
    Faithful texts router engine message (prepare texts router engine message) ↔
      ∀ params config, loaded message = some (params, config) →
        ∀ keys, Routes texts router (.object config) keys →
          Clear texts keys := by
  constructor
  · intro faithful params config loads keys routes
    exact faithful.clear different loads routes
  · intro clear
    refine ⟨fun other => ?_, fun params config loads => ?_, prepare_prepare⟩
    · rw [prepare, other]
    · have corrected : Corrected texts router engine (.object config)
          (.object (rewrite texts router engine "" config)) :=
        corrected_rewrite (clear params config loads)
      rw [prepare, loads]
      refine ⟨_, _, fun key other => get_set_of_ne _ _ other,
        get_set_self _ _ _, fun key other => get_set_of_ne _ _ other,
        get_set_self _ _ _, corrected, ?_⟩
      exact fun keys helps => corrected.not_routes different helps

namespace Sample

/-- A message that starts a thread. -/
def start (config : Object) : Object :=
  [("method", .string "thread/start"), ("params", .object [("config", .object config)])]

/-- A configuration with one helper. -/
def helper (name : String) : Object :=
  [("mcp_servers", .object [(name, .object [("env", .object
    [("CODEX_CLI_PATH", .string "/router")])])])]

theorem exists_of_valueAt
    {name text : String}
    {below : Json}
    {keys : List String}
    (held : valueAt keys (.object [(name, below)]) = some (.string text)) :
    ∃ rest, keys = name :: rest ∧ valueAt rest below = some (.string text) := by
  cases keys with
  | nil => cases held
  | cons key rest =>
    rw [valueAt, get_cons] at held
    split at held
    · rename_i same
      exact ⟨rest, by rw [same], held⟩
    · cases held

end Sample

/-- A helper with an ordinary name gets the official path, and nothing else is
changed. -/
theorem ordinary_helper_is_corrected :
    Faithful .plain "/router" "/engine" (Sample.start (Sample.helper "node"))
      (prepare .plain "/router" "/engine"
        (Sample.start (Sample.helper "node"))) := by
  refine (helper_paths_are_corrected .plain "/router" "/engine" (by decide)
    (Sample.start (Sample.helper "node"))).mpr ?_
  rintro params config loads keys ⟨text, held, -⟩
  cases loads
  obtain ⟨servers, rfl, heldBelow⟩ := Sample.exists_of_valueAt held
  obtain ⟨names, rfl, heldServer⟩ := Sample.exists_of_valueAt heldBelow
  obtain ⟨parts, rfl, heldPart⟩ := Sample.exists_of_valueAt heldServer
  obtain ⟨rest, rfl, heldLeaf⟩ := Sample.exists_of_valueAt heldPart
  cases rest with
  | nil => exact clear_iff.mpr (by decide +kernel)
  | cons key rest => cases heldLeaf

/-- The router below an empty key is replaced although it belongs to no helper,
and the router of a helper whose name starts with a combining scalar is kept. -/
theorem unclear_paths_are_not_corrected :
    ¬ Faithful .plain "/router" "/engine"
        (Sample.start [("", .object (Sample.helper "node"))])
        (prepare .plain "/router" "/engine"
          (Sample.start [("", .object (Sample.helper "node"))])) ∧
      ¬ Faithful .plain "/router" "/engine"
        (Sample.start (Sample.helper "\u0301node"))
        (prepare .plain "/router" "/engine"
          (Sample.start (Sample.helper "\u0301node"))) := by
  constructor
  · intro faithful
    have clear : Clear .plain ["", "mcp_servers", "node", "env", "CODEX_CLI_PATH"] :=
      faithful.clear (by decide) rfl ⟨"/router", by rfl, by decide⟩
    exact absurd (clear_iff.mp clear) (by decide +kernel)
  · intro faithful
    have clear : Clear .plain ["mcp_servers", "\u0301node", "env", "CODEX_CLI_PATH"] :=
      faithful.clear (by decide) rfl ⟨"/router", by rfl, by decide⟩
    exact absurd (clear_iff.mp clear) (by decide +kernel)

end RouterHelperConfiguration

end Turnrail
