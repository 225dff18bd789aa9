import Turnrail.Value

/-!
# The models that all accounts offer

The router advertises the models that every assigned account offers.  The first
catalog is narrowed by each of the others: a model that another catalog does not
offer in a compatible way is dropped, and what remains of its lists, capabilities
and limits is what both have.  Fields whose shape makes a comparison impossible
end the computation.
-/

namespace Turnrail

/-- The service that joins the model catalogs of accounts. -/
structure RouterModelCatalog where
  platform : Foundation
  texts : Texts
  fragment : Json → Data
  doubleValue : Rat → Option Rat

namespace RouterModelCatalog

/-- A part of merging two models, which may drop the model or end the whole
computation. -/
abbrev Merging (α : Type) := OptionT (Except RouterFailure) α

namespace Merging

/-- Leave the model out. -/
def drop : Merging α := OptionT.mk (.ok none)

/-- Throw if a check fails. -/
def check (outcome : Except RouterFailure α) : Merging α :=
  OptionT.mk (outcome.map some)

/-- The model is neither dropped nor the computation ended. -/
def Gives (merging : Merging α) (value : α) : Prop :=
  merging.run = .ok (some value)

variable {value result : α}

@[simp] theorem gives_pure :
    (pure value : Merging α).Gives result ↔ result = value := by
  change (Except.ok (some value) : Except RouterFailure (Option α)) = .ok (some result) ↔ _
  simp [eq_comm]

@[simp] theorem not_gives_drop : ¬ (drop : Merging α).Gives result :=
  fun gives => by cases gives

variable {outcome : Except RouterFailure α}

@[simp] theorem gives_check :
    (check outcome).Gives result ↔ outcome = .ok result := by
  change outcome.map some = .ok (some result) ↔ _
  cases outcome <;> simp [Except.map]

variable {merging : Merging α} {next : α → Merging β} {value : α}
variable {error : RouterFailure}

theorem gives_bind {result : β} :
    (merging >>= next).Gives result ↔
      ∃ value, merging.Gives value ∧ (next value).Gives result := by
  have unfolded : (merging >>= next).run = merging.run >>= fun tried =>
        match tried with
        | some value => (next value).run
        | none => .ok none := rfl
  rw [Gives, unfolded, bind_eq_ok]
  constructor
  · rintro ⟨tried, first, second⟩
    cases tried with
    | none => cases second
    | some value => exact ⟨value, first, second⟩
  · rintro ⟨value, first, second⟩
    exact ⟨some value, first, second⟩

end Merging

/-- A text of an object. -/
def text (object : Object) (key : String) : Option String :=
  (object.get key).bind Json.asString

/-- What a rule does with a field. -/
inductive Ruling
  | keep
  | store (value : Json)
  | drop
  | fail (error : RouterFailure)

/-- Apply a rule to some fields. -/
def mergeFields (rule : String → Option Json → Option Json → Ruling)
    (model other : Object) : List String → Object → Merging Object
  | [], merged => pure merged
  | field :: rest, merged =>
    match rule field (model.get field) (other.get field) with
    | .keep => mergeFields rule model other rest merged
    | .store value => mergeFields rule model other rest (merged.set field value)
    | .drop => Merging.drop
    | .fail error => Merging.check (.error error)

/-- The fields that describe how a model is spoken to. -/
def protocolFields : List String :=
  ["shell_type", "apply_patch_tool_type", "tool_mode", "multi_agent_version",
    "multi_agent_reasoning_effort", "use_responses_lite", "node_repl_disabled",
    "node_repl_auto_review_required", "auto_review_model_override", "guardian",
    "comp_hash"]

/-- The fields that hold lists. -/
def listFields : List String :=
  ["supported_reasoning_levels", "input_modalities", "service_tiers",
    "additional_speed_tiers", "experimental_supported_tools"]

/-- The fields that say what a model can do. -/
def capabilityFields : List String :=
  ["supports_personality", "supports_parallel_tool_calls",
    "supports_image_detail_original", "support_verbosity", "supports_search_tool",
    "supports_experimental_context", "supports_reasoning_summary_parameter"]

/-- The fields that hold limits. -/
def limitFields : List String :=
  ["context_window", "max_context_window", "auto_compact_token_limit",
    "effective_context_window_percent"]

/-- A field is absent or null. -/
def missing : Option Json → Bool
  | none => true
  | some .null => true
  | _ => false

/-- The value of a field, or null. -/
def orNull (value : Option Json) : Json := value.getD .null

variable (service : RouterModelCatalog)

/-- A field holds a text. -/
def reads (texts : Texts) (object : Object) (key wanted : String) : Bool :=
  (text object key).any fun found => texts.same found wanted

/-- The bytes that are compared for a field of the protocol. -/
def protocolData (value : Option Json) : Data :=
  RouterJSON.data service.platform [("value", orNull value)]

/-- What identifies an item.  Descriptive text is not a capability. -/
def identifier (value : Json) : Data :=
  match value.asObject.bind fun object =>
      ["effort", "id"].findSome? (text object) with
  | some id => utf8 id
  | none => service.fragment value

/-- The items that both lists have. -/
def shared (left right : List Json) : List Json :=
  left.filter fun item => right.any fun other =>
    service.identifier other == service.identifier item

/-- Two lists are intersected. -/
def listRule (field : String) : Option Json → Option Json → Ruling
  | none, none => .keep
  | some (.array left), some (.array right) => .store (.array (service.shared left right))
  | _, _ => .fail ⟨"Model catalogs disagree on " ++ field ++ "."⟩

/-- A capability is kept if both models have it. -/
def capabilityRule (_ : String) (left right : Option Json) : Ruling :=
  if missing left && missing right then .keep
  else
    match left, right with
    | some (.bool left), some (.bool right) => .store (.bool (left && right))
    | _, _ => .drop

/-- A number that is an integer as a double. -/
def integer : Json → Option Int
  | .number value =>
    (service.doubleValue value).bind fun double =>
      if double.den = 1 ∧ -2 ^ 63 ≤ double.num ∧ double.num < 2 ^ 63 then
        some double.num
      else none
  | _ => none

/-- The smaller limit is kept. -/
def limitRule (_ : String) (left right : Option Json) : Ruling :=
  if missing left && missing right then .keep
  else
    match left.bind service.integer, right.bind service.integer with
    | some left, some right =>
      if 0 < left ∧ 0 < right then .store (.number ((min left right : Int) : Rat))
      else .drop
    | _, _ => .drop

/-- A field is a list without items. -/
def isEmptyList : Option Json → Bool
  | some (.array []) => true
  | _ => false

/-- Replace a default reasoning level that is not offered any more. -/
def repairLevels (model other merged : Object) : Merging Object :=
  match (merged.get "supported_reasoning_levels").bind Json.asObjects with
  | none => pure merged
  | some [] =>
    if isEmptyList (model.get "supported_reasoning_levels") &&
        isEmptyList (other.get "supported_reasoning_levels") then pure merged
    else Merging.drop
  | some (first :: rest) =>
    match text merged "default_reasoning_level" with
    | none => pure merged
    | some selected =>
      if (first :: rest).any (reads service.texts · "effort" selected) then
        pure merged
      else do
        let effort ← Merging.check (RouterJSON.text first "effort")
        pure (merged.set "default_reasoning_level" (.string effort))

/-- Remove a default service tier that is not offered any more. -/
def repairTier (merged : Object) : Object :=
  match text merged "default_service_tier",
      (merged.get "service_tiers").bind Json.asObjects with
  | some selected, some tiers =>
    if tiers.any (reads service.texts · "id" selected) then merged
    else merged.removeValue "default_service_tier"
  | _, _ => merged

/-- Two texts are the same or both absent. -/
def sameText : Option String → Option String → Bool
  | none, none => true
  | some first, some second => service.texts.same first second
  | _, _ => false

/-- A model is hidden unless both catalogs show it alike. -/
def mergeVisibility (model other merged : Object) : Object :=
  if service.sameText (text model "visibility") (text other "visibility") then
    merged
  else merged.set "visibility" (.string "hide")

/-- What two models with one name have in common. -/
def merge (model other : Object) : Merging Object := do
  if protocolFields.all fun field =>
      service.protocolData (model.get field) == service.protocolData (other.get field) then
    let listed ← mergeFields service.listRule model other listFields model
    if isEmptyList (listed.get "input_modalities") then Merging.drop
    else
      let levelled ← service.repairLevels model other listed
      let capable ← mergeFields capabilityRule model other capabilityFields levelled
      let limited ← mergeFields service.limitRule model other limitFields capable
      pure (service.mergeVisibility model other (service.repairTier limited))
  else Merging.drop

/-- What a catalog leaves of a model. -/
def offer (catalog : List Object) (model : Object) : Merging Object := do
  let slug ← Merging.check (RouterJSON.text model "slug")
  match catalog.find? (reads service.texts · "slug" slug) with
  | none => Merging.drop
  | some other => service.merge model other

/-- What a catalog leaves of the models. -/
def narrow (catalog : List Object) :
    List Object → Except RouterFailure (List Object)
  | [] => .ok []
  | model :: rest => do
    let offered ← (service.offer catalog model).run
    let others ← narrow catalog rest
    return offered.toList ++ others

/-- The models that all catalogs share. -/
def intersection : List (List Object) → Except RouterFailure (List Object)
  | [] => .error ⟨"No assigned account has an available model catalog."⟩
  | first :: rest => do
    let common ← rest.foldlM (fun common catalog => service.narrow catalog common) first
    if common.isEmpty then .error ⟨"Assigned accounts have no common models."⟩
    else return common

/-- A requested value must be offered by the model. -/
def checkOffer (texts : Texts) (model : Object) (field key : String) (message : String) :
    Option String → Except RouterFailure Unit
  | none => .ok ()
  | some wanted => do
    let items ← RouterJSON.array model field
    if items.any (reads texts · key wanted) then .ok ()
    else .error ⟨message⟩

/-- The effort a request asks for. -/
def requestedEffort (request : Object) : Option String :=
  ((request.get "reasoning").bind Json.asObject).bind (text · "effort")

/-- The tier a request asks for. -/
def requestedTier (texts : Texts) (request : Object) : Option String :=
  (text request "service_tier").filter fun tier => !texts.same tier "auto"

/-- A request must fit a model of the catalog. -/
def validate (texts : Texts) (request : Object) (catalog : List Object) :
    Except RouterFailure Unit := do
  let slug ← RouterJSON.text request "model"
  match catalog.find? (reads texts · "slug" slug) with
  | none =>
    .error
      ⟨"This model is not available for the selected account. Choose a common model or change the folder priority."⟩
  | some model => do
    checkOffer texts model "supported_reasoning_levels" "effort"
      "This reasoning effort is not available for the selected account."
      (requestedEffort request)
    checkOffer texts model "service_tiers" "id"
      "This service tier is not available for the selected account."
      (requestedTier texts request)

section Specification

variable {service} {model other merged result : Object} {key : String}
variable {rule : String → Option Json → Option Json → Ruling}
variable {fields : List String}

/-- What a rule makes of a field. -/
def Applied (rule : String → Option Json → Option Json → Ruling)
    (model other result : Object) (key : String) : Prop :=
  (rule key (model.get key) (other.get key) = .keep ∧ result.get key = model.get key) ∨
    ∃ value, rule key (model.get key) (other.get key) = .store value ∧
      result.get key = some value

theorem gives_mergeFields_cons
    {field : String}
    (gives :
      (mergeFields rule model other (field :: fields) merged).Gives result) :
    (rule field (model.get field) (other.get field) = .keep ∧
        (mergeFields rule model other fields merged).Gives result) ∨
      ∃ value, rule field (model.get field) (other.get field) = .store value ∧
        (mergeFields rule model other fields (merged.set field value)).Gives
          result := by
  rw [mergeFields] at gives
  cases ruled : rule field (model.get field) (other.get field) with
  | keep =>
    rw [ruled] at gives
    exact .inl ⟨rfl, gives⟩
  | store value =>
    rw [ruled] at gives
    exact .inr ⟨value, rfl, gives⟩
  | drop =>
    rw [ruled] at gives
    exact absurd gives Merging.not_gives_drop
  | fail error =>
    rw [ruled] at gives
    cases Merging.gives_check.mp gives

theorem get_of_mergeFields
    (gives : (mergeFields rule model other fields merged).Gives result)
    (untouched : key ∉ fields) :
    result.get key = merged.get key := by
  induction fields generalizing merged with
  | nil => rw [Merging.gives_pure.mp gives]
  | cons field rest ih =>
    obtain ⟨different, later⟩ := not_or.mp (mt List.mem_cons.mpr untouched)
    obtain ⟨-, onward⟩ | ⟨value, -, onward⟩ := gives_mergeFields_cons gives
    · exact ih onward later
    · rw [ih onward later, Object.get_set_of_ne _ _ different]

theorem applied_of_mergeFields
    (gives : (mergeFields rule model other fields merged).Gives result)
    (distinct : fields.Nodup)
    (begun : ∀ key ∈ fields, merged.get key = model.get key)
    (member : key ∈ fields) :
    Applied rule model other result key := by
  induction fields generalizing merged with
  | nil => cases member
  | cons field rest ih =>
    obtain ⟨fresh, distinct⟩ := List.nodup_cons.mp distinct
    obtain ⟨kept, onward⟩ | ⟨value, stored, onward⟩ := gives_mergeFields_cons gives
    · rcases List.mem_cons.mp member with rfl | later
      · refine .inl ⟨kept, ?_⟩
        rw [get_of_mergeFields onward fresh, begun _ List.mem_cons_self]
      · exact ih onward distinct
          (fun key member => begun key (List.mem_cons_of_mem _ member)) later
    · rcases List.mem_cons.mp member with rfl | later
      · refine .inr ⟨value, stored, ?_⟩
        rw [get_of_mergeFields onward fresh, Object.get_set_self]
      · refine ih onward distinct (fun key member => ?_) later
        rw [Object.get_set_of_ne _ _ (ne_of_mem_of_not_mem member fresh),
          begun key (List.mem_cons_of_mem _ member)]

/-- A default reasoning level is among the levels, if there are any. -/
def DefaultOffered (service : RouterModelCatalog) (model : Object) : Prop :=
  ∀ levels selected,
    (model.get "supported_reasoning_levels").bind Json.asObjects = some levels →
    levels ≠ [] → text model "default_reasoning_level" = some selected →
    ∃ level ∈ levels, reads service.texts level "effort" selected = true

theorem gives_repairLevels
    (gives : (service.repairLevels model other merged).Gives result) :
    (∀ key, key ≠ "default_reasoning_level" → result.get key = merged.get key) ∧
      service.DefaultOffered result := by
  unfold repairLevels at gives
  split at gives
  · rename_i absent
    obtain rfl := Merging.gives_pure.mp gives
    refine ⟨fun _ _ => rfl, fun levels selected held => ?_⟩
    rw [absent] at held
    cases held
  · rename_i empty
    split at gives
    · obtain rfl := Merging.gives_pure.mp gives
      refine ⟨fun _ _ => rfl, fun levels selected held filled => ?_⟩
      rw [empty] at held
      cases held
      exact absurd rfl filled
    · exact absurd gives Merging.not_gives_drop
  · rename_i first rest offered
    split at gives
    · rename_i unselected
      obtain rfl := Merging.gives_pure.mp gives
      refine ⟨fun _ _ => rfl, fun levels selected _ _ chosen => ?_⟩
      rw [unselected] at chosen
      cases chosen
    · rename_i selected chosen
      split at gives
      · rename_i among
        obtain rfl := Merging.gives_pure.mp gives
        refine ⟨fun _ _ => rfl, fun levels wanted held _ same => ?_⟩
        rw [offered] at held
        rw [chosen] at same
        cases held
        cases same
        exact List.any_eq_true.mp among
      · obtain ⟨effort, read, gives⟩ := Merging.gives_bind.mp gives
        obtain rfl := Merging.gives_pure.mp gives
        refine ⟨fun key different => Object.get_set_of_ne _ _ different, ?_⟩
        intro levels wanted held _ same
        rw [Object.get_set_of_ne _ _ (by decide), offered] at held
        cases held
        simp only [text, Object.get_set_self, Option.bind_some, Json.asString,
          Option.some.injEq] at same
        subst same
        refine ⟨first, List.mem_cons_self, ?_⟩
        have found : text first "effort" = some effort :=
          (RouterJSON.text_eq_ok.mp (Merging.gives_check.mp read)).1
        rw [reads, found]
        exact Texts.same_self _ _

/-- The items of a list. -/
def itemsOf : Option Json → List Json
  | some (.array items) => items
  | _ => []

/-- The level whose effort replaces a default that is not among the levels. -/
def successor
    (service : RouterModelCatalog)
    (levels : List Json)
    (default : Option String) :
    Option Object :=
  match (Json.array levels).asObjects, default with
  | some (first :: rest), some selected =>
    if (first :: rest).any (reads service.texts · "effort" selected) then none
    else some first
  | _, _ => none

/-- The default among some levels. -/
def repaired
    (service : RouterModelCatalog)
    (levels : List Json)
    (default : Option String) :
    Option String :=
  match service.successor levels default with
  | none => default
  | some level => text level "effort"

/-- Repairing the default needs the level that succeeds it, and its effort. -/
theorem repairLevels_eq :
    service.repairLevels model other merged =
      if isEmptyList (merged.get "supported_reasoning_levels") then
        if isEmptyList (model.get "supported_reasoning_levels") &&
            isEmptyList (other.get "supported_reasoning_levels") then pure merged
        else Merging.drop
      else
        (match service.successor (itemsOf (merged.get "supported_reasoning_levels"))
          (text merged "default_reasoning_level") with
        | none => pure merged
        | some level => do
          let effort ← Merging.check (RouterJSON.text level "effort")
          pure (merged.set "default_reasoning_level" (.string effort))) := by
  unfold repairLevels
  cases held : merged.get "supported_reasoning_levels" with
  | none => rfl
  | some value =>
    cases value with
    | array items =>
      rw [Option.bind_some, itemsOf]
      cases items with
      | nil => rfl
      | cons item items =>
        have filled : ¬ isEmptyList (some (.array (item :: items))) = true :=
          Bool.false_ne_true
        rw [if_neg filled]
        unfold successor
        cases objects : (Json.array (item :: items)).asObjects with
        | none => rfl
        | some levels =>
          cases levels with
          | nil => cases asObjects_eq_some.mp objects
          | cons first rest =>
            cases text merged "default_reasoning_level" with
            | none => rfl
            | some selected =>
              dsimp only
              split <;> rfl
    | null | bool | number | string | object => rfl

theorem unspecified_of_repairLevels
    (gives : (service.repairLevels model other merged).Gives result)
    (empty : merged.get "supported_reasoning_levels" = some (.array [])) :
    isEmptyList (model.get "supported_reasoning_levels") = true ∧
      isEmptyList (other.get "supported_reasoning_levels") = true := by
  have none : (Json.array []).asObjects = some [] := rfl
  rw [repairLevels, empty, Option.bind_some, none] at gives
  dsimp only at gives
  split at gives
  · rename_i unspecified
    exact Bool.and_eq_true_iff.mp unspecified
  · exact absurd gives Merging.not_gives_drop

theorem get_repairTier (different : key ≠ "default_service_tier") :
    (service.repairTier merged).get key = merged.get key := by
  unfold repairTier
  split
  · split
    · rfl
    · exact Object.get_removeValue_of_ne _ different
  · rfl

theorem get_mergeVisibility (different : key ≠ "visibility") :
    (service.mergeVisibility model other merged).get key = merged.get key := by
  unfold mergeVisibility
  split
  · rfl
  · exact Object.get_set_of_ne _ _ different

theorem text_mergeVisibility :
    text (service.mergeVisibility model other merged) "visibility" =
      if service.sameText (text model "visibility")
          (text other "visibility") then
        text merged "visibility"
      else some "hide" := by
  unfold mergeVisibility
  split
  · rfl
  · rw [text, Object.get_set_self]
    rfl

theorem isEmptyList_eq_true {value : Option Json} :
    isEmptyList value = true ↔ value = some (.array []) := by
  constructor
  · intro empty
    unfold isEmptyList at empty
    split at empty
    · rfl
    · cases empty
  · rintro rfl
    rfl

theorem successor_of_empty
    {value : Option Json}
    {default : Option String}
    (empty : isEmptyList value = true) :
    service.successor (itemsOf value) default = none := by
  rw [isEmptyList_eq_true.mp empty]
  rfl

theorem default_of_repairLevels
    (gives : (service.repairLevels model other merged).Gives result) :
    text result "default_reasoning_level" =
      service.repaired (itemsOf (merged.get "supported_reasoning_levels"))
        (text merged "default_reasoning_level") := by
  unfold repaired
  rw [repairLevels_eq] at gives
  split at gives
  · rename_i empty
    rw [successor_of_empty empty]
    split at gives
    · rw [Merging.gives_pure.mp gives]
    · exact absurd gives Merging.not_gives_drop
  · split at gives
    · rw [Merging.gives_pure.mp gives]
    · obtain ⟨effort, read, gives⟩ := Merging.gives_bind.mp gives
      rw [Merging.gives_pure.mp gives, text, Object.get_set_self]
      exact (RouterJSON.text_eq_ok.mp (Merging.gives_check.mp read)).1.symm

/-- What a merge makes of two models. -/
structure Merged (service : RouterModelCatalog) (model other merged : Object) :
    Prop where
  slug : merged.get "slug" = model.get "slug"
  protocol : ∀ field ∈ protocolFields, merged.get field = model.get field ∧
    service.protocolData (model.get field) = service.protocolData (other.get field)
  lists : ∀ field ∈ listFields, Applied service.listRule model other merged field
  capabilities : ∀ field ∈ capabilityFields, Applied capabilityRule model other merged field
  limits : ∀ field ∈ limitFields, Applied service.limitRule model other merged field
  modalities : isEmptyList (merged.get "input_modalities") = false
  levels : isEmptyList (merged.get "supported_reasoning_levels") = true →
    isEmptyList (model.get "supported_reasoning_levels") = true ∧
      isEmptyList (other.get "supported_reasoning_levels") = true
  offered : service.DefaultOffered merged
  default : text merged "default_reasoning_level" =
    service.repaired (itemsOf (merged.get "supported_reasoning_levels"))
      (text model "default_reasoning_level")
  visibility : text merged "visibility" =
    if service.sameText (text model "visibility") (text other "visibility") then
      text model "visibility"
    else some "hide"

theorem Applied.congr
    (applied : Applied rule model other result key)
    (same : merged.get key = result.get key) :
    Applied rule model other merged key := by
  rw [Applied, same]
  exact applied

/-- The fields that are written after the default reasoning level. -/
def settledFields : List String :=
  capabilityFields ++ limitFields ++ ["default_service_tier", "visibility"]

theorem protocolFields_apart :
    ∀ field ∈ protocolFields, field ∉ "default_reasoning_level" :: listFields ∧
      field ∉ settledFields := by
  decide

theorem listFields_apart :
    ∀ field ∈ listFields, field ≠ "default_reasoning_level" ∧
      field ∉ settledFields := by
  decide

theorem capabilityFields_apart :
    ∀ field ∈ capabilityFields,
      field ∉ "default_reasoning_level" :: listFields ∧
      field ∉ limitFields ∧ field ∉ ["default_service_tier", "visibility"] := by
  decide

theorem limitFields_apart :
    ∀ field ∈ limitFields, field ∉ "default_reasoning_level" :: listFields ∧
      field ∉ capabilityFields ∧
      field ∉ ["default_service_tier", "visibility"] := by
  decide

theorem DefaultOffered.congr
    (offered : service.DefaultOffered result)
    (levels : merged.get "supported_reasoning_levels" =
      result.get "supported_reasoning_levels")
    (selected : merged.get "default_reasoning_level" =
      result.get "default_reasoning_level") :
    service.DefaultOffered merged := by
  rw [DefaultOffered, text, levels, selected]
  exact offered

theorem merged_of_merge (gives : (service.merge model other).Gives merged) :
    service.Merged model other merged := by
  unfold merge at gives
  split at gives
  · rename_i agree
    obtain ⟨listed, lists, gives⟩ := Merging.gives_bind.mp gives
    split at gives
    · exact absurd gives Merging.not_gives_drop
    · rename_i filled
      obtain ⟨levelled, levels, gives⟩ := Merging.gives_bind.mp gives
      obtain ⟨capable, capabilities, gives⟩ := Merging.gives_bind.mp gives
      obtain ⟨limited, limits, gives⟩ := Merging.gives_bind.mp gives
      obtain ⟨kept, offered⟩ := gives_repairLevels levels
      -- Each stage reads fields that the stages before it did not write.
      have begun : ∀ key ∉ "default_reasoning_level" :: listFields,
          levelled.get key = model.get key := by
        intro key apart
        obtain ⟨different, apart⟩ := not_or.mp (mt List.mem_cons.mpr apart)
        rw [kept key different, get_of_mergeFields lists apart]
      have ended : ∀ key ∉ ["default_service_tier", "visibility"],
          merged.get key = limited.get key := by
        intro key apart
        simp only [List.mem_cons, List.not_mem_nil, or_false, not_or] at apart
        rw [Merging.gives_pure.mp gives, get_mergeVisibility apart.2, get_repairTier apart.1]
      have settled : ∀ key ∉ settledFields, merged.get key = levelled.get key := by
        intro key apart
        simp only [settledFields, List.mem_append, not_or] at apart
        rw [ended key apart.2, get_of_mergeFields limits apart.1.2,
          get_of_mergeFields capabilities apart.1.1]
      have listedAs : ∀ field ∈ listFields, merged.get field = listed.get field := by
        intro field member
        obtain ⟨different, unsettled⟩ := listFields_apart field member
        rw [settled field unsettled, kept field different]
      exact
        { slug := by rw [settled _ (by decide), begun _ (by decide)]
          protocol := fun field member => by
            obtain ⟨unlisted, unsettled⟩ := protocolFields_apart field member
            rw [settled field unsettled, begun field unlisted]
            exact ⟨rfl, eq_of_beq (List.all_eq_true.mp agree field member)⟩
          lists := fun field member =>
            (applied_of_mergeFields lists (by decide) (fun _ _ => rfl)
              member).congr (listedAs field member)
          capabilities := fun field member => by
            obtain ⟨-, unlimited, last⟩ := capabilityFields_apart field member
            refine (applied_of_mergeFields capabilities (by decide)
              (fun key inside => begun key (capabilityFields_apart key inside).1)
              member).congr ?_
            rw [ended field last, get_of_mergeFields limits unlimited]
          limits := fun field member => by
            refine (applied_of_mergeFields limits
              (by decide) (fun key inside => ?_) member).congr
              (ended field (limitFields_apart field member).2.2)
            rw [get_of_mergeFields capabilities (limitFields_apart key inside).2.1,
              begun key (limitFields_apart key inside).1]
          modalities := by
            rw [listedAs _ (by decide)]
            exact Bool.eq_false_iff.mpr filled
          levels := fun empty => by
            rw [listedAs _ (by decide)] at empty
            exact unspecified_of_repairLevels levels (isEmptyList_eq_true.mp empty)
          offered := offered.congr (settled _ (by decide)) (settled _ (by decide))
          default := by
            have before : text listed "default_reasoning_level" =
                text model "default_reasoning_level" := by
              rw [text, text, get_of_mergeFields lists (by decide)]
            rw [text, settled _ (by decide), ← text, default_of_repairLevels levels, before,
              listedAs _ (by decide)]
          visibility := by
            have before : text (service.repairTier limited) "visibility" =
                text model "visibility" := by
              rw [text, text, get_repairTier (by decide),
                get_of_mergeFields limits (by decide),
                get_of_mergeFields capabilities (by decide), begun _ (by decide)]
            rw [Merging.gives_pure.mp gives, text_mergeVisibility, before] }
  · exact absurd gives Merging.not_gives_drop

variable {catalog : List Object}

theorem gives_offer (gives : (service.offer catalog model).Gives merged) :
    ∃ slug other, text model "slug" = some slug ∧
      catalog.find? (reads service.texts · "slug" slug) = some other ∧
      service.Merged model other merged := by
  obtain ⟨slug, read, gives⟩ := Merging.gives_bind.mp gives
  have named : text model "slug" = some slug :=
    (RouterJSON.text_eq_ok.mp (Merging.gives_check.mp read)).1
  split at gives
  · exact absurd gives Merging.not_gives_drop
  · rename_i other found
    exact ⟨slug, other, named, found, merged_of_merge gives⟩

theorem gives_of_mem_narrow
    {models narrowed : List Object}
    (succeeds : service.narrow catalog models = .ok narrowed)
    (member : merged ∈ narrowed) :
    ∃ model ∈ models, (service.offer catalog model).Gives merged := by
  induction models generalizing narrowed with
  | nil =>
    cases succeeds
    cases member
  | cons model rest ih =>
    obtain ⟨offered, first, succeeds⟩ := bind_eq_ok.mp succeeds
    obtain ⟨others, later, succeeds⟩ := bind_eq_ok.mp succeeds
    cases succeeds
    rcases List.mem_append.mp member with own | other
    · refine ⟨model, List.mem_cons_self, ?_⟩
      rw [Option.mem_toList.mp own] at first
      exact first
    · obtain ⟨origin, inside, gives⟩ := ih later other
      exact ⟨origin, List.mem_cons_of_mem _ inside, gives⟩

variable {left right : Option Json} {value : Json}

theorem listRule_eq_keep (kept : service.listRule key left right = .keep) :
    left = none ∧ right = none := by
  unfold listRule at kept
  split at kept
  · exact ⟨rfl, rfl⟩
  · cases kept
  · cases kept

theorem listRule_eq_store
    (stored : service.listRule key left right = .store value) :
    ∃ ours theirs, left = some (.array ours) ∧ right = some (.array theirs) ∧
      value = .array (service.shared ours theirs) := by
  unfold listRule at stored
  split at stored
  · cases stored
  · cases stored
    exact ⟨_, _, rfl, rfl, rfl⟩
  · cases stored

theorem capabilityRule_eq_keep (kept : capabilityRule key left right = .keep) :
    missing left = true ∧ missing right = true := by
  unfold capabilityRule at kept
  split at kept
  · rename_i absent
    exact Bool.and_eq_true_iff.mp absent
  · split at kept
    · cases kept
    · cases kept

theorem capabilityRule_eq_store
    (stored : capabilityRule key left right = .store value) :
    ∃ ours theirs, left = some (.bool ours) ∧ right = some (.bool theirs) ∧
      value = .bool (ours && theirs) := by
  unfold capabilityRule at stored
  split at stored
  · cases stored
  · split at stored
    · cases stored
      exact ⟨_, _, rfl, rfl, rfl⟩
    · cases stored

theorem limitRule_eq_keep (kept : service.limitRule key left right = .keep) :
    missing left = true ∧ missing right = true := by
  unfold limitRule at kept
  split at kept
  · rename_i absent
    exact Bool.and_eq_true_iff.mp absent
  · split at kept
    · split at kept
      · cases kept
      · cases kept
    · cases kept

theorem limitRule_eq_store
    (stored : service.limitRule key left right = .store value) :
    ∃ ours theirs, left.bind service.integer = some ours ∧
      right.bind service.integer = some theirs ∧ 0 < ours ∧ 0 < theirs ∧
      value = .number ((min ours theirs : Int) : Rat) := by
  unfold limitRule at stored
  split at stored
  · cases stored
  · split at stored
    · rename_i ours theirs read other
      split at stored
      · rename_i positive
        cases stored
        exact ⟨ours, theirs, read, other, positive.1, positive.2, rfl⟩
      · cases stored
    · cases stored

theorem integer_eq_some
    {count : Int}
    (read : service.integer value = some count) :
    ∃ number double, value = .number number ∧
      service.doubleValue number = some double ∧ double = (count : Rat) := by
  unfold integer at read
  split at read
  · rename_i number
    obtain ⟨double, rounded, read⟩ := Option.bind_eq_some_iff.mp read
    split at read
    · rename_i whole
      cases read
      exact ⟨number, double, rfl, rounded, (Rat.den_eq_one_iff double).mp whole.1 |>.symm⟩
    · cases read
  · cases read

end Specification

end RouterModelCatalog

end Turnrail
