import Turnrail.Foundation

/-!
# Observing the messages of the desktop and the Engine

The router stands between the desktop and the official Engine.  It refuses
messages of the desktop that would change how tasks are routed, and it notes
the requests that start a title task, so that the task can be registered when
the Engine answers.
-/

namespace Turnrail

namespace RouterEngineObserver

variable (texts : Texts)

mutual

/-- The leaves of a value, or the value itself. -/
def leavesBelow (path : String) : Json → List (String × Json)
  | .object (field :: rest) => leaves path (field :: rest)
  | item => [(path, item)]

/-- The paths to the innermost values of an object.  An empty object counts as
a value. -/
def leaves (parent : String) : Object → List (String × Json)
  | [] => []
  | (key, item) :: rest =>
    leavesBelow (if parent.isEmpty then key else parent ++ "." ++ key) item ++
      leaves parent rest

end

/-- The settings that decide the routing. -/
def routingSettings : List String :=
  ["openai_base_url", "model_provider", "model_providers", "model_catalog_json",
    "hooks", "features.hooks", "features.remote_models"]

/-- A path that names a setting of routing or something below one. -/
def routingSetting (key : String) : Bool :=
  routingSettings.any fun setting =>
    key == setting || texts.segmentation.hasPrefix key (setting ++ ".")

/-- The progress of reading a path. -/
structure PathReader where
  segments : List (List Char)
  segment : List Char
  quoted : Bool
  escaped : Bool

/-- Read a character of a key path. -/
def PathReader.read (reader : PathReader) (character : List Char) :
    Option PathReader :=
  if reader.escaped then
    some { reader with
      segment := reader.segment ++ character
      escaped := false }
  else if character = ['\\'] ∧ reader.quoted then
    some { reader with escaped := true }
  else if character = ['"'] ∧ reader.segment.isEmpty ∧ !reader.quoted then
    some { reader with quoted := true }
  else if character = ['"'] ∧ reader.quoted then
    some { reader with quoted := false }
  else if character = ['.'] ∧ !reader.quoted then
    if reader.segment.isEmpty then none
    else some { reader with
      segments := reader.segment :: reader.segments
      segment := [] }
  else if character = ['"'] then none
  else some { reader with segment := reader.segment ++ character }

/-- The segments of a path, with quotes and escapes as the Engine reads them. -/
def configurationPath (path : String) : Option (List String) := do
  let reader ← (texts.segmentation.characters path.toList).foldlM
    PathReader.read ⟨[], [], false, false⟩
  if reader.quoted || reader.escaped || reader.segment.isEmpty then none
  else some ((reader.segment :: reader.segments).reverse.map String.ofList)

/-- An edit reaches the routing settings. -/
def changesRouting (edit : Object) : Bool :=
  match (edit.get "keyPath").bind Json.asString with
  | none => true
  | some path =>
    match configurationPath texts path with
    | none => true
    | some segments =>
      let normalized := ".".intercalate segments
      if routingSetting texts normalized then true
      -- Replacing a parent table also changes its protected descendants.
      else if normalized == "features" &&
          (edit.get "mergeStrategy").bind Json.asString == some "replace" then
        true
      else
        match (edit.get "value").bind Json.asObject with
        | some value => (leaves normalized value).any fun leaf => routingSetting texts leaf.1
        | none => false

/-- The identity of a message, with its type. -/
def id (message : Object) : Except RouterFailure String :=
  match (message.get "id").bind Json.asString with
  | some id => .ok ("s:" ++ id)
  | none =>
    match (message.get "id").bind Json.asInt with
    | some id => .ok ("n:" ++ toString id)
    | none => .error ⟨"Invalid Engine protocol request ID."⟩

/-- A request starts a title task. -/
def startsTitle (method : String) (params : Object) : Bool :=
  ["thread/start", "thread/fork"].contains method &&
    (params.get "threadSource").bind Json.asString == some "thread_title"

/-- Refuse another model provider. -/
def checkProvider (params : Object) : Except RouterFailure Unit :=
  if ["modelProvider", "model_provider"].any fun key =>
      match (params.get key).bind Json.asString with
      | some provider => provider != "openai"
      | none => false then
    .error ⟨"Turnrail routing requires the OpenAI model provider."⟩
  else .ok ()

/-- Refuse a task that overrides a setting of routing.  The title helper may
disable the hooks. -/
def checkConfig (method : String) (params : Object) :
    Except RouterFailure Unit :=
  match (params.get "config").bind Json.asObject with
  | none => .ok ()
  | some config =>
    if (leaves "" config).any fun leaf =>
        routingSetting texts leaf.1 &&
          !(leaf.1 == "features.hooks" && leaf.2.asBool == some false &&
            startsTitle method params) then
      .error ⟨"A task cannot override Turnrail routing configuration."⟩
    else .ok ()

/-- Refuse edits of the settings of routing. -/
def checkEdits (method : String) (params : Object) :
    Except RouterFailure Unit :=
  if method == "config/value/write" && changesRouting texts params then
    .error ⟨"Quit Turnrail mode before changing routing configuration."⟩
  else
    match (params.get "edits").bind Json.asObjects with
    | some edits =>
      if method == "config/batchWrite" && edits.any (changesRouting texts) then
        .error ⟨"Quit Turnrail mode before changing routing configuration."⟩
      else .ok ()
    | none => .ok ()

/-- Check a message of the desktop.  A request that starts a title task is
added to the pending ones. -/
def request (titles : List String) (message : Object) :
    Except RouterFailure (List String) :=
  match (message.get "method").bind Json.asString,
      (message.get "params").bind Json.asObject with
  | some method, some params => do
    checkProvider params
    checkConfig texts method params
    checkEdits texts method params
    if startsTitle method params then
      let key ← id message
      if titles.any (texts.same key) then
        .error ⟨"Duplicate pending title task request."⟩
      else .ok (key :: titles)
    else .ok titles
  | _, _ => .ok titles

/-- What remains to be done with a message of the Engine. -/
inductive Duty
  | forward
  | register (thread : Object)
  | fail (error : RouterFailure)

/-- Look at a message of the Engine.  A pending title request is removed by its
answer, and the task of a successful answer has to be registered. -/
def response (titles : List String) (message : Object) :
    Duty × List String :=
  if (message.get "method").isSome || (message.get "id").isNone then
    (.forward, titles)
  else
    match id message with
    | .error error => (.fail error, titles)
    | .ok key =>
      if titles.any (texts.same key) then
        let titles := titles.filter fun title => !texts.same key title
        if (message.get "error").isSome then (.forward, titles)
        else
          match RouterJSON.map message "result" >>= fun result =>
              RouterJSON.map result "thread" with
          | .error error => (.fail error, titles)
          | .ok thread => (.register thread, titles)
      else (.forward, titles)

end RouterEngineObserver

end Turnrail
