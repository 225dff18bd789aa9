import Turnrail.Runtime.Effects
import Mathlib.Data.List.Forall2

/-!
# What diagnostics tell

A failure of the model service is reduced to a bounded diagnostic before it is
shown, recorded or passed on.  Two events that only differ in texts of the
service, none of them an identifier of the protocol, are reduced to the same
diagnostic.
-/

namespace Turnrail

open List Object RouterServiceRetryDelay

namespace RouterServiceLog

open RouterServiceFailure in

/-- An entry of the diagnostics. -/
structure Entry where
  reference : String
  time : Date
  transport : String
  eventType : String
  envelope : Envelope
  status : Option Int
  statusState : FieldState
  errorType : Field
  code : Field
  reason : Field
  retryDelay : RouterServiceRetryDelay
  permitsEngineRecovery : Bool
  request : Option RouterTransportObservation

/-- The entry for a failure. -/
def entry (failure : RouterServiceFailure)
    (request : Option RouterTransportObservation) (transport : Transport)
    (reference : String) (time : Date) : Entry where
  reference := reference
  time := time
  transport := if transport = .webSocket then "websocket" else "http"
  eventType := failure.eventType
  envelope := failure.envelope
  status := failure.status
  statusState := failure.statusState
  errorType := failure.errorType
  code := failure.code
  reason := failure.reason
  retryDelay := failure.retryDelay
  permitsEngineRecovery := failure.permitsEngineRecovery
  request := request

/-- The number of records that are kept. -/
def maximumEntries : Nat := 64

/-- The size of all records. -/
def maximumBytes : Nat := 256 * 1024

/-- Append a record to those that were read, and return what is written. -/
def record (encode : List Entry → Data) (read : Except RouterFailure (List Entry))
    (failure : RouterServiceFailure) (request : Option RouterTransportObservation)
    (transport : Transport) (reference : String) (time : Date) :
    Except RouterFailure (List Entry) := do
  let entries ← read
  let entries := entries ++ [entry failure request transport reference time]
  let entries := entries.drop (entries.length - maximumEntries)
  if (encode entries).length ≤ maximumBytes then return entries
  else .error ⟨"Service diagnostics exceed their storage limit."⟩

end RouterServiceLog

namespace RouterServiceFailure

/-- Two values of the same shape that only differ in texts outside the
identifiers.  The fields of an object have no order. -/
inductive Similar : Json → Json → Prop
  | refl (value : Json) : Similar value value
  | text {first second : String}
      (outside : first ∉ identifiers)
      (outside' : second ∉ identifiers) : Similar (.string first) (.string second)
  | array {items others : List Json}
      (values : Forall₂ Similar items others) :
      Similar (.array items) (.array others)
  | object {fields ordered others : Object}
      (distinct : (fields.map Prod.fst).Nodup)
      (same : fields.Perm ordered)
      (keys : ordered.map Prod.fst = others.map Prod.fst)
      (values : Forall₂ Similar (ordered.map Prod.snd) (others.map Prod.snd)) :
      Similar (.object fields) (.object others)

/-- A header that asks for a delay. -/
def isRetryAfter (key : String) : Prop :=
  lowercased key = "retry-after"

/-- Two events that differ in their messages only. -/
structure SimilarEvents (event other : Object) : Prop where
  similar : Similar (.object event) (.object other)
  type : ∀ text text', event.get "type" = some (.string text) →
    other.get "type" = some (.string text') → text = text'
  delay : ∀ headers headers', event.get "headers" = some (.object headers) →
    other.get "headers" = some (.object headers') →
    ∀ key text text', isRetryAfter key → get headers key = some (.string text) →
      get headers' key = some (.string text') → text = text'

/-- Two objects have similar values under the same keys. -/
def Alike (first second : Object) : Prop :=
  ∀ key, Option.Rel Similar (first.get key) (second.get key)

section Lookup

variable {first second : Object} {key : String}

theorem get_perm
    (distinct : (first.map Prod.fst).Nodup)
    (same : first.Perm second) :
    first.get key = second.get key := by
  induction same with
  | nil => rfl
  | cons field _ ih => rw [get_cons, get_cons, ih (nodup_cons.mp distinct).2]
  | swap field other rest =>
    have apart : other.1 ≠ field.1 := by
      intro equal
      refine (nodup_cons.mp distinct).1 ?_
      rw [equal]
      exact mem_cons_self
    rw [get_cons, get_cons, get_cons, get_cons]
    by_cases mine : key = field.1
    · rw [if_pos mine, if_pos mine, if_neg (by rw [mine]; exact apart.symm)]
    · rw [if_neg mine, if_neg mine]
  | trans earlier _ firstHypothesis secondHypothesis =>
    exact (firstHypothesis distinct).trans
      (secondHypothesis ((earlier.map Prod.fst).nodup_iff.mp distinct))

theorem alike_of_pairs
    (keys : first.map Prod.fst = second.map Prod.fst)
    (values : Forall₂ Similar (first.map Prod.snd) (second.map Prod.snd)) :
    Alike first second := by
  intro key
  induction first generalizing second with
  | nil =>
    rw [map_eq_nil_iff.mp keys.symm]
    exact .none
  | cons field rest ih =>
    cases second with
    | nil => cases keys
    | cons other others =>
      obtain ⟨same, keys⟩ := cons.inj keys
      obtain ⟨similar, values⟩ := forall₂_cons.mp values
      rw [get_cons, get_cons, same]
      split
      · exact .some similar
      · exact ih keys values

theorem alike_of_similar (similar : Similar (.object first) (.object second)) :
    Alike first second := by
  cases similar with
  | refl =>
    intro key
    cases first.get key with
    | none => exact .none
    | some value => exact .some (.refl value)
  | object distinct same keys values =>
    intro key
    rw [get_perm distinct same]
    exact alike_of_pairs keys values key

end Lookup

section Reading

variable {host : Foundation} {now : Date}
variable {value value' : Option Json} {first second event other : Object}
variable {key : String}

section

variable (similar : Option.Rel Similar value value')
include similar

theorem fieldOf_eq : Field.of value = Field.of value' := by
  cases similar with
  | none => rfl
  | some similar =>
    cases similar with
    | refl => rfl
    | text outside outside' =>
      rw [Field.of, Field.of, if_neg (mt contains_iff_mem.mp outside),
        if_neg (mt contains_iff_mem.mp outside')]
    | array | object => rfl

theorem asInt_eq : value.bind Json.asInt = value'.bind Json.asInt := by
  cases similar with
  | none => rfl
  | some similar => cases similar <;> rfl

theorem asObject_cases :
    (value.bind Json.asObject = none ∧ value'.bind Json.asObject = none) ∨
      ∃ fields fields',
      value = some (.object fields) ∧ value' = some (.object fields') ∧
      Similar (.object fields) (.object fields') := by
  cases similar with
  | none => exact .inl ⟨rfl, rfl⟩
  | @some left right similar =>
    cases similar with
    | refl =>
      cases left with
      | object fields => exact .inr ⟨fields, fields, rfl, rfl, .refl _⟩
      | null | bool | number | string | array => exact .inl ⟨rfl, rfl⟩
    | text | array => exact .inl ⟨rfl, rfl⟩
    | object distinct same keys values =>
      exact .inr ⟨_, _, rfl, rfl, .object distinct same keys values⟩

theorem isSome_eq : value.isSome = value'.isSome := by
  cases similar <;> rfl

theorem isString_eq :
    (value.bind Json.asString).isSome = (value'.bind Json.asString).isSome := by
  cases similar with
  | none => rfl
  | some similar => cases similar <;> rfl

end

theorem readStatus_eq (alike : Alike event other) :
    readStatus event = readStatus other := by
  rw [readStatus, readStatus, asInt_eq (alike "status"), fieldOf_eq (alike "status")]

/-- Two readings fail both, or they succeed with related results. -/
def Agree (related : α → α → Prop) (first second : Except RouterFailure α) : Prop :=
  (∃ error error', first = .error error ∧ second = .error error') ∨
    ∃ result result', first = .ok result ∧ second = .ok result' ∧ related result result'

variable {related : α → α → Prop} {field : Json}

theorem agree_bind
    {related' : β → β → Prop}
    {first second : Except RouterFailure α}
    {next next' : α → Except RouterFailure β}
    (agree : Agree related first second)
    (onward : ∀ result result', related result result' →
      Agree related' (next result) (next' result')) :
    Agree related' (first >>= next) (second >>= next') := by
  obtain ⟨error, error', rfl, rfl⟩ | ⟨result, result', rfl, rfl, holds⟩ := agree
  · exact .inl ⟨error, error', rfl, rfl⟩
  · exact onward result result' holds

theorem agree_pure
    {result result' : α}
    (holds : related result result') :
    Agree related (pure result) (pure result') :=
  .inr ⟨result, result', rfl, rfl, holds⟩

theorem agree_map (alike : Alike first second) :
    Agree (fun found found' => Similar (.object found) (.object found'))
      (RouterJSON.map first key) (RouterJSON.map second key) := by
  unfold RouterJSON.map
  obtain ⟨none, none'⟩ | ⟨fields, fields', held, held', similar⟩ := asObject_cases (alike key)
  · rw [none, none']
    exact .inl ⟨_, _, rfl, rfl⟩
  · rw [held, held']
    exact .inr ⟨fields, fields', rfl, rfl, similar⟩

theorem agree_detail
    (alike : Alike event other)
    (type : String) :
    Agree (fun found found' => found.1 = found'.1 ∧ Alike found.2.1 found'.2.1 ∧
      found.2.2 = found'.2.2) (detail event type) (detail other type) := by
  unfold detail
  split
  · have codes := isSome_eq (alike "code")
    have messages := isSome_eq (alike "message")
    have texts := isString_eq (alike "message")
    have errors := isSome_eq (alike "error")
    cases wrapped : event.get "error" with
    | some error =>
      obtain ⟨error', wrapped'⟩ : ∃ error', other.get "error" = some error' := by
        rw [← Option.isSome_iff_exists, ← errors, wrapped]
        rfl
      rw [wrapped']
      dsimp only
      rw [codes, messages]
      split
      · exact .inl ⟨_, _, rfl, rfl⟩
      · refine agree_bind (agree_map alike) fun found found' similar => ?_
        exact agree_pure ⟨rfl, alike_of_similar similar, rfl⟩
    | none =>
      have wrapped' : other.get "error" = none := by
        rw [← Option.isNone_iff_eq_none, ← Option.not_isSome, ← errors, wrapped]
        rfl
      rw [wrapped']
      dsimp only
      rw [codes, texts]
      split
      · refine .inr ⟨_, _, rfl, rfl, rfl, fun key => ?_, rfl⟩
        by_cases type : key = "type"
        · rw [type, get_removeValue_self, get_removeValue_self]
          exact .none
        · rw [get_removeValue_of_ne _ type, get_removeValue_of_ne _ type]
          exact alike key
      · exact .inl ⟨_, _, rfl, rfl⟩
  · refine agree_bind (agree_map alike) fun response response' similar => ?_
    refine agree_bind (agree_map (alike_of_similar similar)) fun found found' similar => ?_
    exact agree_pure ⟨rfl, alike_of_similar similar, rfl⟩
  · refine agree_bind (agree_map alike) fun response response' similar => ?_
    refine agree_pure ⟨rfl, ?_, rfl⟩
    obtain ⟨none, none'⟩ | ⟨fields, fields', held, held', similar⟩ :=
      asObject_cases (alike_of_similar similar "incomplete_details")
    · rw [none, none']
      exact alike_of_similar (.refl _)
    · rw [held, held']
      exact alike_of_similar similar
  · exact .inl ⟨_, _, rfl, rfl⟩

theorem filter_pairs
    {select : String × Json → Bool}
    (keyed : ∀ left right : String × Json, left.1 = right.1 →
      select left = select right)
    (keys : first.map Prod.fst = second.map Prod.fst)
    (values : Forall₂ Similar (first.map Prod.snd) (second.map Prod.snd)) :
    (first.filter select).map Prod.fst = (second.filter select).map Prod.fst ∧
      Forall₂ Similar ((first.filter select).map Prod.snd)
        ((second.filter select).map Prod.snd) := by
  induction first generalizing second with
  | nil =>
    rw [map_eq_nil_iff.mp keys.symm]
    exact ⟨rfl, .nil⟩
  | cons field rest ih =>
    cases second with
    | nil => cases keys
    | cons partner others =>
      obtain ⟨same, keys⟩ := cons.inj keys
      obtain ⟨similar, values⟩ := forall₂_cons.mp values
      obtain ⟨names, related⟩ := ih keys values
      rw [filter_cons, filter_cons, keyed field partner same]
      split
      · refine ⟨?_, .cons similar related⟩
        rw [map_cons, map_cons, same, names]
      · exact ⟨names, related⟩

theorem get_of_mem
    (distinct : (first.map Prod.fst).Nodup)
    (member : (key, field) ∈ first) :
    first.get key = some field := by
  induction first with
  | nil => cases member
  | cons entry rest ih =>
    obtain ⟨fresh, distinct⟩ := nodup_cons.mp distinct
    rw [get_cons]
    rcases mem_cons.mp member with rfl | later
    · rw [if_pos rfl]
    · have apart : key ≠ entry.1 := by
        rintro rfl
        exact fresh (mem_map.mpr ⟨_, later, rfl⟩)
      rw [if_neg apart]
      exact ih distinct later

/-- The fields that set a delay. -/
def matching (headers : Object) : Object :=
  headers.filter fun field => lowercased field.1 = "retry-after"

/-- The delay that headers ask for. -/
def delayOf (host : Foundation) (now : Date) :
    Object → RouterServiceRetryDelay
  | [] => ⟨.missing, none⟩
  | [(_, .string value)] =>
    if value.isEmpty then ⟨.invalid, none⟩
    else ofValue host value now
  | _ => ⟨.invalid, none⟩

theorem ofHeaders_object (headers : Object) :
    ofHeaders host (some (.object headers)) now =
      delayOf host now (matching headers) := by
  unfold ofHeaders delayOf matching
  rfl

theorem delayOf_of_several (several : 2 ≤ first.length) :
    delayOf host now first = ⟨.invalid, none⟩ := by
  match first, several with
  | _ :: _ :: _, _ =>
    rw [delayOf]
    · simp
    · simp

theorem mem_of_matching (alone : matching first = [(key, field)]) :
    (key, field) ∈ first ∧ isRetryAfter key := by
  have member : (key, field) ∈ matching first := by
    rw [alone]
    exact mem_cons_self
  obtain ⟨inside, asks⟩ := mem_filter.mp member
  exact ⟨inside, (of_decide_eq_true asks : lowercased key = "retry-after")⟩

theorem ofHeaders_eq
    (similar : Option.Rel Similar value value')
    (delay : ∀ headers headers', value = some (.object headers) →
      value' = some (.object headers') → ∀ key text text', isRetryAfter key →
        get headers key = some (.string text) →
        get headers' key = some (.string text') → text = text') :
    ofHeaders host value now =
      ofHeaders host value' now := by
  cases similar with
  | none => rfl
  | some similar =>
    cases similar with
    | refl | text | array => rfl
    | @object fields ordered others distinct same keys values =>
      have distinct' : (others.map Prod.fst).Nodup := by
        rw [← keys]
        exact (same.map Prod.fst).nodup_iff.mp distinct
      obtain ⟨names, related⟩ := @filter_pairs ordered others
        (fun field => lowercased field.1 = "retry-after")
        (fun left right equal => by rw [equal]) keys values
      have permuted : (matching fields).Perm (matching ordered) := same.filter _
      rw [ofHeaders_object, ofHeaders_object]
      change (matching ordered).map Prod.fst = (matching others).map Prod.fst at names
      change Forall₂ Similar ((matching ordered).map Prod.snd)
        ((matching others).map Prod.snd) at related
      rcases found : matching ordered with _ | ⟨⟨key, asked⟩, _ | ⟨next, rest⟩⟩
      · rw [found] at names permuted
        rw [map_eq_nil_iff.mp names.symm, perm_nil.mp permuted]
      · rw [found] at names related permuted
        obtain ⟨⟨key', asked'⟩, partner⟩ : ∃ field, matching others = [field] := by
          rw [← length_eq_one_iff, ← length_map Prod.fst, ← names]
          rfl
        rw [partner] at names related
        obtain ⟨rfl, -⟩ := cons.inj names
        obtain ⟨similar, -⟩ := forall₂_cons.mp related
        have alone := perm_singleton.mp permuted
        rw [alone, partner]
        cases similar with
        | refl | array | object => rfl
        | text =>
          obtain ⟨inside, asks⟩ := mem_of_matching alone
          obtain ⟨inside', -⟩ := mem_of_matching partner
          rw [delay fields others rfl rfl key _ _ asks
            (get_of_mem distinct inside) (get_of_mem distinct' inside')]
      · have several : 2 ≤ (matching ordered).length := by simp [found]
        rw [delayOf_of_several (permuted.length_eq ▸ several), delayOf_of_several]
        rw [← length_map Prod.fst, ← names, length_map]
        exact several

theorem agree_of_eq
    {outcome outcome' : Except RouterFailure α}
    (same : outcome = outcome') :
    Agree Eq outcome outcome' := by
  subst same
  cases outcome with
  | error error => exact .inl ⟨error, error, rfl, rfl⟩
  | ok result => exact .inr ⟨result, result, rfl, rfl, rfl⟩

theorem asString_eq
    (similar : Option.Rel Similar value value')
    (same : ∀ text text', value = some (.string text) →
      value' = some (.string text') → text = text') :
    value.bind Json.asString = value'.bind Json.asString := by
  cases similar with
  | none => rfl
  | some similar =>
    cases similar with
    | refl => rfl
    | text => rw [same _ _ rfl rfl]
    | array | object => rfl

theorem agree_of (similar : SimilarEvents event other) :
    Agree Eq (of host event now) (of host other now) := by
  have alike := alike_of_similar similar.similar
  have types : Agree Eq (RouterJSON.text event "type") (RouterJSON.text other "type") := by
    refine agree_of_eq ?_
    rw [RouterJSON.text, RouterJSON.text, asString_eq (alike "type") similar.type]
  refine agree_bind types ?_
  rintro type _ rfl
  refine agree_bind (agree_detail alike type) ?_
  rintro ⟨envelope, details, summary⟩ ⟨_, details', _⟩ ⟨rfl, within, rfl⟩
  refine agree_pure ?_
  rw [readStatus_eq alike, fieldOf_eq (within "type"), fieldOf_eq (within "code"),
    fieldOf_eq (within "reason"), ofHeaders_eq (alike "headers") similar.delay]

end Reading

/-- Two failures that tell the same. -/
structure Indistinguishable (failure other : RouterServiceFailure) : Prop where
  description : failure.description = other.description
  engineRecoveryEvent : failure.engineRecoveryEvent = other.engineRecoveryEvent
  permitsEngineRecovery :
    failure.permitsEngineRecovery = other.permitsEngineRecovery
  isWebSocketConnectionLimit :
    failure.isWebSocketConnectionLimit = other.isWebSocketConnectionLimit
  isMisalignmentPolicyViolation :
    failure.isMisalignmentPolicyViolation = other.isMisalignmentPolicyViolation
  entry : ∀ request transport reference time reference' time',
    { RouterServiceLog.entry failure request transport reference time with
      reference := reference', time := time' } =
    RouterServiceLog.entry other request transport reference' time'
  record : ∀ encode read request transport reference time,
    RouterServiceLog.record encode read failure request transport reference time =
    RouterServiceLog.record encode read other request transport reference time

/-- Failure events that only differ in texts of the service, none of them an
identifier, are both not understood, or the failures tell the same. -/
theorem diagnostics_leak_no_server_text
    (host : Foundation)
    (now : Date)
    (event other : Object)
    (similar : SimilarEvents event other) :
    ((∃ failure, of host event now = .ok failure) ↔
        ∃ failure, of host other now = .ok failure) ∧
      ∀ failure failure', of host event now = .ok failure →
        of host other now = .ok failure' →
        Indistinguishable failure failure' := by
  obtain ⟨error, error', fails, fails'⟩ | ⟨failure, _, reads, reads', rfl⟩ :=
    @agree_of host now event other similar
  · simp [fails, fails']
  · refine ⟨⟨fun _ => ⟨failure, reads'⟩, fun _ => ⟨failure, reads⟩⟩, ?_⟩
    intro found found' held held'
    rw [reads] at held
    rw [reads'] at held'
    cases held
    cases held'
    exact ⟨rfl, rfl, rfl, rfl, rfl, fun _ _ _ _ _ _ => rfl, fun _ _ _ _ _ _ => rfl⟩

namespace Sample

/-- An event with a message. -/
def event (message : String) : Object :=
  [("type", .string "error"), ("status", .number 400),
    ("error", .object [("code", .string "invalid_prompt"), ("message", .string message)])]

theorem similarEvents
    {first second : String}
    (outside : first ∉ identifiers)
    (outside' : second ∉ identifiers) :
    SimilarEvents (event first) (event second) where
  similar := by
    refine .object (by simp [event]) (Perm.refl _) rfl
      (.cons (.refl _) (.cons (.refl _) (.cons ?_ .nil)))
    exact .object (by simp) (Perm.refl _) rfl
      (.cons (.refl _) (.cons (.text outside outside') .nil))
  type _ _ own theirs := by
    cases own
    cases theirs
    rfl
  delay _ _ own := by cases own

end Sample

/-- Two messages of the service end up in the same diagnostics. -/
theorem messages_are_not_told :
    ∃ failure failure', of .mute (Sample.event "a secret") 0 = .ok failure ∧
      of .mute (Sample.event "another one") 0 = .ok failure' ∧
      Indistinguishable failure failure' :=
  ⟨_, _, rfl, rfl, (diagnostics_leak_no_server_text .mute 0 (Sample.event "a secret")
    (Sample.event "another one") (Sample.similarEvents (by decide) (by decide))).2
    _ _ rfl rfl⟩

end RouterServiceFailure

end Turnrail
