import Turnrail.Ledger.Conversation
import Turnrail.Runtime.Workers
import Turnrail.Value

/-!
# What a fingerprint identifies

A request is delivered under the hash of its turn and of its body, with the
whole conversation as input and without the fields that may change when the
same request is sent again.  Two requests have the same fingerprint exactly if
they ask the same of the service in the same turn, whatever transport they came
on and however much of the conversation they spelled out.
-/

namespace Turnrail

open Interleaving RouterLedger RouterJSON Object RouterRequest

variable (host : Foundation)

namespace RouterModelStream

/-- The body as an event. -/
def envelope (body : Object) : Object :=
  body.set "type" (.string "response.create")

/-- The event of a request over HTTP. -/
def httpBody (data : Data) (headers : Headers) : Except PlainError Data := do
  let body ← RouterJSON.object host data
  if (body.get "type").isNone ∧ (body.get "stream").bind Json.asBool = some true ∧
      (headers.lookup "content-encoding").isNone then
    let body := envelope body
    let metadata ← metadata host body
    match headers.lookup "x-codex-turn-metadata" with
    | some header =>
      let read ← RouterJSON.object host (utf8 header)
      if RouterJSON.data host metadata = RouterJSON.data host read then
        return RouterJSON.data host body
      else
        throw (.failure ⟨"HTTP inference metadata disagrees with its body."⟩)
    | none => return RouterJSON.data host body
  else
    throw (.failure ⟨"HTTP inference requires an uncompressed streaming request."⟩)

variable {host} in
theorem httpBody_eq
    {data raw : Data}
    {headers : Headers}
    {request : Object}
    (read : RouterJSON.object host data = .ok request)
    (accepted : httpBody host data headers = .ok raw) :
    raw = RouterJSON.data host (envelope request) := by
  obtain ⟨body, same, accepted⟩ := bind_eq_ok.mp accepted
  rw [read] at same
  cases same
  split at accepted
  · obtain ⟨metadata, -, accepted⟩ := bind_eq_ok.mp accepted
    split at accepted
    · obtain ⟨other, -, accepted⟩ := bind_eq_ok.mp accepted
      split at accepted
      · cases accepted
        rfl
      · cases accepted
    · cases accepted
      rfl
  · cases accepted

end RouterModelStream

/-- Answer the calls of the ledger. -/
def Ledger.replies (ledger : Ledger) : (effect : Effect) → Option effect.Reply
  | .ledger call => some (RouterLedger.call (call.run host) ledger []).1
  | _ => none

namespace RouterRequest

/-- The whole conversation of a request, as a ledger tells it. -/
def expandedOn (ledger : Ledger) (body : Object) (thread : String) :
    Option (Except RouterError (List Object × Option History)) :=
  (((expanded body thread : Worker Unit _).run ()).answer (ledger.replies host)).map Prod.fst

/-- What a request asks of the service. -/
def identity (body : Object) (input : List Object) : Object :=
  (((body.removeValue "previous_response_id").removeValue
    "client_metadata").removeValue "stream").set "input" (.objects input)

/-- What is hashed for a request. -/
def document (body : Object) (input : List Object) (turn : String) : Object :=
  [("turn", .string turn), ("request", .object (identity body input))]

theorem fingerprint_eq
    (body : Object)
    (input : List Object)
    (turn : String) :
    fingerprint host body input turn = hash host
        (data host (document body input turn)) :=
  rfl

end RouterRequest

/-- What the fingerprint of a search covers. -/
def searchDocument (key : String) (body : Object) : Object :=
  [("kind", .string "web_search"), ("turn", .string key), ("body", .object body)]

/-- Canonical JSON and SHA-256 tell documents apart: documents with the same
value have the same bytes, and among the given documents nothing else has. -/
structure TellsApart (documents : Object → Prop) : Prop where
  canonical : ∀ {first second : Json}, first.value = second.value →
    host.jsonData first = host.jsonData second
  injective : ∀ {first second : Object}, documents first → documents second →
    RouterJSON.data host first = RouterJSON.data host second →
    first.value = second.value
  collisionFree : ∀ {first second : Object}, documents first → documents second →
    host.sha256 (RouterJSON.data host first) =
      host.sha256 (RouterJSON.data host second) →
    RouterJSON.data host first = RouterJSON.data host second
  reads : ∀ {object read : Object}, documents object →
    RouterJSON.object host (RouterJSON.data host object) = .ok read →
    read.value = object.value

variable {host}

section Hash

theorem digitChar_injective
    {first second : Nat}
    (small : first < 16)
    (small' : second < 16)
    (same : Nat.digitChar first = Nat.digitChar second) :
    first = second := by
  have all : ∀ first second : Fin 16, Nat.digitChar first.val = Nat.digitChar second.val →
      first = second := by decide
  exact Fin.mk.inj (all ⟨first, small⟩ ⟨second, small'⟩ same)

theorem hexadecimal_injective
    {first second : UInt8}
    (same : hexadecimal first = hexadecimal second) :
    first = second := by
  simp only [hexadecimal, List.cons.injEq, and_true] at same
  have bound := first.toNat_lt
  have bound' := second.toNat_lt
  have high := digitChar_injective (by omega) (by omega) same.1
  have low := digitChar_injective (by omega) (by omega) same.2
  apply UInt8.toNat.inj
  omega

theorem flatMap_hexadecimal_injective
    {first second : List UInt8}
    (same : first.flatMap hexadecimal = second.flatMap hexadecimal) :
    first = second := by
  induction first generalizing second with
  | nil =>
    cases second with
    | nil => rfl
    | cons byte rest => cases same
  | cons byte rest ih =>
    cases second with
    | nil => cases same
    | cons other others =>
      rw [List.flatMap_cons, List.flatMap_cons] at same
      obtain ⟨head, tail⟩ := List.append_inj same rfl
      rw [hexadecimal_injective head, ih tail]

/-- The content identity determines the digest. -/
theorem sha256_of_hash
    {first second : Data}
    (same : hash host first = hash host second) :
    host.sha256 first = host.sha256 second :=
  Vector.toList_inj.mp (flatMap_hexadecimal_injective (String.ofList_inj.mp same))

end Hash

namespace TellsApart

variable {documents : Object → Prop} {first second : Object}

theorem hash_eq_iff
    (apart : TellsApart host documents)
    (known : documents first)
    (known' : documents second) :
    RouterJSON.hash host (RouterJSON.data host first) =
        RouterJSON.hash host (RouterJSON.data host second) ↔
      first.value = second.value := by
  constructor
  · intro same
    exact apart.injective known known' (apart.collisionFree known known' (sha256_of_hash same))
  · intro same
    rw [RouterJSON.data, RouterJSON.data, apart.canonical same]

end TellsApart

namespace RouterRequest

/-- The fields that a fingerprint does not take from the body. -/
def unidentified : List String :=
  ["input", "previous_response_id", "client_metadata", "stream"]

/-- The bodies agree on everything that is identified. -/
def Agree (first second : Object) : Prop :=
  ∀ key ∉ unidentified, (first.get key).map Json.value = (second.get key).map Json.value

theorem get_identity
    (body : Object)
    (input : List Object)
    (key : String) :
    (identity body input).get key =
      if key = "input" then some (.objects input)
      else if key ∈ unidentified then none else body.get key := by
  rw [identity]
  by_cases input : key = "input"
  · rw [if_pos input, input, get_set_self]
  · rw [if_neg input, get_set_of_ne _ _ input]
    by_cases stream : key = "stream"
    · rw [stream, get_removeValue_self, if_pos (by decide)]
    · rw [get_removeValue_of_ne _ stream]
      by_cases metadata : key = "client_metadata"
      · rw [metadata, get_removeValue_self, if_pos (by decide)]
      · rw [get_removeValue_of_ne _ metadata]
        by_cases previous : key = "previous_response_id"
        · rw [previous, get_removeValue_self, if_pos (by decide)]
        · rw [get_removeValue_of_ne _ previous, if_neg]
          simp [unidentified, input, stream, metadata, previous]

variable {body other : Object} {input items : List Object}

theorem identity_value_iff :
    (identity body input).value = (identity other items).value ↔
      input.map value = items.map value ∧ Agree body other := by
  rw [value_eq_iff]
  simp only [get_identity]
  constructor
  · intro same
    constructor
    · have inputs := same "input"
      rw [if_pos rfl, if_pos rfl, Option.map_some, Option.map_some,
        value_objects, value_objects, Option.some.injEq,
        Value.array.injEq] at inputs
      exact inputs
    · intro key identified
      have other : key ≠ "input" := by
        rintro rfl
        exact identified (by decide)
      have fields := same key
      rw [if_neg other, if_neg other, if_neg identified, if_neg identified] at fields
      exact fields
  · rintro ⟨inputs, agree⟩ key
    split
    · rw [Option.map_some, Option.map_some, value_objects, value_objects, inputs]
    · split
      · rfl
      · rename_i identified
        exact agree key identified

theorem document_value_iff {turn key : String} :
    (document body input turn).value = (document other items key).value ↔
      turn = key ∧ input.map value = items.map value ∧ Agree body other := by
  rw [value_eq_iff, ← identity_value_iff]
  simp only [document, get_cons]
  constructor
  · intro same
    have turns := same "turn"
    have requests := same "request"
    simp only [if_true, Option.map_some, Json.value, Option.some.injEq,
      Value.string.injEq] at turns
    rw [if_neg (by decide), if_pos rfl, if_neg (by decide), if_pos rfl,
      Option.map_some, Option.map_some, Option.some.injEq] at requests
    exact ⟨turns, requests⟩
  · rintro ⟨rfl, requests⟩ field
    split
    · rfl
    · split
      · exact congrArg some requests
      · rfl

end RouterRequest

theorem searchDocument_value_ne
    (key turn : String)
    (search body : Object)
    (input : List Object) :
    (searchDocument key search).value ≠ (document body input turn).value := by
  intro same
  have kind := value_eq_iff.mp same "kind"
  rw [searchDocument, document, get_cons, if_pos rfl,
    get_cons, if_neg (by decide), get_cons,
    if_neg (by decide)] at kind
  cases kind

namespace RouterRequest

variable {ledger : Ledger} {body : Object} {thread : String} {input : List Object}
  {previous : Option History}

theorem expandedOn_eq_ok :
    expandedOn host ledger body thread = some (.ok (input, previous)) ↔
      ∃ delta, array body "input" = .ok delta ∧
      ((previousResponse body = .ok none ∧ previous = none ∧ input = delta) ∨
        ∃ id history, previousResponse body = .ok (some id) ∧
        (call (RouterLedger.history host id thread) ledger []).1 = .ok history ∧
        previous = some history ∧
        input = history.input ++ history.output ++ delta) := by
  unfold expandedOn expanded
  cases reads : array body "input" with
  | error error =>
    constructor
    · intro expands
      cases expands
    · rintro ⟨_, ⟨⟩, -⟩
  | ok delta =>
    cases continued : previousResponse body with
    | error error =>
      constructor
      · intro expands
        cases expands
      · rintro ⟨_, -, ⟨⟨⟩, -⟩ | ⟨_, _, ⟨⟩, -⟩⟩
    | ok found =>
      cases found with
      | none =>
        constructor
        · intro expands
          cases expands
          exact ⟨_, rfl, .inl ⟨rfl, rfl, rfl⟩⟩
        · rintro ⟨_, ⟨⟩, ⟨-, rfl, rfl⟩ | ⟨_, _, ⟨⟩, -⟩⟩
          rfl
      | some id =>
        have reply : ledger.replies host (.ledger (.history id thread)) =
          some (call (RouterLedger.history host id thread) ledger []).1 := rfl
        change Option.map Prod.fst ((ledger.replies host
          (.ledger (.history id thread))).bind _) = _ ↔ _
        rw [reply]
        cases told : (call (RouterLedger.history host id thread) ledger []).1 with
        | error error =>
          constructor
          · intro expands
            cases expands
          · rintro ⟨_, -, ⟨⟨⟩, -⟩ | ⟨_, _, ⟨⟩, tells, -⟩⟩
            cases told.symm.trans tells
        | ok history =>
          constructor
          · intro expands
            cases expands
            exact ⟨_, rfl, .inr ⟨id, history, rfl, told, rfl, rfl⟩⟩
          · rintro ⟨_, ⟨⟩, ⟨⟨⟩, -⟩ | ⟨_, _, ⟨⟩, tells, rfl, rfl⟩⟩
            cases told.symm.trans tells
            rfl

/-- The request with its whole conversation spelled out. -/
def whole (body : Object) (input : List Object) : Object :=
  (body.removeValue "previous_response_id").set "input" (.objects input)

theorem agree_whole
    (body : Object)
    (input : List Object) :
    Agree (whole body input) body := by
  intro key identified
  have notInput : key ≠ "input" := by
    rintro rfl
    exact identified (by decide)
  have notPrevious : key ≠ "previous_response_id" := by
    rintro rfl
    exact identified (by decide)
  rw [whole, get_set_of_ne _ _ notInput, get_removeValue_of_ne _ notPrevious]

/-- A request that is spelled out is its own conversation. -/
theorem expandedOn_whole
    (ledger : Ledger)
    (body : Object)
    (input : List Object)
    (thread : String) :
    expandedOn host ledger (whole body input) thread =
      some (.ok (input, none)) := by
  refine expandedOn_eq_ok.mpr ⟨input, ?_, .inl ⟨?_, rfl, rfl⟩⟩
  · rw [array_eq_ok, whole, get_set_self, Option.bind_some,
      Json.asObjects_objects]
  · have missing : (whole body input).get "previous_response_id" = none := by
      rw [whole, get_set_of_ne _ _ (by decide), get_removeValue_self]
    rw [previousResponse, absent, missing, if_pos rfl]

section Values

variable {first second : Object} {key : String}

section

variable
  (same : (first.get key).map Json.value = (second.get key).map Json.value)
include same

theorem absent_of_value : absent first key = absent second key := by
  unfold absent
  cases one : first.get key <;> cases two : second.get key
  · rfl
  · rw [one, two] at same
    cases same
  · rw [one, two] at same
    cases same
  · rename_i value other
    rw [one, two, Option.map_some, Option.map_some, Option.some.injEq] at same
    cases value <;> cases other <;> simp_all [Json.value]

theorem text_of_value : text first key = text second key := by
  have texts : (first.get key).bind Json.asString = (second.get key).bind Json.asString := by
    cases one : first.get key <;> cases two : second.get key
    · rfl
    · rw [one, two] at same
      cases same
    · rw [one, two] at same
      cases same
    · rw [one, two, Option.map_some, Option.map_some, Option.some.injEq] at same
      exact asString_of_value same
  rw [text, text, texts]

theorem array_of_value
    {items : List Object}
    (reads : array first key = .ok items) :
    ∃ others, array second key = .ok others ∧
      others.map value = items.map value := by
  obtain ⟨value, known, reads⟩ := Option.bind_eq_some_iff.mp (array_eq_ok.mp reads)
  rw [known, Option.map_some, eq_comm, Option.map_eq_some_iff] at same
  obtain ⟨other, known', same⟩ := same
  obtain ⟨others, reads', equal⟩ := asObjects_of_value same.symm reads
  refine ⟨others, array_eq_ok.mpr ?_, equal⟩
  rw [known', Option.bind_some, reads']

end

/-- Requests with the same conversation fields have the same conversation. -/
theorem expandedOn_of_value
    (inputs :
      (first.get "input").map Json.value = (second.get "input").map Json.value)
    (continues : (first.get "previous_response_id").map Json.value =
      (second.get "previous_response_id").map Json.value)
    (expands :
      expandedOn host ledger first thread = some (.ok (input, previous))) :
    ∃ items,
      expandedOn host ledger second thread = some (.ok (items, previous)) ∧
      items.map value = input.map value := by
  have named : previousResponse first = previousResponse second := by
    rw [previousResponse, previousResponse, absent_of_value continues, text_of_value continues]
  obtain ⟨delta, reads, rest⟩ := expandedOn_eq_ok.mp expands
  obtain ⟨others, reads', equal⟩ := array_of_value inputs reads
  rcases rest with ⟨starts, rfl, rfl⟩ | ⟨id, history, follows, tells, rfl, rfl⟩
  · exact ⟨others, expandedOn_eq_ok.mpr ⟨others, reads',
        .inl ⟨named ▸ starts, rfl, rfl⟩⟩, equal⟩
  · refine ⟨_, expandedOn_eq_ok.mpr ⟨others, reads',
      .inr ⟨id, history, named ▸ follows, tells, rfl, rfl⟩⟩, ?_⟩
    simp only [List.map_append, equal]

end Values

variable {documents : Object → Prop}

theorem fingerprint_of_agree
    {other : Object}
    {items : List Object}
    (apart : TellsApart host documents)
    (turn : String)
    (inputs : input.map value = items.map value)
    (agree : Agree body other) :
    fingerprint host body input turn = fingerprint host other items turn := by
  have same : (Json.object (document body input turn)).value =
      (Json.object (document other items turn)).value :=
    document_value_iff.mpr ⟨rfl, inputs, agree⟩
  rw [fingerprint_eq, fingerprint_eq, RouterJSON.data, RouterJSON.data, apart.canonical same]

/-- A body on the one transport corresponds to a request on the other: they
differ in their envelopes only. -/
structure Corresponds (webSocket request : Object) : Prop where
  type : webSocket.get "type" = some (.string "response.create")
  fields : ∀ key, key ≠ "type" → key ≠ "stream" →
    (webSocket.get key).map Json.value = (request.get key).map Json.value

theorem Corresponds.read
    {webSocket request read : Object}
    (corresponds : Corresponds webSocket request)
    (apart : TellsApart host documents)
    (known : documents (RouterModelStream.envelope request))
    (reads : RouterJSON.object host (RouterJSON.data host
      (RouterModelStream.envelope request)) = .ok read)
    {key : String}
    (other : key ≠ "stream") :
    (webSocket.get key).map Json.value = (read.get key).map Json.value := by
  have same := value_eq_iff.mp (apart.reads known reads) key
  rw [same, RouterModelStream.envelope]
  by_cases type : key = "type"
  · rw [type, get_set_self, corresponds.type]
  · rw [get_set_of_ne _ _ type]
    exact corresponds.fields key type other

end RouterRequest

open RouterRequest in
/-- Two requests have the same fingerprint exactly if they belong to one turn,
continue the same conversation and agree on all other fields.  So it does not
matter how much of the conversation a request spells out, or on which transport
it came; and a search never has the fingerprint of a request. -/
theorem fingerprint_identifies_request
    {documents : Object → Prop}
    (apart : TellsApart host documents)
    (ledger : Ledger) :
    (∀ thread task turn key body other input items previous earlier,
      expandedOn host ledger body thread = some (.ok (input, previous)) →
      expandedOn host ledger other task = some (.ok (items, earlier)) →
      documents (document body input turn) →
      documents (document other items key) →
      (fingerprint host body input turn = fingerprint host other items key ↔
        turn = key ∧ input.map value = items.map value ∧ Agree body other)) ∧
      (∀ thread turn body input previous,
        expandedOn host ledger body thread = some (.ok (input, previous)) →
        expandedOn host ledger (whole body input) thread =
          some (.ok (input, none)) ∧
        fingerprint host (whole body input) input turn =
          fingerprint host body input turn) ∧
      (∀ thread turn data headers raw request read webSocket input previous,
        RouterJSON.object host data = .ok request →
        RouterModelStream.httpBody host data headers = .ok raw →
        documents (RouterModelStream.envelope request) →
        RouterJSON.object host raw = .ok read → Corresponds webSocket request →
        expandedOn host ledger webSocket thread = some (.ok (input, previous)) →
        ∃ items,
          expandedOn host ledger read thread = some (.ok (items, previous)) ∧
          fingerprint host read items turn =
            fingerprint host webSocket input turn) ∧
      ∀ turn key search body input, documents (searchDocument key search) →
        documents (document body input turn) →
        RouterRuntime.searchFingerprint host key search ≠
          fingerprint host body input turn := by
  refine ⟨?_, ?_, ?_, ?_⟩
  · intro thread task turn key body other input items previous earlier _ _ known known'
    rw [fingerprint_eq, fingerprint_eq, apart.hash_eq_iff known known', document_value_iff]
  · intro thread turn body input previous _
    exact ⟨expandedOn_whole ledger body input thread,
      fingerprint_of_agree apart turn rfl (agree_whole body input)⟩
  · intro thread turn data headers raw request read webSocket input previous
      parsed accepted known reads corresponds expands
    rw [RouterModelStream.httpBody_eq parsed accepted] at reads
    have fields : ∀ {key}, key ≠ "stream" →
        (webSocket.get key).map Json.value = (read.get key).map Json.value :=
      corresponds.read apart known reads
    obtain ⟨items, expands', equal⟩ := expandedOn_of_value
      (fields (by decide)) (fields (by decide)) expands
    refine ⟨items, expands', fingerprint_of_agree apart turn equal ?_⟩
    intro key identified
    refine (fields ?_).symm
    rintro rfl
    exact identified (by decide)
  · intro turn key search body input known known' same
    exact searchDocument_value_ne key turn search body input
      ((apart.hash_eq_iff known known').mp same)

namespace Labels

/-- A body. -/
def body : Object := [("model", .string "model"), ("input", .array [])]

/-- Bytes that tell the turn of a document, and whether it has a kind. -/
def encode : Value → Data
  | .object fields =>
    match fields "kind", fields "turn" with
    | some _, some (.string turn) => 0 :: utf8 turn
    | none, some (.string turn) => utf8 turn
    | _, _ => []
  | _ => []

/-- A platform that writes these bytes. -/
def foundation : Foundation :=
  { Foundation.mute with
    jsonData := fun document => encode document.value
    sha256 := fun bytes => .replicate 32 (bytes.headD 0) }

/-- A request in two turns, and a search. -/
def documents (object : Object) : Prop :=
  object = document body [] "first" ∨
    object = document body [] "second" ∨
    object = searchDocument "first" body

theorem data_document (turn : String) :
    data foundation (document body [] turn) = utf8 turn := by
  have missing : get [] "kind" = none := rfl
  simp [data, foundation, encode, document,
    get_cons, Json.value, missing]

theorem data_search (turn : String) :
    data foundation (searchDocument turn body) = 0 :: utf8 turn := by
  simp [data, foundation, encode, searchDocument, get_cons, Json.value]

theorem eq_of_digest
    {first second : Object}
    (known : documents first)
    (known' : documents second)
    (same : foundation.sha256 (data foundation first) =
      foundation.sha256 (data foundation second)) :
    first = second := by
  rcases known with rfl | rfl | rfl <;>
    rcases known' with rfl | rfl | rfl <;>
    first
    | rfl
    | rw [data_document, data_document] at same
      exact absurd same (by decide +kernel)
    | rw [data_document, data_search] at same
      exact absurd same (by decide +kernel)

theorem apart : TellsApart foundation documents where
  canonical same := congrArg encode same
  injective known known'
    same := by rw [eq_of_digest known known' (congrArg foundation.sha256 same)]
  collisionFree known known' same := by rw [eq_of_digest known known' same]
  reads _ read := by cases read

end Labels

/-- Turns and searches are told apart. -/
theorem turns_and_searches_are_told_apart :
    fingerprint Labels.foundation Labels.body [] "first" ≠
        fingerprint Labels.foundation Labels.body [] "second" ∧
      RouterRuntime.searchFingerprint Labels.foundation "first" Labels.body ≠
        fingerprint Labels.foundation Labels.body [] "first" := by
  obtain ⟨identifies, -, -, search⟩ :=
    fingerprint_identifies_request Labels.apart ⟨.empty, .empty⟩
  have expands : expandedOn Labels.foundation ⟨.empty, .empty⟩
      Labels.body "task" = some (.ok ([], none)) :=
    expandedOn_eq_ok.mpr ⟨[], rfl, .inl ⟨rfl, rfl, rfl⟩⟩
  constructor
  · intro same
    obtain ⟨turns, -, -⟩ := (identifies _ _ _ _ _ _ _ _ _ _ expands expands
      (.inl rfl) (.inr (.inl rfl))).mp same
    exact absurd turns (by decide)
  · exact search _ _ _ _ _ (.inr (.inr rfl)) (.inl rfl)

end Turnrail
