import Turnrail.Foundation
import Turnrail.Text.Lines
import Mathlib.Algebra.GroupWithZero.Nat

/-!
# Server-sent events

`RouterSSEParser` reads the body of a model response byte by byte as it
arrives.  `EventStream` says what a whole body means, line by line.  However the
body is cut, the parser returns the events of the whole.
-/

namespace Turnrail

open List

/-- What was read of an event. -/
structure RouterSSEParser where
  pending : Data := []
  payload : Data := []
  afterCR : Bool := false
  sawSSEField : Bool := false

namespace RouterSSEParser

/-- The largest event. -/
def maximumBytes : Nat := 64 * 1024 * 1024

/-- The number of bytes in the parser. -/
def bufferedBytes (parser : RouterSSEParser) : Nat :=
  parser.pending.length + parser.payload.length

/-- A field of the protocol was seen. -/
def hasSSEFields (parser : RouterSSEParser) : Bool :=
  if parser.sawSSEField then true
  else if parser.pending.isEmpty then false
  else if parser.pending.head? = some 58 then true
  else
    -- A connection can close in the middle of a field name or data line.
    ["data:", "event:", "id:", "retry:"].any fun field =>
      parser.pending.isPrefixOf (utf8 field) || (utf8 field).isPrefixOf parser.pending

/-- The pending line ends.  Field names are compared as texts in the source;
no other bytes decode to a text that equals one of these. -/
def endLine (parser : RouterSSEParser) :
    Except RouterFailure (RouterSSEParser × List Data) :=
  if parser.pending.isEmpty then
    if parser.payload.isEmpty then .ok (parser, [])
    else
      let payload := parser.payload.dropLast
      if isUTF8 payload then
        .ok ({ parser with payload := [] },
          if payload = utf8 "[DONE]" then [] else [payload])
      else .error ⟨"Invalid model event encoding."⟩
  else if (utf8 "data:").isPrefixOf parser.pending then
    let value := parser.pending.drop 5
    let value := if value.head? = some 32 then value.drop 1 else value
    .ok ({ parser with
      sawSSEField := true
      payload := parser.payload ++ value ++ [10] }, [])
  else if parser.pending.head? = some 58 ∨ parser.pending.takeWhile (· ≠ 58) ∈
        ["data", "event", "id", "retry"].map utf8 then
    .ok ({ parser with sawSSEField := true }, [])
  else .ok (parser, [])

/-- Read a byte. -/
def consume (parser : RouterSSEParser) (byte : UInt8) :
    Except RouterFailure (RouterSSEParser × List Data) :=
  if parser.afterCR = true ∧ byte = 10 then
    .ok ({ parser with afterCR := false }, [])
  else if byte = 10 ∨ byte = 13 then do
    let (next, events) ← { parser with afterCR := byte = 13 }.endLine
    return ({ next with pending := [] }, events)
  else
    .ok ({ parser with
      afterCR := false
      pending := parser.pending ++ [byte] }, [])

/-- The bytes of a chunk. -/
def consumeAll (parser : RouterSSEParser) :
    Data → Except RouterFailure (RouterSSEParser × List Data)
  | [] => .ok (parser, [])
  | byte :: rest => do
    let (next, events) ← parser.consume byte
    let (last, more) ← next.consumeAll rest
    return (last, events ++ more)

/-- Read a chunk, and return the events that end in it. -/
def append (parser : RouterSSEParser) (chunk : Data) :
    Except RouterFailure (RouterSSEParser × List Data) :=
  if parser.bufferedBytes + chunk.length ≤ maximumBytes then
    parser.consumeAll chunk
  else .error ⟨"The model event exceeded the supported size."⟩

/-- Read chunks one after the other. -/
def appends (parser : RouterSSEParser) :
    List Data → Except RouterFailure (RouterSSEParser × List (List Data))
  | [] => .ok (parser, [])
  | chunk :: rest => do
    let (next, events) ← parser.append chunk
    let (last, more) ← next.appends rest
    return (last, events :: more)

end RouterSSEParser

namespace EventStream

/-- The lines of a stream. -/
def lines (stream : Data) : Text.Lines UInt8 :=
  Text.lines 13 10 stream

/-- What a line adds to an event: the rest of a data line, without one leading
space. -/
def contribution (line : Data) : Option Data :=
  if (utf8 "data:").isPrefixOf line then
    let rest := line.drop (utf8 "data:").length
    some (if rest.head? = some 32 then rest.drop 1 else rest)
  else none

/-- What is known after some lines. -/
structure Reading where
  dispatched : List Data := []
  contributions : List Data := []

/-- The reading after a line. -/
def Reading.next (reading : Reading) (line : Data) : Reading :=
  match line with
  | [] =>
    if reading.contributions = [] then reading
    else ⟨reading.dispatched ++ [[10].intercalate reading.contributions], []⟩
  | line =>
    match contribution line with
    | some value => { reading with contributions := reading.contributions ++ [value] }
    | none => reading

/-- What the lines of a stream say. -/
def reading (stream : Data) : Reading :=
  (lines stream).finished.foldl Reading.next {}

/-- The payloads of a stream. -/
def payloads (stream : Data) : List Data := (reading stream).dispatched

/-- The events of a stream. -/
def events (stream : Data) : List Data :=
  (payloads stream).filter (· ≠ utf8 "[DONE]")

/-- The name of a field. -/
def fieldName (line : Data) : Data := line.takeWhile (· ≠ 58)

/-- A line is a comment or has a field of the protocol. -/
def Names (line : Data) : Prop :=
  line.head? = some 58 ∨ ∃ field ∈ ["data", "event", "id", "retry"],
    fieldName line = utf8 field

/-- An unfinished line may become one. -/
def MayName (line : Data) : Prop :=
  line ≠ [] ∧ (line.head? = some 58 ∨ ∃ field ∈ ["data:", "event:", "id:", "retry:"],
      line <+: utf8 field ∨ utf8 field <+: line)

/-- A stream shows a field of the protocol. -/
def Shows (stream : Data) : Prop :=
  (∃ line ∈ (lines stream).finished, Names line) ∨ MayName (lines stream).unfinished

instance (line : Data) : Decidable (Names line) :=
  inferInstanceAs (Decidable (_ ∨ ∃ field ∈ _, _))

/-- The buffer of an event. -/
def buffered (contributions : List Data) : Data :=
  contributions.flatMap (· ++ [10])

@[simp] theorem buffered_nil : buffered [] = [] := rfl

@[simp] theorem buffered_singleton (value : Data) :
    buffered [value] = value ++ [10] :=
  flatMap_singleton _ _

@[simp] theorem buffered_append (first second : List Data) :
    buffered (first ++ second) = buffered first ++ buffered second :=
  flatMap_append

theorem buffered_eq
    {contributions : List Data}
    (filled : contributions ≠ []) :
    buffered contributions = [10].intercalate contributions ++ [10] := by
  induction contributions with
  | nil => exact absurd rfl filled
  | cons first rest ih =>
    cases rest with
    | nil => simp [buffered, intercalate]
    | cons second rest =>
      have joined := ih (by simp)
      rw [buffered, flatMap_cons, ← buffered, joined]
      simp [intercalate]

theorem dataField : utf8 "data:" = [100, 97, 116, 97, 58] := by decide +kernel

theorem names_of_data
    {line : Data}
    (data : (utf8 "data:").isPrefixOf line = true) :
    Names line := by
  rw [ isPrefixOf_iff_prefix, dataField] at data
  obtain ⟨rest, rfl⟩ := data
  have name : utf8 "data" = [100, 97, 116, 97] := by decide +kernel
  refine .inr ⟨"data", by simp, ?_⟩
  rw [name]
  rfl

theorem lines_concat
    (stream : Data)
    (byte : UInt8) :
    lines (stream ++ [byte]) =
      Text.arrive 13 10 stream.getLast? byte (lines stream) :=
  Text.lines_concat (by decide) stream byte

theorem lines_cases
    (stream : Data)
    (byte : UInt8) :
    (stream.getLast? = some 13 ∧ byte = 10 ∧
        lines (stream ++ [byte]) = lines stream ∧
        reading (stream ++ [byte]) = reading stream) ∨
      (¬(stream.getLast? = some 13 ∧ byte = 10) ∧ (byte = 10 ∨ byte = 13) ∧
        lines (stream ++ [byte]) = (lines stream).finish ∧
        reading (stream ++ [byte]) =
          (reading stream).next (lines stream).unfinished) ∨
      (¬(byte = 10 ∨ byte = 13) ∧
        lines (stream ++ [byte]) = (lines stream).push byte ∧
        reading (stream ++ [byte]) = reading stream) := by
  by_cases absorbed : stream.getLast? = some 13 ∧ byte = 10
  · have same : lines (stream ++ [byte]) = lines stream := by
      rw [lines_concat, Text.arrive, if_pos absorbed]
    exact .inl ⟨absorbed.1, absorbed.2, same, by rw [reading, same, reading]⟩
  · by_cases ends : byte = 10 ∨ byte = 13
    · have finish : lines (stream ++ [byte]) = (lines stream).finish := by
        rw [lines_concat, Text.arrive, if_neg absorbed, if_pos ends.symm]
      refine .inr (.inl ⟨absorbed, ends, finish, ?_⟩)
      simp [reading, finish, Text.Lines.finish]
    · have push : lines (stream ++ [byte]) = (lines stream).push byte := by
        rw [lines_concat, Text.arrive, if_neg absorbed, if_neg (mt Or.symm ends)]
      refine .inr (.inr ⟨ends, push, ?_⟩)
      simp [reading, push, Text.Lines.push]

theorem Reading.dispatched_next
    (reading : Reading)
    (line : Data) :
    reading.dispatched <+: (reading.next line).dispatched := by
  unfold Reading.next
  split
  · split
    · exact prefix_rfl
    · exact prefix_append _ _
  · split <;> exact prefix_rfl

theorem Reading.buffered_next
    (reading : Reading)
    (line : Data) :
    (buffered (reading.next line).contributions).length ≤
      (buffered reading.contributions).length + line.length + 1 := by
  cases line with
  | nil =>
    simp only [Reading.next]
    split
    · omega
    · simp
  | cons byte rest =>
    cases adds : contribution (byte :: rest) with
    | none =>
      simp only [Reading.next, adds]
      omega
    | some value =>
      have short : value.length ≤ (byte :: rest).length := by
        unfold contribution at adds
        split at adds
        · cases adds
          split <;> simp only [length_drop] <;> omega
        · cases adds
      simp only [Reading.next, adds, buffered_append, buffered_singleton,
        length_append, length_singleton]
      omega

theorem Reading.next_cases
    (reading : Reading)
    (line : Data) :
    (reading.next line).dispatched = reading.dispatched ∨ line = [] ∧
      reading.contributions ≠ [] ∧ reading.next line = ⟨reading.dispatched ++
        [[10].intercalate reading.contributions], []⟩ := by
  cases line with
  | nil =>
    by_cases empty : reading.contributions = []
    · simp [Reading.next, empty]
    · exact .inr ⟨rfl, empty, by simp [Reading.next, empty]⟩
  | cons byte rest =>
    left
    cases adds : contribution (byte :: rest) <;> simp [Reading.next, adds]

theorem payloads_grow (stream rest : Data) :
    payloads stream <+: payloads (stream ++ rest) := by
  induction rest using reverseRecOn with
  | nil => rw [append_nil]
  | append_singleton rest byte ih =>
    refine ih.trans ?_
    rw [← append_assoc]
    rcases lines_cases (stream ++ rest) byte with
      ⟨-, -, -, same⟩ | ⟨-, -, -, next⟩ | ⟨-, -, same⟩
    · rw [payloads, payloads, same]
    · rw [payloads, payloads, next]
      exact Reading.dispatched_next _ _
    · rw [payloads, payloads, same]

theorem payloads_concat
    (stream : Data)
    (byte : UInt8) :
    payloads (stream ++ [byte]) = payloads stream ∨
      (lines stream).unfinished = [] ∧ (reading stream).contributions ≠ [] ∧
        payloads (stream ++ [byte]) = payloads stream ++
          [[10].intercalate (reading stream).contributions] := by
  rcases lines_cases stream byte with
    ⟨-, -, -, same⟩ | ⟨-, -, -, next⟩ | ⟨-, -, same⟩
  · left
    rw [payloads, payloads, same]
  · rcases (reading stream).next_cases (lines stream).unfinished with
      same | ⟨empty, filled, ends⟩
    · left
      rw [payloads, payloads, next, same]
    · right
      refine ⟨empty, filled, ?_⟩
      rw [payloads, payloads, next, ends]
  · left
    rw [payloads, payloads, same]

theorem exists_cut
    {stream : Data}
    {before after : List Data}
    (split : payloads stream = before ++ after) :
    ∃ first second, stream = first ++ second ∧ payloads first = before := by
  induction stream using reverseRecOn generalizing after with
  | nil =>
    have empty : before = [] := by
      have none : [] = before ++ after := split
      exact (append_eq_nil_iff.mp none.symm).1
    exact ⟨[], [], rfl, empty.symm⟩
  | append_singleton stream byte ih =>
    have shorter : ∀ {later : List Data}, payloads stream = before ++ later →
        ∃ first second, stream ++ [byte] = first ++ second ∧ payloads first = before := by
      intro later split
      obtain ⟨first, second, same, cut⟩ := ih split
      exact ⟨first, second ++ [byte], by rw [same, append_assoc], cut⟩
    rcases payloads_concat stream byte with same | ⟨-, -, ends⟩
    · exact shorter (same ▸ split)
    · rcases eq_nil_or_concat after with rfl | ⟨later, last, rfl⟩
      · rw [append_nil] at split
        exact ⟨stream ++ [byte], [], (append_nil _).symm, split⟩
      · rw [ends, concat_eq_append, ← append_assoc] at split
        exact shorter (append_inj_left' split rfl)

end EventStream

namespace RouterSSEParser

open EventStream

/-- The state of a parser that has read a stream. -/
def reached (stream : Data) : RouterSSEParser where
  pending := (lines stream).unfinished
  payload := buffered (EventStream.reading stream).contributions
  afterCR := stream.getLast? = some 13
  sawSSEField := (lines stream).finished.any fun line => Names line

theorem endLine_next
    {pending : Data}
    {reading : EventStream.Reading}
    (afterCR saw : Bool)
    (encoded :
      ∀ payload ∈ (reading.next pending).dispatched, isUTF8 payload = true) :
    ∃ ended, (reading.next pending).dispatched = reading.dispatched ++ ended ∧
      endLine ⟨pending, buffered reading.contributions, afterCR, saw⟩ =
        .ok (⟨pending, buffered (reading.next pending).contributions, afterCR,
          saw || Names pending⟩, ended.filter (· ≠ utf8 "[DONE]")) := by
  cases pending with
  | nil =>
    have silent : decide (Names []) = false := by decide +kernel
    by_cases empty : reading.contributions = []
    · refine ⟨[], ?_, ?_⟩
      · simp [EventStream.Reading.next, empty]
      · simp [endLine, EventStream.Reading.next, empty, silent]
    · have filled := buffered_eq empty
      have joined : isUTF8 ([10].intercalate reading.contributions) = true :=
        encoded _ (by simp [EventStream.Reading.next, empty])
      refine ⟨[[10].intercalate reading.contributions], ?_, ?_⟩
      · simp [EventStream.Reading.next, empty]
      · by_cases done : [10].intercalate reading.contributions = utf8 "[DONE]"
        · rw [done] at joined
          simp [endLine, EventStream.Reading.next, empty, filled, joined, done, silent]
        · simp [endLine, EventStream.Reading.next, empty, filled, joined, done, silent]
  | cons byte rest =>
    refine ⟨[], ?_, ?_⟩
    · cases adds : contribution (byte :: rest) <;>
        simp [EventStream.Reading.next, adds]
    · by_cases data : (utf8 "data:").isPrefixOf (byte :: rest) = true
      · have names : decide (Names (byte :: rest)) = true :=
          decide_eq_true (names_of_data data)
        have length : (utf8 "data:").length = 5 := by rw [dataField]; rfl
        simp [endLine, EventStream.Reading.next, contribution, data, names, length]
      · have names : ((byte :: rest).head? = some 58 ∨ (byte :: rest).takeWhile (· ≠ 58) ∈
              ["data", "event", "id", "retry"].map utf8) ↔
            Names (byte :: rest) := by
          simp [Names, fieldName]
        by_cases named : Names (byte :: rest)
        · rw [endLine, if_neg (by simp), if_neg data, if_pos (names.mpr named)]
          simp [EventStream.Reading.next, contribution, data, named]
        · rw [endLine, if_neg (by simp), if_neg data, if_neg (mt names.mp named)]
          simp [EventStream.Reading.next, contribution, data, named]

variable {stream chunk : Data} {byte : UInt8}

theorem consume_reached
    (encoded : ∀ payload ∈ payloads (stream ++ [byte]), isUTF8 payload = true) :
    ∃ ended, payloads (stream ++ [byte]) = payloads stream ++ ended ∧
      (reached stream).consume byte = .ok (reached (stream ++ [byte]),
        ended.filter (· ≠ utf8 "[DONE]")) := by
  rcases lines_cases stream byte with
    ⟨last, rfl, same, read⟩ | ⟨apart, ends, finish, next⟩ | ⟨inside, push, read⟩
  · refine ⟨[], by simp [payloads, read], ?_⟩
    simp [consume, reached, read, same, last]
  · have alone : ¬((reached stream).afterCR = true ∧
      byte = 10) := by simpa [reached] using apart
    rw [payloads, next] at encoded
    obtain ⟨ended, dispatched, endLine⟩ :=
      endLine_next (byte = 13) ((lines stream).finished.any fun line => Names line) encoded
    refine ⟨ended, ?_, ?_⟩
    · rw [payloads, next, dispatched]
      rfl
    · rw [consume, if_neg alone, if_pos ends, reached, endLine]
      simp [reached, next, finish, Text.Lines.finish, bind, Except.bind, pure, Except.pure]
  · have alone : ¬((reached stream).afterCR = true ∧ byte = 10) :=
      fun both => inside (.inl both.2)
    have other : byte ≠ 13 := fun same => inside (.inr same)
    refine ⟨[], by simp [payloads, read], ?_⟩
    rw [consume, if_neg alone, if_neg inside]
    simp [reached, read, push, Text.Lines.push, other]

theorem consumeAll_reached
    (encoded : ∀ payload ∈ payloads (stream ++ chunk), isUTF8 payload = true) :
    ∃ ended, payloads (stream ++ chunk) = payloads stream ++ ended ∧
      (reached stream).consumeAll chunk = .ok (reached (stream ++ chunk),
        ended.filter (· ≠ utf8 "[DONE]")) := by
  induction chunk generalizing stream with
  | nil => exact ⟨[], by simp, by simp [consumeAll]⟩
  | cons byte rest ih =>
    have split : stream ++ byte :: rest = stream ++ [byte] ++ rest := by simp
    rw [split] at encoded ⊢
    obtain ⟨first, dispatched, consumed⟩ := consume_reached fun payload member =>
        encoded payload ((payloads_grow (stream ++ [byte]) rest).subset member)
    obtain ⟨later, further, remaining⟩ := ih encoded
    refine ⟨first ++ later, ?_, ?_⟩
    · rw [further, dispatched, append_assoc]
    · rw [consumeAll, consumed]
      simp [bind, Except.bind, remaining, pure, Except.pure]

theorem consume_malformed
    (encoded : ∀ payload ∈ payloads stream, isUTF8 payload = true)
    (malformed :
      ∃ payload ∈ payloads (stream ++ [byte]), isUTF8 payload = false) :
    (reached stream).consume byte =
      .error ⟨"Invalid model event encoding."⟩ := by
  obtain ⟨payload, member, invalid⟩ := malformed
  have fresh : payload ∉ payloads stream := by
    intro old
    rw [encoded payload old] at invalid
    cases invalid
  rcases lines_cases stream byte with
    ⟨-, -, -, same⟩ | ⟨apart, ends, -, next⟩ | ⟨-, -, same⟩
  · rw [payloads, same] at member
    exact absurd member fresh
  · have alone : ¬((reached stream).afterCR = true ∧
      byte = 10) := by simpa [reached] using apart
    rcases (EventStream.reading stream).next_cases (lines stream).unfinished
      with same | ⟨empty, filled, dispatches⟩
    · rw [payloads, next, same] at member
      exact absurd member fresh
    · rw [payloads, next, dispatches, mem_append, mem_singleton] at member
      obtain rfl := member.resolve_left fresh
      rw [consume, if_neg alone, if_pos ends]
      simp [reached, endLine, empty, buffered_eq filled, invalid, bind, Except.bind]
  · rw [payloads, same] at member
    exact absurd member fresh

theorem consumeAll_malformed
    (encoded : ∀ payload ∈ payloads stream, isUTF8 payload = true)
    (malformed :
      ∃ payload ∈ payloads (stream ++ chunk), isUTF8 payload = false) :
    (reached stream).consumeAll chunk =
      .error ⟨"Invalid model event encoding."⟩ := by
  induction chunk generalizing stream with
  | nil =>
    obtain ⟨payload, member, invalid⟩ := malformed
    rw [append_nil] at member
    rw [encoded payload member] at invalid
    cases invalid
  | cons byte rest ih =>
    rw [append_cons] at malformed
    rw [consumeAll]
    by_cases early : ∃ payload ∈ payloads (stream ++ [byte]), isUTF8 payload = false
    · rw [consume_malformed encoded early]
      rfl
    · have valid : ∀ payload ∈ payloads (stream ++ [byte]), isUTF8 payload = true := by
        intro payload member
        by_contra invalid
        exact early ⟨payload, member, by simpa using invalid⟩
      obtain ⟨ended, -, consumed⟩ := consume_reached valid
      rw [consumed]
      simp [bind, Except.bind, ih valid malformed]

theorem payloads_bufferedBytes (stream : Data) :
    ((payloads stream).map length).sum + (reached stream).bufferedBytes ≤
      stream.length := by
  induction stream using reverseRecOn with
  | nil => simp [payloads, reached, bufferedBytes, lines, Text.lines, EventStream.reading]
  | append_singleton stream byte ih =>
    simp only [payloads, reached, bufferedBytes, length_append, length_singleton] at ih ⊢
    rcases lines_cases stream byte with
      ⟨-, -, same, read⟩ | ⟨-, -, finish, next⟩ | ⟨-, push, read⟩
    · rw [same, read]
      omega
    · have adds := (EventStream.reading stream).buffered_next (lines stream).unfinished
      rcases (EventStream.reading stream).next_cases (lines stream).unfinished
        with same | ⟨-, filled, dispatches⟩
      · rw [finish, next, same]
        simp only [Text.Lines.finish, length_nil]
        omega
      · rw [finish, next, dispatches]
        rw [buffered_eq filled] at ih
        simp only [Text.Lines.finish, length_nil, map_append,
          map_cons, map_nil, sum_append, sum_singleton,
          length_append, length_singleton, buffered_nil]
          at ih ⊢
        omega
    · rw [push, read]
      simp only [Text.Lines.push, length_append, length_singleton]
      omega

theorem bufferedBytes_reached (stream : Data) :
    (reached stream).bufferedBytes ≤ stream.length :=
  (Nat.le_add_left _ _).trans (payloads_bufferedBytes stream)

theorem appends_reached
    {stream : Data}
    {chunks : List Data}
    (bounded : (stream ++ chunks.flatten).length ≤ maximumBytes)
    (encoded :
      ∀ payload ∈ payloads (stream ++ chunks.flatten), isUTF8 payload = true) :
    ∃ ended results,
      payloads (stream ++ chunks.flatten) = payloads stream ++ ended ∧
      (reached stream).appends chunks = .ok (reached (stream ++ chunks.flatten),
        results) ∧ results.flatten = ended.filter (· ≠ utf8 "[DONE]") := by
  induction chunks generalizing stream with
  | nil => exact ⟨[], [], by simp, by simp [appends], rfl⟩
  | cons chunk rest ih =>
    rw [flatten_cons, ← append_assoc] at bounded encoded ⊢
    obtain ⟨first, dispatched, consumed⟩ :=
      consumeAll_reached fun payload member => encoded payload
        ((payloads_grow (stream ++ chunk) rest.flatten).subset member)
    have fits : (reached stream).bufferedBytes + chunk.length ≤
        maximumBytes := by
      have buffered := bufferedBytes_reached stream
      simp only [length_append] at bounded
      omega
    obtain ⟨later, results, further, remaining, same⟩ := ih bounded encoded
    refine ⟨first ++ later, first.filter (· ≠ utf8 "[DONE]") :: results, ?_, ?_, ?_⟩
    · rw [further, dispatched, append_assoc]
    · rw [appends, append, if_pos fits, consumed]
      simp [bind, Except.bind, remaining, pure, Except.pure]
    · rw [flatten_cons, same, filter_append]

theorem hasSSEFields_reached (stream : Data) :
    (reached stream).hasSSEFields = true ↔ Shows stream := by
  have finished : (reached stream).sawSSEField = true ↔
      ∃ line ∈ (lines stream).finished, Names line := by
    simp [reached]
  have unfinished : ((["data:", "event:", "id:", "retry:"].any fun field =>
      (lines stream).unfinished.isPrefixOf (utf8 field) ||
        (utf8 field).isPrefixOf (lines stream).unfinished) = true) ↔
      ∃ field ∈ ["data:", "event:", "id:", "retry:"],
        (lines stream).unfinished <+: utf8 field ∨
          utf8 field <+: (lines stream).unfinished := by
    simp only [any_eq_true, Bool.or_eq_true, isPrefixOf_iff_prefix]
  have pending : (reached stream).pending = (lines stream).unfinished := rfl
  rw [hasSSEFields, Shows, MayName, ← finished, ← unfinished, pending]
  cases (reached stream).sawSSEField with
  | true => simp
  | false =>
    cases (lines stream).unfinished with
    | nil => simp
    | cons byte rest =>
      by_cases comment : (byte :: rest).head? = some 58
      · simp [comment]
      · simp only [comment, Bool.false_eq_true, if_false, false_or,
          isEmpty_cons, ne_eq, reduceCtorEq, not_false_eq_true,
          true_and]

end RouterSSEParser

open EventStream RouterSSEParser in
/-- However a stream is cut into chunks, the parser returns the events of the
whole, and knows whether it has seen the protocol. -/
theorem incremental_parsing_is_whole
    (chunks : List Data)
    (bounded : chunks.flatten.length ≤ maximumBytes)
    (encoded : ∀ payload ∈ payloads chunks.flatten, isUTF8 payload = true) :
    ∃ parser results, appends {} chunks = .ok (parser, results) ∧
      results.flatten = events chunks.flatten ∧
      (parser.hasSSEFields = true ↔ Shows chunks.flatten) := by
  obtain ⟨ended, results, dispatched, read, same⟩ := @appends_reached [] chunks bounded encoded
  refine ⟨_, results, read, ?_, hasSSEFields_reached _⟩
  rw [same, events, ← nil_append chunks.flatten, dispatched]
  rfl

open EventStream RouterSSEParser in
/-- An event that is cut inside an ending and inside a field name. -/
theorem cut_event_is_joined :
    ∃ parser results,
      appends {} [utf8 ": keepalive\r", utf8 "\ndata: first\r\nda",
        utf8 "ta:second\n\nda"] = .ok (parser, results) ∧
      results.flatten = [utf8 "first\nsecond"] ∧
      parser.hasSSEFields = true := by
  obtain ⟨parser, results, read, same, fields⟩ := incremental_parsing_is_whole
    [utf8 ": keepalive\r", utf8 "\ndata: first\r\nda",
      utf8 "ta:second\n\nda"] (by decide +kernel) (by decide +kernel)
  refine ⟨parser, results, read, same.trans (by decide +kernel), ?_⟩
  exact fields.mpr (.inl ⟨utf8 ": keepalive", by decide +kernel, .inl (by decide +kernel)⟩)

end Turnrail
