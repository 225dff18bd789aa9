import Turnrail.Socket.Wire
import Turnrail.Text.Trim
import Mathlib.Data.List.NodupEquivFin
import Mathlib.Data.List.TakeWhile

/-!
# The head of a local HTTP request

`RouterSocket.request` reads the head of a request byte by byte and refuses
repeated fields and those of browsers.  It looks at the text before the first
colon of a line.  Another reader of the same head ignores the case of a name
and white space around it.
-/

namespace Turnrail

open List

/-- Texts are lowercased as ASCII. -/
structure Texts.LowersASCII (texts : Texts) : Prop where
  keeps : ∀ text : String,
    (∀ scalar ∈ text.toList, scalar.toNat < 128 ∧ scalar.toLower = scalar) →
      texts.lowercased text = text
  folds : ∀ {first second : String},
    first.toList.map Char.toLower = second.toList.map Char.toLower →
      texts.lowercased first = texts.lowercased second

/-- The head of a request. -/
structure RouterHTTPRequest where
  method : String
  path : String
  headers : List (String × String)
  deriving DecidableEq

/-- The scalars between the ends of a line. -/
def lineComponents : List Char → List (List Char)
  | [] => [[]]
  | '\r' :: '\n' :: rest => [] :: lineComponents rest
  | scalar :: rest =>
    match lineComponents rest with
    | [] => [[scalar]]
    | line :: lines => (scalar :: line) :: lines

/-- White space within a line: tabs and the spaces of Unicode. -/
def isWhitespace (scalar : Char) : Bool :=
  scalar ∈ ['\t', ' ', '\u00a0', '\u1680', '\u202f', '\u205f', '\u3000'] ||
    (decide ('\u2000' ≤ scalar) && decide (scalar ≤ '\u200a'))

namespace RouterSocket

/-- The end of a head. -/
def headEnd : Data := [13, 10, 13, 10]

/-- The largest head. -/
def maximumHead : Nat := 32768

/-- Read bytes up to the end of a head, in at most as many turns as given. -/
def readHead : Nat → Data → Call Data
  | 0, _ => throw ⟨"HTTP headers exceed the supported size."⟩
  | turns + 1, head =>
    if headEnd.isSuffixOf head then pure head
    else do
      let byte ← read 1
      ensure ((head ++ byte).length ≤ maximumHead) "HTTP headers exceed the supported size."
      readHead turns (head ++ byte)

variable (texts : Texts)

/-- The parts of a text between characters that are a space. -/
def parts (line : List Char) : List String :=
  ((texts.segmentation.characters line).splitOn [' ']).filter (· ≠ [])
    |>.map fun part => String.ofList part.flatten

/-- The name and the value of a field. -/
def readField (line : List Char) : Except RouterFailure (String × String) :=
  let characters := texts.segmentation.characters line
  let name := characters.takeWhile (· ≠ [':'])
  match characters.drop name.length with
  | _ :: value =>
    if name = [] then .error ⟨"Invalid HTTP header."⟩
    else .ok (texts.lowercased (String.ofList name.flatten),
      String.ofList (Text.trim isWhitespace value.flatten))
  | [] => .error ⟨"Invalid HTTP header."⟩

/-- Add the fields of some lines. -/
def readFields : List (String × String) → List (List Char) →
    Except RouterFailure (List (String × String))
  | headers, [] => .ok headers
  | headers, line :: rest => do
    let field ← readField texts line
    if headers.any fun other => texts.same other.1 field.1 then
      .error ⟨"Duplicate HTTP header."⟩
    else readFields (headers ++ [field]) rest

/-- A field is among the headers. -/
def hasField (headers : List (String × String)) (name : String) : Bool :=
  headers.any fun field => texts.same field.1 name

/-- Read the lines of a head. -/
def parseHead (text : List Char) : Except RouterFailure RouterHTTPRequest := do
  let lines := lineComponents text
  match parts texts (lines.headD []) with
  | [method, path, version] =>
    if texts.same version "HTTP/1.1" = false then
      .error ⟨"Unsupported HTTP request."⟩
    else do
      let headers ← readFields texts [] (lines.tail.filter (· ≠ []))
      if hasField texts headers "origin" || hasField texts headers "transfer-encoding" then
        .error ⟨"Browser-origin and chunked requests are not supported " ++
          "by the private router."⟩
      else .ok ⟨method, path, headers⟩
  | _ => .error ⟨"Unsupported HTTP request."⟩

/-- Read a request. -/
def request : Call RouterHTTPRequest := do
  let head ← readHead (maximumHead + 1) []
  match String.fromUTF8? ⟨head.toArray⟩ with
  | none => throw ⟨"Invalid HTTP header encoding."⟩
  | some text =>
    match parseHead texts text.toList with
    | .error error => throw error
    | .ok request => pure request

end RouterSocket

namespace FieldLines

/-- The lines of a head after the request line. -/
def ofHead (head : Data) : List (List Char) :=
  match String.fromUTF8? ⟨head.toArray⟩ with
  | none => []
  | some text => (lineComponents text.toList).tail.filter (· ≠ [])

/-- The name of a field as it is spelled. -/
def spelling (line : List Char) : List Char := line.takeWhile (· ≠ ':')

variable (blank : Char → Bool)

/-- The name of a field without white space around it and without its case. -/
def name (line : List Char) : List Char :=
  (Text.trim blank (spelling line)).map Char.toLower

/-- The fields that are not accepted. -/
def refused : List (List Char) :=
  ["origin".toList, "transfer-encoding".toList]

/-- No name occurs twice, and no field is refused. -/
def Unambiguous (lines : List (List Char)) : Prop :=
  (lines.map (name blank)).Nodup ∧ ∀ line ∈ lines, name blank line ∉ refused

/-- The line names a field that is refused or occurs more than once. -/
def Contested (lines : List (List Char)) (line : List Char) : Prop :=
  name blank line ∈ refused ∨ Duplicate (name blank line) (lines.map (name blank))

/-- A line that is read alike by characters and by bytes. -/
structure Plain (segmentation : Text.Segmentation) (line : List Char) :
    Prop where
  first : ∀ scalar ∈ (spelling line).head?, blank scalar = false
  last : ∀ scalar ∈ (spelling line).getLast?,
    blank scalar = false ∧ segmentation.prepends scalar = false
  next : ∀ scalar ∈ (line.drop ((spelling line).length + 1)).head?,
    segmentation.attaches scalar = false

end FieldLines

namespace RouterSocket

section Head

variable {before after : Wire}

theorem returns_readHead
    {turns : Nat}
    {start head : Data}
    (short : start.length ≤ maximumHead)
    (returned : Returns (readHead turns start) before head after) :
    ∃ more, before = { after with input := more ++ after.input } ∧
      head = start ++ more ∧ headEnd <:+ head ∧ head.length ≤ maximumHead ∧
      ∀ shorter, start <+: shorter → shorter <+: head → headEnd <:+ shorter →
        shorter = head := by
  induction turns generalizing start before with
  | zero => exact absurd returned not_returns_throw
  | succ turns ih =>
    unfold readHead at returned
    by_cases ended : headEnd.isSuffixOf start = true
    · rw [if_pos ended] at returned
      obtain ⟨rfl, rfl⟩ := returns_pure.mp returned
      refine ⟨[], rfl, (append_nil _).symm, isSuffixOf_iff_suffix.mp ended, short, ?_⟩
      intro shorter longer shorter_le _
      exact IsPrefix.eq_of_length shorter_le
        (Nat.le_antisymm shorter_le.length_le longer.length_le)
    · rw [if_neg ended] at returned
      simp only [returns_bind, returns_ensure] at returned
      obtain ⟨byte, between, read, _, _, ⟨fits, rfl⟩, remaining⟩ := returned
      obtain ⟨-, one, rfl⟩ := returns_read.mp read
      obtain ⟨more, rfl, rfl, suffix, bounded, least⟩ := ih fits remaining
      refine ⟨byte ++ more, by simp, by simp, suffix, bounded, ?_⟩
      intro shorter longer shorter_le ends
      refine least shorter ?_ shorter_le ends
      -- The start has no end of its own, so that one more byte belongs to it.
      have longerThan : start.length < shorter.length := by
        refine Nat.lt_of_le_of_ne longer.length_le fun same => ?_
        rw [← longer.eq_of_length same] at ends
        exact ended (isSuffixOf_iff_suffix.mpr ends)
      refine prefix_of_prefix_length_le (prefix_append _ _) shorter_le ?_
      rw [length_append, one]
      exact longerThan

variable {texts : Texts}

/-- Names of fields that are not the same. -/
def Apart (texts : Texts) (first second : String × String) : Prop :=
  texts.same first.1 second.1 = false

variable {lines : List (List Char)} {line : List Char} {field : String × String}
variable {blank : Char → Bool}

theorem readFields_eq_ok
    {headers result : List (String × String)}
    (distinct : headers.Pairwise (Apart texts))
    (passed : readFields texts headers lines = .ok result) :
    ∃ fields, result = headers ++ fields ∧ Forall₂ (fun line field =>
        readField texts line = .ok field) lines fields ∧
      result.Pairwise (Apart texts) := by
  induction lines generalizing headers with
  | nil =>
    cases passed
    exact ⟨[], (append_nil _).symm, .nil, distinct⟩
  | cons line lines ih =>
    rw [readFields, bind_eq_ok] at passed
    obtain ⟨field, read, passed⟩ := passed
    split at passed
    · cases passed
    · rename_i fresh
      have apart : (headers ++ [field]).Pairwise (Apart texts) := by
        refine pairwise_append.mpr ⟨distinct, by simp, ?_⟩
        intro other member _ isField
        rw [mem_singleton.mp isField]
        simp only [any_eq_true, not_exists, not_and, Bool.not_eq_true] at fresh
        exact fresh other member
      obtain ⟨fields, same, reads, pairwise⟩ := ih apart passed
      refine ⟨field :: fields, by simp [same], .cons read reads, pairwise⟩

theorem parseHead_eq_ok
    {text : List Char}
    {request : RouterHTTPRequest}
    (passed : parseHead texts text = .ok request) :
    Forall₂ (fun line field => readField texts line = .ok field)
        ((lineComponents text).tail.filter (· ≠ [])) request.headers ∧
      request.headers.Pairwise (Apart texts) ∧
      ∀ field ∈ request.headers, texts.same field.1 "origin" = false ∧
        texts.same field.1 "transfer-encoding" = false := by
  simp only [parseHead] at passed
  split at passed
  · split at passed
    · cases passed
    · rw [bind_eq_ok] at passed
      obtain ⟨headers, read, passed⟩ := passed
      split at passed
      · cases passed
      · rename_i absent
        cases passed
        obtain ⟨fields, rfl, reads, pairwise⟩ := readFields_eq_ok .nil read
        refine ⟨reads, pairwise, fun field member => ?_⟩
        simp only [hasField, Bool.or_eq_true, any_eq_true, not_or,
          not_exists, not_and, Bool.not_eq_true] at absent
        exact ⟨absent.1 field member, absent.2 field member⟩
  · cases passed

theorem spelling_append (colon : ':' ∈ line) :
    line = FieldLines.spelling line ++
        ':' :: line.drop ((FieldLines.spelling line).length + 1) := by
  induction line with
  | nil => cases colon
  | cons scalar line ih =>
    by_cases here : scalar = ':'
    · simp [FieldLines.spelling, here]
    · have rest := ih ((mem_cons.mp colon).resolve_left (Ne.symm here))
      simp only [FieldLines.spelling, takeWhile_cons, ne_eq, here,
        not_false_eq_true, decide_true, if_true, length_cons,
        drop_succ_cons, cons_append] at rest ⊢
      rw [← rest]

theorem colon_notMem_spelling (line : List Char) :
    ':' ∉ FieldLines.spelling line := by
  intro member
  simpa using mem_takeWhile_imp member

theorem colon_mem_of_readField (read : readField texts line = .ok field) :
    ':' ∈ line := by
  by_contra absent
  have all : (texts.segmentation.characters line).takeWhile
      (fun character => decide (character ≠ [':'])) = texts.segmentation.characters line := by
    refine takeWhile_eq_self_iff.mpr fun character member => ?_
    refine decide_eq_true fun same => ?_
    rw [same] at member
    exact Text.Segmentation.singleton_notMem_characters absent member
  simp only [readField, all, drop_length] at read
  cases read

theorem readField_plain
    (plain : FieldLines.Plain blank texts.segmentation line)
    (read : readField texts line = .ok field) :
    field.1 = texts.lowercased (String.ofList (FieldLines.spelling line)) ∧
      FieldLines.name blank line =
        (FieldLines.spelling line).map Char.toLower := by
  constructor
  · obtain ⟨others, characters⟩ :=
      @Text.Segmentation.exists_characters_alone texts.segmentation
        (FieldLines.spelling line)
        (line.drop ((FieldLines.spelling line).length + 1)) ':' (by decide)
        (fun last member => (plain.last last member).2) plain.next
    rw [← spelling_append (colon_mem_of_readField read)] at characters
    have name : (texts.segmentation.characters line).takeWhile
        (fun character => decide (character ≠ [':'])) =
          texts.segmentation.characters (FieldLines.spelling line) := by
      rw [characters, takeWhile_append_of_pos]
      · simp
      · intro character member
        refine decide_eq_true fun same => ?_
        rw [same] at member
        exact Text.Segmentation.singleton_notMem_characters (colon_notMem_spelling line) member
    simp only [readField, name, Text.Segmentation.flatten_characters] at read
    split at read
    · split at read
      · cases read
      · cases read
        rfl
    · cases read
  · rw [FieldLines.name, Text.trim_eq_self plain.first fun last member =>
      (plain.last last member).1]

theorem readField_same
    (lowers : texts.LowersASCII)
    {line other : List Char}
    {field otherField : String × String}
    (plain : FieldLines.Plain blank texts.segmentation line)
    (otherPlain : FieldLines.Plain blank texts.segmentation other)
    (read : readField texts line = .ok field)
    (otherRead : readField texts other = .ok otherField)
    (same : FieldLines.name blank line = FieldLines.name blank other) :
    texts.same field.1 otherField.1 = true := by
  obtain ⟨spelled, name⟩ := readField_plain plain read
  obtain ⟨otherSpelled, otherName⟩ := readField_plain otherPlain otherRead
  have folded : texts.lowercased (String.ofList (FieldLines.spelling line)) =
      texts.lowercased (String.ofList (FieldLines.spelling other)) := by
    refine lowers.folds ?_
    rw [String.toList_ofList, String.toList_ofList, ← name, ← otherName, same]
  rw [spelled, otherSpelled, folded, texts.same_self]

theorem readField_refused
    (lowers : texts.LowersASCII)
    (plain : FieldLines.Plain blank texts.segmentation line)
    (read : readField texts line = .ok field)
    (refused : FieldLines.name blank line ∈ FieldLines.refused) :
    texts.same field.1 "origin" = true ∨
      texts.same field.1 "transfer-encoding" = true := by
  obtain ⟨spelled, name⟩ := readField_plain plain read
  rw [name] at refused
  have lowered : ∀ text : String, text.toList.all (fun scalar =>
        scalar.toNat < 128 ∧ scalar.toLower = scalar) = true →
      (FieldLines.spelling line).map Char.toLower = text.toList → field.1 = text := by
    intro text all same
    have lower : ∀ scalar ∈ text.toList, scalar.toNat < 128 ∧ scalar.toLower = scalar := by
      simpa only [all_eq_true, decide_eq_true_eq] using all
    have lowest : text.toList.map Char.toLower = text.toList :=
      (map_congr_left fun scalar member => (lower scalar member).2).trans (map_id' _)
    rw [spelled, ← lowers.keeps text lower]
    refine lowers.folds ?_
    rw [String.toList_ofList, same, lowest]
  rcases mem_pair.mp refused with origin | encoding
  · left
    rw [lowered "origin" (by decide) origin, texts.same_self]
  · right
    rw [lowered "transfer-encoding" (by decide) encoding, texts.same_self]

theorem unambiguous_of_plain
    (lowers : texts.LowersASCII)
    {fields : List (String × String)}
    (reads :
      Forall₂ (fun line field => readField texts line = .ok field) lines fields)
    (distinct : fields.Pairwise (Apart texts))
    (accepted : ∀ field ∈ fields, texts.same field.1 "origin" = false ∧
      texts.same field.1 "transfer-encoding" = false)
    (plain : ∀ line ∈ lines, FieldLines.Contested blank lines line →
      FieldLines.Plain blank texts.segmentation line) :
    FieldLines.Unambiguous blank lines := by
  obtain ⟨length, reads⟩ := forall₂_iff_get.mp reads
  constructor
  · rw [nodup_iff_forall_not_duplicate]
    intro name duplicate
    obtain ⟨⟨first, inFirst⟩, ⟨second, inSecond⟩, earlier, isFirst, isSecond⟩ :=
      duplicate_iff_exists_distinct_get.mp duplicate
    simp only [get_eq_getElem, getElem_map] at isFirst isSecond
    rw [length_map] at inFirst inSecond
    have plainAt : ∀ index (inside : index < lines.length),
        name = FieldLines.name blank lines[index] →
          FieldLines.Plain blank texts.segmentation lines[index] := by
      intro index inside same
      exact plain _ (getElem_mem inside) (.inr (same ▸ duplicate))
    have same := readField_same lowers (plainAt first inFirst isFirst)
      (plainAt second inSecond isSecond)
      (reads first inFirst (length ▸ inFirst))
      (reads second inSecond (length ▸ inSecond)) (isFirst ▸ isSecond)
    have apart : texts.same _ _ = false := pairwise_iff_getElem.mp distinct
      first second (length ▸ inFirst) (length ▸ inSecond) earlier
    rw [get_eq_getElem, get_eq_getElem, apart] at same
    cases same
  · intro line member refused
    obtain ⟨index, inside, rfl⟩ := getElem_of_mem member
    obtain ⟨noOrigin, noEncoding⟩ := accepted _ (get_mem fields ⟨index, length ▸ inside⟩)
    rcases readField_refused lowers (plain _ member (.inl refused))
      (reads index inside (length ▸ inside)) refused with origin | encoding
    · rw [noOrigin] at origin
      cases origin
    · rw [noEncoding] at encoding
      cases encoding

end Head

end RouterSocket

open RouterSocket FieldLines in
/-- An accepted request was read up to the first end of its head.  The head is
unambiguous exactly if no field that is refused or repeated is spelled with white
space around its name or with a colon that is joined to another scalar. -/
theorem accepted_head_is_unambiguous_iff
    (texts : Texts)
    (lowers : texts.LowersASCII)
    (blank : Char → Bool)
    (before after : Wire)
    (request : RouterHTTPRequest)
    (returned : Returns (RouterSocket.request texts) before request after) :
    ∃ head, before = { after with input := head ++ after.input } ∧
      headEnd <:+ head ∧
      (∀ shorter, shorter <+: head → headEnd <:+ shorter → shorter = head) ∧
      head.length ≤ 32768 ∧
      (Unambiguous blank (ofHead head) ↔
        ∀ line ∈ ofHead head, Contested blank (ofHead head) line →
          Plain blank texts.segmentation line) := by
  obtain ⟨head, between, read, parsed⟩ := returns_bind.mp returned
  obtain ⟨_, same, rfl, ends, short, least⟩ := returns_readHead (Nat.zero_le _) read
  cases decoded : String.fromUTF8? ⟨head.toArray⟩ with
  | none =>
    rw [decoded] at parsed
    exact absurd parsed not_returns_throw
  | some text =>
    simp only [decoded] at parsed
    cases accepted : parseHead texts text.toList with
    | error error =>
      rw [accepted] at parsed
      exact absurd parsed not_returns_throw
    | ok found =>
      rw [accepted] at parsed
      obtain ⟨rfl, rfl⟩ := returns_pure.mp parsed
      obtain ⟨reads, distinct, fields⟩ := parseHead_eq_ok accepted
      have lines : ofHead head = (lineComponents text.toList).tail.filter (· ≠ []) := by
        simp only [ofHead, decoded]
      refine ⟨head, same, ends, fun shorter => least shorter nil_prefix, short, ?_⟩
      rw [lines]
      constructor
      · rintro ⟨nodup, none⟩ line member (refused | repeated)
        · exact absurd refused (none line member)
        · exact absurd nodup repeated.not_nodup
      · exact unambiguous_of_plain lowers reads distinct fields

/-- Texts that are lowercased as ASCII. -/
def Texts.ascii : Texts :=
  { Texts.plain with
    lowercased := fun text => String.ofList (text.toList.map Char.toLower) }

theorem Texts.ascii_lowersASCII : Texts.ascii.LowersASCII where
  keeps text lower := by
    have lowest : text.toList.map Char.toLower = text.toList :=
      (map_congr_left fun scalar member => (lower scalar member).2).trans (map_id' _)
    change String.ofList (text.toList.map Char.toLower) = text
    rw [lowest, String.ofList_toList]
  folds same := congrArg String.ofList same

open RouterSocket FieldLines in
/-- Two plain fields make a head unambiguous. -/
theorem plain_fields_are_unambiguous :
    Unambiguous isWhitespace
      (ofHead (utf8 "GET / HTTP/1.1\r\nHost: x\r\nAccept: y\r\n\r\n")) := by
  have returned : Returns (RouterSocket.request .ascii)
      ⟨utf8 "GET / HTTP/1.1\r\nHost: x\r\nAccept: y\r\n\r\n", [], true⟩
      ⟨"GET", "/", [("host", "x"), ("accept", "y")]⟩ ⟨[], [], true⟩ := by
    decide +kernel
  obtain ⟨head, same, -, -, -, unambiguous⟩ :=
    accepted_head_is_unambiguous_iff .ascii Texts.ascii_lowersASCII isWhitespace _ _ _ returned
  have whole : utf8 "GET / HTTP/1.1\r\nHost: x\r\nAccept: y\r\n\r\n" =
      head := by
    simpa using congrArg Wire.input same
  have lines : ofHead head = ["Host: x".toList, "Accept: y".toList] := by
    rw [← whole]
    decide +kernel
  rw [whole]
  refine unambiguous.mpr ?_
  rw [lines]
  intro line member _
  rcases mem_pair.mp member with rfl | rfl
  · refine ⟨?_, ?_, ?_⟩ <;> rintro scalar ⟨⟩ <;> decide
  · refine ⟨?_, ?_, ?_⟩ <;> rintro scalar ⟨⟩ <;> decide

open RouterSocket FieldLines in
/-- A blank before its colon hides the origin of a request. -/
theorem blank_hides_origin :
    Returns (RouterSocket.request .ascii)
        ⟨utf8 "GET / HTTP/1.1\r\nOrigin : x\r\n\r\n", [], true⟩
        ⟨"GET", "/", [("origin ", "x")]⟩ ⟨[], [], true⟩ ∧
      ¬ Unambiguous isWhitespace
        (ofHead (utf8 "GET / HTTP/1.1\r\nOrigin : x\r\n\r\n")) := by
  refine ⟨by decide +kernel, fun unambiguous => ?_⟩
  exact unambiguous.2 "Origin : x".toList (by decide +kernel) (by decide +kernel)

end Turnrail
