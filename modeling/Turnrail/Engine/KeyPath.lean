import Turnrail.Engine.Observer

/-!
# Key paths of configuration edits

The Engine reads a key path scalar by scalar, and the router reads it character
by character.  Both use the same rules, so they read the same segments exactly
if the router meets every dot, quote and backslash that structures the path for
the Engine as a character of its own.
-/

namespace Turnrail

open List

namespace ConfigManager

/-- Read the scalars of a key path, after some segments were read. -/
def scan :
    List Char → List (List Char) → List Char → Bool → Except String (List String)
  | [], segments, segment, quoted =>
    if quoted then .error "unterminated quoted keyPath segment"
    else if segment.isEmpty then .error "keyPath segments must not be empty"
    else .ok ((segment :: segments).reverse.map String.ofList)
  | scalar :: rest, segments, segment, quoted =>
    if scalar = '"' ∧ segment.isEmpty ∧ !quoted then scan rest segments segment true
    else if scalar = '"' ∧ quoted then scan rest segments segment false
    else if scalar = '\\' ∧ quoted then
      match rest with
      | [] => .error "unterminated escape in keyPath"
      | escaped :: rest => scan rest segments (segment ++ [escaped]) quoted
    else if scalar = '.' ∧ !quoted then
      if segment.isEmpty then .error "keyPath segments must not be empty"
      else scan rest (segment :: segments) [] quoted
    else if scalar = '"' then .error "invalid quoted keyPath segment"
    else scan rest segments (segment ++ [scalar]) quoted

/-- The segments of a key path. -/
def parseKeyPath (blank : Char → Bool) (path : String) : Except String (List String) :=
  if path.toList.all blank then .error "keyPath must not be empty"
  else scan path.toList [] [] false

end ConfigManager

namespace RouterEngineObserver

open ConfigManager

namespace PathReader

/-- The reader before the first character. -/
def fresh : PathReader := ⟨[], [], false, false⟩

/-- The segments at the end of a path. -/
def finish (reader : PathReader) : Option (List String) :=
  if reader.quoted || reader.escaped || reader.segment.isEmpty then none
  else some ((reader.segment :: reader.segments).reverse.map String.ofList)

/-- Read as the Engine does, one scalar at a time. -/
def scan (reader : PathReader) (scalars : List Char) : Option PathReader :=
  (scalars.map fun scalar => [scalar]).foldlM read reader

/-- A reader that took all of a character for a part of the segment. -/
def append (reader : PathReader) (character : List Char) : PathReader :=
  { reader with
    segment := reader.segment ++ character
    escaped := false }

/-- A scalar that structures a path inside or outside of quotes. -/
def Structural (quoted : Bool) (scalar : Char) : Prop :=
  scalar = '"' ∨ scalar = if quoted then '\\' else '.'

instance (quoted : Bool) (scalar : Char) : Decidable (Structural quoted scalar) :=
  inferInstanceAs (Decidable (_ ∨ _))

/-- The scalars of a character that could structure the path.  The first one
after a backslash cannot. -/
def commands (reader : PathReader) (character : List Char) : List Char :=
  if reader.escaped then character.tail else character

/-- No scalar of a character structures the path. -/
def Literal (reader : PathReader) (character : List Char) : Prop :=
  ∀ scalar ∈ reader.commands character, ¬Structural reader.quoted scalar

instance (reader : PathReader) (character : List Char) :
    Decidable (reader.Literal character) :=
  inferInstanceAs (Decidable (∀ _ ∈ _, _))

/-- How the router stands to the Engine inside of quotes.  Of two backslashes one
is kept, and it does not matter which one: the router may have `kept` the first
one, and after the second one it `owes` an escape. -/
inductive Lag
  | even
  | kept
  | owed
  deriving DecidableEq

/-- The lag after a character that the Engine reaches with this reader.  There is
none if a scalar structures the path for one of the two only. -/
def advance (lag : Lag) (engine : PathReader) (character : List Char) : Option Lag :=
  if lag = .kept then
    if character = ['\\'] then some .owed else none
  else if lag = .even ∧ character.length = 1 then some .even
  else if engine.Literal character then some .even
  else if engine.quoted ∧ character.getLast? = some '\\' ∧
      engine.Literal character.dropLast then
    some .kept
  else none

/-- Every scalar that structures the rest of a path for the Engine is a character
of its own, up to the choice of a backslash. -/
def InStep : Lag → PathReader → List (List Char) → Prop
  | _, _, [] => True
  | lag, engine, character :: rest =>
    ∃ later next, advance lag engine character = some later ∧
      engine.scan character = some next ∧ InStep later next rest

variable {reader engine router next after : PathReader} {lag later : Lag}
variable {character front scalars : List Char} {characters : List (List Char)}

theorem scan_cons
    (scalar : Char)
    (rest : List Char) :
    reader.scan (scalar :: rest) = (reader.read [scalar]).bind fun next =>
      next.scan rest :=
  rfl

theorem scan_append (rest : List Char) :
    reader.scan (scalars ++ rest) = (reader.scan scalars).bind fun next =>
      next.scan rest := by
  simp [scan, foldlM_append]

/-- The Engine uses the rules of the router. -/
theorem toOption_scan
    (scalars : List Char)
    (segments : List (List Char))
    (segment : List Char)
    (quoted : Bool) :
    (ConfigManager.scan scalars segments segment quoted).toOption =
      (PathReader.scan ⟨segments, segment, quoted, false⟩ scalars).bind
        finish := by
  unfold PathReader.scan
  fun_induction ConfigManager.scan scalars segments segment quoted with
  | case11 scalar rest segments segment quoted =>
    cases quoted <;> simp_all [read, Except.toOption]
  | _ => simp_all [finish, read, Except.toOption]

theorem read_eq_append
    (literal : ∀ scalar, character = [scalar] →
      reader.escaped = true ∨ ¬Structural reader.quoted scalar) :
    reader.read character = some (reader.append character) := by
  unfold read append
  split
  · rfl
  · rename_i taken
    have other : ∀ scalar, Structural reader.quoted scalar → character ≠ [scalar] := by
      intro scalar structural same
      exact (literal scalar same).elim taken (absurd structural)
    have quote : character ≠ ['"'] := other _ (.inl rfl)
    cases quoted : reader.quoted with
    | false =>
      have dot : character ≠ ['.'] := other _ (.inr (by rw [quoted]; rfl))
      simp_all
    | true =>
      have backslash : character ≠ ['\\'] := other _ (.inr (by rw [quoted]; rfl))
      simp_all

variable {scalar : Char} {rest : List Char}

theorem Literal.tail (literal : reader.Literal (scalar :: rest)) :
    (reader.append [scalar]).Literal rest := by
  intro other member
  refine literal other ?_
  unfold commands
  split
  · exact member
  · exact mem_cons_of_mem _ member

/-- A character is read alike if none of its scalars structures the path. -/
theorem scan_of_literal
    (literal : reader.Literal character)
    (begun : character = [] → reader.escaped = false) :
    reader.scan character = some (reader.append character) := by
  induction character generalizing reader with
  | nil =>
    obtain ⟨segments, segment, quoted, escaped⟩ := reader
    cases begun rfl
    simp [scan, append]
  | cons scalar rest ih =>
    have reads : reader.read [scalar] = some (reader.append [scalar]) := by
      refine read_eq_append fun other same => ?_
      cases same
      by_cases escaped : reader.escaped = true
      · exact .inl escaped
      · exact .inr (literal scalar (by simp [commands, escaped]))
    rw [scan_cons, reads, Option.bind_some, ih literal.tail fun _ => rfl]
    simp [append]

/-- What was read so far, with a mark after each segment. -/
def output (reader : PathReader) : List (Option Char) :=
  (reader.segments.reverse.flatMap fun segment => segment.map some ++ [none]) ++
    reader.segment.map some

@[simp] theorem output_append :
    (reader.append character).output = reader.output ++ character.map some := by
  simp [output, append]

/-- Two readers have read something different. -/
def Apart (engine router : PathReader) : Prop :=
  ∃ common one other, one ≠ other ∧ common ++ [one] <+: engine.output ∧
    common ++ [other] <+: router.output

/-- How the reader of the router follows from the one of the Engine. -/
def Stands : Lag → PathReader → PathReader → Prop
  | .even, engine, router => router = engine
  | .kept, engine, router => engine.quoted = true ∧ engine.escaped = true ∧
      router = engine.append ['\\']
  | .owed, engine, router => engine.quoted = true ∧ engine.escaped = false ∧
      engine.segment ≠ [] ∧ router = { engine with escaped := true }

theorem read_backslash
    (quoted : reader.quoted = true)
    (free : reader.escaped = false) :
    reader.read ['\\'] = some { reader with escaped := true } := by
  simp [read, quoted, free]

/-- The router keeps a character whole. -/
theorem Stands.read_whole
    (stands : Stands lag engine router)
    (behind : lag ≠ .kept)
    (several : ¬(lag = .even ∧ character.length = 1)) :
    router.read character = some (engine.append character) := by
  cases lag with
  | kept => exact absurd rfl behind
  | even =>
    cases stands
    refine read_eq_append fun scalar same => absurd ⟨rfl, ?_⟩ several
    rw [same, length_singleton]
  | owed =>
    obtain ⟨-, -, -, rfl⟩ := stands
    exact read_eq_append fun _ _ => .inl rfl

theorem Stands.advance
    (stands : Stands lag engine router)
    (filled : character ≠ [])
    (advances : PathReader.advance lag engine character = some later)
    (scans : engine.scan character = some next) :
    ∃ after, router.read character = some after ∧ Stands later next after := by
  unfold PathReader.advance at advances
  split at advances
  · rename_i kept
    subst kept
    obtain ⟨quoted, escaped, rfl⟩ := stands
    split at advances
    · rename_i backslash
      subst backslash
      cases advances
      rw [scan_of_literal (by simp [Literal, commands, escaped]) (by simp)] at scans
      cases scans
      exact ⟨_, read_backslash quoted rfl, quoted, rfl, by simp [append], rfl⟩
    · cases advances
  · rename_i behind
    split at advances
    · rename_i single
      obtain ⟨rfl, one⟩ := single
      obtain ⟨scalar, rfl⟩ := length_eq_one_iff.mp one
      cases advances
      cases stands
      rw [scan_cons] at scans
      obtain ⟨middle, reads, ends⟩ := Option.bind_eq_some_iff.mp scans
      cases ends
      exact ⟨_, reads, rfl⟩
    · rename_i several
      refine ⟨_, stands.read_whole behind several, ?_⟩
      split at advances
      · rename_i literal
        cases advances
        rw [scan_of_literal literal fun none => absurd none filled] at scans
        cases scans
        rfl
      · rename_i structural
        split at advances
        · rename_i last
          obtain ⟨quoted, last, literal⟩ := last
          cases advances
          obtain ⟨front, rfl⟩ := getLast?_eq_some_iff.mp last
          rw [dropLast_concat] at literal
          have begun : front = [] → engine.escaped = false := by
            rintro rfl
            by_contra escaped
            exact structural (by simp [Literal, commands, escaped])
          rw [scan_append, scan_of_literal literal begun, Option.bind_some, scan_cons,
            @read_backslash (engine.append front) quoted rfl] at scans
          cases scans
          exact ⟨quoted, rfl, by simp [append]⟩
        · cases advances

theorem InStep.finish
    {segments : List String}
    (steps : InStep lag engine characters)
    (stands : Stands lag engine router)
    (filled : [] ∉ characters)
    (scans : engine.scan characters.flatten = some next)
    (ends : next.finish = some segments) :
    ((characters.foldlM read router).bind PathReader.finish) =
      some segments := by
  induction characters generalizing lag engine router with
  | nil =>
    cases scans
    cases lag with
    | even =>
      cases stands
      exact ends
    | kept | owed => simp [PathReader.finish, stands.1] at ends
  | cons character rest ih =>
    obtain ⟨later, middle, advances, first, steps⟩ := steps
    obtain ⟨present, others⟩ := not_or.mp (mt mem_cons.mpr filled)
    obtain ⟨step, reads, stands⟩ := stands.advance (Ne.symm present) advances first
    rw [flatten_cons, scan_append, first, Option.bind_some] at scans
    rw [foldlM_cons, reads]
    exact ih steps stands others scans

end PathReader

open PathReader

variable {segments : List String} {blank : Char → Bool} {path : String}

theorem configurationPath_eq
    (texts : Texts)
    (path : String) :
    configurationPath texts path =
      ((texts.segmentation.characters path.toList).foldlM read fresh).bind
        finish :=
  rfl

theorem scan_of_parseKeyPath
    (accepted : parseKeyPath blank path = .ok segments) :
    ∃ next, fresh.scan path.toList = some next ∧
      next.finish = some segments := by
  unfold parseKeyPath at accepted
  split at accepted
  · cases accepted
  · refine Option.bind_eq_some_iff.mp ?_
    rw [fresh, ← toOption_scan, accepted]
    rfl

/-- Printable paths are read alike. -/
theorem configurationPath_of_printable
    (texts : Texts)
    (printable : ∀ scalar ∈ path.toList, Text.Printable scalar)
    (accepted : parseKeyPath blank path = .ok segments) :
    configurationPath texts path = some segments := by
  have alone : texts.segmentation.characters path.toList =
      path.toList.map fun scalar => [scalar] := by
    cases scalars : path.toList with
    | nil => rfl
    | cons scalar rest => exact Text.Segmentation.cut_printable [] (scalars ▸ printable)
  rw [configurationPath_eq, alone]
  exact Option.bind_eq_some_iff.mpr (scan_of_parseKeyPath accepted)

end RouterEngineObserver

end Turnrail
