import Turnrail.Foundation
import Turnrail.Text.Lines

/-!
# Lines from the Engine

`EngineLineReader` reads a pipe in chunks and returns one line of it at a call.
What its calls return depends on the lines of the stream and not on the chunks.
-/

namespace Turnrail

open List

/-- What one read of the pipe delivers. -/
structure PipeChunk where
  bytes : Data
  filled : bytes ≠ []
  short : bytes.length ≤ 65536

/-- What a read from the pipe gives. -/
inductive PipeRead
  | delivered (chunk : PipeChunk)
  | interrupted
  | failed

/-- The bytes that were read and the reads to come. -/
structure EngineLineReader where
  buffer : Data := []
  pipe : List PipeRead

namespace EngineLineReader

/-- The longest line. -/
def maximumBytes : Nat := 64 * 1024 * 1024

/-- The error of a line that is too long. -/
def exceeded : RouterFailure :=
  ⟨"Engine protocol message exceeds the supported size."⟩

/-- Read up to the end of the next line. -/
def nextLine (buffer : Data) (pipe : List PipeRead) :
    Except RouterFailure (Option Data) × EngineLineReader :=
  if 10 ∈ buffer then
    let line := buffer.takeWhile (· ≠ 10)
    if line.length ≤ maximumBytes then
      (.ok (some line), ⟨buffer.drop (line.length + 1), pipe⟩)
    else (.error exceeded, ⟨buffer, pipe⟩)
  else if buffer.length ≤ maximumBytes then
    match pipe with
    | [] =>
      if buffer.isEmpty then (.ok none, ⟨buffer, []⟩)
      else (.error ⟨"The Engine protocol ended mid-message."⟩, ⟨buffer, []⟩)
    | .interrupted :: pipe => nextLine buffer pipe
    | .failed :: pipe => (.error ⟨"Could not read the Engine protocol pipe."⟩, ⟨buffer, pipe⟩)
    | .delivered chunk :: pipe => nextLine (buffer ++ chunk.bytes) pipe
  else (.error exceeded, ⟨buffer, pipe⟩)

/-- Return the next line, or nothing at the end of the pipe. -/
def next (reader : EngineLineReader) :
    Except RouterFailure (Option Data) × EngineLineReader :=
  nextLine reader.buffer reader.pipe

/-- The reader after some calls. -/
def after (reader : EngineLineReader) : Nat → EngineLineReader
  | 0 => reader
  | calls + 1 => (reader.after calls).next.2

/-- What a call returns. -/
def returns (reader : EngineLineReader) (call : Nat) :
    Except RouterFailure (Option Data) :=
  (reader.after call).next.1

/-- The bytes the pipe delivers. -/
def delivered : List PipeRead → Data
  | [] => []
  | .delivered chunk :: pipe => chunk.bytes ++ delivered pipe
  | _ :: pipe => delivered pipe

/-- What the calls return for the lines of a stream.  A line that is too long is
never passed. -/
def answers : List Data → Data → Nat → Except RouterFailure (Option Data)
  | [], unfinished, _ =>
    if maximumBytes < unfinished.length then .error exceeded
    else if unfinished = [] then .ok none
    else .error ⟨"The Engine protocol ended mid-message."⟩
  | line :: lines, unfinished, call =>
    if maximumBytes < line.length then .error exceeded
    else
      match call with
      | 0 => .ok (some line)
      | call + 1 => answers lines unfinished call

/-- The lines the reader will see. -/
def lines (reader : EngineLineReader) : Text.Lines UInt8 :=
  Text.separated 10 (reader.buffer ++ delivered reader.pipe)

/-- The pipe does not fail. -/
def Sound (reader : EngineLineReader) : Prop :=
  .failed ∉ reader.pipe

/-- What a call answers to the lines that are left, and what it leaves.  A line
is dropped only if it is returned. -/
inductive Answers (left : Text.Lines UInt8) :
    Except RouterFailure (Option Data) → Text.Lines UInt8 → Prop
  | line {line : Data} {later : List Data}
      (first : left.finished = line :: later)
      (short : line.length ≤ maximumBytes) :
      Answers left (.ok (some line)) ⟨later, left.unfinished⟩
  | long {line : Data} {later : List Data}
      (first : left.finished = line :: later)
      (long : maximumBytes < line.length) :
      Answers left (.error exceeded) left
  | last (none : left.finished = []) :
      Answers left (answers [] left.unfinished 0) left

theorem answers_exceeded
    {start rest : Data}
    (unbroken : 10 ∉ start)
    (long : maximumBytes < start.length) :
    Answers (Text.separated 10 (start ++ rest)) (.error exceeded)
      (Text.separated 10 (start ++ rest)) := by
  by_cases ended : 10 ∈ rest
  · obtain ⟨line, later, rfl, outside⟩ := eq_append_cons_of_mem ended
    have both : 10 ∉ start ++ line := by
      rw [mem_append, not_or]
      exact ⟨unbroken, outside⟩
    rw [← append_assoc, Text.separated_append both]
    refine .long rfl ?_
    rw [length_append]
    omega
  · have both : 10 ∉ start ++ rest := by
      rw [mem_append, not_or]
      exact ⟨unbroken, ended⟩
    rw [Text.separated_unbroken both]
    have exceeds : maximumBytes < (start ++ rest).length := by
      rw [length_append]
      omega
    have answer : answers [] (start ++ rest) 0 =
      .error exceeded := by rw [answers, if_pos exceeds]
    exact answer ▸ Answers.last rfl

theorem answers_buffered
    {line rest : Data}
    (unbroken : 10 ∉ line)
    (pipe : List PipeRead) :
    Answers (Text.separated 10 (line ++ 10 :: rest ++ delivered pipe))
      (nextLine (line ++ 10 :: rest) pipe).1
      (nextLine (line ++ 10 :: rest) pipe).2.lines := by
  have taken : (line ++ 10 :: rest).takeWhile (fun byte => decide (byte ≠ 10)) =
      line := by
    rw [takeWhile_append_of_pos]
    · simp
    · intro byte member
      exact decide_eq_true fun same => unbroken (same ▸ member)
  have dropped : (line ++ 10 :: rest).drop (line.length + 1) = rest := by
    rw [append_cons, drop_left' (by simp)]
  have left := Text.separated_append unbroken (rest ++ delivered pipe)
  rw [← cons_append, ← append_assoc] at left
  have same : nextLine (line ++ 10 :: rest) pipe =
      if line.length ≤ maximumBytes then (.ok (some line), ⟨rest, pipe⟩)
      else (.error exceeded, ⟨line ++ 10 :: rest, pipe⟩) := by
    unfold nextLine
    rw [if_pos (by simp)]
    simp only [taken, dropped]
  rw [same]
  by_cases short : line.length ≤ maximumBytes
  · rw [if_pos short]
    have answer := Answers.line (congrArg Text.Lines.finished left) short
    rw [left] at answer ⊢
    exact answer
  · rw [if_neg short]
    exact .long (congrArg Text.Lines.finished left) (by omega)

theorem answers_nextLine
    {pipe : List PipeRead}
    (sound : .failed ∉ pipe)
    (buffer : Data) :
    Answers (Text.separated 10 (buffer ++ delivered pipe))
      (nextLine buffer pipe).1 (nextLine buffer pipe).2.lines := by
  induction pipe generalizing buffer with
  | nil =>
    by_cases ended : 10 ∈ buffer
    · obtain ⟨line, rest, rfl, outside⟩ := eq_append_cons_of_mem ended
      exact answers_buffered outside []
    · have same : nextLine buffer [] = (answers [] buffer 0, ⟨buffer, []⟩) := by
        unfold nextLine answers
        rw [if_neg ended]
        by_cases short : buffer.length ≤ maximumBytes
        · rw [if_pos short, if_neg (Nat.not_lt.mpr short)]
          cases buffer <;> rfl
        · rw [if_neg short, if_pos (Nat.lt_of_not_le short)]
      have left : Text.separated 10 (buffer ++ delivered []) = ⟨[], buffer⟩ := by
        rw [delivered, append_nil, Text.separated_unbroken ended]
      rw [same, lines, left]
      exact .last rfl
  | cons read pipe ih =>
    by_cases ended : 10 ∈ buffer
    · obtain ⟨line, rest, rfl, outside⟩ := eq_append_cons_of_mem ended
      exact answers_buffered outside _
    · by_cases short : buffer.length ≤ maximumBytes
      · unfold nextLine
        rw [if_neg ended, if_pos short]
        rw [mem_cons, not_or] at sound
        cases read with
        | delivered chunk =>
          have later := ih sound.2 (buffer ++ chunk.bytes)
          rw [append_assoc] at later
          exact later
        | interrupted => exact ih sound.2 buffer
        | failed => exact absurd rfl sound.1
      · have same : nextLine buffer (read :: pipe) =
            (.error exceeded, ⟨buffer, read :: pipe⟩) := by
          unfold nextLine
          rw [if_neg ended, if_neg short]
        rw [same]
        exact answers_exceeded ended (by omega)

theorem pipe_nextLine
    (buffer : Data)
    (pipe : List PipeRead) :
    (nextLine buffer pipe).2.pipe <:+ pipe := by
  fun_induction nextLine buffer pipe with
  | case1 | case2 | case3 | case4 => exact suffix_rfl
  | case5 buffer _ _ pipe ih => exact ih.trans (suffix_cons _ _)
  | case6 => exact suffix_cons _ _
  | case7 buffer _ _ chunk pipe ih => exact ih.trans (suffix_cons _ _)
  | case8 => exact suffix_rfl

variable {reader : EngineLineReader}

theorem sound_after
    (sound : reader.Sound)
    (calls : Nat) :
    (reader.after calls).Sound := by
  induction calls with
  | zero => exact sound
  | succ calls ih => exact fun failed => ih ((pipe_nextLine _ _).subset failed)

theorem answers_after
    (sound : reader.Sound)
    (calls later : Nat) :
    answers reader.lines.finished reader.lines.unfinished (calls + later) =
      answers (reader.after calls).lines.finished
        (reader.after calls).lines.unfinished later := by
  induction calls generalizing later with
  | zero => rw [Nat.zero_add]; rfl
  | succ calls ih =>
    rw [Nat.add_right_comm, Nat.add_assoc, ih]
    have step := answers_nextLine (sound_after sound calls) (reader.after calls).buffer
    change Answers (reader.after calls).lines _ (reader.after (calls + 1)).lines at step
    generalize (nextLine _ _).1 = answer at step
    generalize (reader.after calls).lines = left at step ⊢
    generalize (reader.after (calls + 1)).lines = remaining at step ⊢
    cases step with
    | line first short => rw [first, answers, if_neg (Nat.not_lt.mpr short)]
    | long first long => simp only [first, answers, if_pos long]
    | last none => rw [none]; rfl

theorem returns_eq_answers
    (sound : reader.Sound)
    (call : Nat) :
    reader.returns call =
      answers reader.lines.finished reader.lines.unfinished call := by
  have step := answers_nextLine (sound_after sound call) (reader.after call).buffer
  have shifted := answers_after sound call 0
  rw [Nat.add_zero] at shifted
  rw [shifted]
  change Answers (reader.after call).lines (reader.returns call)
    (reader.after (call + 1)).lines at step
  generalize (reader.after call).lines = left at step ⊢
  generalize (reader.after (call + 1)).lines = remaining at step
  generalize reader.returns call = answer at step ⊢
  cases step with
  | line first short => rw [first, answers, if_neg (Nat.not_lt.mpr short)]
  | long first long => rw [first, answers, if_pos long]
  | last none => rw [none]

end EngineLineReader

/-- However a pipe cuts a stream, the calls return the lines of the stream in
order, up to the first one that is too long.  The last call throws if a line is
unfinished. -/
theorem lines_are_read_in_order
    (pipe : List PipeRead)
    (sound : .failed ∉ pipe)
    (call : Nat) :
    (EngineLineReader.mk [] pipe).returns call =
      EngineLineReader.answers
        (Text.separated 10 (EngineLineReader.delivered pipe)).finished
        (Text.separated 10 (EngineLineReader.delivered pipe)).unfinished call :=
  @EngineLineReader.returns_eq_answers ⟨[], pipe⟩ sound call

/-- A line that is cut between two reads, with an interruption between them. -/
theorem cut_line_is_read :
    (EngineLineReader.mk []
        [.delivered ⟨[1, 10, 2], by decide, by decide⟩, .interrupted,
          .delivered ⟨[3, 10, 4], by decide, by decide⟩]).returns 1 =
      .ok (some [2, 3]) :=
  (lines_are_read_in_order _ (by simp) 1).trans rfl

end Turnrail
