import Mathlib.Data.List.Basic

/-!
# Lines of a stream

A line is ended by a line feed, by a carriage return, or by both in this order.
What follows the last ending is an unfinished line.  The lines of a stream that
grows by one element are those of the shorter stream, up to the last one.
-/

namespace Text

/-- The lines of a text. -/
structure Lines (α : Type) where
  finished : List (List α)
  unfinished : List α

namespace Lines

/-- An empty line before other lines. -/
def blank (lines : Lines α) : Lines α :=
  ⟨[] :: lines.finished, lines.unfinished⟩

/-- Another element at the start of the first line. -/
def prepend (item : α) (lines : Lines α) : Lines α :=
  match lines.finished with
  | [] => ⟨[], item :: lines.unfinished⟩
  | line :: later => ⟨(item :: line) :: later, lines.unfinished⟩

/-- The end of a line. -/
def finish (lines : Lines α) : Lines α :=
  ⟨lines.finished ++ [lines.unfinished], []⟩

/-- Another element at the end of the unfinished line. -/
def push (lines : Lines α) (item : α) : Lines α :=
  ⟨lines.finished, lines.unfinished ++ [item]⟩

theorem finish_prepend
    (item : α)
    (lines : Lines α) :
    (lines.prepend item).finish = lines.finish.prepend item := by
  obtain ⟨_ | ⟨line, later⟩, unfinished⟩ := lines <;> rfl

theorem push_prepend
    (item other : α)
    (lines : Lines α) :
    (lines.prepend item).push other = (lines.push other).prepend item := by
  obtain ⟨_ | ⟨line, later⟩, unfinished⟩ := lines <;> rfl

end Lines

section Split

variable [DecidableEq α] (cr lf : α)

/-- The lines of a stream.  A carriage return before a line feed belongs to the
same ending. -/
def lines : List α → Lines α
  | [] => ⟨[], []⟩
  | item :: rest =>
    if item = cr ∧ rest.head? = some lf then lines rest
    else if item = cr ∨ item = lf then (lines rest).blank
    else (lines rest).prepend item

/-- Another element arrives after a stream. -/
def arrive (last : Option α) (item : α) (before : Lines α) : Lines α :=
  if last = some cr ∧ item = lf then before
  else if item = cr ∨ item = lf then before.finish
  else before.push item

variable {cr lf}

theorem lines_cons
    (item : α)
    (rest : List α) :
    lines cr lf (item :: rest) =
      if item = cr ∧ rest.head? = some lf then lines cr lf rest
      else if item = cr ∨ item = lf then (lines cr lf rest).blank
      else (lines cr lf rest).prepend item := by
  rw [lines]

theorem arrive_blank
    (last : Option α)
    (item : α)
    (before : Lines α) :
    arrive cr lf last item before.blank =
      (arrive cr lf last item before).blank := by
  unfold arrive
  split
  · rfl
  · split <;> rfl

theorem arrive_prepend
    (last : Option α)
    (item first : α)
    (before : Lines α) :
    arrive cr lf last item (before.prepend first) =
      (arrive cr lf last item before).prepend first := by
  unfold arrive
  split
  · rfl
  · split
    · exact Lines.finish_prepend first before
    · exact Lines.push_prepend first item before

theorem lines_concat
    (distinct : cr ≠ lf)
    (stream : List α)
    (item : α) :
    lines cr lf (stream ++ [item]) =
      arrive cr lf stream.getLast? item (lines cr lf stream) := by
  induction stream with
  | nil =>
    by_cases ends : item = cr ∨ item = lf <;>
      simp [lines, arrive, ends, Lines.blank, Lines.finish, Lines.prepend, Lines.push]
  | cons first rest ih =>
    cases rest with
    | nil =>
      -- Only here can both elements belong to one ending.
      by_cases both : first = cr ∧ item = lf
      · obtain ⟨rfl, rfl⟩ := both
        simp [lines, arrive, distinct, distinct.symm, Lines.blank]
      · have apart : ¬(first = cr ∧ [item].head? = some lf) := by simpa using both
        have alone : ¬(first = cr ∧ ([] : List α).head? = some lf) := by simp
        rw [List.cons_append, List.nil_append, lines_cons first [item],
          if_neg apart, ← List.nil_append [item], ih,
          lines_cons first [], if_neg alone]
        have unrelated : arrive cr lf [first].getLast? item = arrive cr lf none item := by
          funext before
          simp [arrive, both]
        rw [unrelated, List.getLast?_nil]
        split
        · rw [arrive_blank]
        · rw [arrive_prepend]
    | cons second rest =>
      rw [List.cons_append, lines_cons, ih,
        List.getLast?_cons_cons, lines_cons first (second :: rest),
        List.head?_append_of_ne_nil _ (by simp)]
      split
      · rfl
      · split
        · rw [arrive_blank]
        · rw [arrive_prepend]

variable {line : List α}

theorem lines_append
    (distinct : cr ≠ lf)
    (unbroken : ∀ item ∈ line, item ≠ cr ∧ item ≠ lf)
    (rest : List α) :
    lines cr lf (line ++ lf :: rest) =
      ⟨line :: (lines cr lf rest).finished, (lines cr lf rest).unfinished⟩ := by
  induction line with
  | nil => simp [lines, distinct.symm, Lines.blank]
  | cons item line ih =>
    obtain ⟨notReturn, notFeed⟩ := unbroken item List.mem_cons_self
    rw [List.cons_append, lines_cons, ih fun other member =>
        unbroken other (List.mem_cons_of_mem _ member)]
    simp [notReturn, notFeed, Lines.prepend]

/-- The lines of a stream in which only line feeds end a line. -/
def separated (lf : α) : List α → Lines α
  | [] => ⟨[], []⟩
  | item :: rest =>
    if item = lf then (separated lf rest).blank
    else (separated lf rest).prepend item

theorem separated_append
    (unbroken : lf ∉ line)
    (rest : List α) :
    separated lf (line ++ lf :: rest) = ⟨line :: (separated lf rest).finished,
        (separated lf rest).unfinished⟩ := by
  induction line with
  | nil => simp [separated, Lines.blank]
  | cons item line ih =>
    rw [List.mem_cons, not_or] at unbroken
    obtain ⟨other, others⟩ := unbroken
    rw [List.cons_append, separated, if_neg (Ne.symm other), ih others]
    rfl

theorem separated_unbroken (unbroken : lf ∉ line) :
    separated lf line = ⟨[], line⟩ := by
  induction line with
  | nil => rfl
  | cons item line ih =>
    rw [List.mem_cons, not_or] at unbroken
    obtain ⟨other, others⟩ := unbroken
    rw [separated, if_neg (Ne.symm other), ih others]
    rfl

end Split

end Text
