import Mathlib.Data.List.Infix

/-!
# Paths

A path is a sequence of names with a slash before each of them; the path without
names is a slash.  The components of a path are its names.  A path with another
slash at its end is the start of every path below it.
-/

namespace Text

open List

variable {α : Type} [DecidableEq α] (slash : α)

/-- Names that can stand in a path. -/
def Named (names : List (List α)) : Prop :=
  ∀ name ∈ names, name ≠ [] ∧ slash ∉ name

/-- Names with a slash before each. -/
def slashed (names : List (List α)) : List α :=
  names.flatMap (slash :: ·)

/-- The path of some names. -/
def path (names : List (List α)) : List α :=
  if names = [] then [slash] else slashed slash names

/-- The path with some names, up to the slash before the next one. -/
def folder (names : List (List α)) : List α :=
  slashed slash names ++ [slash]

/-- What stands between slashes. -/
def components (text : List α) : List (List α) :=
  (text.splitOn slash).filter (· ≠ [])

/-- A text is a path. -/
def IsPath (text : List α) : Prop :=
  ∃ names, Named slash names ∧ text = path slash names

variable {slash} {names front : List (List α)}

omit [DecidableEq α] in
theorem intercalate_cons
    (name : List α)
    (rest : List (List α)) :
    [slash].intercalate (name :: rest) = name ++ slashed slash rest := by
  induction rest generalizing name with
  | nil => simp [slashed, intercalate]
  | cons next rest ih =>
    rw [intercalate_cons_cons, ih]
    simp [slashed]

theorem splitOn_append_cons (start rest : List α) :
    (start ++ slash :: rest).splitOn slash =
      start.splitOn slash ++ rest.splitOn slash :=
  splitOnP_append_cons start rest (by simp)

theorem notMem_of_mem_splitOn
    {text name : List α}
    (member : name ∈ text.splitOn slash) :
    slash ∉ name := by
  induction text generalizing name with
  | nil =>
    rw [splitOn_nil, mem_singleton] at member
    rw [member]
    exact not_mem_nil
  | cons item text ih =>
    rw [splitOn, splitOnP_cons_eq_if_modifyHead] at member
    split at member
    · rcases mem_cons.mp member with rfl | later
      · exact not_mem_nil
      · exact ih later
    · rename_i other
      obtain ⟨first, rest, here⟩ := exists_cons_of_ne_nil (splitOn_ne_nil slash text)
      rw [splitOn] at here
      rw [here, modifyHead_cons] at member
      have inside : ∀ part ∈ first :: rest, slash ∉ part := by
        intro part isPart
        exact ih (by rw [splitOn, here]; exact isPart)
      rcases mem_cons.mp member with rfl | later
      · rw [mem_cons, not_or]
        exact ⟨fun same => other (by simp [same]), inside first mem_cons_self⟩
      · exact inside name (mem_cons_of_mem _ later)

theorem splitOn_slashed (free : ∀ name ∈ names, slash ∉ name) :
    (slashed slash names).splitOn slash = [] :: names := by
  have joined : [slash].intercalate ([] :: names) = slashed slash names :=
    intercalate_cons [] names
  rw [← joined]
  refine splitOn_intercalate slash ?_ (cons_ne_nil _ _)
  intro name member
  rcases mem_cons.mp member with rfl | member
  · exact not_mem_nil
  · exact free name member

theorem splitOn_folder_append
    (free : ∀ name ∈ names, slash ∉ name)
    (rest : List α) :
    (folder slash names ++ rest).splitOn slash =
      [] :: (names ++ rest.splitOn slash) := by
  rw [folder, append_assoc, singleton_append, splitOn_append_cons, splitOn_slashed free]
  rfl

theorem splitOn_path (free : ∀ name ∈ names, slash ∉ name) :
    (path slash names).splitOn slash =
      [] :: (if names = [] then [[]] else names) := by
  unfold path
  split
  · exact splitOn_append_cons [] []
  · exact splitOn_slashed free

theorem components_path (named : Named slash names) :
    components slash (path slash names) = names := by
  rw [components, splitOn_path fun name member => (named name member).2]
  split
  · simp [*]
  · simpa using fun name member => (named name member).1

theorem named_components (text : List α) :
    Named slash (components slash text) := by
  intro name member
  obtain ⟨part, filled⟩ := mem_filter.mp member
  exact ⟨by simpa using filled, notMem_of_mem_splitOn part⟩

omit [DecidableEq α] in
theorem path_append
    (front rest : List (List α))
    (name : List α) :
    path slash (front ++ name :: rest) =
      folder slash front ++ (name ++ slashed slash rest) := by
  simp [path, folder, slashed]

theorem exists_of_folder_append
    (named : Named slash names)
    (free : ∀ name ∈ front, slash ∉ name)
    {rest : List α}
    (same : path slash names = folder slash front ++ rest) :
    names = [] ∧ front = [] ∧ rest = [] ∨ ∃ name later,
      names = front ++ name :: later ∧ rest = name ++ slashed slash later := by
  have split := congrArg (splitOn slash) same
  rw [splitOn_path fun name member => (named name member).2,
    splitOn_folder_append free] at split
  have parts := (cons.inj split).2
  have joined : [slash].intercalate (rest.splitOn slash) = rest := intercalate_splitOn slash
  by_cases empty : names = []
  · left
    rw [if_pos empty] at parts
    rcases append_eq_singleton_iff.mp parts.symm with
      ⟨none, last⟩ | ⟨-, impossible⟩
    · rw [last] at joined
      exact ⟨empty, none, by simpa using joined.symm⟩
    · exact absurd impossible (splitOn_ne_nil slash rest)
  · right
    rw [if_neg empty] at parts
    obtain ⟨name, later, here⟩ := exists_cons_of_ne_nil (splitOn_ne_nil slash rest)
    refine ⟨name, later, by rw [parts, here], ?_⟩
    rw [← joined, here, intercalate_cons]

end Text
