import Mathlib.Data.List.Chain
import Mathlib.Data.List.Infix

/-!
# User-perceived characters

A text is a sequence of scalars, and a reader sees characters made of one or
more scalars.  Which scalars join depends on the Unicode version.  Next to a
printable ASCII scalar all versions agree: a combining scalar joins what stands
before it, a prepended mark joins what stands after it, and nothing else joins.
A segmentation carries these facts, so that results about ASCII punctuation
hold for every version.
-/

namespace Text

open List

/-- A printable ASCII scalar. -/
def Printable (scalar : Char) : Prop :=
  ' ' ≤ scalar ∧ scalar ≤ '~'

instance (scalar : Char) : Decidable (Printable scalar) :=
  inferInstanceAs (Decidable (_ ∧ _))

theorem printable_of_all
    {text : List Char}
    (checked : (text.all fun scalar => decide (Printable scalar)) = true) :
    ∀ scalar ∈ text, Printable scalar := fun scalar member =>
  of_decide_eq_true (all_eq_true.mp checked scalar member)

/-- Where a text may be cut into characters. -/
structure Segmentation where
  joins : List Char → Char → Bool
  attaches : Char → Bool
  prepends : Char → Bool
  joins_of_printable : ∀ {scalar}, Printable scalar →
    ∀ context next, joins (scalar :: context) next = attaches next
  joins_printable : ∀ {scalar}, Printable scalar →
    ∀ previous context, joins (previous :: context) scalar = prepends previous
  attaches_printable : ∀ {scalar}, Printable scalar → attaches scalar = false

namespace Segmentation

variable (segmentation : Segmentation)

/-- Cut the rest of a text.  `context` holds the scalars seen so far and
`current` those of the unfinished character, both with the last one first. -/
def cut : List Char → List Char → List Char → List (List Char)
  | _, current, [] => [current.reverse]
  | context, current, scalar :: rest =>
    if segmentation.joins context scalar then
      cut (scalar :: context) (scalar :: current) rest
    else current.reverse :: cut (scalar :: context) [scalar] rest

/-- The characters of a text, each with its scalars. -/
def characters : List Char → List (List Char)
  | [] => []
  | scalar :: rest => segmentation.cut [scalar] [scalar] rest

/-- A text contains a scalar as a character. -/
def contains (text : String) (scalar : Char) : Bool :=
  segmentation.characters text.toList |>.contains [scalar]

/-- A text starts with another one. -/
def hasPrefix (text start : String) : Bool :=
  (segmentation.characters start.toList).isPrefixOf (segmentation.characters text.toList)

/-- A text ends with another one. -/
def hasSuffix (text ending : String) : Bool :=
  (segmentation.characters ending.toList).isSuffixOf (segmentation.characters text.toList)

theorem flatten_cut (context current rest : List Char) :
    (segmentation.cut context current rest).flatten =
      current.reverse ++ rest := by
  induction rest generalizing context current with
  | nil => simp [cut]
  | cons scalar rest ih =>
    unfold cut
    split <;> simp [ih]

@[simp] theorem flatten_characters (text : List Char) :
    (segmentation.characters text).flatten = text := by
  cases text with
  | nil => rfl
  | cons scalar rest => simp [characters, flatten_cut]

variable {scalar : Char} {rest : List Char}

theorem cut_append
    (context current start rest : List Char)
    (boundary : segmentation.joins (start.reverse ++ context) scalar = false) :
    segmentation.cut context current (start ++ scalar :: rest) =
      segmentation.cut context current start ++ segmentation.cut (scalar ::
        (start.reverse ++ context)) [scalar] rest := by
  induction start generalizing context current with
  | nil =>
    have apart : segmentation.joins context scalar = false := boundary
    simp [cut, apart]
  | cons first start ih =>
    rw [reverse_cons, append_assoc, singleton_append] at boundary ⊢
    rw [cons_append, cut, cut]
    split
    · exact ih _ _ boundary
    · rw [ih _ _ boundary]
      rfl

variable {start rest : List Char}

theorem characters_append
    {scalar : Char}
    (filled : start ≠ [])
    (boundary : segmentation.joins start.reverse scalar = false) :
    segmentation.characters (start ++ scalar :: rest) = segmentation.characters
        start ++ segmentation.cut (scalar :: start.reverse) [scalar] rest := by
  obtain ⟨first, start, rfl⟩ := exists_cons_of_ne_nil filled
  rw [reverse_cons] at boundary ⊢
  exact segmentation.cut_append [first] [first] start rest boundary

variable {segmentation}

theorem exists_of_cut_eq_append
    {context current text : List Char}
    {front back : List (List Char)}
    (split : segmentation.cut context current text = front ++ back)
    (before : front ≠ [])
    (after : back ≠ []) :
    ∃ start scalar rest, text = start ++ scalar :: rest ∧
      front = segmentation.cut context current start ∧
      segmentation.joins (start.reverse ++ context) scalar = false := by
  induction text generalizing context current front with
  | nil =>
    have one := congrArg length split
    have some := length_pos_iff.mpr before
    have more := length_pos_iff.mpr after
    rw [cut, length_append, length_singleton] at one
    omega
  | cons scalar text ih =>
    rw [cut] at split
    by_cases joined : segmentation.joins context scalar = true
    · rw [if_pos joined] at split
      obtain ⟨start, next, rest, rfl, same, boundary⟩ := ih split before
      refine ⟨scalar :: start, next, rest, rfl, ?_, by simpa using boundary⟩
      rw [cut, if_pos joined, same]
    · rw [if_neg joined] at split
      obtain ⟨first, others, rfl⟩ := exists_cons_of_ne_nil before
      obtain ⟨rfl, remaining⟩ := cons.inj split
      by_cases last : others = []
      · subst last
        exact ⟨[], scalar, text, rfl, rfl, by simpa using joined⟩
      · obtain ⟨start, next, rest, rfl, same, boundary⟩ := ih remaining last
        refine ⟨scalar :: start, next, rest, rfl, ?_, by simpa using boundary⟩
        rw [cut, if_neg joined, same]

theorem exists_of_characters_eq_append
    {text : List Char}
    {front back : List (List Char)}
    (split : segmentation.characters text = front ++ back)
    (before : front ≠ []) :
    ∃ start rest, text = start ++ rest ∧
      front = segmentation.characters start ∧ ∀ scalar ∈ rest.head?,
      segmentation.joins start.reverse scalar = false := by
  by_cases after : back = []
  · refine ⟨text, [], (append_nil _).symm, ?_, nofun⟩
    rw [split, after, append_nil]
  · cases text with
    | nil => exact absurd (append_eq_nil_iff.mp split.symm).1 before
    | cons first text =>
      obtain ⟨start, next, rest, rfl, same, boundary⟩ :=
        exists_of_cut_eq_append split before after
      refine ⟨first :: start, next :: rest, rfl, same, ?_⟩
      rintro scalar ⟨⟩
      simpa using boundary

theorem length_cut_concat
    (context current text : List Char)
    (scalar : Char) :
    (segmentation.cut context current text).length ≤
      (segmentation.cut context current (text ++ [scalar])).length := by
  induction text generalizing context current with
  | nil =>
    rw [nil_append, cut, cut]
    split <;> simp [cut]
  | cons next text ih =>
    rw [cons_append, cut, cut]
    split
    · exact ih _ _
    · simpa using ih _ _

theorem length_characters_concat
    (text : List Char)
    (scalar : Char) :
    (segmentation.characters text).length ≤
      (segmentation.characters (text ++ [scalar])).length := by
  cases text with
  | nil => exact Nat.zero_le _
  | cons first text => exact length_cut_concat _ _ _ _

theorem length_characters_lt
    (filled : start ≠ [])
    (boundary : segmentation.joins start.reverse scalar = false) :
    (segmentation.characters start).length <
      (segmentation.characters (start ++ scalar :: rest)).length := by
  have more : segmentation.cut (scalar :: start.reverse) [scalar] rest ≠ [] := by
    intro none
    simpa [none] using segmentation.flatten_cut (scalar :: start.reverse) [scalar] rest
  rw [characters_append segmentation filled boundary, length_append]
  exact Nat.lt_add_of_pos_right (length_pos_iff.mpr more)

theorem exists_cut_alone
    (context : List Char)
    (boundary : ∀ next ∈ rest.head?, segmentation.joins context next = false) :
    ∃ others, segmentation.cut context [scalar] rest = [scalar] :: others := by
  cases rest with
  | nil => exact ⟨[], rfl⟩
  | cons next rest =>
    have apart := boundary next rfl
    exact ⟨_, by rw [cut, if_neg (by simp [apart])]; rfl⟩

theorem exists_characters_alone
    {scalar : Char}
    (printable : Printable scalar)
    (before : ∀ last ∈ start.getLast?, segmentation.prepends last = false)
    (after : ∀ next ∈ rest.head?, segmentation.attaches next = false) :
    ∃ others, segmentation.characters (start ++ scalar :: rest) =
      segmentation.characters start ++ [scalar] :: others := by
  have alone : ∀ context, ∃ others, segmentation.cut (scalar :: context) [scalar] rest =
        [scalar] :: others := by
    intro context
    refine exists_cut_alone _ fun next member => ?_
    rw [segmentation.joins_of_printable printable]
    exact after next member
  by_cases empty : start = []
  · subst empty
    exact alone []
  · obtain ⟨others, same⟩ := alone start.reverse
    refine ⟨others, ?_⟩
    rw [characters_append segmentation empty, same]
    rcases eq_nil_or_concat start with none | ⟨first, last, rfl⟩
    · exact absurd none empty
    · rw [concat_eq_append, reverse_append, reverse_singleton,
        singleton_append, segmentation.joins_printable printable]
      exact before last (by simp)

theorem cut_printable
    (context : List Char)
    (printable : ∀ next ∈ scalar :: rest, Printable next) :
    segmentation.cut (scalar :: context) [scalar] rest =
      (scalar :: rest).map fun next => [next] := by
  induction rest generalizing scalar context with
  | nil => rfl
  | cons next rest ih =>
    obtain ⟨first, later⟩ := forall_mem_cons.mp printable
    have apart : segmentation.joins (scalar :: context) next = false := by
      rw [segmentation.joins_of_printable first]
      exact segmentation.attaches_printable (later next mem_cons_self)
    rw [cut, if_neg (Bool.eq_false_iff.mp apart), ih _ later]
    rfl

theorem hasPrefix_iff
    {text start : String}
    {front : List Char}
    {last : Char}
    (ends : start.toList = front ++ [last])
    (printable : Printable last) :
    segmentation.hasPrefix text start = true ↔
      ∃ rest, text.toList = start.toList ++ rest ∧ ∀ next ∈ rest.head?,
      segmentation.attaches next = false := by
  have joined : ∀ next, segmentation.joins start.toList.reverse next =
      segmentation.attaches next := by
    intro next
    rw [ends, reverse_append, reverse_singleton, singleton_append,
      segmentation.joins_of_printable printable]
  have filled : start.toList ≠ [] := by
    rw [ends]
    simp
  rw [hasPrefix, isPrefixOf_iff_prefix]
  constructor
  · rintro ⟨back, split⟩
    obtain ⟨begun, rest, same, equal, boundary⟩ :=
      exists_of_characters_eq_append split.symm (by
        intro empty
        have scalars := flatten_characters segmentation start.toList
        rw [empty] at scalars
        exact filled scalars.symm)
    have again : start.toList = begun := by
      rw [← flatten_characters segmentation start.toList, equal, flatten_characters]
    subst again
    refine ⟨rest, same, fun next member => ?_⟩
    rw [← joined]
    exact boundary next member
  · rintro ⟨rest, same, apart⟩
    rw [same]
    cases rest with
    | nil => exact ⟨[], by simp⟩
    | cons next rest =>
      rw [characters_append segmentation filled ((joined next).trans (apart next rfl))]
      exact prefix_append _ _

theorem hasSuffix_iff
    {text ending : String}
    {first : Char}
    {others : List Char}
    (begins : ending.toList = first :: others)
    (printable : ∀ scalar ∈ first :: others, Printable scalar) :
    segmentation.hasSuffix text ending = true ↔
      ∃ start, text.toList = start ++ ending.toList ∧ ∀ last ∈ start.getLast?,
      segmentation.prepends last = false := by
  have joined : ∀ front last, segmentation.joins (front ++ [last]).reverse first =
      segmentation.prepends last := by
    intro front last
    rw [reverse_append, reverse_singleton, singleton_append,
      segmentation.joins_printable (printable first mem_cons_self)]
  rw [hasSuffix, isSuffixOf_iff_suffix]
  constructor
  · rintro ⟨front, split⟩
    have scalars := congrArg flatten split
    rw [flatten_append, flatten_characters, flatten_characters] at scalars
    refine ⟨front.flatten, scalars.symm, ?_⟩
    by_cases empty : front = []
    · subst empty
      rintro last ⟨⟩
    · obtain ⟨start, rest, same, equal, boundary⟩ :=
        exists_of_characters_eq_append split.symm empty
      rw [equal, flatten_characters] at scalars ⊢
      rw [same] at scalars
      have remaining := append_cancel_left scalars
      rw [begins] at remaining
      intro last member
      obtain ⟨before, rfl⟩ := getLast?_eq_some_iff.mp member
      rw [← joined before]
      exact boundary first (by rw [← remaining]; rfl)
  · rintro ⟨start, same, apart⟩
    rw [same]
    rcases eq_nil_or_concat start with rfl | ⟨before, last, rfl⟩
    · exact suffix_refl _
    · rw [concat_eq_append] at apart ⊢
      rw [begins, characters_append segmentation (by simp)
        ((joined before last).trans (apart last (by simp))),
        cut_printable _ printable]
      have alone : segmentation.characters (first :: others) =
          (first :: others).map fun next => [next] := cut_printable [] printable
      rw [alone]
      exact suffix_append _ _

theorem singleton_notMem_characters
    {text : List Char}
    (absent : scalar ∉ text) :
    [scalar] ∉ segmentation.characters text := by
  intro member
  apply absent
  rw [← flatten_characters segmentation text]
  exact mem_flatten_of_mem member mem_cons_self

end Segmentation

/-- The combining diacritical marks. -/
def diacritic (scalar : Char) : Bool :=
  decide ('\u0300' ≤ scalar) && decide (scalar ≤ '\u036f')

theorem diacritic_printable
    {scalar : Char}
    (printable : Printable scalar) :
    diacritic scalar = false := by
  have small : ¬ '\u0300' ≤ scalar := by
    intro large
    exact absurd (Char.le_trans large printable.2) (by decide)
  simp [diacritic, small]

/-- Accents are joined to the scalar before. -/
def diacritics : Segmentation where
  joins _ next := diacritic next
  attaches := diacritic
  prepends _ := false
  joins_of_printable _ _ _ := rfl
  joins_printable printable _ _ := diacritic_printable printable
  attaches_printable := diacritic_printable

end Text
