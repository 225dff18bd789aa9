import Mathlib.Data.List.Pairwise

/-!
# Checking a list from left to right

A scan checks each element against the elements before it and stops at the first
error.  If the check of one element compares it with each earlier one, the scan
passes exactly the lists whose elements are pairwise compatible.
-/

namespace Checks

/-- Check the elements of a list that come after those seen, the last one
first. -/
def scan (check : α → List α → Except ε Unit) :
    List α → List α → Except ε Unit
  | [], _ => .ok ()
  | item :: rest, seen => do
    check item seen
    scan check rest (item :: seen)

variable {check : α → List α → Except ε Unit}
variable {passes : α → Prop} {apart : α → α → Prop}

theorem bind_eq_ok_unit {first second : Except ε Unit} :
    (first >>= fun _ => second) = .ok () ↔
      first = .ok () ∧ second = .ok () := by
  cases first with
  | error | ok => simp [bind, Except.bind]

theorem bind_eq_error
    {first : Except ε α}
    {next : α → Except ε β}
    {error : ε} :
    first >>= next = .error error ↔ first = .error error ∨ ∃ value,
      first = .ok value ∧ next value = .error error := by
  cases first with
  | error | ok => simp [bind, Except.bind]

theorem scan_eq_ok
    (meaning : ∀ item seen, check item seen = .ok () ↔
      passes item ∧ ∀ other ∈ seen, apart item other)
    (list seen : List α) :
    scan check list seen = .ok () ↔ (∀ item ∈ list, passes item) ∧
      list.Pairwise (fun earlier later => apart later earlier) ∧ ∀ item ∈ list,
      ∀ other ∈ seen, apart item other := by
  induction list generalizing seen with
  | nil => simp [scan]
  | cons item rest ih =>
    rw [scan, bind_eq_ok_unit, meaning, ih]
    simp only [List.pairwise_cons, List.mem_cons, forall_eq_or_imp]
    constructor
    · rintro ⟨⟨one, first⟩, all, pairs, others⟩
      exact ⟨⟨one, all⟩, ⟨fun other member => (others other member).1, pairs⟩,
        first, fun other member => (others other member).2⟩
    · rintro ⟨⟨one, all⟩, ⟨after, pairs⟩, first, others⟩
      exact ⟨⟨one, first⟩, all, pairs,
        fun other member => ⟨after other member, others other member⟩⟩

theorem forM_eq_ok
    {check : α → Except ε Unit}
    (list : List α) :
    forM list check = .ok () ↔ ∀ item ∈ list, check item = .ok () := by
  induction list with
  | nil => simp [pure, Except.pure]
  | cons item rest ih => rw [List.forM_cons, bind_eq_ok_unit, ih, List.forall_mem_cons]

theorem mapM_eq_error
    {read : α → Except ε β}
    {error : ε}
    (list : List α) :
    list.mapM read = .error error ↔ ∃ earlier item later,
      list = earlier ++ item :: later ∧ (∀ other ∈ earlier,
        ∃ value, read other = .ok value) ∧ read item = .error error := by
  induction list with
  | nil => simp [pure, Except.pure]
  | cons first rest ih =>
    rw [List.mapM_cons, bind_eq_error]
    simp only [bind_eq_error, ih, pure, Except.pure, reduceCtorEq,
      and_false, exists_const, or_false]
    constructor
    · rintro (stops | ⟨value, reads, earlier, item, later, rfl, before, stops⟩)
      · exact ⟨[], first, rest, rfl, by simp, stops⟩
      · refine ⟨first :: earlier, item, later, rfl, ?_, stops⟩
        exact List.forall_mem_cons.mpr ⟨⟨value, reads⟩, before⟩
    · rintro ⟨earlier, item, later, parts, before, stops⟩
      cases earlier with
      | nil =>
        cases parts
        exact .inl stops
      | cons head tail =>
        cases parts
        obtain ⟨⟨value, reads⟩, before⟩ := List.forall_mem_cons.mp before
        exact .inr ⟨value, reads, tail, item, later, rfl, before, stops⟩

end Checks
