import Turnrail.Foundation

/-!
# JSON values

A dictionary has no order, while the model lists its fields in the order in
which they are enumerated.  The value of a JSON document forgets that order: an
object is a function from keys to values.
-/

namespace Turnrail

/-- A JSON value up to the order of fields. -/
inductive Value
  | null
  | bool (value : Bool)
  | number (value : Rat)
  | string (text : String)
  | array (items : List Value)
  | object (fields : String → Option Value)

/-- The value of a JSON text. -/
def Json.value : Json → Value
  | .null => .null
  | .bool value => .bool value
  | .number value => .number value
  | .string text => .string text
  | .array items => .array (items.attach.map fun item => item.1.value)
  | .object fields =>
    .object fun key => (fields.attach.map fun field => (field.1.1, field.1.2.value)).lookup key
  decreasing_by
    · have inside := List.sizeOf_lt_of_mem item.2
      simp only [array.sizeOf_spec]
      omega
    · have inside := List.sizeOf_lt_of_mem field.2
      have parts : sizeOf field.1 = 1 + sizeOf field.1.1 + sizeOf field.1.2 := rfl
      simp only [object.sizeOf_spec]
      omega

theorem lookup_map_value
    (fields : Object)
    (key : String) :
    (fields.map fun field => (field.1, field.2.value)).lookup key =
      (fields.get key).map Json.value := by
  induction fields with
  | nil => rfl
  | cons field rest ih =>
    obtain ⟨name, value⟩ := field
    simp only [List.map_cons, Object.get, List.lookup_cons]
    cases key == name with
    | true => rfl
    | false => exact ih

@[simp] theorem value_array (items : List Json) :
    (Json.array items).value = .array (items.map Json.value) := by
  rw [Json.value, List.attach_map_val]

@[simp] theorem value_object (fields : Object) :
    (Json.object fields).value = .object fun key =>
      (fields.get key).map Json.value := by
  rw [Json.value]
  congr 1
  funext key
  rw [← lookup_map_value]
  exact congrArg (List.lookup key) (@List.attach_map_val _ _ fields
    fun field => (field.1, field.2.value))

/-- The value of an object. -/
def Object.value (object : Object) : Value := (Json.object object).value

theorem Object.value_eq_iff {first second : Object} :
    first.value = second.value ↔ ∀ key,
      (first.get key).map Json.value = (second.get key).map Json.value := by
  rw [Object.value, Object.value, value_object, value_object, Value.object.injEq, funext_iff]

theorem value_objects (items : List Object) :
    (Json.objects items).value = .array (items.map Object.value) := by
  rw [Json.objects, value_array, List.map_map]
  rfl

variable {first second : Json} {items : List Object}

theorem asString_of_value (same : first.value = second.value) :
    first.asString = second.asString := by
  cases first <;> cases second <;> simp_all [Json.value, Json.asString]

theorem asObjects_eq_some {document : Json} :
    document.asObjects = some items ↔ document = .objects items := by
  constructor
  · intro reads
    cases document with
    | array list =>
      simp only [Json.asObjects] at reads
      rw [Json.objects]
      congr 1
      induction list generalizing items with
      | nil =>
        cases reads
        rfl
      | cons first rest ih =>
        cases first with
        | object fields =>
          simp only [List.mapM_cons, Json.asObject, bind,
            Option.bind_some, pure, Option.bind_eq_some_iff,
            Option.some.injEq] at reads
          obtain ⟨others, remaining, rfl⟩ := reads
          rw [ih remaining, List.map_cons]
        | _ => cases reads
    | _ => cases reads
  · rintro rfl
    exact Json.asObjects_objects items

theorem objects_of_values
    {list : List Json}
    (same : list.map Json.value = items.map Object.value) :
    ∃ others : List Object, list = others.map Json.object ∧
      others.map Object.value = items.map Object.value := by
  induction list generalizing items with
  | nil => exact ⟨[], rfl, same⟩
  | cons first rest ih =>
    cases items with
    | nil => cases same
    | cons item items =>
      rw [List.map_cons, List.map_cons] at same
      obtain ⟨head, tail⟩ := List.cons.inj same
      obtain ⟨others, rfl, equal⟩ := ih tail
      cases first with
      | object fields =>
        refine ⟨fields :: others, rfl, ?_⟩
        rw [List.map_cons, List.map_cons, equal]
        exact congrArg (· :: _) head
      | _ =>
        rw [Object.value, value_object] at head
        simp [Json.value] at head

theorem asObjects_of_value
    (same : first.value = second.value)
    (reads : first.asObjects = some items) :
    ∃ others, second.asObjects = some others ∧
      others.map Object.value = items.map Object.value := by
  rw [asObjects_eq_some.mp reads, value_objects] at same
  cases second with
  | array list =>
    rw [value_array, Value.array.injEq] at same
    obtain ⟨others, rfl, equal⟩ := objects_of_values same.symm
    exact ⟨others, Json.asObjects_objects others, equal⟩
  | _ => simp [Json.value] at same

end Turnrail
