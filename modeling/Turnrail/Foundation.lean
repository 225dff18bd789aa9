import Turnrail.Text.Characters
import Mathlib.Algebra.Group.Int.Defs
import Mathlib.Data.Rat.Defs

/-!
# JSON values and the platform below the router

The router handles parsed JSON as dictionaries whose values have any JSON
type.  This module models those dictionaries, the conversions that read a value
at an expected type, and the part of the platform the router calls but does not
implement: parsing, canonical serialization, SHA-256, HTTP dates and the
characters of a text.
-/

namespace Turnrail

/-- Bytes. -/
abbrev Data := List UInt8

/-- The bytes of a text. -/
def utf8 (text : String) : Data := text.toUTF8.toList

theorem toList_loop_eq
    (bytes : ByteArray)
    (index : Nat)
    (read : List UInt8) :
    ByteArray.toList.loop bytes index read =
      read.reverse ++ bytes.data.toList.drop index := by
  induction index, read using ByteArray.toList.loop.induct bytes with
  | case1 index read inside ih =>
    have bound : index < bytes.data.toList.length := by simpa using inside
    have same : bytes.get! index = bytes.data.toList[index] := by
      simp [ByteArray.get!, getElem!_pos, inside]
    rw [ByteArray.toList.loop, if_pos inside, ih, List.drop_eq_getElem_cons bound, same]
    simp
  | case2 index read outside =>
    rw [ByteArray.toList.loop, if_neg outside, List.drop_eq_nil_of_le]
    · simp
    · simpa using outside

/-- The bytes of a text determine it. -/
theorem utf8_injective
    {first second : String}
    (same : utf8 first = utf8 second) :
    first = second := by
  simp only [utf8, ByteArray.toList, toList_loop_eq, List.reverse_nil,
    List.nil_append, List.drop_zero] at same
  exact String.toByteArray_inj.mp (ByteArray.ext (Array.toList_inj.mp same))

/-- Bytes are the bytes of a text. -/
def isUTF8 (bytes : Data) : Bool :=
  (String.fromUTF8? ⟨bytes.toArray⟩).isSome

/-- A 128-bit identifier.  Its lowercase text determines it, so the model
stores the identifier where the source stores the text. -/
structure UUID where
  bits : BitVec 128
  deriving DecidableEq

/-- A JSON value. -/
inductive Json
  | null
  | bool (value : Bool)
  | number (value : Rat)
  | string (text : String)
  | array (items : List Json)
  | object (fields : List (String × Json))

/-- The fields of a JSON object in the order the dictionary enumerates them. -/
abbrev Object := List (String × Json)

namespace Json

/-- A value that is a JSON text. -/
def asString : Json → Option String
  | .string text => some text
  | _ => none

/-- The fields of an object. -/
def asObject : Json → Option Object
  | .object fields => some fields
  | _ => none

/-- A value that bridges to a Boolean.  The numbers zero and one bridge too. -/
def asBool : Json → Option Bool
  | .bool value => some value
  | .number value => if value = 0 then some false else if value = 1 then some true else none
  | _ => none

/-- A value that bridges to a 64-bit integer.  A Boolean bridges too. -/
def asInt : Json → Option Int
  | .bool value => some (if value then 1 else 0)
  | .number value =>
    if value.den = 1 ∧ -2 ^ 63 ≤ value.num ∧ value.num < 2 ^ 63 then
      some value.num
    else none
  | _ => none

/-- A value that is an array of objects. -/
def asObjects : Json → Option (List Object)
  | .array items => items.mapM asObject
  | _ => none

end Json

namespace Object

/-- The value of a field. -/
def get (object : Object) (key : String) : Option Json :=
  object.lookup key

/-- Remove a field. -/
def removeValue (object : Object) (key : String) : Object :=
  object.filter fun field => field.1 ≠ key

/-- Set a field. -/
def set (object : Object) (key : String) (value : Json) : Object :=
  (key, value) :: object.removeValue key

theorem get_cons
    (name : String)
    (value : Json)
    (rest : Object)
    (key : String) :
    get ((name, value) :: rest) key =
      if key = name then some value else get rest key := by
  simp only [get, List.lookup_cons]
  by_cases same : key = name
  · simp [same]
  · have different : (key == name) = false := by simpa using same
    simp [same, different]

theorem removeValue_cons
    (name : String)
    (value : Json)
    (rest : Object)
    (key : String) :
    removeValue ((name, value) :: rest) key =
      if name = key then removeValue rest key
      else (name, value) :: removeValue rest key := by
  by_cases same : name = key <;> simp [removeValue, same]

@[simp] theorem get_removeValue_self
    (object : Object)
    (key : String) :
    (object.removeValue key).get key = none := by
  induction object with
  | nil => rfl
  | cons field rest ih =>
    rw [removeValue_cons]
    split
    · exact ih
    · rename_i different
      rw [get_cons, if_neg (Ne.symm different)]
      exact ih

variable {key other : String}

theorem get_removeValue_of_ne
    (object : Object)
    (different : other ≠ key) :
    (object.removeValue key).get other = object.get other := by
  induction object with
  | nil => rfl
  | cons field rest ih =>
    rw [removeValue_cons, get_cons]
    split
    · rename_i removed
      rw [ih, if_neg (removed ▸ different)]
    · rw [get_cons, ih]

@[simp] theorem get_set_self
    (object : Object)
    (key : String)
    (value : Json) :
    (object.set key value).get key = some value := by
  rw [set, get_cons, if_pos rfl]

theorem get_set_of_ne
    (object : Object)
    (value : Json)
    (different : other ≠ key) :
    (object.set key value).get other = object.get other := by
  rw [set, get_cons, if_neg different, get_removeValue_of_ne object different]

end Object

/-- An error the router raises itself, with the text it shows. -/
structure RouterFailure where
  message : String
  deriving DecidableEq

/-- Services of the platform that the router uses without implementing them. -/
structure Foundation where
  jsonObject : Data → Option Json
  jsonData : Json → Data
  sha256 : Data → Vector UInt8 32
  parseDate : String → Option Rat
  formatDate : Rat → String
  segmentation : Text.Segmentation

/-- A platform that reads no document. -/
def Foundation.mute : Foundation where
  jsonObject _ := none
  jsonData _ := []
  sha256 _ := .replicate 32 0
  parseDate _ := none
  formatDate _ := ""
  segmentation := Text.diacritics

/-- How the platform compares and rewrites texts. -/
structure Texts where
  segmentation : Text.Segmentation
  canonical : String → String
  trimmed : String → String
  lowercased : String → String
  caseInsensitive : String → String → Bool
  standardized : String → String

/-- Two texts are canonically equivalent. -/
def Texts.same (texts : Texts) (first second : String) : Bool :=
  texts.canonical first == texts.canonical second

@[simp] theorem Texts.same_self
    (texts : Texts)
    (text : String) :
    texts.same text text = true :=
  beq_self_eq_true _

theorem Texts.same_comm
    (texts : Texts)
    (first second : String) :
    texts.same first second = texts.same second first :=
  Bool.beq_comm

/-- Texts that are only equal if all their scalars are. -/
def Texts.plain : Texts where
  segmentation := Text.diacritics
  canonical := id
  trimmed := id
  lowercased := id
  caseInsensitive first second := first == second
  standardized := id

variable {outcome : Except ε α}

theorem bind_eq_ok
    {rest : α → Except ε β}
    {value : β} :
    outcome >>= rest = .ok value ↔
      ∃ middle, outcome = .ok middle ∧ rest middle = .ok value := by
  cases outcome with
  | error error =>
    constructor
    · rintro ⟨⟩
    · rintro ⟨_, ⟨⟩, _⟩
  | ok middle =>
    constructor
    · intro passes
      exact ⟨middle, rfl, passes⟩
    · rintro ⟨_, ⟨⟩, passes⟩
      exact passes

theorem mapError_eq_ok
    {change : ε → δ}
    {value : α} :
    outcome.mapError change = .ok value ↔ outcome = .ok value := by
  cases outcome <;> simp [Except.mapError]

namespace RouterJSON

/-- A text that is not empty. -/
def text (object : Object) (key : String) : Except RouterFailure String :=
  match (object.get key).bind Json.asString with
  | some value =>
    if value.isEmpty then .error ⟨"Missing or invalid " ++ key ++ "."⟩
    else .ok value
  | none => .error ⟨"Missing or invalid " ++ key ++ "."⟩

variable {key : String} {object : Object}

theorem text_eq_ok {value : String} :
    text object key = .ok value ↔
      (object.get key).bind Json.asString = some value ∧
      value.isEmpty = false := by
  unfold text
  cases (object.get key).bind Json.asString with
  | none => simp
  | some found =>
    by_cases empty : found.isEmpty
    · simp only [empty, if_true, reduceCtorEq, Option.some.injEq, false_iff]
      rintro ⟨rfl, filled⟩
      simp [empty] at filled
    · simp only [empty, Bool.false_eq_true, if_false, Except.ok.injEq, Option.some.injEq]
      constructor
      · rintro rfl
        exact ⟨rfl, by simpa using empty⟩
      · exact And.left

/-- An object in an object. -/
def map (object : Object) (key : String) : Except RouterFailure Object :=
  match (object.get key).bind Json.asObject with
  | some value => .ok value
  | none => .error ⟨"Missing or invalid " ++ key ++ "."⟩

/-- A list of objects in an object. -/
def array (object : Object) (key : String) :
    Except RouterFailure (List Object) :=
  match (object.get key).bind Json.asObjects with
  | some value => .ok value
  | none => .error ⟨"Missing or invalid " ++ key ++ "."⟩

theorem array_eq_ok {items : List Object} :
    array object key = .ok items ↔
      (object.get key).bind Json.asObjects = some items := by
  unfold array
  cases (object.get key).bind Json.asObjects <;> simp

/-- The bytes of an object. -/
def data (host : Foundation) (object : Object) : Data :=
  host.jsonData (.object object)

/-- The two digits of a byte. -/
def hexadecimal (byte : UInt8) : List Char :=
  [Nat.digitChar (byte.toNat / 16), Nat.digitChar (byte.toNat % 16)]

/-- The hash of bytes. -/
def hash (host : Foundation) (bytes : Data) : String :=
  String.ofList ((host.sha256 bytes).toList.flatMap hexadecimal)

end RouterJSON

/-- A list of objects. -/
def Json.objects (items : List Object) : Json :=
  .array (items.map .object)

@[simp] theorem Json.asObjects_objects (items : List Object) :
    (Json.objects items).asObjects = some items := by
  simp only [Json.objects, Json.asObjects]
  induction items with
  | nil => rfl
  | cons item rest ih =>
    simp only [List.map_cons, List.mapM_cons, Json.asObject, ih]
    rfl

end Turnrail
