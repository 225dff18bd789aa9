import Turnrail.Foundation

/-!
# Configuration values of the Engine

The Engine keeps its configuration in nested tables and changes it at paths of
keys.  A change at one path leaves the value at another path as it was, unless
one of the paths leads to the other.
-/

namespace Turnrail

/-- A TOML value. -/
inductive Toml
  | string (text : String)
  | number (value : Rat)
  | boolean (value : Bool)
  | datetime (text : String)
  | array (items : List Toml)
  | table (fields : List (String × Toml))

namespace Toml

/-- The entries of a table. -/
abbrev Table := List (String × Toml)

/-- The entries of a value, none if it is no table. -/
def fields : Toml → Table
  | .table fields => fields
  | _ => []

/-- A value is a table. -/
def isTable : Toml → Bool
  | .table _ => true
  | _ => false

/-- Put an entry into a table. -/
def insert (key : String) (value : Toml) : Table → Table
  | [] => [(key, value)]
  | (name, old) :: rest =>
    if name = key then (key, value) :: rest else (name, old) :: insert key value rest

/-- The value at a path of keys. -/
def valueAt : List String → Toml → Option Toml
  | [], value => some value
  | key :: rest, value => (value.fields.lookup key).bind (valueAt rest)

theorem lookup_cons
    (name key : String)
    (value : Toml)
    (rest : Table) :
    ((name, value) :: rest).lookup key = if key = name
      then some value else rest.lookup key := by
  rw [List.lookup_cons]
  split <;> simp_all

theorem mem_of_lookup
    {key : String}
    {value : Toml}
    {fields : Table}
    (found : fields.lookup key = some value) :
    (key, value) ∈ fields := by
  obtain ⟨before, after, rfl, -⟩ := List.lookup_eq_some_iff.mp found
  simp

@[simp] theorem lookup_insert
    (key other : String)
    (value : Toml)
    (fields : Table) :
    (insert key value fields).lookup other =
      if other = key then some value else fields.lookup other := by
  induction fields with
  | nil => rw [insert, lookup_cons]
  | cons field rest ih =>
    rw [insert, lookup_cons]
    split
    · rename_i same
      rw [lookup_cons, same]
      split <;> rfl
    · rw [lookup_cons, ih]
      split <;> split <;> simp_all

theorem valueAt_append
    (first second : List String)
    (value : Toml) :
    valueAt (first ++ second) value =
      (valueAt first value).bind (valueAt second) := by
  induction first generalizing value with
  | nil => rfl
  | cons key rest ih => simp [valueAt, Option.bind_assoc, funext ih]

/-- One of two paths leads to the other. -/
def Meets (first second : List String) : Prop := first <+: second ∨ second <+: first

theorem meets_cons
    {key other : String}
    {first second : List String} :
    Meets (key :: first) (other :: second) ↔
      key = other ∧ Meets first second := by
  simp only [Meets, List.cons_prefix_cons, ← and_or_left, eq_comm]

/-- A feature that is switched by a Boolean or described by a table. -/
def isStructuredFeaturePath : List String → Bool
  | [profiles, _, features, feature] => profiles == "profiles" && features == "features" &&
      ["multi_agent_v2", "network_proxy", "sleep_tool"].contains feature
  | [features, feature] => features == "features" &&
      ["multi_agent_v2", "network_proxy", "sleep_tool"].contains feature
  | _ => false

section Put

variable (enter : List String → Toml → Toml) (store : List String → Option Toml → Toml → Toml)
  (value : Toml)

/-- Put a value at a path below another one.  Tables are made on the way, and
what is there may be changed when it is entered. -/
def put : List String → List String → Toml → Toml
  | _, [], root => root
  | path, [last], root => .table
      (insert last (store (path ++ [last]) (root.fields.lookup last) value) root.fields)
  | path, key :: next :: rest, root => .table (insert key (put (path ++ [key]) (next :: rest)
      (enter (path ++ [key]) ((root.fields.lookup key).getD (.table [])))) root.fields)

variable {enter store value} {path target other : List String} {root : Toml}

theorem valueAt_put (filled : target ≠ []) :
    ∃ old, valueAt target (put enter store value path target root) =
      some (store (path ++ target) old value) := by
  fun_induction put enter store value path target root with
  | case1 => exact absurd rfl filled
  | case2 path last root => exact ⟨root.fields.lookup last, by simp [valueAt, fields]⟩
  | case3 path key next rest root ih =>
    obtain ⟨old, same⟩ := ih (by simp)
    refine ⟨old, ?_⟩
    rw [valueAt, fields, lookup_insert, if_pos rfl, Option.bind_some, same, List.append_assoc]
    rfl

theorem valueAt_put_of_apart
    (apart : ¬Meets target other)
    (plain : ∀ front, front <+: other →
      ∀ current, enter (path ++ front) current = current) :
    valueAt other (put enter store value path target root) =
      valueAt other root := by
  fun_induction put enter store value path target root generalizing other with
  | case1 => exact absurd (.inl List.nil_prefix) apart
  | case2 path last root =>
    cases other with
    | nil => exact absurd (.inr List.nil_prefix) apart
    | cons first others =>
      rw [meets_cons, not_and] at apart
      have different : first ≠ last := fun same => apart same.symm (.inl List.nil_prefix)
      simp [valueAt, fields, different]
  | case3 path key next rest root ih =>
    cases other with
    | nil => exact absurd (.inr List.nil_prefix) apart
    | cons first others =>
      rw [meets_cons, not_and] at apart
      rw [valueAt, fields, lookup_insert]
      split
      · rename_i same
        subst same
        rw [Option.bind_some, ih (apart rfl) fun front leads current => by
            rw [List.append_assoc]
            exact plain _ (by simpa using leads) current,
          plain [first] (by simp), valueAt]
        cases root.fields.lookup first with
        | none =>
          cases others with
          | nil => exact absurd (.inr List.nil_prefix) (apart rfl)
          | cons => rfl
        | some value => rfl
      · rfl

end Put

/-- The merge of two values follows rules of its own at a path. -/
def hasOwnRules : List String → Bool
  | ["memories"] | ["agents"] | ["shell_environment_policy"]
  | ["permissions", _, "network", "domains"] | ["application", "network", "domains"] => true
  | path => isStructuredFeaturePath path

/-- The rules at the paths that have their own. -/
structure Rules where
  merge : List String → Toml → Toml → Toml
  normalize : List String → Toml → Toml

/-- Rules that take the overlay as it is. -/
def Rules.plain : Rules := ⟨fun _ _ overlay => overlay, fun _ value => value⟩

section Merge

variable (rules : Rules)

mutual

/-- A value with the current names of its keys. -/
def normalizedWithKeyAliases (path : List String) : Toml → Toml
  | .table fields =>
    if hasOwnRules path then rules.normalize path (.table fields)
    else .table (normalizedFields path fields)
  | .array items => rules.normalize path (.array items)
  | value => value

/-- The entries of a table with their names normalized. -/
def normalizedFields (path : List String) : Table → Table
  | [] => []
  | (key, value) :: rest =>
    (key, normalizedWithKeyAliases (path ++ [key]) value) :: normalizedFields path rest

end

mutual

/-- Merge a value at a path. -/
def mergeAtPath (path : List String) (base : Toml) : Toml → Toml
  | .table overlay =>
    if hasOwnRules path then rules.merge path base (.table overlay)
    else
      match base with
      | .table fields => .table (mergeFields path fields overlay)
      | _ => normalizedWithKeyAliases rules path (.table overlay)
  | overlay =>
    if hasOwnRules path then rules.merge path base overlay
    else normalizedWithKeyAliases rules path overlay

/-- Merge the entries of a table one by one. -/
def mergeFields (path : List String) (fields : Table) : Table → Table
  | [] => fields
  | (key, value) :: rest =>
    mergeFields path (insert key
      (match fields.lookup key with
        | some old => mergeAtPath (path ++ [key]) old value
        | none => normalizedWithKeyAliases rules (path ++ [key]) value) fields) rest

end

/-- An overlay has nothing at a path and no value on the way to it that is no
table. -/
def Misses : List String → Toml → Prop
  | key :: rest, .table fields => ∀ value, (key, value) ∈ fields → Misses rest value
  | _, _ => False

/-- No path on the way has rules of its own. -/
def Plain (path target : List String) : Prop :=
  ∀ front, front <+: target → front ≠ target → hasOwnRules (path ++ front) = false

variable {rules} {path : List String} {key : String} {rest : List String}

theorem Plain.next (plain : Plain path (key :: rest)) :
    Plain (path ++ [key]) rest := by
  intro front leads different
  simpa using plain (key :: front) (by simpa using leads) (by simpa using different)

theorem Plain.here (plain : Plain path (key :: rest)) :
    hasOwnRules path = false := by
  simpa using plain [] List.nil_prefix (by simp)

theorem lookup_normalizedFields (fields : Table) :
    (normalizedFields rules path fields).lookup key = (fields.lookup key).map
        (normalizedWithKeyAliases rules (path ++ [key])) := by
  induction fields with
  | nil => rfl
  | cons field rest ih =>
    rw [normalizedFields, lookup_cons, lookup_cons, ih]
    split <;> simp_all

theorem Misses.valueAt_normalized
    {target : List String}
    {overlay : Toml}
    (misses : Misses target overlay)
    (plain : Plain path target) :
    valueAt target (normalizedWithKeyAliases rules path overlay) = none := by
  induction target generalizing path overlay with
  | nil => exact misses.elim
  | cons key rest ih =>
    cases overlay with
    | table fields =>
      rw [normalizedWithKeyAliases, if_neg (by simp [plain.here]), valueAt, Toml.fields,
        lookup_normalizedFields]
      cases found : fields.lookup key with
      | none => rfl
      | some value => exact ih (misses value (mem_of_lookup found)) plain.next
    | _ => exact misses.elim

theorem valueAt_mergeFields
    {overlay : Table}
    (plain : Plain path (key :: rest))
    (misses : ∀ value, (key, value) ∈ overlay → Misses rest value)
    (keeps : ∀ base value, Misses rest value →
      valueAt rest (mergeAtPath rules (path ++ [key]) base value) =
        valueAt rest base)
    (fields : Table) :
    ((mergeFields rules path fields overlay).lookup key).bind (valueAt rest) =
      (fields.lookup key).bind (valueAt rest) := by
  induction overlay generalizing fields with
  | nil => rw [mergeFields]
  | cons entry others ih =>
    obtain ⟨name, value⟩ := entry
    rw [mergeFields, ih fun value member => misses value (.tail _ member), lookup_insert]
    split
    · rename_i same
      subst same
      have missed := misses value List.mem_cons_self
      cases fields.lookup key with
      | none => exact missed.valueAt_normalized plain.next
      | some old => exact keeps old value missed
    · rfl

theorem Misses.valueAt_merge
    {target : List String}
    {base overlay : Toml}
    (misses : Misses target overlay)
    (plain : Plain path target) :
    valueAt target (mergeAtPath rules path base overlay) =
      valueAt target base := by
  induction target generalizing path base overlay with
  | nil => exact misses.elim
  | cons key rest ih =>
    cases overlay with
    | table overlay =>
      cases base with
      | table fields =>
        rw [mergeAtPath, if_neg (by simp [plain.here])]
        exact valueAt_mergeFields plain misses (fun _ _ missed => ih missed plain.next) fields
      | _ =>
        simp only [mergeAtPath, plain.here, Bool.false_eq_true, if_false]
        exact Misses.valueAt_normalized misses plain
    | _ => exact misses.elim

end Merge

end Toml

end Turnrail
