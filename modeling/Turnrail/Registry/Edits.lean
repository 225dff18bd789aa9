import Turnrail.Registry.Routing
import Mathlib.Data.List.Forall2
import Mathlib.Data.List.Nodup

/-!
# Edits of a routing configuration

An edit reads the accounts of a scope, changes the list and writes it back.
Reading and writing a scope obey the laws of a lens, so what an edit does to a
configuration follows from what it does to a list.
-/

namespace Turnrail

open List

/-- What an edit is about. -/
inductive AccountRoutingScope
  | defaultRule
  | directory (id : UUID)
deriving DecidableEq

/-- Exchange two elements. -/
def swapAt (items : List α) (first second : Nat) : List α :=
  match items[first]?, items[second]? with
  | some left, some right => (items.set first right).set second left
  | _, _ => items

namespace AccountRoutingConfiguration

/-- The accounts of a scope. -/
def accountIDs (scope : AccountRoutingScope) (routing : AccountRoutingConfiguration) :
    Except AccountError (List UUID) :=
  match scope with
  | .defaultRule => .ok routing.defaultAccountIDs
  | .directory id =>
    match routing.directoryRules.find? (·.id == id) with
    | none => .error (.routing (.unknownRule id))
    | some rule => .ok rule.accountIDs

/-- Put accounts into a rule. -/
def assign (id : UUID) (ids : List UUID) (rules : List DirectoryAccountRule) :
    Option (List DirectoryAccountRule) :=
  (rules.findIdx? (·.id == id)).map fun index =>
    rules.modify index fun rule => { rule with accountIDs := ids }

/-- Put accounts into a scope. -/
def replacingAccountIDs (ids : List UUID) (scope : AccountRoutingScope)
    (routing : AccountRoutingConfiguration) :
    Except AccountError AccountRoutingConfiguration :=
  match scope with
  | .defaultRule => .ok { routing with defaultAccountIDs := ids }
  | .directory id =>
    match assign id ids routing.directoryRules with
    | none => .error (.routing (.unknownRule id))
    | some rules => .ok { routing with directoryRules := rules }

/-- Change the accounts of a scope. -/
def editing (scope : AccountRoutingScope)
    (change : List UUID → Except AccountError (List UUID))
    (routing : AccountRoutingConfiguration) :
    Except AccountError AccountRoutingConfiguration := do
  let ids ← routing.accountIDs scope
  let changed ← change ids
  routing.replacingAccountIDs changed scope

/-- Add or remove an account. -/
def allowing (allowed : Bool) (accountID : UUID) (ids : List UUID) : List UUID :=
  if allowed then
    if ids.contains accountID then ids else ids ++ [accountID]
  else ids.filter (· ≠ accountID)

/-- Allow an account in a scope or not. -/
def settingAllowed (allowed : Bool) (accountID : UUID)
    (scope : AccountRoutingScope) :
    AccountRoutingConfiguration → Except AccountError AccountRoutingConfiguration :=
  editing scope fun ids => .ok (allowing allowed accountID ids)

/-- Put an account first. -/
def prioritized (accountID : UUID) (ids : List UUID) :
    Except AccountError (List UUID) :=
  if ids.contains accountID then .ok (accountID :: ids.filter (· ≠ accountID))
  else .error (.routing (.accountNotAllowed accountID))

/-- Put an account first in a scope. -/
def prioritizing (accountID : UUID) (scope : AccountRoutingScope) :
    AccountRoutingConfiguration → Except AccountError AccountRoutingConfiguration :=
  editing scope (prioritized accountID)

/-- Move an account by one place. -/
def moved (accountID : UUID) (direction : AccountMoveDirection) (ids : List UUID) :
    Except AccountError (List UUID) :=
  match ids.findIdx? (· == accountID) with
  | none => .error (.routing (.accountNotAllowed accountID))
  | some source =>
    let destination : Int := if direction = .up then source - 1 else source + 1
    if 0 ≤ destination ∧ destination < ids.length then
      .ok (swapAt ids source destination.toNat)
    else .error (.registry (.cannotMoveAccount accountID direction))

/-- Move an account in a scope. -/
def moving (accountID : UUID) (direction : AccountMoveDirection)
    (scope : AccountRoutingScope) :
    AccountRoutingConfiguration → Except AccountError AccountRoutingConfiguration :=
  editing scope (moved accountID direction)

/-- Remove a rule. -/
def removingDirectory (id : UUID) (routing : AccountRoutingConfiguration) :
    Except AccountError AccountRoutingConfiguration :=
  if routing.directoryRules.any (·.id == id) then
    .ok { routing with
      directoryRules := routing.directoryRules.filter (·.id ≠ id) }
  else .error (.routing (.unknownRule id))

section Lists

variable {first second : α} {front back items others : List α}
variable {relation : α → α → Prop}

/-- Each element has a partner. -/
theorem exists_of_forall₂
    (related : Forall₂ relation items others)
    (member : second ∈ others) :
    ∃ first ∈ items, relation first second := by
  induction related with
  | nil => cases member
  | cons head _ ih =>
    rcases mem_cons.mp member with rfl | later
    · exact ⟨_, mem_cons_self, head⟩
    · obtain ⟨first, inside, holds⟩ := ih later
      exact ⟨first, mem_cons_of_mem _ inside, holds⟩

theorem map_eq_of_forall₂
    {field : α → β}
    (related : Forall₂ relation items others)
    (same : ∀ first second, relation first second →
      field second = field first) :
    others.map field = items.map field := by
  induction related with
  | nil => rfl
  | cons head _ ih => rw [map_cons, map_cons, same _ _ head, ih]

/-- Neighbours change their places. -/
theorem swapAt_next :
    swapAt (front ++ first :: second :: back) front.length (front.length + 1) =
      front ++ second :: first :: back := by
  simp [swapAt]

theorem swapAt_previous :
    swapAt (front ++ first :: second :: back) (front.length + 1) front.length =
      front ++ second :: first :: back := by
  simp [swapAt]

end Lists

section Lens

variable {routing edited : AccountRoutingConfiguration}
variable {scope : AccountRoutingScope} {ids ids' : List UUID} {id : UUID}
variable {rules assigned : List DirectoryAccountRule} {rule : DirectoryAccountRule}

theorem assign_cons :
    assign id ids (rule :: rules) =
      if rule.id = id then some ({ rule with accountIDs := ids } :: rules)
      else (assign id ids rules).map (rule :: ·) := by
  unfold assign
  rw [findIdx?_cons]
  by_cases same : rule.id = id
  · simp [same]
  · simp [same, Function.comp_def]

theorem find?_id_cons :
    (rule :: rules).find? (·.id == id) =
      if rule.id = id then some rule else rules.find? (·.id == id) := by
  rw [find?_cons]
  by_cases same : rule.id = id
  · rw [beq_iff_eq.mpr same, if_pos same]
  · rw [beq_eq_false_iff_ne.mpr same, if_neg same]

theorem assign_cons_eq_some (written : assign id ids (rule :: rules) = some assigned) :
    (rule.id = id ∧ assigned = { rule with accountIDs := ids } :: rules) ∨
      rule.id ≠ id ∧ ∃ later, assign id ids rules = some later ∧ assigned = rule :: later := by
  rw [assign_cons] at written
  split at written
  · rename_i same
    cases written
    exact .inl ⟨same, rfl⟩
  · rename_i different
    obtain ⟨later, onward, same⟩ := Option.map_eq_some_iff.mp written
    exact .inr ⟨different, later, onward, same.symm⟩

/-- A rule that can be read can be written, and conversely. -/
theorem assign_eq_none_iff :
    assign id ids rules = none ↔ rules.find? (·.id == id) = none := by
  simp [assign]

theorem find?_of_assign (written : assign id ids rules = some assigned) :
    ∃ rule, assigned.find? (·.id == id) = some rule ∧
      rule.accountIDs = ids := by
  induction rules generalizing assigned with
  | nil => cases written
  | cons first rest ih =>
    obtain ⟨same, rfl⟩ | ⟨different, later, onward, rfl⟩ := assign_cons_eq_some written
    · rw [find?_id_cons, if_pos same]
      exact ⟨_, rfl, rfl⟩
    · rw [find?_id_cons, if_neg different]
      exact ih onward

/-- The last write counts. -/
theorem assign_assign (written : assign id ids rules = some assigned) :
    assign id ids' assigned = assign id ids' rules := by
  induction rules generalizing assigned with
  | nil => cases written
  | cons first rest ih =>
    obtain ⟨same, rfl⟩ | ⟨different, later, onward, rfl⟩ := assign_cons_eq_some written
    · rw [assign_cons, assign_cons, if_pos same, if_pos same]
    · rw [assign_cons, assign_cons, if_neg different, if_neg different, ih onward]

/-- Writing what was read changes nothing. -/
theorem assign_self (found : rules.find? (·.id == id) = some rule) :
    assign id rule.accountIDs rules = some rules := by
  induction rules with
  | nil => cases found
  | cons first rest ih =>
    rw [find?_id_cons] at found
    rw [assign_cons]
    split
    · rename_i same
      rw [if_pos same] at found
      cases found
      rfl
    · rename_i different
      rw [if_neg different] at found
      rw [ih found]
      rfl

theorem forall₂_of_assign (written : assign id ids rules = some assigned) :
    Forall₂ (fun rule rule' => rule'.id = rule.id ∧
        rule'.directory = rule.directory ∧ (rule'.accountIDs = rule.accountIDs ∨
          rule.id = id ∧ rule'.accountIDs = ids)) rules assigned := by
  induction rules generalizing assigned with
  | nil => cases written
  | cons first rest ih =>
    obtain ⟨same, rfl⟩ | ⟨-, later, onward, rfl⟩ := assign_cons_eq_some written
    · refine .cons ⟨rfl, rfl, .inr ⟨same, rfl⟩⟩ ?_
      exact forall₂_same.mpr fun rule _ => ⟨rfl, rfl, .inl rfl⟩
    · exact .cons ⟨rfl, rfl, .inl rfl⟩ (ih onward)

theorem accountIDs_replacingAccountIDs
    (written : routing.replacingAccountIDs ids scope = .ok edited) :
    edited.accountIDs scope = .ok ids := by
  cases scope with
  | defaultRule =>
    cases written
    rfl
  | directory id =>
    unfold replacingAccountIDs at written
    dsimp only at written
    split at written
    · cases written
    · rename_i rules assigned
      cases written
      obtain ⟨rule, found, held⟩ := find?_of_assign assigned
      simp only [accountIDs, found, held]

/-- The last write counts. -/
theorem replacingAccountIDs_again
    (written : routing.replacingAccountIDs ids scope = .ok edited) :
    edited.replacingAccountIDs ids' scope =
      routing.replacingAccountIDs ids' scope := by
  cases scope with
  | defaultRule =>
    cases written
    rfl
  | directory id =>
    unfold replacingAccountIDs at written
    dsimp only at written
    split at written
    · cases written
    · rename_i rules assigned
      cases written
      simp only [replacingAccountIDs, assign_assign assigned]

theorem replacingAccountIDs_self (read : routing.accountIDs scope = .ok ids) :
    routing.replacingAccountIDs ids scope = .ok routing := by
  cases scope with
  | defaultRule =>
    cases read
    rfl
  | directory id =>
    unfold accountIDs at read
    dsimp only at read
    split at read
    · cases read
    · rename_i rule found
      cases read
      simp only [replacingAccountIDs, assign_self found]

theorem exists_replacingAccountIDs
    (read : routing.accountIDs scope = .ok ids)
    (ids' : List UUID) :
    ∃ edited, routing.replacingAccountIDs ids' scope = .ok edited := by
  cases scope with
  | defaultRule => exact ⟨_, rfl⟩
  | directory id =>
    cases assigned : assign id ids' routing.directoryRules with
    | none =>
      have absent := assign_eq_none_iff.mp assigned
      rw [accountIDs, absent] at read
      cases read
    | some rules =>
      refine ⟨{ routing with directoryRules := rules }, ?_⟩
      simp only [replacingAccountIDs, assigned]

theorem editing_undo
    {change undo : List UUID → Except AccountError (List UUID)}
    (undoes : ∀ ids changed, routing.accountIDs scope = .ok ids →
      change ids = .ok changed → undo changed = .ok ids)
    (edits : editing scope change routing = .ok edited) :
    editing scope undo edited = .ok routing := by
  obtain ⟨ids, read, edits⟩ := bind_eq_ok.mp edits
  obtain ⟨changed, changes, written⟩ := bind_eq_ok.mp edits
  refine bind_eq_ok.mpr ⟨changed, accountIDs_replacingAccountIDs written, ?_⟩
  refine bind_eq_ok.mpr ⟨ids, undoes ids changed read changes, ?_⟩
  rw [replacingAccountIDs_again written]
  exact replacingAccountIDs_self read

end Lens

section Changes

variable {accountID : UUID} {ids changed : List UUID}

variable {front back : List UUID}

theorem findIdx?_split (fresh : accountID ∉ front) :
    (front ++ accountID :: back).findIdx? (· == accountID) =
      some front.length := by
  induction front with
  | nil => simp [findIdx?_cons]
  | cons first rest ih =>
    obtain ⟨different, later⟩ := not_or.mp (mt mem_cons.mpr fresh)
    rw [cons_append, findIdx?_cons, ih later]
    simp [Ne.symm different]

theorem moved_down
    {next : UUID}
    (fresh : accountID ∉ front) :
    moved accountID .down (front ++ accountID :: next :: back) =
      .ok (front ++ next :: accountID :: back) := by
  have inside : (0 : Int) ≤ front.length + 1 ∧ (front.length + 1 : Int) <
      (front ++ accountID :: next :: back).length := by
    simp only [length_append, length_cons]
    omega
  rw [moved, findIdx?_split fresh]
  simp only [reduceCtorEq, if_false, if_pos inside]
  exact congrArg Except.ok swapAt_next

theorem moved_up
    {previous : UUID}
    (fresh : accountID ∉ front ++ [previous]) :
    moved accountID .up (front ++ previous :: accountID :: back) =
      .ok (front ++ accountID :: previous :: back) := by
  have split : front ++ previous :: accountID :: back =
      (front ++ [previous]) ++ accountID :: back := by
    simp
  have inside : (0 : Int) ≤ (front ++ [previous]).length - 1 ∧
      ((front ++ [previous]).length - 1 : Int) <
        (front ++ previous :: accountID :: back).length := by
    simp only [length_append, length_cons, length_nil]
    omega
  have place : ((front ++ [previous]).length - 1 : Int).toNat = front.length := by simp
  rw [moved, split, findIdx?_split fresh, ← split]
  simp only [if_true, if_pos inside, place]
  rw [length_append, length_singleton]
  exact congrArg Except.ok swapAt_previous

variable {direction : AccountMoveDirection}

theorem exists_split_of_moved
    (moves : moved accountID direction ids = .ok changed) :
    ∃ front back, ids = front ++ accountID :: back ∧ accountID ∉ front := by
  refine eq_append_cons_of_mem ?_
  by_contra absent
  have missing : ids.findIdx? (· == accountID) = none := by
    rw [findIdx?_eq_none_iff]
    intro id member
    rw [beq_eq_false_iff_ne]
    rintro rfl
    exact absent member
  rw [moved, missing] at moves
  cases moves

theorem moved_down_eq_ok (moves : moved accountID .down ids = .ok changed) :
    ∃ front next back, ids = front ++ accountID :: next :: back ∧
      accountID ∉ front ∧ changed = front ++ next :: accountID :: back := by
  obtain ⟨front, back, rfl, fresh⟩ := exists_split_of_moved moves
  cases back with
  | nil =>
    rw [moved, findIdx?_split fresh] at moves
    simp at moves
  | cons next back =>
    rw [moved_down fresh] at moves
    cases moves
    exact ⟨front, next, back, rfl, fresh, rfl⟩

theorem moved_up_eq_ok (moves : moved accountID .up ids = .ok changed) :
    ∃ front previous back, ids = front ++ previous :: accountID :: back ∧
      accountID ∉ front ++ [previous] ∧
      changed = front ++ accountID :: previous :: back := by
  obtain ⟨front, back, rfl, fresh⟩ := exists_split_of_moved moves
  rcases eq_nil_or_concat front with rfl | ⟨front, previous, rfl⟩
  · rw [moved, findIdx?_split fresh] at moves
    simp at moves
  · rw [concat_eq_append, append_assoc, singleton_append,
      moved_up (by simpa using fresh)] at moves
    cases moves
    exact ⟨front, previous, back, by simp, by simpa using fresh, rfl⟩

theorem moved_up_of_moved_down
    (once : ids.Nodup)
    (moves : moved accountID .down ids = .ok changed) :
    moved accountID .up changed = .ok ids := by
  obtain ⟨front, next, back, rfl, fresh, rfl⟩ := moved_down_eq_ok moves
  refine moved_up ?_
  simp only [mem_append, mem_singleton, not_or]
  refine ⟨fresh, ?_⟩
  rintro rfl
  simp [nodup_append] at once

theorem moved_down_of_moved_up (moves : moved accountID .up ids = .ok changed) :
    moved accountID .down changed = .ok ids := by
  obtain ⟨front, previous, back, rfl, fresh, rfl⟩ := moved_up_eq_ok moves
  exact moved_down fun member => fresh (mem_append_left _ member)

theorem perm_of_moved (moves : moved accountID direction ids = .ok changed) :
    changed.Perm ids := by
  cases direction with
  | up =>
    obtain ⟨front, previous, back, rfl, -, rfl⟩ := moved_up_eq_ok moves
    exact (Perm.swap _ _ _).append_left front
  | down =>
    obtain ⟨front, next, back, rfl, -, rfl⟩ := moved_down_eq_ok moves
    exact (Perm.swap _ _ _).append_left front

theorem filter_eq_erase (once : ids.Nodup) :
    ids.filter (· ≠ accountID) = ids.erase accountID := by
  rw [once.erase_eq_filter]
  refine filter_congr fun id _ => ?_
  rw [Bool.eq_iff_iff, decide_eq_true_eq, bne_iff_ne]

theorem of_prioritized
    (once : ids.Nodup)
    (moves : prioritized accountID ids = .ok changed) :
    changed.Perm ids ∧ changed = accountID :: ids.filter (· ≠ accountID) := by
  unfold prioritized at moves
  split at moves
  · rename_i member
    cases moves
    refine ⟨?_, rfl⟩
    rw [filter_eq_erase once]
    exact (perm_cons_erase (contains_iff_mem.mp member)).symm
  · cases moves

variable {allowed : Bool}

theorem mem_allowing :
    accountID ∈ allowing allowed accountID ids ↔ allowed = true := by
  unfold allowing
  cases allowed with
  | false => simp
  | true => by_cases member : accountID ∈ ids <;> simp [member]

theorem filter_allowing :
    (allowing allowed accountID ids).filter (· ≠ accountID) =
      ids.filter (· ≠ accountID) := by
  unfold allowing
  cases allowed with
  | false => simp
  | true => by_cases member : accountID ∈ ids <;> simp [member]

theorem allowing_last (once : (front ++ [accountID]).Nodup) :
    allowing true accountID (allowing false accountID (front ++ [accountID])) =
      front ++ [accountID] := by
  have fresh : accountID ∉ front := fun member =>
    (nodup_append.mp once).2.2 accountID member accountID (by simp) rfl
  have forbidden : allowing false accountID (front ++ [accountID]) = front := by
    rw [allowing, if_neg (by decide), filter_eq_erase once,
      erase_append_right _ fresh, erase_cons_head, append_nil]
  rw [forbidden, allowing, if_pos rfl, if_neg]
  rw [contains_iff_mem]
  exact fresh

end Changes

/-- The edits of a routing. -/
inductive Edit
  | settingAllowed (allowed : Bool) (accountID : UUID) (scope : AccountRoutingScope)
  | prioritizing (accountID : UUID) (scope : AccountRoutingScope)
  | moving (accountID : UUID) (direction : AccountMoveDirection)
      (scope : AccountRoutingScope)
  | removingDirectory (id : UUID)
  | removingAccount (id : UUID)

namespace Edit

/-- The account of an edit. -/
def accountID : Edit → Option UUID
  | .settingAllowed _ accountID _ => some accountID
  | .prioritizing accountID _ => some accountID
  | .moving accountID _ _ => some accountID
  | .removingDirectory _ => none
  | .removingAccount id => some id

/-- Apply an edit. -/
def apply : Edit → AccountRoutingConfiguration →
    Except AccountError AccountRoutingConfiguration
  | .settingAllowed allowed accountID scope =>
    AccountRoutingConfiguration.settingAllowed allowed accountID scope
  | .prioritizing accountID scope => AccountRoutingConfiguration.prioritizing accountID scope
  | .moving accountID direction scope =>
    AccountRoutingConfiguration.moving accountID direction scope
  | .removingDirectory id => AccountRoutingConfiguration.removingDirectory id
  | .removingAccount id => fun routing => .ok (routing.removingAccount id)

/-- Apply some edits in turn. -/
def applyAll (routing : AccountRoutingConfiguration) (edits : List Edit) :
    Except AccountError AccountRoutingConfiguration :=
  edits.foldlM (fun routing edit => edit.apply routing) routing

end Edit

/-- Only the accounts of a scope change. -/
structure Confined (scope : AccountRoutingScope) (ids changed : List UUID)
    (before after : AccountRoutingConfiguration) : Prop where
  read : before.accountIDs scope = .ok ids
  written : after.accountIDs scope = .ok changed
  default : scope ≠ .defaultRule → after.defaultAccountIDs = before.defaultAccountIDs
  rules : Forall₂ (fun rule rule' => rule'.id = rule.id ∧ rule'.directory = rule.directory ∧
    (scope ≠ .directory rule.id → rule'.accountIDs = rule.accountIDs))
    before.directoryRules after.directoryRules

/-- What an edit does to its scope. -/
def Edit.Scoped (before after : AccountRoutingConfiguration) : Edit → Prop
  | .settingAllowed allowed accountID scope =>
    ∃ ids changed, Confined scope ids changed before after ∧
      (accountID ∈ changed ↔ allowed = true) ∧
      changed.filter (· ≠ accountID) = ids.filter (· ≠ accountID)
  | .prioritizing accountID scope =>
    ∃ ids changed, Confined scope ids changed before after ∧
      changed.Perm ids ∧ changed.head? = some accountID ∧
      changed.filter (· ≠ accountID) = ids.filter (· ≠ accountID)
  | .moving _ _ scope =>
    ∃ ids changed, Confined scope ids changed before after ∧ changed.Perm ids
  | .removingDirectory id =>
    after.defaultAccountIDs = before.defaultAccountIDs ∧
      ∃ front rule back, before.directoryRules = front ++ rule :: back ∧
        rule.id = id ∧ after.directoryRules = front ++ back
  | .removingAccount id =>
    (id ∉ after.defaultAccountIDs ∧ after.defaultAccountIDs =
      before.defaultAccountIDs.filter (· ≠ id)) ∧
    Forall₂ (fun rule rule' => rule'.id = rule.id ∧
      rule'.directory = rule.directory ∧ id ∉ rule'.accountIDs ∧
      rule'.accountIDs = rule.accountIDs.filter (· ≠ id))
      before.directoryRules after.directoryRules

section Scopes

variable {texts : Texts} {knownAccountIDs : List UUID}
variable {routing edited : AccountRoutingConfiguration}
variable {scope : AccountRoutingScope} {ids changed : List UUID}

theorem confined_of_replacingAccountIDs
    (read : routing.accountIDs scope = .ok ids)
    (written : routing.replacingAccountIDs changed scope = .ok edited) :
    Confined scope ids changed routing edited := by
  have own := accountIDs_replacingAccountIDs written
  cases scope with
  | defaultRule =>
    cases written
    exact ⟨read, own, fun other => absurd rfl other,
      forall₂_same.mpr fun _ _ => ⟨rfl, rfl, fun _ => rfl⟩⟩
  | directory id =>
    unfold replacingAccountIDs at written
    dsimp only at written
    split at written
    · cases written
    · rename_i rules assigned
      cases written
      refine ⟨read, own, fun _ => rfl, (forall₂_of_assign assigned).imp ?_⟩
      rintro rule rule' ⟨identity, directory, kept | ⟨same, -⟩⟩
      · exact ⟨identity, directory, fun _ => kept⟩
      · exact ⟨identity, directory, fun other => absurd (by rw [same]) other⟩

/-- Accounts that a scope may have. -/
def Usable (knownAccountIDs ids : List UUID) : Prop :=
  ids.Nodup ∧ ∀ id ∈ ids, id ∈ knownAccountIDs

theorem Valid.of_sublist
    (valid : routing.Valid texts knownAccountIDs)
    (identities : (edited.directoryRules.map DirectoryAccountRule.id).Sublist
      (routing.directoryRules.map DirectoryAccountRule.id))
    (folders :
      (edited.directoryRules.map DirectoryAccountRule.directory).Sublist
      (routing.directoryRules.map DirectoryAccountRule.directory))
    (usable : ∀ ids ∈ edited.lists, Usable knownAccountIDs ids) :
    edited.Valid texts knownAccountIDs where
  ruleIDs := valid.ruleIDs.sublist identities
  directory rule member := by
    obtain ⟨other, inside, same⟩ := mem_map.mp (folders.subset (mem_map_of_mem member))
    rw [← same]
    exact valid.directory other inside
  directories := by
    have apart : (routing.directoryRules.map DirectoryAccountRule.directory).Pairwise
        (texts.same · · = false) := pairwise_map.mpr valid.directories
    exact pairwise_map.mp (apart.sublist folders)
  registered ids member := (usable ids member).2
  once ids member := (usable ids member).1

theorem Valid.usable
    (valid : routing.Valid texts knownAccountIDs)
    (member : ids ∈ routing.lists) :
    Usable knownAccountIDs ids :=
  ⟨valid.once ids member, valid.registered ids member⟩

theorem Usable.perm
    (usable : Usable knownAccountIDs ids)
    (same : changed.Perm ids) :
    Usable knownAccountIDs changed :=
  ⟨same.nodup_iff.mpr usable.1, fun id member => usable.2 id (same.subset member)⟩

theorem Usable.filter
    {keep : UUID → Bool}
    (usable : Usable knownAccountIDs ids) :
    Usable knownAccountIDs (ids.filter keep) :=
  ⟨usable.1.filter keep, fun id member => usable.2 id (mem_filter.mp member).1⟩

theorem Usable.allowing
    {allowed : Bool}
    {accountID : UUID}
    (usable : Usable knownAccountIDs ids)
    (known : accountID ∈ knownAccountIDs) :
    Usable knownAccountIDs (allowing allowed accountID ids) := by
  unfold AccountRoutingConfiguration.allowing
  split
  · split
    · exact usable
    · rename_i fresh
      rw [contains_iff_mem] at fresh
      refine ⟨?_, ?_⟩
      · refine nodup_append.mpr ⟨usable.1, by simp, ?_⟩
        rintro id member other last rfl
        rw [mem_singleton.mp last] at member
        exact fresh member
      · intro id member
        rcases mem_append.mp member with before | last
        · exact usable.2 id before
        · rw [mem_singleton.mp last]
          exact known
  · exact usable.filter

theorem mem_lists_of_accountIDs (read : routing.accountIDs scope = .ok ids) :
    ids ∈ routing.lists := by
  cases scope with
  | defaultRule =>
    cases read
    exact mem_cons_self
  | directory id =>
    unfold accountIDs at read
    dsimp only at read
    split at read
    · cases read
    · rename_i rule found
      cases read
      exact mem_cons_of_mem _ (mem_map_of_mem (mem_of_find?_eq_some found))

theorem mem_lists_of_replacingAccountIDs
    (written : routing.replacingAccountIDs changed scope = .ok edited)
    (member : ids ∈ edited.lists) :
    ids = changed ∨ ids ∈ routing.lists := by
  cases scope with
  | defaultRule =>
    cases written
    rcases mem_cons.mp member with same | other
    · exact .inl same
    · exact .inr (mem_cons_of_mem _ other)
  | directory id =>
    unfold replacingAccountIDs at written
    dsimp only at written
    split at written
    · cases written
    · rename_i rules assigned
      cases written
      rcases mem_cons.mp member with same | other
      · rw [same]
        exact .inr mem_cons_self
      · obtain ⟨rule', inside, rfl⟩ := mem_map.mp other
        obtain ⟨rule, before, -, -, same | ⟨-, same⟩⟩ :=
          exists_of_forall₂ (forall₂_of_assign assigned) inside
        · rw [same]
          exact .inr (mem_cons_of_mem _ (mem_map_of_mem before))
        · exact .inl same

variable (valid : routing.Valid texts knownAccountIDs)
include valid

theorem Valid.replacingAccountIDs
    (written : routing.replacingAccountIDs changed scope = .ok edited)
    (read : routing.accountIDs scope = .ok ids)
    (usable : Usable knownAccountIDs changed) :
    edited.Valid texts knownAccountIDs := by
  have rules := (confined_of_replacingAccountIDs read written).rules
  have identities : edited.directoryRules.map DirectoryAccountRule.id =
      routing.directoryRules.map DirectoryAccountRule.id :=
    map_eq_of_forall₂ rules fun _ _ related => related.1
  have folders : edited.directoryRules.map DirectoryAccountRule.directory =
      routing.directoryRules.map DirectoryAccountRule.directory :=
    map_eq_of_forall₂ rules fun _ _ related => related.2.1
  refine valid.of_sublist (by rw [identities]) (by rw [folders]) ?_
  intro list member
  rcases mem_lists_of_replacingAccountIDs written member with rfl | before
  · exact usable
  · exact valid.usable before

theorem Valid.editing
    {change : List UUID → Except AccountError (List UUID)}
    (keeps : ∀ ids changed, Usable knownAccountIDs ids →
      change ids = .ok changed → Usable knownAccountIDs changed)
    (edits : editing scope change routing = .ok edited) :
    edited.Valid texts knownAccountIDs ∧
      ∃ ids changed, Usable knownAccountIDs ids ∧
      change ids = .ok changed ∧ Confined scope ids changed routing edited := by
  obtain ⟨ids, read, edits⟩ := bind_eq_ok.mp edits
  obtain ⟨changed, changes, written⟩ := bind_eq_ok.mp edits
  have usable := valid.usable (mem_lists_of_accountIDs read)
  exact ⟨valid.replacingAccountIDs written read (keeps ids changed usable changes),
    ids, changed, usable, changes, confined_of_replacingAccountIDs read written⟩

theorem Valid.removingDirectory
    {id : UUID}
    (edits : removingDirectory id routing = .ok edited) :
    edited.Valid texts knownAccountIDs ∧
      (Edit.removingDirectory id).Scoped routing edited := by
  unfold AccountRoutingConfiguration.removingDirectory at edits
  split at edits
  · rename_i present
    cases edits
    have kept : (routing.directoryRules.filter (·.id ≠ id)).Sublist
        routing.directoryRules := filter_sublist
    refine ⟨valid.of_sublist (kept.map _) (kept.map _) ?_, rfl, ?_⟩
    · intro list member
      rcases mem_cons.mp member with rfl | inside
      · exact valid.usable mem_cons_self
      · exact valid.usable (mem_cons_of_mem _ ((kept.map _).subset inside))
    · obtain ⟨rule, member, same⟩ := any_eq_true.mp present
      obtain ⟨front, back, split⟩ := append_of_mem member
      have others : ∀ other ∈ front ++ back, other.id ≠ id := by
        have apart := valid.ruleIDs
        rw [split, map_append, map_cons, nodup_middle,
          nodup_cons, ← map_append, eq_of_beq same] at apart
        rintro other inside rfl
        exact apart.1 (mem_map_of_mem inside)
      refine ⟨front, rule, back, split, eq_of_beq same, ?_⟩
      change routing.directoryRules.filter (·.id ≠ id) = front ++ back
      rw [split, filter_append, filter_cons_of_neg (by simpa using same),
        ← filter_append, filter_eq_self]
      intro other inside
      exact decide_eq_true (others other inside)
  · cases edits

theorem Valid.removingAccount (id : UUID) :
    (routing.removingAccount id).Valid texts knownAccountIDs ∧
      (Edit.removingAccount id).Scoped routing
        (routing.removingAccount id) := by
  have gone : ∀ ids : List UUID, id ∉ ids.filter (· ≠ id) := by simp
  refine ⟨valid.of_sublist ?_ ?_ ?_, ⟨gone _, rfl⟩, ?_⟩
  · simp [AccountRoutingConfiguration.removingAccount, Function.comp_def]
  · simp [AccountRoutingConfiguration.removingAccount, Function.comp_def]
  · intro list member
    rcases mem_cons.mp member with rfl | inside
    · exact (valid.usable mem_cons_self).filter
    · obtain ⟨rule', listed, rfl⟩ := mem_map.mp inside
      obtain ⟨rule, before, rfl⟩ := mem_map.mp listed
      exact (valid.usable (mem_cons_of_mem _ (mem_map_of_mem before))).filter
  · exact forall₂_map_right_iff.mpr
      (forall₂_same.mpr fun rule _ => ⟨rfl, rfl, gone _, rfl⟩)

theorem Valid.apply
    {edit : Edit}
    (known : ∀ accountID, edit.accountID = some accountID →
      accountID ∈ knownAccountIDs)
    (edits : edit.apply routing = .ok edited) :
    edited.Valid texts knownAccountIDs ∧ edit.Scoped routing edited := by
  cases edit with
  | settingAllowed allowed accountID scope =>
    obtain ⟨after, ids, changed, usable, changes, confined⟩ :=
      valid.editing (by
        rintro ids _ usable ⟨⟩
        exact usable.allowing (known accountID rfl)) edits
    cases changes
    refine ⟨after, ids, _, confined, mem_allowing, filter_allowing⟩
  | prioritizing accountID scope =>
    obtain ⟨after, ids, changed, usable, changes, confined⟩ :=
      valid.editing (fun ids changed usable changes =>
        usable.perm (of_prioritized usable.1 changes).1) edits
    obtain ⟨same, rfl⟩ := of_prioritized usable.1 changes
    exact ⟨after, ids, _, confined, same, rfl, by simp⟩
  | moving accountID direction scope =>
    obtain ⟨after, ids, changed, usable, changes, confined⟩ :=
      valid.editing (fun ids changed usable changes =>
        usable.perm (perm_of_moved changes)) edits
    exact ⟨after, ids, changed, confined, perm_of_moved changes⟩
  | removingDirectory id => exact valid.removingDirectory edits
  | removingAccount id =>
    cases edits
    exact valid.removingAccount id

theorem Valid.applyAll
    {edits : List Edit}
    (known : ∀ edit ∈ edits, ∀ accountID, edit.accountID = some accountID →
      accountID ∈ knownAccountIDs)
    (succeeds : Edit.applyAll routing edits = .ok edited) :
    edited.Valid texts knownAccountIDs := by
  induction edits generalizing routing with
  | nil =>
    cases succeeds
    exact valid
  | cons edit rest ih =>
    obtain ⟨next, first, succeeds⟩ := bind_eq_ok.mp succeeds
    exact ih (valid.apply (known edit mem_cons_self) first).1
      (fun other member => known other (mem_cons_of_mem _ member)) succeeds

end Scopes

/-- Edits of a valid configuration keep it valid, each edit changes its own scope
only, moving an account forth and back changes nothing, and neither does
forbidding and allowing the last account of a list. -/
theorem edits_stay_in_scope
    (texts : Texts)
    (knownAccountIDs : List UUID)
    (routing result : AccountRoutingConfiguration)
    (edits : List Edit)
    (valid : routing.validate texts knownAccountIDs = .ok ())
    (known : ∀ edit ∈ edits, ∀ accountID, edit.accountID = some accountID →
      accountID ∈ knownAccountIDs)
    (succeeds : Edit.applyAll routing edits = .ok result) :
    result.validate texts knownAccountIDs = .ok () ∧
    (∀ done edit rest before after, edits = done ++ edit :: rest →
      Edit.applyAll routing done = .ok before → edit.apply before = .ok after →
      edit.Scoped before after) ∧
    (∀ accountID scope once, (moving accountID .down scope result = .ok once →
        moving accountID .up scope once = .ok result) ∧
      (moving accountID .up scope result = .ok once →
        moving accountID .down scope once = .ok result)) ∧
    ∀ accountID scope ids, result.accountIDs scope = .ok (ids ++ [accountID]) →
      ∃ once, settingAllowed false accountID scope result = .ok once ∧
        settingAllowed true accountID scope once = .ok result := by
  rw [validate_eq_ok] at valid ⊢
  have final := valid.applyAll known succeeds
  have once : ∀ scope ids, result.accountIDs scope = .ok ids → ids.Nodup :=
    fun scope ids read => final.once ids (mem_lists_of_accountIDs read)
  refine ⟨final, ?_, ?_, ?_⟩
  · rintro done edit rest before after rfl reached edits
    have earlier : before.Valid texts knownAccountIDs :=
      valid.applyAll (fun other member => known other (mem_append_left _ member)) reached
    exact (earlier.apply (known edit (by simp)) edits).2
  · intro accountID scope moved
    exact ⟨editing_undo fun ids changed read moves =>
        moved_up_of_moved_down (once scope ids read) moves,
      editing_undo fun ids changed _ moves => moved_down_of_moved_up moves⟩
  · intro accountID scope ids read
    obtain ⟨edited, written⟩ :=
      exists_replacingAccountIDs read (allowing false accountID (ids ++ [accountID]))
    have edits : settingAllowed false accountID scope result = .ok edited :=
      bind_eq_ok.mpr ⟨_, read, bind_eq_ok.mpr ⟨_, rfl, written⟩⟩
    refine ⟨edited, edits, editing_undo ?_ edits⟩
    rintro list _ again ⟨⟩
    rw [read] at again
    cases again
    rw [allowing_last (once scope _ read)]

namespace Sample

/-- A routing with one rule. -/
def folder (accountIDs : List UUID) : AccountRoutingConfiguration :=
  ⟨[⟨1⟩], [⟨⟨7⟩, "/a", accountIDs⟩]⟩

end Sample

/-- An account moves to the end of its folder's list, where it can be forbidden
and allowed again, and from where it moves back. -/
theorem moved_account_comes_back :
    (Sample.folder [⟨1⟩, ⟨2⟩]).validate .plain [⟨1⟩, ⟨2⟩] = .ok () ∧
      moving ⟨1⟩ .down (.directory ⟨7⟩) (Sample.folder [⟨1⟩, ⟨2⟩]) =
        .ok (Sample.folder [⟨2⟩, ⟨1⟩]) ∧
      moving ⟨1⟩ .up (.directory ⟨7⟩) (Sample.folder [⟨2⟩, ⟨1⟩]) =
        .ok (Sample.folder [⟨1⟩, ⟨2⟩]) ∧
      (Sample.folder [⟨2⟩, ⟨1⟩]).validate .plain [⟨1⟩, ⟨2⟩] = .ok () ∧
      ∃ once,
        settingAllowed false ⟨1⟩ (.directory ⟨7⟩) (Sample.folder [⟨2⟩, ⟨1⟩]) =
          .ok once ∧
        settingAllowed true ⟨1⟩ (.directory ⟨7⟩) once =
          .ok (Sample.folder [⟨2⟩, ⟨1⟩]) := by
  obtain ⟨valid, -, moves, restores⟩ := edits_stay_in_scope .plain [⟨1⟩, ⟨2⟩]
    (Sample.folder [⟨1⟩, ⟨2⟩]) (Sample.folder [⟨2⟩, ⟨1⟩])
    [.moving ⟨1⟩ .down (.directory ⟨7⟩)] (by rfl)
    (by
      intro edit member accountID held
      rw [mem_singleton.mp member] at held
      cases held
      decide)
    (by rfl)
  have back : moving ⟨1⟩ .up (.directory ⟨7⟩) (Sample.folder [⟨2⟩, ⟨1⟩]) =
      .ok (Sample.folder [⟨1⟩, ⟨2⟩]) := by rfl
  exact ⟨by rfl, (moves ⟨1⟩ (.directory ⟨7⟩) _).2 back, back, valid,
    restores ⟨1⟩ (.directory ⟨7⟩) [⟨2⟩] rfl⟩

end AccountRoutingConfiguration

end Turnrail
