import Turnrail.Checks.Scan
import Turnrail.Foundation

/-!
# Which accounts a folder may use

A routing configuration lists accounts in order of priority, for folders with a
rule of their own and for all others.  A configuration is only used after it
was checked against the registered accounts.
-/

namespace Turnrail

/-- The accounts for a directory. -/
structure DirectoryAccountRule where
  id : UUID
  directory : String
  accountIDs : List UUID

/-- Ordered account lists define both permission and priority. -/
structure AccountRoutingConfiguration where
  defaultAccountIDs : List UUID
  directoryRules : List DirectoryAccountRule

/-- What is wrong with a rule. -/
inductive AccountRoutingError
  | unknownRule (id : UUID)
  | duplicateRule (id : UUID)
  | invalidDirectory (path : String)
  | duplicateDirectory (path : String)
  | duplicateAccount (id : UUID)
  | accountNotAllowed (id : UUID)

/-- Where an account is moved. -/
inductive AccountMoveDirection
  | up
  | down
deriving DecidableEq

/-- What is wrong with a registry. -/
inductive AccountRegistryError
  | unsupportedSchemaVersion (version : Int)
  | invalidEmail
  | duplicateEmail (email : String)
  | duplicateAccountID (id : UUID)
  | unknownAccount (id : UUID)
  | identityMismatch (expected actual : String)
  | cannotMoveAccount (id : UUID) (direction : AccountMoveDirection)
  | revisionOverflow

/-- What can go wrong with the registry. -/
inductive AccountError
  | registry (error : AccountRegistryError)
  | routing (error : AccountRoutingError)
  | file
  | decoding

namespace AccountRoutingConfiguration

variable (texts : Texts)

/-- The configuration without rules. -/
def empty : AccountRoutingConfiguration where
  defaultAccountIDs := []
  directoryRules := []

/-- The lists of accounts. -/
def lists (routing : AccountRoutingConfiguration) : List (List UUID) :=
  routing.defaultAccountIDs :: routing.directoryRules.map DirectoryAccountRule.accountIDs

/-- The folders of the rules. -/
def folders (routing : AccountRoutingConfiguration) : List String :=
  routing.directoryRules.map DirectoryAccountRule.directory

/-- Two routings are the same. -/
def same (first second : AccountRoutingConfiguration) : Bool :=
  first.defaultAccountIDs == second.defaultAccountIDs &&
    first.directoryRules.isEqv second.directoryRules fun rule other =>
      rule.id == other.id && texts.same rule.directory other.directory &&
        rule.accountIDs == other.accountIDs

@[simp] theorem same_self (routing : AccountRoutingConfiguration) :
    routing.same texts routing = true := by
  unfold same
  induction routing.directoryRules with
  | nil => simp [List.isEqv]
  | cons rule rules ih => simpa [List.isEqv] using ih

/-- Take an account out of all lists. -/
def removingAccount (routing : AccountRoutingConfiguration) (id : UUID) :
    AccountRoutingConfiguration where
  defaultAccountIDs := routing.defaultAccountIDs.filter (· ≠ id)
  directoryRules := routing.directoryRules.map fun rule =>
    { rule with accountIDs := rule.accountIDs.filter (· ≠ id) }

/-- An absolute path in standard form. -/
def isDirectory (path : String) : Bool :=
  texts.segmentation.hasPrefix path "/" && texts.same (texts.standardized path) path

/-- A rule must be new and have a directory. -/
def checkRule (rule : DirectoryAccountRule) (seen : List DirectoryAccountRule) :
    Except AccountError Unit :=
  if seen.any fun other => other.id == rule.id then
    .error (.routing (.duplicateRule rule.id))
  else if isDirectory texts rule.directory = false then
    .error (.routing (.invalidDirectory rule.directory))
  else if seen.any fun other => texts.same rule.directory other.directory then
    .error (.routing (.duplicateDirectory rule.directory))
  else .ok ()

/-- An account must be known and new. -/
def checkAccount (knownAccountIDs : List UUID) (id : UUID)
    (seen : List UUID) : Except AccountError Unit :=
  if id ∉ knownAccountIDs then .error (.registry (.unknownAccount id))
  else if id ∈ seen then .error (.routing (.duplicateAccount id))
  else .ok ()

/-- A routing must fit the known accounts. -/
def validate (routing : AccountRoutingConfiguration)
    (knownAccountIDs : List UUID) : Except AccountError Unit := do
  Checks.scan (checkRule texts) routing.directoryRules []
  forM routing.lists fun ids => Checks.scan (checkAccount knownAccountIDs) ids []

/-- A routing that passes its check. -/
structure Valid (knownAccountIDs : List UUID)
    (routing : AccountRoutingConfiguration) : Prop where
  ruleIDs : (routing.directoryRules.map DirectoryAccountRule.id).Nodup
  directory : ∀ rule ∈ routing.directoryRules, isDirectory texts rule.directory = true
  directories : routing.directoryRules.Pairwise fun rule other =>
    texts.same rule.directory other.directory = false
  registered : ∀ ids ∈ routing.lists, ∀ id ∈ ids, id ∈ knownAccountIDs
  once : ∀ ids ∈ routing.lists, ids.Nodup

variable {texts}

theorem checkRule_eq_ok
    (rule : DirectoryAccountRule)
    (seen : List DirectoryAccountRule) :
    checkRule texts rule seen = .ok () ↔
      isDirectory texts rule.directory = true ∧ ∀ other ∈ seen,
      other.id ≠ rule.id ∧
      texts.same rule.directory other.directory = false := by
  unfold checkRule
  split
  · rename_i repeated
    obtain ⟨other, member, same⟩ := List.any_eq_true.mp repeated
    simp only [reduceCtorEq, false_iff, not_and]
    intro _ apart
    exact (apart other member).1 (eq_of_beq same)
  · rename_i fresh
    split
    · rename_i invalid
      simp [invalid]
    · rename_i valid
      split
      · rename_i repeated
        obtain ⟨other, member, same⟩ := List.any_eq_true.mp repeated
        simp only [reduceCtorEq, false_iff, not_and]
        intro _ apart
        rw [(apart other member).2] at same
        cases same
      · rename_i apart
        simp_all

theorem checkAccount_eq_ok
    (knownAccountIDs : List UUID)
    (id : UUID)
    (seen : List UUID) :
    checkAccount knownAccountIDs id seen = .ok () ↔
      id ∈ knownAccountIDs ∧ ∀ other ∈ seen, id ≠ other := by
  unfold checkAccount
  by_cases known : id ∈ knownAccountIDs
  · by_cases repeated : id ∈ seen
    · simp only [known, repeated, not_true_eq_false, if_false, if_true,
        reduceCtorEq, true_and, false_iff]
      intro apart
      exact apart id repeated rfl
    · simp only [known, repeated, not_true_eq_false, if_false, true_and, true_iff]
      rintro other member rfl
      exact repeated member
  · simp [known]

/-- The checks accept exactly the valid routings. -/
theorem validate_eq_ok
    (routing : AccountRoutingConfiguration)
    (knownAccountIDs : List UUID) :
    routing.validate texts knownAccountIDs = .ok () ↔
      routing.Valid texts knownAccountIDs := by
  rw [validate, Checks.bind_eq_ok_unit, Checks.scan_eq_ok checkRule_eq_ok, Checks.forM_eq_ok]
  simp only [Checks.scan_eq_ok (checkAccount_eq_ok knownAccountIDs)]
  constructor
  · rintro ⟨⟨directory, apart, -⟩, accounts⟩
    refine ⟨?_, directory, ?_, ?_, ?_⟩
    · exact List.pairwise_map.mpr (apart.imp fun rules => rules.1)
    · refine apart.imp fun rules => ?_
      rw [texts.same_comm]
      exact rules.2
    · intro ids member
      exact (accounts ids member).1
    · intro ids member
      exact (accounts ids member).2.1.imp Ne.symm
  · rintro ⟨ruleIDs, directory, directories, registered, once⟩
    refine ⟨⟨directory, ?_, by simp⟩, ?_⟩
    · refine (List.pairwise_map.mp ruleIDs).imp₂ ?_ directories
      intro rule other different folders
      rw [texts.same_comm]
      exact ⟨different, folders⟩
    · intro ids member
      exact ⟨registered ids member, (once ids member).imp Ne.symm, by simp⟩

end AccountRoutingConfiguration

end Turnrail
