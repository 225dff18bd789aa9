import Turnrail.Directory.Matching
import Turnrail.Text.Trim

/-!
# The accounts of a folder

`RouterDirectory.accounts` gives a folder the accounts of its rule.  A folder
without a rule that lies in a linked worktree belongs to the folder of the
original checkout, if the Git metadata of the worktree can be verified.  A
worktree that cannot be verified has no accounts at all.
-/

namespace Turnrail

open List Text AccountRoutingConfiguration

/-- The names of a standardized file URL. -/
structure Folder where
  names : List (List Char)
  named : Named '/' names

namespace Folder

/-- The path of a folder. -/
def path (folder : Folder) : String :=
  String.ofList (Text.path '/' folder.names)

/-- A folder in a folder. -/
def appending (folder : Folder) (name : String)
    (filled : name.toList ≠ [] ∧ '/' ∉ name.toList := by decide) : Folder where
  names := folder.names ++ [name.toList]
  named other member := by
    rcases mem_append.mp member with inside | last
    · exact folder.named other inside
    · rw [mem_singleton.mp last]
      exact filled

/-- The first names of a URL. -/
def ancestor (folder : Folder) (depth : Nat) : Folder where
  names := folder.names.take depth
  named name member := folder.named name (mem_of_mem_take member)

/-- The URL without its last name. -/
def deletingLastPathComponent (folder : Folder) : Folder :=
  folder.ancestor (folder.names.length - 1)

end Folder

/-- What the file system tells about an item without following a link. -/
structure FileAttributes where
  ownerAccountID : Option UInt32
  regular : Bool
  size : Option Int

/-- What the file system answers. -/
structure FileTree where
  resolved : String → Folder
  standardized : String → Folder
  resolvingSymlinks : Folder → Folder
  isDirectory : Folder → Option Bool
  fileExists : Folder → Option Bool
  attributesOfItem : Folder → Option FileAttributes
  contents : Folder → Option String
  user : UInt32

/-- Why a folder has no accounts. -/
inductive RoutingFailure
  | failure (error : RouterFailure)
  | file

namespace RouterDirectory

/-- An error with a text. -/
def fails (message : String) : Except RoutingFailure α :=
  .error (.failure ⟨message⟩)

/-- What the platform reads, or its error. -/
def reading (result : Option α) : Except RoutingFailure α :=
  match result with
  | some value => .ok value
  | none => .error .file

variable (tree : FileTree) (texts : Texts)

/-- The folder of an absolute path, if it is a directory. -/
def canonical (path : String) : Except RoutingFailure Folder :=
  if texts.segmentation.hasPrefix path "/" = false ∨ '\x00' ∈ path.toList then
    fails "Routing requires an absolute working directory."
  else
    match tree.isDirectory (tree.resolved path) with
    | none => .error .file
    | some false => fails "The routing working directory does not exist."
    | some true => .ok (tree.resolved path)

/-- The folder of a path that may be relative. -/
def resolve (path : String) (parent : Folder) : Folder :=
  tree.resolved (if texts.segmentation.hasPrefix path "/" then path
      else parent.path ++ "/" ++ path)

/-- The attributes of an item that the user owns. -/
def ownedAttributes (item : Folder) : Except RoutingFailure FileAttributes := do
  let attributes ← reading (tree.attributesOfItem item)
  if attributes.ownerAccountID = some tree.user then .ok attributes
  else fails "Git routing metadata must belong to the current user."

/-- The text of a file that the user owns. -/
def ownedText (file : Folder) : Except RoutingFailure String := do
  let attributes ← ownedAttributes tree file
  if attributes.regular = true ∧ ∃ size ∈ attributes.size, size ≤ 4096 then do
    let content ← reading (tree.contents file)
    .ok (texts.trimmed content)
  else fails "Invalid Git routing metadata file."

/-- A text without its first characters. -/
def dropFirst (text : String) (count : Nat) : List Char :=
  ((texts.segmentation.characters text.toList).drop count).flatten

/-- The error of metadata that does not fit together. -/
def unverified : Except RoutingFailure α :=
  fails ("Linked-worktree metadata did not pass ownership and " ++ "back-reference checks.")

/-- The Git folder that a linked worktree shares with its original checkout. -/
def commonDirectory (root : Folder) : Except RoutingFailure Folder := do
  let git := root.appending ".git"
  let pointer ← ownedText tree texts git
  if texts.segmentation.hasPrefix pointer "gitdir: " = false then
    fails "Invalid linked-worktree Git pointer."
  else do
    let gitDirectory := resolve tree texts (String.ofList (dropFirst texts pointer 8)) root
    let commondir ← ownedText tree texts (gitDirectory.appending "commondir")
    let common := resolve tree texts commondir gitDirectory
    if texts.same gitDirectory.deletingLastPathComponent.path
        (common.appending "worktrees").path = true ∧
        (∃ name ∈ common.names.getLast?, texts.sameScalars name ".git".toList) then do
      let gitdir ← ownedText tree texts (gitDirectory.appending "gitdir")
      if texts.same (resolve tree texts gitdir gitDirectory).path
          (tree.resolvingSymlinks git).path then do
        let _ ← ownedAttributes tree common
        .ok common
      else unverified
    else unverified

/-- The part of a path below one of its folders. -/
def relative (cwd root : Folder) : List Char :=
  trim (· = '/') (dropFirst texts cwd.path (texts.count root.path))

/-- Look for Git metadata in a folder and those above it. -/
def originalCheckout (cwd : Folder) :
    Nat → Except RoutingFailure (Option Folder)
  | 0 => .ok none
  | depth + 1 =>
    let root := cwd.ancestor (depth + 1)
    match tree.fileExists (root.appending ".git") with
    | none => originalCheckout cwd depth
    | some true => .ok none
    | some false => do
      let common ← commonDirectory tree texts root
      .ok (some (tree.standardized (common.deletingLastPathComponent.path ++ "/" ++
          String.ofList (relative texts cwd root))))

/-- The accounts for a folder. -/
def accounts (cwd : String) (routing : AccountRoutingConfiguration) :
    Except RoutingFailure (List UUID) := do
  let directory ← canonical tree texts cwd
  match matching texts directory.path routing with
  | some rule => .ok rule.accountIDs
  | none =>
    match ← originalCheckout tree texts directory directory.names.length with
    | none => .ok routing.defaultAccountIDs
    | some original =>
      match matching texts original.path routing with
      | some rule => .ok rule.accountIDs
      | none => .ok routing.defaultAccountIDs

/-! ## What a folder is entitled to -/

/-- A file that the user owns has a text. -/
def HasText (file : Folder) (text : String) : Prop :=
  ∃ attributes ∈ tree.attributesOfItem file,
    attributes.ownerAccountID = some tree.user ∧ attributes.regular = true ∧
      (∃ size ∈ attributes.size, size ≤ 4096) ∧
      ∃ content ∈ tree.contents file, texts.trimmed content = text

/-- The metadata of a worktree and of its original checkout refer to each other
and belong to the user. -/
structure Verified (root gitDirectory common : Folder) : Prop where
  pointer : ∃ pointer, HasText tree texts (root.appending ".git") pointer ∧
    texts.segmentation.hasPrefix pointer "gitdir: " = true ∧
    gitDirectory = resolve tree texts (String.ofList (dropFirst texts pointer 8)) root
  commondir : ∃ commondir, HasText tree texts (gitDirectory.appending "commondir") commondir ∧
      common = resolve tree texts commondir gitDirectory
  worktrees : texts.same gitDirectory.deletingLastPathComponent.path
    (common.appending "worktrees").path = true
  git : ∃ name ∈ common.names.getLast?, texts.sameScalars name ".git".toList
  gitdir : ∃ gitdir, HasText tree texts (gitDirectory.appending "gitdir") gitdir ∧
      texts.same (resolve tree texts gitdir gitDirectory).path
        (tree.resolvingSymlinks (root.appending ".git")).path = true
  owned : ∃ attributes ∈ tree.attributesOfItem common,
    attributes.ownerAccountID = some tree.user

/-- The nearest folder above with Git metadata. -/
structure Nearest (cwd : Folder) (depth : Nat) (directory : Bool) : Prop where
  below : 0 < depth
  above : depth ≤ cwd.names.length
  here : tree.fileExists ((cwd.ancestor depth).appending ".git") = some directory
  deeper : ∀ other, depth < other → other ≤ cwd.names.length →
    tree.fileExists ((cwd.ancestor other).appending ".git") = none

/-- The folder in the original checkout. -/
def original (cwd common : Folder) (depth : Nat) : Folder :=
  tree.standardized (common.deletingLastPathComponent.path ++ "/" ++
    String.ofList (['/'].intercalate (cwd.names.drop depth)))

/-- The folder that the router looks up for a worktree. -/
def taken (cwd common : Folder) (depth : Nat) : Folder :=
  tree.standardized (common.deletingLastPathComponent.path ++ "/" ++
    String.ofList (relative texts cwd (cwd.ancestor depth)))

variable {tree texts}

section Checks

variable {root gitDirectory common file : Folder} {text : String}

theorem reading_eq_ok
    {result : Option α}
    {value : α} :
    reading result = .ok value ↔ result = some value := by
  cases result <;> simp [reading]

theorem ownedAttributes_eq_ok {attributes : FileAttributes} :
    ownedAttributes tree file = .ok attributes ↔
      tree.attributesOfItem file = some attributes ∧
      attributes.ownerAccountID = some tree.user := by
  simp only [ownedAttributes, bind_eq_ok, reading_eq_ok]
  constructor
  · rintro ⟨found, read, passed⟩
    split at passed
    · cases passed
      exact ⟨read, by assumption⟩
    · cases passed
  · rintro ⟨read, owner⟩
    exact ⟨attributes, read, if_pos owner⟩

theorem ownedText_eq_ok :
    ownedText tree texts file = .ok text ↔ HasText tree texts file text := by
  simp only [ownedText, bind_eq_ok, ownedAttributes_eq_ok]
  constructor
  · rintro ⟨attributes, ⟨read, owner⟩, passed⟩
    split at passed
    · rename_i small
      obtain ⟨content, found, trimmed⟩ := bind_eq_ok.mp passed
      exact ⟨attributes, read, owner, small.1, small.2, content,
        reading_eq_ok.mp found, by cases trimmed; rfl⟩
    · cases passed
  · rintro ⟨attributes, read, owner, regular, size, content, found, rfl⟩
    refine ⟨attributes, ⟨read, owner⟩, ?_⟩
    rw [if_pos ⟨regular, size⟩]
    exact bind_eq_ok.mpr ⟨content, reading_eq_ok.mpr found, rfl⟩

theorem commonDirectory_eq_ok :
    commonDirectory tree texts root = .ok common ↔
      ∃ gitDirectory, Verified tree texts root gitDirectory common := by
  constructor
  · intro passed
    obtain ⟨pointer, hasPointer, passed⟩ := bind_eq_ok.mp passed
    split at passed
    · cases passed
    · rename_i points
      obtain ⟨commondir, hasCommondir, passed⟩ := bind_eq_ok.mp passed
      dsimp only at passed
      split at passed
      · rename_i worktrees
        obtain ⟨gitdir, hasGitdir, passed⟩ := bind_eq_ok.mp passed
        split at passed
        · rename_i back
          obtain ⟨attributes, owned, ⟨⟩⟩ := bind_eq_ok.mp passed
          obtain ⟨found, owner⟩ := ownedAttributes_eq_ok.mp owned
          exact ⟨_, ⟨pointer, ownedText_eq_ok.mp hasPointer, by simpa using points, rfl⟩,
            ⟨commondir, ownedText_eq_ok.mp hasCommondir, rfl⟩, worktrees.1,
            worktrees.2, ⟨gitdir, ownedText_eq_ok.mp hasGitdir, back⟩,
            attributes, found, owner⟩
        · cases passed
      · cases passed
  · rintro ⟨gitDirectory, ⟨pointer, hasPointer, points, rfl⟩,
      ⟨commondir, hasCommondir, rfl⟩, worktrees, git,
      ⟨gitdir, hasGitdir, back⟩, attributes, found, owner⟩
    refine bind_eq_ok.mpr ⟨pointer, ownedText_eq_ok.mpr hasPointer, ?_⟩
    rw [if_neg (by simp [points])]
    refine bind_eq_ok.mpr ⟨commondir, ownedText_eq_ok.mpr hasCommondir, ?_⟩
    rw [if_pos ⟨worktrees, git⟩]
    refine bind_eq_ok.mpr ⟨gitdir, ownedText_eq_ok.mpr hasGitdir, ?_⟩
    rw [if_pos back]
    exact bind_eq_ok.mpr ⟨attributes, ownedAttributes_eq_ok.mpr ⟨found, owner⟩, rfl⟩

end Checks

section Walk

variable {cwd : Folder} {depth : Nat}

end Walk

section Entitlement

variable {routing : AccountRoutingConfiguration} {cwd common : Folder} {depth other : Nat}
variable {directory again : Bool} {result : Except RoutingFailure (List UUID)}

theorem Nearest.unique
    (nearest : Nearest tree cwd depth directory)
    (otherNearest : Nearest tree cwd other again) :
    depth = other ∧ directory = again := by
  have same : depth = other := by
    rcases Nat.lt_trichotomy depth other with less | same | more
    · have none := nearest.deeper other less otherNearest.above
      rw [otherNearest.here] at none
      cases none
    · exact same
    · have none := otherNearest.deeper depth more nearest.above
      rw [nearest.here] at none
      cases none
  subst same
  exact ⟨rfl, Option.some.inj (nearest.here.symm.trans otherNearest.here)⟩

theorem Verified.unique
    {root gitDirectory otherDirectory other : Folder}
    (verified : Verified tree texts root gitDirectory common)
    (otherVerified : Verified tree texts root otherDirectory other) :
    common = other := by
  have first := commonDirectory_eq_ok.mpr ⟨gitDirectory, verified⟩
  have second := commonDirectory_eq_ok.mpr ⟨otherDirectory, otherVerified⟩
  exact Except.ok.inj (first.symm.trans second)

end Entitlement

section Accounts

variable {routing : AccountRoutingConfiguration} {cwd folder common : Folder} {depth : Nat}
variable {knownAccountIDs : List UUID} {rule : DirectoryAccountRule}

end Accounts

section Marks

variable {routing : AccountRoutingConfiguration} {cwd common : Folder} {depth : Nat}
variable {knownAccountIDs : List UUID} {rule : DirectoryAccountRule} {folder : String}

end Marks

end RouterDirectory

/-- A file system without links, in which the given files have the given texts
and belong to the user. -/
def FileTree.plain (files : List (String × String)) : FileTree where
  resolved path := ⟨pathComponents path, named_components _⟩
  standardized path := ⟨pathComponents path, named_components _⟩
  resolvingSymlinks := id
  isDirectory _ := some true
  fileExists item := (files.lookup item.path).map fun _ => false
  attributesOfItem _ := some ⟨some 0, true, some 1⟩
  contents item := files.lookup item.path
  user := 0

end Turnrail
