import Turnrail.Registry.Routing
import Turnrail.Text.Path
import Mathlib.Data.List.Forall2
import Mathlib.Data.List.MinMax

/-!
# The rule of a folder

`RouterDirectory.matching` picks the rule of a folder by comparing texts
character by character.  The folder belongs to the rule with the most components
among those whose components its path starts with.
-/

namespace Turnrail

open List Text Texts

/-- Two lists of scalars are the same text. -/
def Texts.sameScalars (texts : Texts) (first second : List Char) : Prop :=
  texts.same (String.ofList first) (String.ofList second) = true

instance (texts : Texts) (first second : List Char) :
    Decidable (texts.sameScalars first second) :=
  inferInstanceAs (Decidable (_ = _))

/-- A text starts with another one, character by character. -/
def Texts.startsWith (texts : Texts) (text start : String) : Bool :=
  let characters := texts.segmentation.characters start.toList
  ((texts.segmentation.characters text.toList).take characters.length).isEqv
    characters fun first second => texts.sameScalars first second

/-- The number of characters of a text. -/
def Texts.count (texts : Texts) (text : String) : Nat :=
  (texts.segmentation.characters text.toList).length

namespace RouterDirectory

variable (texts : Texts)

/-- What the path of a folder below a rule starts with. -/
def startOf (directory : String) : String :=
  if texts.same directory "/" then "/" else directory ++ "/"

/-- A rule for a directory applies to a path. -/
def applies (path directory : String) : Bool :=
  texts.same path directory || texts.startsWith path (startOf texts directory)

/-- The rule with the longest directory that applies to a path. -/
def matching (path : String) (routing : AccountRoutingConfiguration) :
    Option DirectoryAccountRule :=
  (routing.directoryRules.filter fun rule => applies texts path rule.directory)
    |>.argmax fun rule => texts.count rule.directory

end RouterDirectory

/-- Paths are the same exactly if their characters are. -/
structure Texts.ComparesPaths (texts : Texts) : Prop where
  characters : ∀ first second, texts.sameScalars first second ↔
    Forall₂ texts.sameScalars (texts.segmentation.characters first)
      (texts.segmentation.characters second)
  slashes : ∀ first second, texts.sameScalars first second ↔
    Forall₂ texts.sameScalars (first.splitOn '/') (second.splitOn '/')
  empty : ∀ {text}, texts.sameScalars text [] → text = []
  standard : ∀ {directory}, AccountRoutingConfiguration.isDirectory texts directory = true →
      IsPath '/' directory.toList

/-- The names of a path. -/
def pathComponents (path : String) : List (List Char) :=
  components '/' path.toList

namespace RouterDirectory

variable (texts : Texts)

/-- The components of a path start with those of a folder. -/
def Contains (directory path : String) : Prop :=
  ∃ inside, inside <+: pathComponents path ∧
    Forall₂ texts.sameScalars (pathComponents directory) inside

/-- The component of a path after those of a folder does not start with a
combining scalar. -/
def Reaches (directory path : String) : Prop :=
  ∀ name ∈ (pathComponents path)[(pathComponents directory).length]?,
    ∀ scalar ∈ name.head?, texts.segmentation.attaches scalar = false

/-- The rule that has the most components among those that contain a path. -/
def IsDeepest (routing : AccountRoutingConfiguration) (path : String)
    (rule : DirectoryAccountRule) : Prop :=
  rule ∈ routing.directoryRules ∧ Contains texts rule.directory path ∧
    ∀ other ∈ routing.directoryRules, Contains texts other.directory path →
      other ≠ rule → (pathComponents other.directory).length <
        (pathComponents rule.directory).length

/-- The folder that has the most components among those with a property. -/
def Most (holds : String → Prop) (folders : List String) (folder : String) : Prop :=
  folder ∈ folders ∧ holds folder ∧ ∀ other ∈ folders, holds other → other ≠ folder →
    (pathComponents other).length < (pathComponents folder).length

/-- The deepest of some folders that contain a path. -/
def Deepest (folders : List String) (path : String) : String → Prop :=
  Most (fun folder => Contains texts folder path) folders

/-- The deepest of some folders that contain a path and are reached by it. -/
def Found (folders : List String) (path : String) : String → Prop :=
  Most (fun folder => Contains texts folder path ∧ Reaches texts folder path) folders

variable {texts}

theorem Most.unique
    {holds : String → Prop}
    {folders : List String}
    {folder other : String}
    (most : Most holds folders folder)
    (otherMost : Most holds folders other) :
    folder = other := by
  by_contra different
  have less := most.2.2 other otherMost.1 otherMost.2.1 (Ne.symm different)
  have more := otherMost.2.2 folder most.1 most.2.1 different
  omega

theorem sameScalars_comm (first second : List Char) :
    texts.sameScalars first second ↔ texts.sameScalars second first := by
  rw [sameScalars, same_comm]
  rfl

theorem sameScalars_self (text : List Char) : texts.sameScalars text text :=
  texts.same_self _

theorem startsWith_iff {text start : String} :
    texts.startsWith text start = true ↔
      ∃ front back, texts.segmentation.characters text.toList = front ++ back ∧
      Forall₂ texts.sameScalars front
        (texts.segmentation.characters start.toList) := by
  have equal : ∀ first second : List (List Char),
      first.isEqv second (fun one other => texts.sameScalars one other) = true ↔
        Forall₂ texts.sameScalars first second := by
    intro first
    induction first with
    | nil =>
      intro second
      cases second <;> simp [isEqv]
    | cons one first ih =>
      intro second
      cases second with
      | nil => simp [isEqv]
      | cons other second => simp [isEqv, ih]
  rw [startsWith, equal]
  constructor
  · intro same
    exact ⟨_, _, (take_append_drop _ _).symm, same⟩
  · rintro ⟨front, back, split, same⟩
    rw [split, ← same.length_eq, take_left]
    exact same

theorem sameNames_comm
    {first second : List (List Char)}
    (same : Forall₂ texts.sameScalars first second) :
    Forall₂ texts.sameScalars second first :=
  Forall₂.flip (same.imp fun name other alike => (sameScalars_comm name other).mp alike)

section Names

variable {first second names : List (List Char)}

theorem same_path_iff
    (compares : texts.ComparesPaths)
    (firstNamed : Named '/' first)
    (secondNamed : Named '/' second) :
    texts.sameScalars (path '/' first) (path '/' second) ↔
      Forall₂ texts.sameScalars first second := by
  have filled : ∀ {names : List (List Char)} {name : List Char},
      Named '/' (name :: names) → ¬ texts.sameScalars name [] :=
    fun named same => (named _ mem_cons_self).1 (compares.empty same)
  rw [compares.slashes, splitOn_path fun name member => (firstNamed name member).2,
    splitOn_path fun name member => (secondNamed name member).2,
    forall₂_cons, and_iff_right (sameScalars_self [])]
  cases first with
  | nil =>
    cases second with
    | nil => simp [sameScalars_self]
    | cons name second =>
      constructor
      · intro same
        rw [if_pos rfl, if_neg (cons_ne_nil _ _), forall₂_cons] at same
        exact absurd ((sameScalars_comm _ _).mp same.1) (filled secondNamed)
      · nofun
  | cons name first =>
    cases second with
    | nil =>
      constructor
      · intro same
        rw [if_pos rfl, if_neg (cons_ne_nil _ _), forall₂_cons] at same
        exact absurd same.1 (filled firstNamed)
      · nofun
    | cons other second => simp

variable {text : List Char} {path directory : String}

section

variable (compares : texts.ComparesPaths)
include compares

theorem same_folder
    (free : ∀ name ∈ names, '/' ∉ name)
    (same : texts.sameScalars text (folder '/' names)) :
    ∃ front, (∀ name ∈ front, '/' ∉ name) ∧ text = folder '/' front ∧
      Forall₂ texts.sameScalars front names := by
  have parts := (compares.slashes _ _).mp same
  have split := splitOn_folder_append free []
  rw [append_nil, splitOn_nil] at split
  rw [split] at parts
  obtain ⟨first, rest, isFirst, others, whole⟩ := forall₂_cons_right_iff.mp parts
  obtain ⟨last, none, isLast, nothing, ends⟩ := forall₂_cons_right_iff.mp
    (forall₂_drop_append rest names [[]] others)
  rw [forall₂_nil_right_iff] at nothing
  have apart : rest = rest.take names.length ++ [[]] := by
    conv_lhs => rw [← take_append_drop names.length rest]
    rw [ends, nothing, compares.empty isLast]
  refine ⟨rest.take names.length, ?_, ?_, forall₂_take_append rest names [[]] others⟩
  · intro name member
    refine notMem_of_mem_splitOn (?_ : name ∈ text.splitOn '/')
    rw [whole]
    exact mem_cons_of_mem _ (mem_of_mem_take member)
  · have joined : ['/'].intercalate (text.splitOn '/') = text := intercalate_splitOn '/'
    rw [whole, compares.empty isFirst, intercalate_cons, apart] at joined
    rw [← joined]
    simp [folder, slashed]

theorem startsWith_folder_iff
    {path start : String}
    (named : Text.Named '/' names)
    (isPath : path.toList = Text.path '/' names)
    (free : ∀ name ∈ second, '/' ∉ name)
    (isFolder : start.toList = Text.folder '/' second) :
    texts.startsWith path start = true ↔
      names = [] ∧ second = [] ∨ ∃ front name later,
      names = front ++ name :: later ∧ Forall₂ texts.sameScalars front second ∧
      ∀ scalar ∈ name.head?, texts.segmentation.attaches scalar = false := by
  have slash : Text.Printable '/' := by decide
  have ends : ∀ front : List (List Char), (Text.folder '/' front).reverse =
      '/' :: (Text.slashed '/' front).reverse := by
    intro front
    simp [Text.folder]
  rw [startsWith_iff, isPath, isFolder]
  constructor
  · rintro ⟨front, back, split, same⟩
    have filled : front ≠ [] := by
      rintro rfl
      rw [forall₂_nil_left_iff] at same
      have none := texts.segmentation.flatten_characters (Text.folder '/' second)
      rw [same] at none
      simp [Text.folder] at none
    obtain ⟨text, rest, whole, rfl, boundary⟩ :=
      Text.Segmentation.exists_of_characters_eq_append split filled
    obtain ⟨front, frontFree, rfl, alike⟩ :=
      same_folder compares free ((compares.characters _ _).mpr same)
    rcases Text.exists_of_folder_append named frontFree whole with
      ⟨empty, none, -⟩ | ⟨name, later, below, rfl⟩
    · rw [none, forall₂_nil_left_iff] at alike
      exact .inl ⟨empty, alike⟩
    · refine .inr ⟨front, name, later, below, alike, fun scalar first => ?_⟩
      have here := boundary scalar (by
        rw [head?_append, first]
        rfl)
      rw [ends, texts.segmentation.joins_of_printable slash] at here
      exact here
  · rintro (⟨rfl, rfl⟩ | ⟨front, name, later, rfl, alike, boundary⟩)
    · refine ⟨_, [], (append_nil _).symm, ?_⟩
      exact (compares.characters _ _).mp (sameScalars_self _)
    · obtain ⟨filled, -⟩ := named name (by simp)
      obtain ⟨scalar, rest, rfl⟩ := exists_cons_of_ne_nil filled
      have cut : texts.segmentation.joins (Text.folder '/' front).reverse scalar =
          false := by
        rw [ends, texts.segmentation.joins_of_printable slash]
        exact boundary scalar rfl
      have alikeFolder : texts.sameScalars (Text.folder '/' front)
          (Text.folder '/' second) := by
        have frontFree : ∀ name ∈ front, '/' ∉ name := fun name member =>
          (named name (mem_append_left _ member)).2
        have split := Text.splitOn_folder_append frontFree []
        have otherSplit := Text.splitOn_folder_append free []
        rw [append_nil] at split otherSplit
        rw [compares.slashes, split, otherSplit]
        refine .cons (sameScalars_self _) (rel_append alike ?_)
        exact .cons (sameScalars_self _) .nil
      rw [Text.path_append, cons_append,
        texts.segmentation.characters_append (by simp [Text.folder]) cut]
      exact ⟨_, _, rfl, (compares.characters _ _).mp alikeFolder⟩

theorem startOf_eq_folder
    (named : Named '/' names)
    (isPath : directory.toList = Text.path '/' names) :
    (startOf texts directory).toList = folder '/' names := by
  have root : texts.same directory "/" = true ↔ names = [] := by
    have paths := same_path_iff compares named
      (fun _ member => absurd member not_mem_nil : Named '/' [])
    rw [forall₂_nil_right_iff, ← isPath, sameScalars, String.ofList_toList] at paths
    exact paths
  unfold startOf
  by_cases empty : names = []
  · rw [if_pos (root.mpr empty), empty]
    rfl
  · rw [if_neg (mt root.mp empty), String.toList_append, isPath, Text.path, if_neg empty]
    rfl

theorem applies_iff
    (isPath : IsPath '/' path.toList)
    (isDirectory : IsPath '/' directory.toList) :
    applies texts path directory = true ↔
      Contains texts directory path ∧ Reaches texts directory path := by
  obtain ⟨names, named, isPath⟩ := isPath
  obtain ⟨folders, folderNamed, isDirectory⟩ := isDirectory
  have free : ∀ name ∈ folders, '/' ∉ name := fun name member => (folderNamed name member).2
  have components : pathComponents path = names := by
    rw [pathComponents, isPath, components_path named]
  have folderComponents : pathComponents directory = folders := by
    rw [pathComponents, isDirectory, components_path folderNamed]
  have same : texts.same path directory = true ↔ Forall₂ texts.sameScalars names folders := by
    rw [← same_path_iff compares named folderNamed, ← isPath, ← isDirectory,
      sameScalars, String.ofList_toList, String.ofList_toList]
  rw [applies, Bool.or_eq_true, same, startsWith_folder_iff compares named isPath free
      (startOf_eq_folder compares folderNamed isDirectory)]
  unfold Contains Reaches
  rw [components, folderComponents]
  constructor
  · rintro (alike | ⟨rfl, rfl⟩ | ⟨front, name, later, rfl, alike, boundary⟩)
    · refine ⟨⟨names, prefix_rfl, sameNames_comm alike⟩, ?_⟩
      rw [← alike.length_eq, getElem?_eq_none (Nat.le_refl _)]
      nofun
    · exact ⟨⟨[], prefix_rfl, .nil⟩, nofun⟩
    · refine ⟨⟨front, prefix_append _ _, sameNames_comm alike⟩, ?_⟩
      rw [← alike.length_eq, getElem?_append_right (Nat.le_refl _),
        Nat.sub_self, getElem?_cons_zero]
      rintro _ ⟨⟩
      exact boundary
  · rintro ⟨⟨inside, ⟨rest, rfl⟩, alike⟩, reaches⟩
    cases rest with
    | nil =>
      rw [append_nil]
      exact .inl (sameNames_comm alike)
    | cons name later =>
      refine .inr (.inr ⟨inside, name, later, rfl, sameNames_comm alike, reaches name ?_⟩)
      rw [alike.length_eq, getElem?_append_right (Nat.le_refl _), Nat.sub_self]
      rfl

theorem exists_inside
    (named : Named '/' names)
    (isPath : path.toList = Text.path '/' names)
    (isDirectory : Text.IsPath '/' directory.toList)
    (contains : Contains texts directory path) :
    ∃ inside, inside <+: names ∧
      inside.length = (pathComponents directory).length ∧
      texts.sameScalars directory.toList (Text.path '/' inside) := by
  obtain ⟨folders, folderNamed, isDirectory⟩ := isDirectory
  obtain ⟨inside, start, alike⟩ := contains
  rw [pathComponents, isPath, components_path named] at start
  refine ⟨inside, start, alike.length_eq.symm, ?_⟩
  rw [pathComponents, isDirectory, components_path folderNamed] at alike
  have insideNamed : Named '/' inside := fun name member => named name (start.subset member)
  rw [isDirectory]
  exact (same_path_iff compares folderNamed insideNamed).mpr alike

theorem count_eq (same : texts.sameScalars directory.toList text) :
    texts.count directory = (texts.segmentation.characters text).length := by
  rw [compares.characters] at same
  exact same.length_eq

end

theorem length_characters_folder (names : List (List Char)) :
    (texts.segmentation.characters (Text.path '/' names)).length ≤
      (texts.segmentation.characters (folder '/' names)).length := by
  unfold path folder
  split
  · rename_i empty
    rw [empty]
    exact Nat.le_refl _
  · exact Segmentation.length_characters_concat _ _

theorem count_lt
    (compares : texts.ComparesPaths)
    {path directory deeper : String}
    (isPath : IsPath '/' path.toList)
    (isDirectory : IsPath '/' directory.toList)
    (isDeeper : IsPath '/' deeper.toList)
    (contains : Contains texts directory path)
    (deeperContains : Contains texts deeper path)
    (reaches : Reaches texts directory path)
    (more :
      (pathComponents directory).length < (pathComponents deeper).length) :
    texts.count directory < texts.count deeper := by
  obtain ⟨names, named, isPath⟩ := isPath
  obtain ⟨inside, start, length, same⟩ :=
    exists_inside compares named isPath isDirectory contains
  obtain ⟨deeperInside, deeperStart, deeperLength, deeperSame⟩ :=
    exists_inside compares named isPath isDeeper deeperContains
  rw [← length, ← deeperLength] at more
  obtain ⟨rest, rfl⟩ := prefix_of_prefix_length_le start deeperStart (Nat.le_of_lt more)
  cases rest with
  | nil => simp at more
  | cons name later =>
    have member : name ∈ names := deeperStart.subset (by simp)
    obtain ⟨scalar, rest, rfl⟩ := exists_cons_of_ne_nil (named name member).1
    -- The scalar after the folder starts a character.
    have boundary : texts.segmentation.attaches scalar = false := by
      refine reaches (scalar :: rest) ?_ scalar rfl
      obtain ⟨others, rfl⟩ := deeperStart
      rw [pathComponents, isPath, components_path named, ← length,
        append_assoc, getElem?_append_right (Nat.le_refl _),
        Nat.sub_self]
      rfl
    have ends : (folder '/' inside).reverse = '/' :: (slashed '/' inside).reverse := by
      simp [folder]
    rw [count_eq compares same, count_eq compares deeperSame, path_append, cons_append]
    refine (length_characters_folder inside).trans_lt ?_
    refine Segmentation.length_characters_lt (by simp [folder]) ?_
    rw [ends, texts.segmentation.joins_of_printable (by decide)]
    exact boundary

theorem same_of_contains
    (compares : texts.ComparesPaths)
    {path directory other : String}
    (isPath : IsPath '/' path.toList)
    (isDirectory : IsPath '/' directory.toList)
    (isOther : IsPath '/' other.toList)
    (contains : Contains texts directory path)
    (otherContains : Contains texts other path)
    (equal :
      (pathComponents directory).length = (pathComponents other).length) :
    texts.same directory other = true := by
  obtain ⟨names, named, isPath⟩ := isPath
  obtain ⟨inside, start, length, same⟩ :=
    exists_inside compares named isPath isDirectory contains
  obtain ⟨otherInside, otherStart, otherLength, otherSame⟩ :=
    exists_inside compares named isPath isOther otherContains
  have whole : inside = otherInside := by
    rw [prefix_iff_eq_take.mp start, prefix_iff_eq_take.mp otherStart,
      length, otherLength, equal]
  rw [whole] at same
  simp only [Texts.sameScalars, Texts.same, String.ofList_toList, beq_iff_eq]
    at same otherSame ⊢
  rw [same, otherSame]

end Names

section Rules

variable {routing : AccountRoutingConfiguration} {path : String}

variable {knownAccountIDs : List UUID} {rule : DirectoryAccountRule}

/-- Different rules of a valid configuration have different folders. -/
theorem apart_of_ne
    {other : DirectoryAccountRule}
    (valid : routing.Valid texts knownAccountIDs)
    (member : rule ∈ routing.directoryRules)
    (otherMember : other ∈ routing.directoryRules)
    (different : other ≠ rule) :
    texts.same other.directory rule.directory = false := by
  have symmetric : Std.Symm fun first second : DirectoryAccountRule =>
      texts.same first.directory second.directory = false :=
    ⟨fun first second apart => by rw [texts.same_comm]; exact apart⟩
  exact valid.directories.forall otherMember member different

theorem eq_of_directory
    {other : DirectoryAccountRule}
    (valid : routing.Valid texts knownAccountIDs)
    (member : rule ∈ routing.directoryRules)
    (otherMember : other ∈ routing.directoryRules)
    (same : other.directory = rule.directory) :
    other = rule := by
  by_contra different
  have apart := apart_of_ne valid member otherMember different
  rw [same, texts.same_self] at apart
  cases apart

theorem exists_isDeepest
    (compares : texts.ComparesPaths)
    (valid : routing.Valid texts knownAccountIDs)
    (isPath : IsPath '/' path.toList)
    (member : rule ∈ routing.directoryRules)
    (contains : Contains texts rule.directory path) :
    ∃ deepest, IsDeepest texts routing path deepest := by
  classical
  let holders := routing.directoryRules.filter fun rule => Contains texts rule.directory path
  cases most : holders.argmax fun rule => (pathComponents rule.directory).length with
  | none =>
    have inside : rule ∈ holders := mem_filter.mpr ⟨member, by simpa⟩
    rw [argmax_eq_none.mp most] at inside
    exact absurd inside not_mem_nil
  | some deepest =>
    obtain ⟨deepestMember, holds⟩ := mem_filter.mp (argmax_mem most)
    have deepestContains : Contains texts deepest.directory path := by simpa using holds
    refine ⟨deepest, deepestMember, deepestContains, ?_⟩
    intro other otherMember otherContains different
    have held : other ∈ holders := mem_filter.mpr ⟨otherMember, by simpa⟩
    have less := le_of_mem_argmax held most
    refine Nat.lt_of_le_of_ne less fun equal => ?_
    have same := same_of_contains compares isPath
      (compares.standard (valid.directory other otherMember))
      (compares.standard (valid.directory deepest deepestMember)) otherContains
      deepestContains equal
    rw [apart_of_ne valid deepestMember otherMember different] at same
    cases same

theorem isDeepest_iff (valid : routing.Valid texts knownAccountIDs) :
    IsDeepest texts routing path rule ↔ rule ∈ routing.directoryRules ∧
      Deepest texts routing.folders path rule.directory := by
  refine and_congr_right fun member => ?_
  constructor
  · rintro ⟨contains, least⟩
    refine ⟨mem_map_of_mem member, contains, fun folder listed holds different => ?_⟩
    obtain ⟨other, otherMember, rfl⟩ := mem_map.mp listed
    exact least other otherMember holds fun same => different (by rw [same])
  · rintro ⟨-, contains, least⟩
    refine ⟨contains, fun other otherMember holds different => ?_⟩
    exact least other.directory (mem_map_of_mem otherMember) holds fun same =>
      different (eq_of_directory valid member otherMember same)

theorem of_matching
    (compares : texts.ComparesPaths)
    (valid : routing.Valid texts knownAccountIDs)
    (isPath : IsPath '/' path.toList)
    (matched : matching texts path routing = some rule) :
    rule ∈ routing.directoryRules ∧ Contains texts rule.directory path ∧
      Reaches texts rule.directory path := by
  obtain ⟨member, applies⟩ := mem_filter.mp (argmax_mem matched)
  exact ⟨member, (applies_iff compares isPath
    (compares.standard (valid.directory rule member))).mp applies⟩

/-- The rule that is picked is the deepest one of those that are reached. -/
theorem matching_eq_some_iff
    (compares : texts.ComparesPaths)
    (valid : routing.Valid texts knownAccountIDs)
    (isPath : IsPath '/' path.toList) :
    matching texts path routing = some rule ↔ rule ∈ routing.directoryRules ∧
      Found texts routing.folders path rule.directory := by
  have standard : ∀ rule ∈ routing.directoryRules, IsPath '/' rule.directory.toList :=
    fun rule member => compares.standard (valid.directory rule member)
  constructor
  · intro matched
    obtain ⟨member, contains, reaches⟩ := of_matching compares valid isPath matched
    refine ⟨member, mem_map_of_mem member, ⟨contains, reaches⟩, ?_⟩
    rintro folder listed ⟨holds, reached⟩ different
    obtain ⟨other, otherMember, rfl⟩ := mem_map.mp listed
    have candidate : other ∈ routing.directoryRules.filter fun rule =>
        applies texts path rule.directory :=
      mem_filter.mpr ⟨otherMember,
        (applies_iff compares isPath (standard other otherMember)).mpr ⟨holds, reached⟩⟩
    have most := le_of_mem_argmax candidate matched
    by_contra deeper
    rcases Nat.lt_or_eq_of_le (Nat.not_lt.mp deeper) with more | equal
    · have fewer := count_lt compares isPath (standard rule member)
        (standard other otherMember)
        contains holds reaches more
      exact absurd most (Nat.not_le.mpr fewer)
    · have same := same_of_contains compares isPath (standard other otherMember)
        (standard rule member) holds contains equal.symm
      rw [apart_of_ne valid member otherMember fun same => different (by rw [same])] at same
      cases same
  · rintro ⟨member, -, ⟨contains, reaches⟩, least⟩
    have candidate : rule ∈ routing.directoryRules.filter fun rule =>
        applies texts path rule.directory :=
      mem_filter.mpr ⟨member,
        (applies_iff compares isPath (standard rule member)).mpr ⟨contains, reaches⟩⟩
    cases matched : matching texts path routing with
    | none =>
      rw [argmax_eq_none.mp matched] at candidate
      exact absurd candidate not_mem_nil
    | some found =>
      by_contra different
      obtain ⟨foundMember, holds, reached⟩ := of_matching compares valid isPath matched
      have fewer := least found.directory (mem_map_of_mem foundMember) ⟨holds, reached⟩
        fun same => different (by rw [eq_of_directory valid member foundMember same])
      have count := count_lt compares isPath (standard found foundMember)
        (standard rule member)
        holds contains reached fewer
      exact absurd (le_of_mem_argmax candidate matched) (Nat.not_le.mpr count)

theorem matching_of_deepest
    (compares : texts.ComparesPaths)
    (valid : routing.Valid texts knownAccountIDs)
    (isPath : IsPath '/' path.toList)
    (deepest : IsDeepest texts routing path rule)
    (reaches : Reaches texts rule.directory path) :
    matching texts path routing = some rule := by
  obtain ⟨member, listed, contains, least⟩ := (isDeepest_iff valid).mp deepest
  refine (matching_eq_some_iff compares valid isPath).mpr
    ⟨member, listed, ⟨contains, reaches⟩, ?_⟩
  exact fun other listed holds => least other listed holds.1

end Rules

end RouterDirectory

/-- The rule of a path is the deepest one that contains it, exactly if the path
does not go on with a combining scalar after the folder of this rule. -/
theorem matching_is_deepest_iff
    (texts : Texts)
    (compares : texts.ComparesPaths)
    (routing : AccountRoutingConfiguration)
    (knownAccountIDs : List UUID)
    (validated : routing.validate texts knownAccountIDs = .ok ())
    (path : String)
    (canonical : IsPath '/' path.toList) :
    (match RouterDirectory.matching texts path routing with
      | some rule => RouterDirectory.IsDeepest texts routing path rule
      | none => ∀ rule ∈ routing.directoryRules,
          ¬ RouterDirectory.Contains texts rule.directory path) ↔
      ∀ rule, RouterDirectory.IsDeepest texts routing path rule →
        RouterDirectory.Reaches texts rule.directory path := by
  have valid :=
    (AccountRoutingConfiguration.validate_eq_ok routing knownAccountIDs).mp
    validated
  constructor
  · intro returned rule deepest
    cases matched : RouterDirectory.matching texts path routing with
    | none =>
      rw [matched] at returned
      exact absurd deepest.2.1 (returned rule deepest.1)
    | some found =>
      rw [matched] at returned
      have same := (((RouterDirectory.isDeepest_iff valid).mp deepest).2).unique
        ((RouterDirectory.isDeepest_iff valid).mp returned).2
      rw [same]
      exact (RouterDirectory.of_matching compares valid canonical matched).2.2
  · intro reaches
    -- If any rule contains the path, the deepest one reaches it and matches.
    by_cases contained : ∃ rule ∈ routing.directoryRules,
        RouterDirectory.Contains texts rule.directory path
    · obtain ⟨rule, member, contains⟩ := contained
      obtain ⟨deepest, isDeepest⟩ := RouterDirectory.exists_isDeepest compares
        valid canonical member contains
      rw [RouterDirectory.matching_of_deepest compares valid canonical isDeepest
        (reaches deepest isDeepest)]
      exact isDeepest
    · cases matched : RouterDirectory.matching texts path routing with
      | none => exact fun rule member contains => contained ⟨rule, member, contains⟩
      | some rule =>
        obtain ⟨member, contains, -⟩ :=
          RouterDirectory.of_matching compares valid canonical matched
        exact absurd ⟨rule, member, contains⟩ contained

/-- Texts that are compared by their scalars, with paths in standard form. -/
def Texts.folders : Texts :=
  { plain with
    standardized := fun path => String.ofList (Text.path '/' (pathComponents path)) }

theorem Texts.folders_sameScalars {first second : List Char} :
    folders.sameScalars first second ↔ first = second := by
  have equal : folders.sameScalars first second ↔
      String.ofList first = String.ofList second := beq_iff_eq
  rw [equal]
  refine ⟨fun same => ?_, congrArg _⟩
  simpa using congrArg String.toList same

theorem Texts.folders_comparesPaths : folders.ComparesPaths := by
  have same : folders.sameScalars = Eq := by
    funext first second
    exact propext folders_sameScalars
  refine ⟨?_, ?_, ?_, ?_⟩
  · intro first second
    rw [same, forall₂_eq_eq_eq]
    refine ⟨congrArg _, fun equal => ?_⟩
    simpa using congrArg flatten equal
  · intro first second
    rw [same, forall₂_eq_eq_eq]
    refine ⟨congrArg _, fun equal => ?_⟩
    have joined : ['/'].intercalate (first.splitOn '/') = first := intercalate_splitOn '/'
    rw [← joined, equal, intercalate_splitOn]
  · intro text empty
    rwa [same] at empty
  · intro directory isDirectory
    refine ⟨pathComponents directory, Text.named_components _, ?_⟩
    have standard : String.ofList (Text.path '/' (pathComponents directory)) = directory :=
      beq_iff_eq.mp (Bool.and_eq_true_iff.mp isDirectory).2
    simpa using congrArg String.toList standard.symm

/-- A rule for the folder with the given path. -/
def DirectoryAccountRule.plain (bits : BitVec 128) (directory : String) :
    DirectoryAccountRule :=
  ⟨⟨bits⟩, directory, []⟩

/-- The folder is the deepest one that contains its file. -/
theorem nested_folder_is_deepest :
    RouterDirectory.IsDeepest folders
      ⟨[], [.plain 0 "/", .plain 1 "/a"]⟩ "/a/b" (.plain 1 "/a") := by
  have names : pathComponents "/a/b" = ["a".toList, "b".toList] := by decide +kernel
  have returned := (matching_is_deepest_iff folders
    folders_comparesPaths ⟨[], [.plain 0 "/", .plain 1 "/a"]⟩ []
    rfl "/a/b"
    ⟨["a".toList, "b".toList], by unfold Text.Named; decide, by decide +kernel⟩).mpr (by
      intro rule _ name member scalar first
      have inside := mem_of_getElem? member
      rw [names] at inside
      rcases mem_pair.mp inside with rfl | rfl <;> cases first <;> rfl)
  exact returned

/-- A name that starts with a combining scalar hides the rule of its folder. -/
theorem combining_name_hides_rule :
    AccountRoutingConfiguration.validate folders ⟨[], [.plain 0 "/a"]⟩ [] =
        .ok () ∧
      Text.IsPath '/' "/a/\u0301b".toList ∧
      RouterDirectory.matching folders "/a/\u0301b" ⟨[], [.plain 0 "/a"]⟩ =
        none ∧
      RouterDirectory.Contains folders "/a" "/a/\u0301b" := by
  refine ⟨rfl, ?_, rfl, ?_⟩
  · exact ⟨["a".toList, "\u0301b".toList], by unfold Text.Named; decide, by decide +kernel⟩
  · exact ⟨["a".toList], by decide +kernel, by decide +kernel⟩

end Turnrail
