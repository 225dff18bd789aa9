import Turnrail.Foundation

/-!
# The entry points of the command line

The router stands in for the official Engine.  It accepts the entry point of a
session with the desktop and the command that prints the startup configuration,
and it refuses everything else.

The router compares characters with the beginnings and the ends of arguments.
The grammar is about scalars.  How arguments are read is a parameter here, so
that both can be compared.
-/

namespace Turnrail

open List

/-- How the start and the end of a text are read. -/
structure TextReading where
  starts : String → String → Bool
  ends : String → String → Bool
  starts_sound : ∀ {text start}, starts text start = true → start.toList <+: text.toList
  starts_printable : ∀ {text start}, (∀ scalar ∈ text.toList, Text.Printable scalar) →
    start.toList ≠ [] → start.toList <+: text.toList → starts text start = true

namespace TextReading

/-- A text is read by characters. -/
def characters (segmentation : Text.Segmentation) : TextReading where
  starts := segmentation.hasPrefix
  ends := segmentation.hasSuffix
  starts_sound {text start} begins := by
    obtain ⟨back, split⟩ := isPrefixOf_iff_prefix.mp begins
    have same := congrArg flatten split
    rw [flatten_append, Text.Segmentation.flatten_characters,
      Text.Segmentation.flatten_characters] at same
    exact ⟨back.flatten, same⟩
  starts_printable {text start} printable filled begins := by
    obtain ⟨rest, same⟩ := begins
    rcases eq_nil_or_concat start.toList with empty | ⟨front, last, ends⟩
    · exact absurd empty filled
    · rw [concat_eq_append] at ends
      refine (Text.Segmentation.hasPrefix_iff ends (printable last ?_)).mpr
        ⟨rest, same.symm, fun next member => ?_⟩
      · rw [← same, ends]
        simp
      · refine segmentation.attaches_printable (printable next ?_)
        rw [← same]
        exact mem_append_right _ (mem_of_mem_head? member)

/-- A text is read by scalars. -/
def scalars : TextReading where
  starts text start := start.toList.isPrefixOf text.toList
  ends text ending := ending.toList.isSuffixOf text.toList
  starts_sound := isPrefixOf_iff_prefix.mp
  starts_printable _ _ := isPrefixOf_iff_prefix.mpr

end TextReading

namespace RouterEngineObserver

/-- What the Engine is started for. -/
inductive EntryPoint
  | information
  | startupConfiguration
  | appServer
deriving DecidableEq

/-- The options of a command. -/
structure Options where
  valued : List String
  joined : List String
  switches : List String
  missing : RouterFailure

variable (reading : TextReading)

/-- The options before the entry point. -/
def general : Options where
  valued := ["-c", "--config", "--enable", "--disable"]
  joined := ["--config=", "--enable=", "--disable="]
  switches := ["--strict-config"]
  missing := ⟨"Missing official Engine option value."⟩

/-- The options with a value in a startup command. -/
def startupValued : List String :=
  ["-c", "--config", "--enable", "--disable", "--startup-client-info"]

/-- The options of a startup command. -/
def startup : Options where
  valued := startupValued
  joined := (startupValued.filter (reading.starts · "--")).map (· ++ "=")
  switches := ["--print-startup-config", "--analytics-default-enabled",
    "--strict-config", "--startup-sign-out"]
  missing := ⟨"Missing official startup option value."⟩

/-- An argument joins an option and its value. -/
def Options.isJoined (options : Options) (argument : String) : Bool :=
  options.joined.any (reading.starts argument)

/-- Split the options off some arguments. -/
def Options.read (options : Options) :
    List String → Except RouterFailure (List (List String) × List String)
  | [] => .ok ([], [])
  | option :: rest =>
    if options.valued.contains option then
      match rest with
      | [] => .error options.missing
      | value :: rest =>
        if reading.starts value "-" then .error options.missing
        else do
          let (items, left) ← options.read rest
          return ([option, value] :: items, left)
    else if options.isJoined reading option then
      if reading.ends option "=" then .error options.missing
      else do
        let (items, left) ← options.read rest
        return ([option] :: items, left)
    else if options.switches.contains option then do
      let (items, left) ← options.read rest
      return ([option] :: items, left)
    else .ok ([], option :: rest)

/-- Admit the command that prints the startup configuration. -/
def validateCommand (arguments : List String) : Except RouterFailure Unit := do
  let (items, left) ← (startup reading).read reading arguments
  if !left.isEmpty then
    .error ⟨"The startup command only supports organization policy checks."⟩
  else if items.contains ["--print-startup-config"] then .ok ()
  else .error ⟨"The startup command must print the official configuration."⟩

/-- An argument of a startup command. -/
def isStartup (argument : String) : Bool :=
  ["--print-startup-config", "--startup-client-info", "--startup-sign-out"].contains
      argument ||
    reading.starts argument "--startup-client-info=" ||
    reading.starts argument "--print-startup-config="

/-- Refuse every transport but the standard streams. -/
def checkTransport : List String → Except RouterFailure Unit
  | [] => .ok ()
  | option :: rest =>
    if option == "--listen" then
      if rest.head? == some "stdio://" then checkTransport rest
      else .error ⟨"Turnrail requires stdio transport."⟩
    else if reading.starts option "--listen=" && option != "--listen=stdio://" then
      .error ⟨"Turnrail requires stdio transport."⟩
    else checkTransport rest

/-- The arguments that ask for information. -/
def informationFlags : List (List String) :=
  [["--version"], ["-V"], ["--help"], ["-h"]]

/-- What arguments start the Engine for. -/
def entryPoint (arguments : List String) : Except RouterFailure EntryPoint :=
  if informationFlags.contains arguments then .ok .information
  else do
    let (_, left) ← general.read reading arguments
    match left with
    | [] => .error ⟨"Missing official Engine entry point."⟩
    | value :: options =>
      if value != "app-server" then
        .error ⟨"Turnrail requires the official app-server entry point."⟩
      else if options.any (isStartup reading) then do
        validateCommand reading options
        return .startupConfiguration
      else do
        checkTransport reading options
        return .appServer

/-- An option with its value. -/
inductive Item (options : Options) : List String → Prop
  | value {option value : String}
      (known : option ∈ options.valued)
      (plain : reading.starts value "-" = false) : Item options [option, value]
  | joined {argument : String}
      (known : options.isJoined reading argument = true)
      (filled : reading.ends argument "=" = false) : Item options [argument]
  | switch {option : String}
      (known : option ∈ options.switches) : Item options [option]

/-- Arguments that print the startup configuration. -/
def StartupCommand (arguments : List String) : Prop :=
  ∃ before after : List (List String),
    arguments = before.flatten ++ "app-server" :: after.flatten ∧
    (∀ item ∈ before, Item reading general item) ∧
    (∀ item ∈ after, Item reading (startup reading) item) ∧
    ["--print-startup-config"] ∈ after

/-- Only the standard streams are used. -/
def Standard (arguments : List String) : Prop :=
  (∀ front back, arguments = front ++ "--listen" :: back →
    back.head? = some "stdio://") ∧
  ∀ argument ∈ arguments, reading.starts argument "--listen=" = true →
    argument = "--listen=stdio://"

/-- Arguments that start a session. -/
def SessionCommand (arguments : List String) : Prop :=
  ∃ (before : List (List String)) (rest : List String),
    arguments = before.flatten ++ "app-server" :: rest ∧
    (∀ item ∈ before, Item reading general item) ∧
    (∀ argument ∈ rest, isStartup reading argument = false) ∧
    Standard reading rest

section Specification

variable {reading} {options : Options} {arguments left : List String}
variable {items : List (List String)}

/-- The kinds of options exclude each other. -/
structure Options.Apart (reading : TextReading) (options : Options) : Prop where
  joined : ∀ option ∈ options.valued, options.isJoined reading option = false
  switches : ∀ option ∈ options.switches,
    option ∉ options.valued ∧ options.isJoined reading option = false

/-- An argument that is no option. -/
structure Options.Foreign (reading : TextReading) (options : Options)
    (argument : String) : Prop where
  valued : argument ∉ options.valued
  joined : options.isJoined reading argument = false
  switches : argument ∉ options.switches

/-- Some arguments are options and the rest starts with none. -/
structure Options.Splits (reading : TextReading) (options : Options)
    (arguments : List String) (items : List (List String)) (left : List String) : Prop where
  arguments : arguments = items.flatten ++ left
  items : ∀ item ∈ items, Item reading options item
  left : ∀ first ∈ left.head?, options.Foreign reading first

theorem Options.Splits.cons
    {item : List String}
    (first : Item reading options item)
    (rest : options.Splits reading arguments items left) :
    options.Splits reading (item ++ arguments) (item :: items) left where
  arguments := by rw [rest.arguments, flatten_cons, append_assoc]
  items := forall_mem_cons.mpr ⟨first, rest.items⟩
  left := rest.left

theorem splits_of_read
    (reads : options.read reading arguments = .ok (items, left)) :
    options.Splits reading arguments items left := by
  fun_induction Options.read reading options arguments generalizing items with
  | case1 =>
    cases reads
    exact ⟨rfl, by simp, by simp⟩
  | case2 | case3 => cases reads
  | case4 option known value rest plain ih =>
    obtain ⟨⟨later, remaining⟩, read, same⟩ := bind_eq_ok.mp reads
    cases same
    exact (ih read).cons (.value (contains_iff_mem.mp known) (Bool.eq_false_iff.mpr plain))
  | case5 => cases reads
  | case6 option rest _ known filled ih =>
    obtain ⟨⟨later, remaining⟩, read, same⟩ := bind_eq_ok.mp reads
    cases same
    exact (ih read).cons (.joined known (Bool.eq_false_iff.mpr filled))
  | case7 option rest _ _ known ih =>
    obtain ⟨⟨later, remaining⟩, read, same⟩ := bind_eq_ok.mp reads
    cases same
    exact (ih read).cons (.switch (contains_iff_mem.mp known))
  | case8 option rest unvalued unjoined unswitched =>
    cases reads
    refine ⟨rfl, by simp, ?_⟩
    rintro first ⟨⟩
    exact ⟨mt contains_iff_mem.mpr unvalued, Bool.eq_false_iff.mpr unjoined,
      mt contains_iff_mem.mpr unswitched⟩

variable {option : String} {rest : List String}

theorem read_unvalued (unvalued : option ∉ options.valued) :
    options.read reading (option :: rest) =
      if options.isJoined reading option then
        if reading.ends option "=" then .error options.missing
        else do
          let (items, left) ← options.read reading rest
          return ([option] :: items, left)
      else if options.switches.contains option then do
        let (items, left) ← options.read reading rest
        return ([option] :: items, left)
      else .ok ([], option :: rest) := by
  rw [Options.read.eq_def]
  dsimp only
  rw [if_neg (mt contains_iff_mem.mp unvalued)]

theorem read_foreign
    (foreign : ∀ first ∈ left.head?, options.Foreign reading first) :
    options.read reading left = .ok ([], left) := by
  cases left with
  | nil => rfl
  | cons first rest =>
    have other := foreign first rfl
    rw [read_unvalued other.valued, if_neg (Bool.eq_false_iff.mp other.joined),
      if_neg (mt contains_iff_mem.mp other.switches)]

theorem read_of_splits
    (apart : options.Apart reading)
    (splits : options.Splits reading arguments items left) :
    options.read reading arguments = .ok (items, left) := by
  obtain ⟨rfl, each, foreign⟩ := splits
  induction items with
  | nil => exact read_foreign foreign
  | cons item rest ih =>
    obtain ⟨first, later⟩ := forall_mem_cons.mp each
    have next := ih later
    rw [flatten_cons, append_assoc]
    cases first with
    | value known plain =>
      rw [cons_append, singleton_append, Options.read,
        if_pos (contains_iff_mem.mpr known)]
      dsimp only
      rw [if_neg (Bool.eq_false_iff.mp plain), next]
      rfl
    | @joined argument known filled =>
      have unvalued : argument ∉ options.valued := by
        intro member
        rw [apart.joined argument member] at known
        cases known
      rw [singleton_append, read_unvalued unvalued, if_pos known,
        if_neg (Bool.eq_false_iff.mp filled), next]
      rfl
    | @switch option known =>
      obtain ⟨unvalued, unjoined⟩ := apart.switches option known
      rw [singleton_append, read_unvalued unvalued, if_neg (Bool.eq_false_iff.mp unjoined),
        if_pos (contains_iff_mem.mpr known), next]
      rfl

theorem isJoined_eq_false
    {argument : String}
    (absent : ∀ start ∈ options.joined, ¬ start.toList <+: argument.toList) :
    options.isJoined reading argument = false := by
  rw [Bool.eq_false_iff]
  intro joined
  obtain ⟨start, member, begins⟩ := any_eq_true.mp joined
  exact absent start member (reading.starts_sound begins)

theorem startup_joined :
    (startup reading).joined =
      ["--config=", "--enable=", "--disable=", "--startup-client-info="] := by
  have short : reading.starts "-c" "--" = false := by
    rw [Bool.eq_false_iff]
    intro begins
    exact absurd (reading.starts_sound begins) (by decide)
  have long : ∀ name ∈ ["--config", "--enable", "--disable",
      "--startup-client-info"], reading.starts name "--" = true := by
    intro name member
    refine reading.starts_printable (Text.printable_of_all ?_) (by decide) ?_
    · revert name
      decide
    · revert name
      decide
  have config := long "--config" (by simp)
  have enable := long "--enable" (by simp)
  have disable := long "--disable" (by simp)
  have client := long "--startup-client-info" (by simp)
  simp only [startup, startupValued, filter_cons, filter_nil, short, config,
    enable, disable, client, if_true, Bool.false_eq_true, if_false, map_cons,
    map_nil]
  rfl

theorem general_apart : general.Apart reading where
  joined option member := isJoined_eq_false (by
    revert option
    decide)
  switches option member := by
    refine ⟨?_, isJoined_eq_false ?_⟩
    · revert option
      decide
    · revert option
      decide

theorem startup_apart : (startup reading).Apart reading where
  joined option member := isJoined_eq_false (by
    rw [startup_joined]
    revert option
    change ∀ option ∈ startupValued, _
    decide)
  switches option member := by
    refine ⟨?_, isJoined_eq_false ?_⟩
    · revert option
      change ∀ option ∈ ["--print-startup-config", "--analytics-default-enabled",
        "--strict-config", "--startup-sign-out"], option ∉ startupValued
      decide
    · rw [startup_joined]
      revert option
      change ∀ option ∈ ["--print-startup-config", "--analytics-default-enabled",
        "--strict-config", "--startup-sign-out"], _
      decide

theorem foreign_entry : general.Foreign reading "app-server" where
  valued := by decide
  joined := isJoined_eq_false (by decide)
  switches := by decide

theorem validateCommand_eq_ok :
    validateCommand reading arguments = .ok () ↔
      ∃ items : List (List String), arguments = items.flatten ∧
        (∀ item ∈ items, Item reading (startup reading) item) ∧
        ["--print-startup-config"] ∈ items := by
  constructor
  · intro valid
    obtain ⟨⟨items, left⟩, read, valid⟩ := bind_eq_ok.mp valid
    dsimp only at valid
    split at valid
    · cases valid
    · rename_i full
      split at valid
      · rename_i prints
        have splits := splits_of_read read
        cases left with
        | nil =>
          refine ⟨items, ?_, splits.items, contains_iff_mem.mp prints⟩
          rw [splits.arguments, append_nil]
        | cons => exact absurd rfl full
      · cases valid
  · rintro ⟨items, rfl, each, prints⟩
    have read : (startup reading).read reading items.flatten = .ok (items, []) :=
      read_of_splits startup_apart ⟨(append_nil _).symm, each, by simp⟩
    refine bind_eq_ok.mpr ⟨(items, []), read, ?_⟩
    dsimp only
    rw [if_neg (by decide), if_pos (contains_iff_mem.mpr prints)]

theorem standard_cons :
    Standard reading (option :: rest) ↔ (option = "--listen" → rest.head? = some "stdio://") ∧
      (reading.starts option "--listen=" = true → option = "--listen=stdio://") ∧
      Standard reading rest := by
  constructor
  · rintro ⟨followed, joined⟩
    refine ⟨?_, joined option mem_cons_self, ?_, ?_⟩
    · rintro rfl
      exact followed [] rest rfl
    · rintro front back rfl
      exact followed (option :: front) back rfl
    · exact fun argument member => joined argument (mem_cons_of_mem _ member)
  · rintro ⟨first, single, followed, joined⟩
    refine ⟨?_, forall_mem_cons.mpr ⟨single, joined⟩⟩
    intro front back split
    cases front with
    | nil =>
      cases split
      exact first rfl
    | cons other front =>
      obtain ⟨-, rfl⟩ := cons.inj split
      exact followed front back rfl

theorem checkTransport_eq_ok :
    checkTransport reading arguments = .ok () ↔ Standard reading arguments := by
  induction arguments with
  | nil => simp [checkTransport, Standard]
  | cons option rest ih =>
    rw [checkTransport, standard_cons, ← ih]
    by_cases listens : option = "--listen"
    · subst listens
      have whole : reading.starts "--listen" "--listen=" = false := by
        rw [Bool.eq_false_iff]
        intro begins
        exact absurd (reading.starts_sound begins) (by decide)
      by_cases standard : rest.head? = some "stdio://"
      · simp [standard, whole]
      · simp [standard]
    · by_cases begins : reading.starts option "--listen=" = true
      · by_cases standard : option = "--listen=stdio://"
        · simp [standard]
        · simp [listens, begins, standard]
      · simp [listens, begins]

theorem contains_information (other : arguments ∉ informationFlags) :
    informationFlags.contains arguments = false := by
  rw [Bool.eq_false_iff]
  exact mt contains_iff_mem.mp other

theorem read_general
    {before : List (List String)}
    (each : ∀ item ∈ before, Item reading general item) :
    general.read reading (before.flatten ++ "app-server" :: rest) =
      .ok (before, "app-server" :: rest) := by
  refine read_of_splits general_apart ⟨rfl, each, ?_⟩
  rintro first ⟨⟩
  exact foreign_entry

theorem exists_of_entryPoint
    {result : EntryPoint}
    (other : arguments ∉ informationFlags)
    (enters : entryPoint reading arguments = .ok result) :
    ∃ (before : List (List String)) (rest : List String),
      arguments = before.flatten ++ "app-server" :: rest ∧
      ∀ item ∈ before, Item reading general item := by
  rw [entryPoint, contains_information other, if_neg (by decide)] at enters
  obtain ⟨⟨before, left⟩, read, enters⟩ := bind_eq_ok.mp enters
  have splits := splits_of_read read
  cases left with
  | nil => cases enters
  | cons value rest =>
    dsimp only at enters
    split at enters
    · cases enters
    · rename_i named
      have same : value = "app-server" := by simpa using named
      subst same
      exact ⟨before, rest, splits.arguments, splits.items⟩

theorem entryPoint_append
    {before : List (List String)}
    {rest : List String}
    (other : before.flatten ++ "app-server" :: rest ∉ informationFlags)
    (each : ∀ item ∈ before, Item reading general item) :
    entryPoint reading (before.flatten ++ "app-server" :: rest) =
      if rest.any (isStartup reading) then do
        validateCommand reading rest
        return .startupConfiguration
      else do
        checkTransport reading rest
        return .appServer := by
  rw [entryPoint, contains_information other, if_neg (by decide), read_general each]
  rfl

theorem entryPoint_eq_startup (other : arguments ∉ informationFlags) :
    entryPoint reading arguments = .ok .startupConfiguration ↔
      StartupCommand reading arguments := by
  constructor
  · intro enters
    obtain ⟨before, rest, rfl, each⟩ := exists_of_entryPoint other enters
    rw [entryPoint_append other each] at enters
    split at enters
    · obtain ⟨_, valid, -⟩ := bind_eq_ok.mp enters
      obtain ⟨after, rfl, known, prints⟩ := validateCommand_eq_ok.mp valid
      exact ⟨before, after, rfl, each, known, prints⟩
    · obtain ⟨_, -, same⟩ := bind_eq_ok.mp enters
      cases same
  · rintro ⟨before, after, rfl, each, known, prints⟩
    have starts : after.flatten.any (isStartup reading) = true :=
      any_eq_true.mpr ⟨"--print-startup-config",
        mem_flatten_of_mem prints mem_cons_self, rfl⟩
    rw [entryPoint_append other each, if_pos starts,
      validateCommand_eq_ok.mpr ⟨after, rfl, known, prints⟩]
    rfl

theorem entryPoint_eq_session (other : arguments ∉ informationFlags) :
    entryPoint reading arguments = .ok .appServer ↔
      SessionCommand reading arguments := by
  constructor
  · intro enters
    obtain ⟨before, rest, rfl, each⟩ := exists_of_entryPoint other enters
    rw [entryPoint_append other each] at enters
    split at enters
    · obtain ⟨_, -, same⟩ := bind_eq_ok.mp enters
      cases same
    · rename_i plain
      obtain ⟨_, valid, -⟩ := bind_eq_ok.mp enters
      refine ⟨before, rest, rfl, each, ?_, checkTransport_eq_ok.mp valid⟩
      exact fun argument member => Bool.eq_false_iff.mpr fun starts =>
        plain (any_eq_true.mpr ⟨argument, member, starts⟩)
  · rintro ⟨before, rest, rfl, each, plain, standard⟩
    have quiet : ¬ rest.any (isStartup reading) = true := by
      intro starts
      obtain ⟨argument, member, found⟩ := any_eq_true.mp starts
      rw [plain argument member] at found
      cases found
    rw [entryPoint_append other each, if_neg quiet, checkTransport_eq_ok.mpr standard]
    rfl

theorem entryPoint_ne_information (other : arguments ∉ informationFlags) :
    entryPoint reading arguments ≠ .ok .information := by
  intro enters
  obtain ⟨before, rest, rfl, each⟩ := exists_of_entryPoint other enters
  rw [entryPoint_append other each] at enters
  split at enters
  · obtain ⟨_, -, same⟩ := bind_eq_ok.mp enters
    cases same
  · obtain ⟨_, -, same⟩ := bind_eq_ok.mp enters
    cases same

end Specification

end RouterEngineObserver

end Turnrail
