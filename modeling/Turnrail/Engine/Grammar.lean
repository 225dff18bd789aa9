import Turnrail.Engine.EntryPoint

/-!
# The grammar of the command line

The router compares characters and the grammar compares scalars.  A list that is
a command line for one of the two is one for both exactly if it is plain where
the router looks: at the values of options, at the equals signs of options, at
the flags after the entry point and at the transport.
-/

namespace Turnrail

open List TextReading

namespace RouterEngineObserver

variable (segmentation : Text.Segmentation)

/-- A beginning is followed by a combining scalar. -/
def Followed (start argument : String) : Prop :=
  ∃ next rest, argument.toList = start.toList ++ next :: rest ∧
    segmentation.attaches next = true

/-- The equals sign at the end follows a prepended mark. -/
def Marked (argument : String) : Prop :=
  ∃ front last, argument.toList = front ++ [last, '='] ∧ segmentation.prepends last = true

/-- How the arguments begin that the router looks for. -/
def beginnings : List String :=
  ["--startup-client-info=", "--print-startup-config=", "--listen=", "--config=",
    "--enable=", "--disable="]

/-- Beginnings of flags of the startup command. -/
def startupBeginnings : List String :=
  ["--startup-client-info=", "--print-startup-config="]

/-- Beginnings of options with a value. -/
def valuedBeginnings : List String :=
  ["--config=", "--enable=", "--disable=", "--startup-client-info="]

/-- An option with its value, or another argument than the entry point. -/
def Shaped (valued item : List String) : Prop :=
  (∃ option ∈ valued, ∃ value, item = [option, value]) ∨
    ∃ argument, argument ∉ valued ∧ argument ≠ "app-server" ∧ item = [argument]

/-- The dash of a value is not combined, and neither is the equals sign of an
option. -/
structure PlainItem (names item : List String) : Prop where
  value : ∀ option value, item = [option, value] → ¬Followed segmentation "-" value
  joined : ∀ argument, item = [argument] → ∀ start ∈ names,
    ¬Followed segmentation start argument ∧
      (start.toList <+: argument.toList → ¬Marked segmentation argument)

/-- The options before the entry point and the arguments after it are plain where
the router looks at them. -/
structure Plain (before : List (List String)) (rest : List String) : Prop where
  options : ∀ item ∈ before, PlainItem segmentation general.joined item
  flags : ∀ argument ∈ rest, ∀ start ∈ startupBeginnings,
    ¬Followed segmentation start argument
  startup : ∀ after : List (List String), rest = after.flatten →
    (∀ item ∈ after, Shaped startupValued item) →
    ["--print-startup-config"] ∈ after →
      ∀ item ∈ after, PlainItem segmentation valuedBeginnings item
  transport : (∀ argument ∈ rest, isStartup .scalars argument = false) →
    ∀ argument ∈ rest, ¬Followed segmentation "--listen=" argument

/-- A command line of one of the two kinds. -/
def Command (reading : TextReading) (arguments : List String) : Prop :=
  StartupCommand reading arguments ∨ SessionCommand reading arguments

/-- A command line is accepted as its grammar says. -/
structure Correct (arguments : List String) : Prop where
  startup : entryPoint (.characters segmentation) arguments =
      .ok .startupConfiguration ↔ StartupCommand .scalars arguments
  session : entryPoint (.characters segmentation) arguments = .ok .appServer ↔
    SessionCommand .scalars arguments
  refused : ¬ StartupCommand .scalars arguments → ¬ SessionCommand .scalars arguments →
    ∃ error, entryPoint (.characters segmentation) arguments = .error error

section Comparison

variable {segmentation} {start argument : String} {arguments : List String}

theorem characters_starts
    {front : List Char}
    {last : Char}
    (ends : start.toList = front ++ [last])
    (printable : Text.Printable last) :
    (characters segmentation).starts argument start = true ↔
      start.toList <+: argument.toList ∧
      ¬ Followed segmentation start argument := by
  have same : (characters segmentation).starts argument start =
      segmentation.hasPrefix argument start := rfl
  rw [same, Text.Segmentation.hasPrefix_iff ends printable]
  constructor
  · rintro ⟨rest, split, apart⟩
    refine ⟨⟨rest, split.symm⟩, ?_⟩
    rintro ⟨next, more, again, joined⟩
    rw [split, append_cancel_left_eq] at again
    rw [apart next (by rw [again]; rfl)] at joined
    cases joined
  · rintro ⟨⟨rest, split⟩, apart⟩
    refine ⟨rest, split.symm, fun next member => ?_⟩
    rw [Bool.eq_false_iff]
    intro joined
    cases rest with
    | nil => cases member
    | cons first more =>
      cases member
      exact apart ⟨next, more, split.symm, joined⟩

theorem starts_of_mem (member : start ∈ beginnings) :
    (characters segmentation).starts argument start = true ↔
      start.toList <+: argument.toList ∧
      ¬ Followed segmentation start argument := by
  have ends : ∀ start ∈ beginnings, start.toList = start.toList.dropLast ++ ['='] := by decide
  exact characters_starts (ends start member) (by decide)

theorem starts_dash :
    (characters segmentation).starts argument "-" = true ↔
      "-".toList <+: argument.toList ∧ ¬ Followed segmentation "-" argument :=
  @characters_starts segmentation "-" argument [] '-' rfl (by decide)

theorem ends_equals :
    (characters segmentation).ends argument "=" = true ↔
      "=".toList <:+ argument.toList ∧ ¬ Marked segmentation argument := by
  have same : (characters segmentation).ends argument "=" =
      segmentation.hasSuffix argument "=" := rfl
  rw [same, @Text.Segmentation.hasSuffix_iff segmentation argument "=" '=' [] rfl
    (Text.printable_of_all (by decide))]
  constructor
  · rintro ⟨front, split, apart⟩
    refine ⟨⟨front, split.symm⟩, ?_⟩
    rintro ⟨before, last, again, joined⟩
    have equal : front = before ++ [last] := by
      refine append_cancel_right (split.symm.trans (again.trans ?_))
      simp
    rw [apart last (by simp [equal])] at joined
    cases joined
  · rintro ⟨⟨front, split⟩, apart⟩
    refine ⟨front, split.symm, fun last member => ?_⟩
    rw [Bool.eq_false_iff]
    intro joined
    obtain ⟨before, rfl⟩ := getLast?_eq_some_iff.mp member
    refine apart ⟨before, last, ?_, joined⟩
    rw [← split]
    simp

theorem scalars_starts :
    scalars.starts argument start = true ↔
      start.toList <+: argument.toList := isPrefixOf_iff_prefix

theorem scalars_ends :
    scalars.ends argument start = true ↔
      start.toList <:+ argument.toList := isSuffixOf_iff_suffix

/-- An argument has one beginning at most. -/
theorem beginning_unique
    {other : String}
    (member : start ∈ beginnings)
    (member' : other ∈ beginnings)
    (begins : start.toList <+: argument.toList)
    (begins' : other.toList <+: argument.toList) :
    other = start := by
  have apart : ∀ first ∈ beginnings, ∀ second ∈ beginnings,
      first.toList <+: second.toList → second = first := by
    decide
  rcases Nat.le_total start.toList.length other.toList.length with shorter | longer
  · exact apart start member other member' (prefix_of_prefix_length_le begins begins' shorter)
  · exact (apart other member' start member
      (prefix_of_prefix_length_le begins' begins longer)).symm

theorem Followed.begins (followed : Followed segmentation start argument) :
    start.toList <+: argument.toList := by
  obtain ⟨next, rest, split, -⟩ := followed
  exact ⟨next :: rest, split.symm⟩

theorem Marked.ends (marked : Marked segmentation argument) :
    "=".toList <:+ argument.toList := by
  obtain ⟨front, last, split, -⟩ := marked
  exact ⟨front ++ [last], by rw [split]; simp⟩

variable {options options' : Options} {reading : TextReading} {item names : List String}

theorem isJoined_iff :
    options.isJoined reading argument = true ↔
      ∃ start ∈ options.joined, reading.starts argument start = true :=
  any_eq_true

/-- The words of options are words of the command line. -/
structure Options.Named (options : Options) (names : List String) : Prop where
  joined : options.joined = names
  known : names ⊆ valuedBeginnings
  valued : options.valued ⊆ startupValued
  switches : options.switches ⊆ (startup .scalars).switches

theorem general_named : general.Named general.joined :=
  ⟨rfl, by decide, by decide, by decide⟩

theorem startup_named (reading : TextReading) :
    (startup reading).Named valuedBeginnings :=
  ⟨startup_joined, Subset.refl _, Subset.refl _, Subset.refl _⟩

theorem Options.Named.mem_beginnings
    (named : options.Named names)
    (member : start ∈ names) :
    start ∈ beginnings := by
  have all : ∀ start ∈ valuedBeginnings, start ∈ beginnings := by decide
  exact all start (named.known member)

/-- What begins like an option is no other word of the command line. -/
theorem not_begins_word
    {word : String}
    (member : start ∈ beginnings)
    (known :
      word ∈ "app-server" :: startupValued ++ (startup .scalars).switches) :
    ¬start.toList <+: word.toList := by
  have apart : ∀ start ∈ beginnings,
      ∀ word ∈ "app-server" :: startupValued ++ (startup .scalars).switches,
      ¬start.toList <+: word.toList := by
    decide
  exact apart start member word known

theorem shaped_of_item
    (named : options.Named names)
    (reads : Item reading options item) :
    Shaped options.valued item := by
  cases reads with
  | value known => exact .inl ⟨_, known, _, rfl⟩
  | @joined argument begins =>
    rw [isJoined_iff, named.joined] at begins
    obtain ⟨start, member, starts⟩ := begins
    have away := @not_begins_word start argument (named.mem_beginnings member)
    refine .inr ⟨argument, fun valued => ?_, ?_, rfl⟩
    · exact away (by simp [named.valued valued]) (reading.starts_sound starts)
    · rintro rfl
      exact away (by simp) (reading.starts_sound starts)
  | @switch option known =>
    have apart : ∀ word ∈ (startup .scalars).switches,
        word ∉ startupValued ∧ word ≠ "app-server" := by
      decide
    obtain ⟨unvalued, other⟩ := apart option (named.switches known)
    exact .inr ⟨option, mt (@named.valued option) unvalued, other, rfl⟩

/-- A plain item is one for the characters exactly if it is one for the
scalars. -/
theorem PlainItem.item_iff
    (plain : PlainItem segmentation names item)
    (named : options.Named names)
    (named' : options'.Named names)
    (valued : options.valued = options'.valued)
    (switches : options.switches = options'.switches) :
    Item (.characters segmentation) options item ↔
      Item .scalars options' item := by
  constructor
  · rintro (⟨known, undashed⟩ | ⟨begins, filled⟩ | ⟨known⟩)
    · refine .value (valued ▸ known) ?_
      rw [Bool.eq_false_iff, ne_eq, starts_dash] at undashed
      rw [Bool.eq_false_iff, ne_eq, scalars_starts]
      exact fun dashed => undashed ⟨dashed, plain.value _ _ rfl⟩
    · rw [isJoined_iff, named.joined] at begins
      obtain ⟨start, member, starts⟩ := begins
      have leads := ((starts_of_mem (named.mem_beginnings member)).mp starts).1
      refine .joined (isJoined_iff.mpr ⟨start, named'.joined ▸ member,
        scalars_starts.mpr leads⟩) ?_
      rw [Bool.eq_false_iff, ne_eq, ends_equals] at filled
      rw [Bool.eq_false_iff, ne_eq, scalars_ends]
      exact fun ends => filled ⟨ends, (plain.joined _ rfl start member).2 leads⟩
    · exact .switch (switches ▸ known)
  · rintro (⟨known, undashed⟩ | ⟨begins, filled⟩ | ⟨known⟩)
    · refine .value (valued ▸ known) ?_
      rw [Bool.eq_false_iff, ne_eq, scalars_starts] at undashed
      rw [Bool.eq_false_iff, ne_eq, starts_dash]
      exact fun dashed => undashed dashed.1
    · rw [isJoined_iff, named'.joined] at begins
      obtain ⟨start, member, starts⟩ := begins
      refine .joined (isJoined_iff.mpr ⟨start, named.joined ▸ member,
        (starts_of_mem (named.mem_beginnings member)).mpr
          ⟨scalars_starts.mp starts, (plain.joined _ rfl start member).1⟩⟩) ?_
      rw [Bool.eq_false_iff, ne_eq, scalars_ends] at filled
      rw [Bool.eq_false_iff, ne_eq, ends_equals]
      exact fun ends => filled ends.1
    · exact .switch (switches ▸ known)

/-- An item for both is plain. -/
theorem plainItem_of_items
    (named : options.Named names)
    (named' : options'.Named names)
    (one : Item (.characters segmentation) options item)
    (other : Item .scalars options' item) :
    PlainItem segmentation names item where
  value option value same := by
    subst same
    cases other with
    | value _ undashed =>
      intro followed
      rw [scalars_starts.mpr followed.begins] at undashed
      cases undashed
  joined argument same start member := by
    subst same
    have begun := named.mem_beginnings member
    refine ⟨fun followed => ?_, fun begins marked => ?_⟩
    · cases one with
      | joined begins =>
        rw [isJoined_iff, named.joined] at begins
        obtain ⟨again, member', starts⟩ := begins
        obtain ⟨leads, apart⟩ := (starts_of_mem (named.mem_beginnings member')).mp starts
        rw [beginning_unique begun
          (named.mem_beginnings member') followed.begins leads] at apart
        exact apart followed
      | switch known =>
        exact not_begins_word begun (by simp [named.switches known]) followed.begins
    · cases other with
      | joined _ filled =>
        rw [scalars_ends.mpr marked.ends] at filled
        cases filled
      | switch known => exact not_begins_word begun (by simp [named'.switches known]) begins

variable {before other after : List (List String)} {left right rest valued : List String}

/-- A list is read as options in one way. -/
theorem flatten_unique
    (shaped : ∀ item ∈ before, Shaped valued item)
    (shaped' : ∀ item ∈ other, Shaped valued item)
    (entry : "app-server" ∉ valued)
    (ends : ∀ first ∈ left.head?, first = "app-server")
    (ends' : ∀ first ∈ right.head?, first = "app-server")
    (same : before.flatten ++ left = other.flatten ++ right) :
    before = other ∧ left = right := by
  have inside : ∀ {item rest tail : List String} {last : List String}, Shaped valued item →
      (∀ first ∈ last.head?, first = "app-server") → item ++ rest ++ tail ≠ last := by
    rintro item rest tail last (⟨option, known, value, rfl⟩
      | ⟨argument, -, away, rfl⟩) heads rfl
    · exact entry (heads option rfl ▸ known)
    · exact away (heads argument rfl)
  induction before generalizing other with
  | nil =>
    cases other with
    | nil => exact ⟨rfl, same⟩
    | cons item rest =>
      exact absurd same.symm (inside (shaped' item mem_cons_self) ends)
  | cons item rest ih =>
    obtain ⟨first, later⟩ := forall_mem_cons.mp shaped
    cases other with
    | nil => exact absurd same (inside first ends')
    | cons item' rest' =>
      obtain ⟨first', later'⟩ := forall_mem_cons.mp shaped'
      have equal : item = item' ∧ rest.flatten ++ left = rest'.flatten ++ right := by
        rcases first with ⟨option, known, value, rfl⟩ | ⟨argument, unvalued, -, rfl⟩ <;>
          rcases first' with ⟨option', known', value', rfl⟩
            | ⟨argument', unvalued', -, rfl⟩ <;>
          simp only [flatten_cons, cons_append, nil_append, cons.injEq] at same
        · obtain ⟨rfl, rfl, tails⟩ := same
          exact ⟨rfl, tails⟩
        · exact absurd (same.1 ▸ known) unvalued'
        · exact absurd (same.1 ▸ known') unvalued
        · obtain ⟨rfl, tails⟩ := same
          exact ⟨rfl, tails⟩
      obtain ⟨rfl, tails⟩ := equal
      obtain ⟨rfl, ends⟩ := ih later later' tails
      exact ⟨rfl, ends⟩

theorem isStartup_eq
    (plain :
      ∀ start ∈ startupBeginnings, ¬Followed segmentation start argument) :
    isStartup (.characters segmentation) argument =
      isStartup .scalars argument := by
  have same : ∀ start ∈ startupBeginnings,
      (characters segmentation).starts argument start =
        scalars.starts argument start := by
    intro start member
    have known : ∀ start ∈ startupBeginnings, start ∈ beginnings := by decide
    rw [Bool.eq_iff_iff, starts_of_mem (known start member), scalars_starts]
    exact and_iff_left (plain start member)
  rw [isStartup, isStartup, same _ (by simp [startupBeginnings]),
    same _ (by simp [startupBeginnings])]

theorem standard_iff
    (plain : ∀ argument ∈ arguments, ¬Followed segmentation "--listen=" argument) :
    Standard (.characters segmentation) arguments ↔ Standard .scalars arguments := by
  unfold Standard
  refine and_congr Iff.rfl (forall₂_congr fun argument member => ?_)
  rw [starts_of_mem (by simp [beginnings]), scalars_starts,
    and_iff_left (plain argument member)]

theorem Plain.general_iff (plain : Plain segmentation before rest) :
    (∀ item ∈ before, Item (.characters segmentation) general item) ↔
      ∀ item ∈ before, Item .scalars general item :=
  forall₂_congr fun item member =>
    (plain.options item member).item_iff general_named general_named rfl rfl

theorem startup_iff_of_plain
    (plain : Plain segmentation before after.flatten)
    (shaped : ∀ item ∈ after, Shaped startupValued item)
    (prints : ["--print-startup-config"] ∈ after) :
    (∀ item ∈ after,
        Item (.characters segmentation) (startup (.characters segmentation)) item) ↔
      ∀ item ∈ after, Item .scalars (startup .scalars) item :=
  forall₂_congr fun item member =>
    (plain.startup after rfl shaped prints item member).item_iff (startup_named _)
      (startup_named _) rfl rfl

/-- Whatever is plain where the router looks is the same command line for the
characters and for the scalars. -/
theorem commands_iff_of_plain
    (plain : ∀ before rest, arguments = before.flatten ++ "app-server" :: rest →
      (∀ item ∈ before, Shaped general.valued item) →
      Plain segmentation before rest) :
    (StartupCommand (.characters segmentation) arguments ↔
        StartupCommand .scalars arguments) ∧
      (SessionCommand (.characters segmentation) arguments ↔
        SessionCommand .scalars arguments) := by
  refine ⟨⟨?_, ?_⟩, ?_, ?_⟩
  · rintro ⟨before, after, split, each, known, prints⟩
    have there := plain before _ split fun item member =>
      shaped_of_item general_named (each item member)
    have shaped := fun item member => shaped_of_item (startup_named _) (known item member)
    exact ⟨before, after, split, there.general_iff.mp each,
      (startup_iff_of_plain there shaped prints).mp known, prints⟩
  · rintro ⟨before, after, split, each, known, prints⟩
    have there := plain before _ split fun item member =>
      shaped_of_item general_named (each item member)
    have shaped := fun item member => shaped_of_item (startup_named _) (known item member)
    exact ⟨before, after, split, there.general_iff.mpr each,
      (startup_iff_of_plain there shaped prints).mpr known, prints⟩
  · rintro ⟨before, rest, split, each, quiet, standard⟩
    have there := plain before rest split fun item member =>
      shaped_of_item general_named (each item member)
    have silent : ∀ argument ∈ rest, isStartup .scalars argument = false :=
      fun argument member => isStartup_eq (there.flags argument member) ▸ quiet argument member
    exact ⟨before, rest, split, there.general_iff.mp each, silent,
      (standard_iff (there.transport silent)).mp standard⟩
  · rintro ⟨before, rest, split, each, silent, standard⟩
    have there := plain before rest split fun item member =>
      shaped_of_item general_named (each item member)
    refine ⟨before, rest, split, there.general_iff.mpr each, fun argument member => ?_,
      (standard_iff (there.transport silent)).mpr standard⟩
    rw [isStartup_eq (there.flags argument member)]
    exact silent argument member

/-- Options for both readings are read in one way. -/
theorem shaped_unique
    (named : options.Named names)
    (each : ∀ item ∈ before, Item reading options item)
    (shaped : ∀ item ∈ other, Shaped options.valued item)
    (ends : ∀ first ∈ left.head?, first = "app-server")
    (ends' : ∀ first ∈ right.head?, first = "app-server")
    (same : before.flatten ++ left = other.flatten ++ right) :
    before = other ∧ left = right := by
  refine flatten_unique (fun item member => shaped_of_item named (each item member)) shaped
    (fun entry => ?_) ends ends' same
  exact absurd (named.valued entry) (by decide)

/-- No flag of the startup command is combined in an item for both. -/
theorem not_followed_of_items
    (one :
      Item (.characters segmentation) (startup (.characters segmentation)) item)
    (other : Item .scalars (startup .scalars) item)
    (member : argument ∈ item)
    (known : start ∈ startupBeginnings) :
    ¬Followed segmentation start argument := by
  intro followed
  have plain := plainItem_of_items (startup_named _) (startup_named _) one other
  have begun : start ∈ beginnings := by
    have all : ∀ start ∈ startupBeginnings, start ∈ beginnings := by decide
    exact all start known
  cases other with
  | @value option value valued undashed =>
    rcases mem_pair.mp member with rfl | rfl
    · have word : argument ∈ startupValued := valued
      exact not_begins_word begun (by simp [word]) followed.begins
    · have dash : ∀ start ∈ startupBeginnings, "-".toList <+: start.toList := by decide
      rw [scalars_starts.mpr ((dash start known).trans followed.begins)] at undashed
      cases undashed
  | joined begins =>
    obtain rfl := mem_singleton.mp member
    rw [isJoined_iff, (startup_named _).joined] at begins
    obtain ⟨again, member', starts⟩ := begins
    obtain rfl := beginning_unique begun ((startup_named .scalars).mem_beginnings member')
      followed.begins (scalars_starts.mp starts)
    exact (plain.joined _ rfl _ member').1 followed
  | switch switched =>
    obtain rfl := mem_singleton.mp member
    exact not_begins_word begun (by simp [switched]) followed.begins

theorem plain_of_startup
    (one : StartupCommand (.characters segmentation) arguments)
    (two : StartupCommand .scalars arguments)
    (split : arguments = before.flatten ++ "app-server" :: rest)
    (shaped : ∀ item ∈ before, Shaped general.valued item) :
    Plain segmentation before rest := by
  obtain ⟨_, after, first, each, known, prints⟩ := one
  obtain ⟨_, again, second, each', known', prints'⟩ := two
  obtain ⟨rfl, same⟩ := shaped_unique general_named each shaped (by simp) (by simp)
    (first.symm.trans split)
  obtain ⟨rfl, same'⟩ := shaped_unique general_named each' shaped (by simp) (by simp)
    (second.symm.trans split)
  obtain rfl : after.flatten = rest := (cons.inj same).2
  have shaped' := fun item member => shaped_of_item (startup_named _) (known' item member)
  obtain ⟨rfl, -⟩ := shaped_unique (startup_named _) known shaped' (by simp) (by simp)
    (congrArg (· ++ []) (cons.inj same').2.symm)
  refine ⟨fun item member => ?_, fun argument member start begins => ?_, ?_, fun quiet => ?_⟩
  · exact plainItem_of_items general_named general_named (each item member) (each' item member)
  · obtain ⟨item, listed, inside⟩ := mem_flatten.mp member
    exact not_followed_of_items (known item listed) (known' item listed) inside begins
  · intro other equal shaped _ item member
    obtain ⟨rfl, -⟩ := shaped_unique (startup_named _) known shaped (by simp) (by simp)
      (congrArg (· ++ []) equal)
    exact plainItem_of_items (startup_named _) (startup_named _) (known item member)
      (known' item member)
  · have flag := quiet "--print-startup-config" (mem_flatten_of_mem prints mem_cons_self)
    exact absurd flag (by decide)

theorem plain_of_session
    (one : SessionCommand (.characters segmentation) arguments)
    (two : SessionCommand .scalars arguments)
    (split : arguments = before.flatten ++ "app-server" :: rest)
    (shaped : ∀ item ∈ before, Shaped general.valued item) :
    Plain segmentation before rest := by
  obtain ⟨_, _, first, each, -, -⟩ := one
  obtain ⟨_, _, second, each', quiet, standard⟩ := two
  obtain ⟨rfl, -⟩ := shaped_unique general_named each shaped (by simp) (by simp)
    (first.symm.trans split)
  obtain ⟨rfl, same⟩ := shaped_unique general_named each' shaped (by simp) (by simp)
    (second.symm.trans split)
  cases same
  refine ⟨fun item member => ?_, fun argument member start known followed => ?_, ?_, ?_⟩
  · exact plainItem_of_items general_named general_named (each item member) (each' item member)
  · have flag := quiet argument member
    rcases mem_pair.mp known with rfl | rfl <;>
      simp [isStartup, scalars_starts.mpr followed.begins] at flag
  · rintro after rfl - prints
    have flag := quiet "--print-startup-config"
      (mem_flatten_of_mem prints mem_cons_self)
    exact absurd flag (by decide)
  · intro _ argument member followed
    have same := standard.2 argument member (scalars_starts.mpr followed.begins)
    obtain ⟨next, others, parts, joined⟩ := followed
    rw [same] at parts
    have scalar : next = 's' := by
      have heads := congrArg (fun scalars => (scalars.drop 9).head?) parts
      simpa using heads.symm
    rw [scalar, segmentation.attaches_printable (by decide)] at joined
    cases joined

theorem correct_iff (other : arguments ∉ informationFlags) :
    Correct segmentation arguments ↔
      (StartupCommand (.characters segmentation) arguments ↔
          StartupCommand .scalars arguments) ∧
        (SessionCommand (.characters segmentation) arguments ↔
          SessionCommand .scalars arguments) := by
  rw [← entryPoint_eq_startup other, ← entryPoint_eq_session other]
  refine ⟨fun correct => ⟨correct.startup, correct.session⟩, fun ⟨startup, session⟩ =>
    ⟨startup, session, fun noStartup noSession => ?_⟩⟩
  cases enters : entryPoint (.characters segmentation) arguments with
  | error error => exact ⟨error, rfl⟩
  | ok result =>
    cases result with
    | information => exact absurd enters (entryPoint_ne_information other)
    | startupConfiguration => exact absurd (startup.mp enters) noStartup
    | appServer => exact absurd (session.mp enters) noSession

end Comparison

/-- A list of arguments is accepted as its grammar says if and only if it is no
command line for the characters and none for the scalars, or it is plain at
every place where the router looks. -/
theorem entry_points_accept_their_grammar
    (segmentation : Text.Segmentation)
    (arguments : List String)
    (other : arguments ∉ informationFlags) :
    Correct segmentation arguments ↔
      (Command (.characters segmentation) arguments ∨
          Command .scalars arguments →
        ∀ before rest,
          arguments = before.flatten ++ "app-server" :: rest →
          (∀ item ∈ before, Shaped general.valued item) →
          Plain segmentation before rest) := by
  rw [correct_iff other]
  constructor
  · rintro ⟨startup, session⟩ command before rest split shaped
    rcases command with (one | one) | two | two
    · exact plain_of_startup one (startup.mp one) split shaped
    · exact plain_of_session one (session.mp one) split shaped
    · exact plain_of_startup (startup.mpr two) two split shaped
    · exact plain_of_session (session.mpr two) two split shaped
  · intro plain
    by_cases command : Command (.characters segmentation) arguments ∨
      Command .scalars arguments
    · exact commands_iff_of_plain (plain command)
    · obtain ⟨none, none'⟩ := not_or.mp command
      obtain ⟨startup, session⟩ := not_or.mp none
      obtain ⟨startup', session'⟩ := not_or.mp none'
      exact ⟨iff_of_false startup startup', iff_of_false session session'⟩

/-- A combined dash does no harm where the router does not look for a dash. -/
theorem combined_dash_after_entry_is_correct :
    Correct Text.diacritics ["-c", "x", "app-server", "-\u0301"] := by
  refine (entry_points_accept_their_grammar Text.diacritics _ (by decide)).mpr
    fun _ before rest split shaped => ?_
  have option : ∀ item ∈ [["-c", "x"]], Shaped general.valued item := by
    simpa using .inl ⟨"-c", by decide, "x", rfl⟩
  obtain ⟨rfl, same⟩ := flatten_unique option shaped (by decide) (by simp) (by simp) split
  cases same
  have apart : ∀ start ∈ "--listen=" :: startupBeginnings,
      ¬start.toList <+: "-\u0301".toList := by decide
  refine ⟨fun item member => ?_, fun argument member start known followed => ?_, ?_, ?_⟩
  · obtain rfl := mem_singleton.mp member
    refine ⟨fun option value same followed => ?_, fun argument same => by simp at same⟩
    cases same
    exact absurd followed.begins (by decide)
  · obtain rfl := mem_singleton.mp member
    exact apart start (mem_cons_of_mem _ known) followed.begins
  · intro after same _ prints
    have listed : "--print-startup-config" ∈ ["-\u0301"] :=
      same ▸ mem_flatten_of_mem prints mem_cons_self
    exact absurd listed (by decide)
  · intro _ argument member followed
    obtain rfl := mem_singleton.mp member
    exact apart _ mem_cons_self followed.begins

/-- A value that starts with a combined dash is accepted although it starts with
a dash. -/
theorem combined_dash_is_accepted :
    entryPoint (.characters Text.diacritics) ["-c", "-\u0301", "app-server"] =
        .ok .appServer ∧
      ¬ SessionCommand .scalars ["-c", "-\u0301", "app-server"] := by
  have refused : entryPoint .scalars ["-c", "-\u0301", "app-server"] =
      .error general.missing := by rfl
  refine ⟨by rfl, ?_⟩
  rw [← entryPoint_eq_session (by decide), refused]
  exact nofun

end RouterEngineObserver

end Turnrail
