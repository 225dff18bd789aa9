import Turnrail.Settings.Usage

/-!
# Numbers at the limit

The reader compares a number with the largest integer as a double, which is one
more than that integer.  Numbers whose nearest double is this one pass the
comparison and cannot be converted.  A response stops the process exactly if
such a number is read before anything else is wrong.
-/

namespace Turnrail

namespace AccountUsageProtocol

open Number Checks

variable {platform : Platform}

/-- The numbers whose nearest double is one more than the largest integer. -/
def AtLimit (number : Rat) : Prop :=
  2 ^ 63 - 512 ≤ number ∧ number ≤ 2 ^ 63 + 1024

/-- An integer field holds a number at the limit. -/
def Overflowing (value : Option Json) : Prop :=
  ∃ number, value = some (.number number) ∧ AtLimit number

/-- A number that is read as an integer. -/
def ReadsAs (value : Option Json) (integer : Int) : Prop :=
  ∃ number, value = some (.number number) ∧ binary64.rounded number = integer ∧
    -2 ^ 63 ≤ integer ∧ integer < 2 ^ 63

section Integers

variable {value : Option Json} {number : Rat} {integer : Int}

theorem rounded_eq_limit :
    binary64.rounded number = 2 ^ 63 ↔ AtLimit number := by
  have powers := @Format.rounded_eq_zpow_iff binary64 number 63 (by decide) (by decide)
  norm_num [binary64] at powers
  unfold AtLimit binary64
  norm_num
  exact powers

theorem toDouble_minimum : toDouble (-2 ^ 63) = -2 ^ 63 := by
  unfold toDouble
  push_cast
  exact_mod_cast @Format.rounded_neg_zpow binary64 63 (by decide)

theorem toDouble_maximum : toDouble (2 ^ 63 - 1) = 2 ^ 63 := by
  unfold toDouble
  push_cast
  rw [rounded_eq_limit]
  norm_num [AtLimit]

theorem requiredInteger_number :
    requiredInteger (some (.number number)) =
      if towardZero (binary64.rounded number) = binary64.rounded number ∧
          -2 ^ 63 ≤ binary64.rounded number ∧
          binary64.rounded number ≤ 2 ^ 63 then
        toInteger (binary64.rounded number)
      else .error (.thrown invalidResponse) := by
  rw [requiredInteger]
  unfold integer
  rw [Format.nearest]
  by_cases finite : |binary64.rounded number| < 2 ^ binary64.limit
  · rw [if_pos finite]
    dsimp only
    rw [toDouble_minimum, toDouble_maximum]
  · rw [if_neg finite]
    dsimp only
    rw [if_neg]
    rintro ⟨-, above, below⟩
    refine finite ((abs_le.mpr ⟨above, below⟩).trans_lt ?_)
    calc (2 : ℚ) ^ 63 = 2 ^ (63 : ℤ) := (zpow_ofNat 2 63).symm
      _ < 2 ^ binary64.limit := zpow_lt_zpow_right₀ one_lt_two (by decide)

theorem requiredInteger_eq_trap :
    requiredInteger value = .error .trap ↔ Overflowing value := by
  constructor
  · intro stops
    match value, stops with
    | some (.number number), stops =>
      rw [requiredInteger_number] at stops
      split at stops
      · rename_i accepted
        obtain ⟨-, above, below⟩ := accepted
        unfold toInteger at stops
        split at stops
        · cases stops
        · rename_i outside
          refine ⟨number, rfl, rounded_eq_limit.mp (le_antisymm below ?_)⟩
          by_contra smaller
          exact outside ⟨by linarith, not_le.mp smaller⟩
      · cases stops
  · rintro ⟨number, rfl, limit⟩
    rw [requiredInteger_number, rounded_eq_limit.mpr limit, if_pos, toInteger, if_neg]
    · simp
    · refine ⟨?_, by norm_num, le_rfl⟩
      have whole := towardZero_intCast (2 ^ (63 : ℕ))
      rw [Int.cast_pow, Int.cast_ofNat] at whole
      rw [whole, Int.cast_pow, Int.cast_ofNat]

theorem requiredInteger_eq_ok :
    requiredInteger value = .ok integer ↔ ReadsAs value integer := by
  constructor
  · intro reads
    match value, reads with
    | some (.number number), reads =>
      rw [requiredInteger_number] at reads
      split at reads
      · rename_i accepted
        obtain ⟨whole, above, -⟩ := accepted
        unfold toInteger at reads
        split at reads
        · rename_i inside
          cases reads
          refine ⟨number, rfl, whole.symm, ?_, ?_⟩
          · exact_mod_cast (whole ▸ above : (-2 ^ 63 : ℚ) ≤ _)
          · exact_mod_cast (whole ▸ inside.2 : _ < (2 ^ 63 : ℚ))
        · cases reads
      · cases reads
  · rintro ⟨number, rfl, whole, above, below⟩
    have above' : (-2 ^ 63 : ℚ) ≤ integer := by exact_mod_cast above
    have below' : (integer : ℚ) < 2 ^ 63 := by exact_mod_cast below
    rw [requiredInteger_number, whole, if_pos ⟨by simp, above', below'.le⟩, toInteger,
      if_pos ⟨by linarith, below'⟩, towardZero_intCast]

end Integers

/-- A field is missing. -/
def Absent (value : Option Json) : Prop :=
  value = none ∨ value = some .null

/-- A field is missing or a positive integer. -/
def OptionalPositive (value : Option Json) : Prop :=
  Absent value ∨ ∃ integer, ReadsAs value integer ∧ 0 < integer

/-- A field is missing or a text. -/
def OptionalText (value : Option Json) : Prop :=
  Absent value ∨ ∃ text, value = some (.string text)

/-- A window is missing or valid. -/
def ReadableWindow (value : Option Json) : Prop :=
  Absent value ∨ ∃ object : Object, value = some (.object object) ∧
    (∃ used, ReadsAs (object.get "usedPercent") used ∧ 0 ≤ used ∧ used ≤ 100) ∧
    OptionalPositive (object.get "windowDurationMins") ∧
    OptionalPositive (object.get "resetsAt")

/-- A window has a number at the limit, and what is read before is accepted. -/
def OverflowingWindow (value : Option Json) : Prop :=
  ∃ object : Object, value = some (.object object) ∧ (Overflowing (object.get "usedPercent") ∨
      (∃ used, ReadsAs (object.get "usedPercent") used) ∧
        (Overflowing (object.get "windowDurationMins") ∨
          OptionalPositive (object.get "windowDurationMins") ∧
            Overflowing (object.get "resetsAt")))

section Windows

variable {value : Option Json} {field : String} {object : Object}

@[simp] theorem attempt_ne_trap (outcome : Except UsageError α) :
    attempt outcome ≠ .error .trap := by
  cases outcome <;> simp [attempt, Except.mapError]

@[simp] theorem attempt_eq_ok
    {outcome : Except UsageError α}
    {result : α} :
    attempt outcome = .ok result ↔ outcome = .ok result :=
  mapError_eq_ok

theorem not_absent_of_overflowing (limit : Overflowing value) :
    ¬Absent value := by
  obtain ⟨number, rfl, -⟩ := limit
  simp [Absent]

theorem optionalPositiveInteger_of_present (present : ¬Absent value) :
    optionalPositiveInteger field value = (requiredInteger value >>= fun integer =>
      if 0 < integer then pure (some integer)
      else .error (.thrown (invalidUsage (field ++ " must be positive")))) := by
  match value with
  | none | some .null => simp [Absent] at present
  | some (.bool _) | some (.number _) | some (.string _) | some (.array _)
  | some (.object _) => rfl

theorem optionalPositiveInteger_of_absent (absent : Absent value) :
    optionalPositiveInteger field value = .ok none := by
  rcases absent with rfl | rfl <;> rfl

theorem optionalPositiveInteger_eq_trap :
    optionalPositiveInteger field value = .error .trap ↔ Overflowing value := by
  by_cases absent : Absent value
  · rw [optionalPositiveInteger_of_absent absent]
    refine iff_of_false (by simp) fun limit => ?_
    exact not_absent_of_overflowing limit absent
  · rw [optionalPositiveInteger_of_present absent, bind_eq_error, requiredInteger_eq_trap]
    refine ⟨?_, .inl⟩
    rintro (limit | ⟨integer, -, stops⟩)
    · exact limit
    · split at stops <;> cases stops

variable {result : Option Int}

theorem optionalPositiveInteger_eq_ok :
    optionalPositiveInteger field value = .ok result ↔
      (Absent value ∧ result = none) ∨ ∃ integer,
      ReadsAs value integer ∧ 0 < integer ∧ result = some integer := by
  by_cases absent : Absent value
  · rw [optionalPositiveInteger_of_absent absent]
    have unread : ∀ integer, ¬ReadsAs value integer := by
      rintro integer ⟨number, rfl, -⟩
      simp [Absent] at absent
    simp [absent, unread, eq_comm]
  · rw [optionalPositiveInteger_of_present absent, bind_eq_ok]
    simp only [requiredInteger_eq_ok, absent, false_and, false_or]
    refine exists_congr fun integer => and_congr_right fun _ => ?_
    by_cases positive : 0 < integer
    · simp [positive, pure, Except.pure, eq_comm]
    · simp [positive]

theorem exists_optionalPositiveInteger :
    (∃ result, optionalPositiveInteger field value = .ok result) ↔
      OptionalPositive value := by
  simp only [optionalPositiveInteger_eq_ok]
  constructor
  · rintro ⟨result, ⟨absent, -⟩ | ⟨integer, reads, positive, -⟩⟩
    · exact .inl absent
    · exact .inr ⟨integer, reads, positive⟩
  · rintro (absent | ⟨integer, reads, positive⟩)
    · exact ⟨none, .inl ⟨absent, rfl⟩⟩
    · exact ⟨some integer, .inr ⟨integer, reads, positive, rfl⟩⟩

theorem positive_of_optionalPositiveInteger
    (reads : optionalPositiveInteger field value = .ok result) :
    ∀ integer ∈ result, 0 < integer := by
  rcases optionalPositiveInteger_eq_ok.mp reads with
    ⟨-, rfl⟩ | ⟨integer, -, positive, rfl⟩
  · simp
  · simpa using positive

theorem toDouble_pos
    {integer : Int}
    (positive : 0 < integer) :
    0 < toDouble integer := by
  have large : (1 : ℚ) ≤ integer := by exact_mod_cast positive
  exact one_pos.trans_le (@Format.one_le_rounded binary64 _ (by decide) large)

theorem window_eq_trap :
    window object = .error .trap ↔ Overflowing (object.get "usedPercent") ∨
      (∃ used, ReadsAs (object.get "usedPercent") used) ∧
      (Overflowing (object.get "windowDurationMins") ∨
        OptionalPositive (object.get "windowDurationMins") ∧
        Overflowing (object.get "resetsAt")) := by
  unfold window
  simp only [bind_eq_error, requiredInteger_eq_trap, requiredInteger_eq_ok,
    optionalPositiveInteger_eq_trap, attempt_ne_trap, and_false, exists_const, or_false,
    exists_and_right, exists_optionalPositiveInteger]

theorem exists_create
    {used : Int}
    {duration resets : Option Int}
    (lasting : ∀ minutes ∈ duration, 0 < minutes)
    (ending : ∀ seconds ∈ resets, 0 < seconds) :
    (∃ result, AccountRateLimitWindow.create used duration
          (resets.map toDouble) = .ok result) ↔ 0 ≤ used ∧ used ≤ 100 := by
  have dates : ∀ date ∈ resets.map toDouble, 0 < date := by
    intro date member
    obtain ⟨seconds, inside, rfl⟩ := Option.mem_map.mp member
    exact toDouble_pos (ending seconds inside)
  unfold AccountRateLimitWindow.create
  by_cases percentage : 0 ≤ used ∧ used ≤ 100
  · rw [dif_pos percentage, dif_pos lasting, dif_pos dates]
    exact iff_of_true ⟨_, rfl⟩ percentage
  · rw [dif_neg percentage]
    exact iff_of_false (by simp) percentage

theorem exists_window :
    (∃ result, window object = .ok result) ↔
      (∃ used, ReadsAs (object.get "usedPercent") used ∧ 0 ≤ used ∧
        used ≤ 100) ∧ OptionalPositive (object.get "windowDurationMins") ∧
      OptionalPositive (object.get "resetsAt") := by
  unfold window
  simp only [bind_eq_ok, attempt_eq_ok, requiredInteger_eq_ok]
  constructor
  · rintro ⟨result, used, reads, duration, lasts, resets, ends, created⟩
    have percentage := (exists_create (positive_of_optionalPositiveInteger lasts)
      (positive_of_optionalPositiveInteger ends)).mp ⟨result, created⟩
    exact ⟨⟨used, reads, percentage⟩, exists_optionalPositiveInteger.mp ⟨duration, lasts⟩,
      exists_optionalPositiveInteger.mp ⟨resets, ends⟩⟩
  · rintro ⟨⟨used, reads, percentage⟩, lasting, ending⟩
    obtain ⟨duration, lasts⟩ := exists_optionalPositiveInteger.mpr lasting
    obtain ⟨resets, ends⟩ := exists_optionalPositiveInteger.mpr ending
    obtain ⟨result, created⟩ := (exists_create (positive_of_optionalPositiveInteger lasts)
      (positive_of_optionalPositiveInteger ends)).mpr percentage
    exact ⟨result, used, reads, duration, lasts, resets, ends, created⟩

variable {outcome : Except Stop α} {change : α → β}

theorem map_eq_trap :
    change <$> outcome = .error .trap ↔ outcome = .error .trap := by
  cases outcome <;> simp [Functor.map, Except.map]

theorem exists_map :
    (∃ result, change <$> outcome = .ok result) ↔
      ∃ result, outcome = .ok result := by
  cases outcome <;> simp [Functor.map, Except.map]

theorem optionalWindow_eq_trap :
    optionalWindow value = .error .trap ↔ OverflowingWindow value := by
  match value with
  | none | some .null | some (.bool _) | some (.number _) | some (.string _)
  | some (.array _) => simp [optionalWindow, OverflowingWindow]
  | some (.object object) =>
    simp [optionalWindow, OverflowingWindow, map_eq_trap, window_eq_trap]

theorem exists_optionalWindow :
    (∃ result, optionalWindow value = .ok result) ↔ ReadableWindow value := by
  match value with
  | none | some .null | some (.bool _) | some (.number _) | some (.string _)
  | some (.array _) => simp [optionalWindow, ReadableWindow, Absent]
  | some (.object object) =>
    simp [optionalWindow, ReadableWindow, Absent, exists_map, exists_window]

end Windows

/-- A limit with a readable name. -/
def Identified (platform : Platform) (explicitLimitID : Option String)
    (snapshot : Object) : Prop :=
  OptionalText (snapshot.get "limitId") ∧ ∀ key text, explicitLimitID = some key →
      snapshot.get "limitId" = some (.string text) →
      platform.texts.same key text = true

/-- A limit that can be read. -/
def ReadableBucket (platform : Platform) (explicitLimitID : Option String)
    (snapshot : Object) : Prop :=
  Identified platform explicitLimitID snapshot ∧ OptionalText (snapshot.get "limitName") ∧
    ReadableWindow (snapshot.get "primary") ∧ ReadableWindow (snapshot.get "secondary")

/-- A limit whose percentage is too large. -/
def OverflowingBucket (platform : Platform) (explicitLimitID : Option String)
    (snapshot : Object) : Prop :=
  Identified platform explicitLimitID snapshot ∧ OptionalText (snapshot.get "limitName") ∧
    (OverflowingWindow (snapshot.get "primary") ∨ ReadableWindow (snapshot.get "primary") ∧
        OverflowingWindow (snapshot.get "secondary"))

section Buckets

variable {value : Option Json} {snapshot : Object} {explicitLimitID : Option String}

theorem exists_optionalString :
    (∃ result, optionalString value = .ok result) ↔ OptionalText value := by
  rcases value with _ | value
  · simp [optionalString, OptionalText, Absent]
  · cases value <;> simp [optionalString, OptionalText, Absent]

theorem optionalString_eq_some
    {result : Option String}
    (reads : optionalString value = .ok result)
    (text : String) :
    result = some text ↔ value = some (.string text) := by
  match value, reads with
  | none, rfl | some .null, rfl => simp
  | some (.string found), rfl => simp

theorem exists_identifier :
    (∃ responseLimitID,
        optionalString (snapshot.get "limitId") = .ok responseLimitID ∧
        mismatched platform explicitLimitID responseLimitID = false) ↔
      Identified platform explicitLimitID snapshot := by
  unfold Identified
  rw [← exists_optionalString]
  constructor
  · rintro ⟨responseLimitID, reads, matching⟩
    refine ⟨⟨responseLimitID, reads⟩, ?_⟩
    rintro key text rfl held
    rw [(optionalString_eq_some reads text).mpr held] at matching
    simpa [mismatched] using matching
  · rintro ⟨⟨responseLimitID, reads⟩, matching⟩
    refine ⟨responseLimitID, reads, ?_⟩
    match explicitLimitID, responseLimitID, reads, matching with
    | none, _, _, _ => rfl
    | some _, none, _, _ => rfl
    | some key, some text, reads, matching =>
      simp [mismatched, matching key text rfl ((optionalString_eq_some reads text).mp rfl)]

variable {limitID : Option String}

theorem bucket_eq_trap :
    bucket snapshot limitID = .error .trap ↔
      OptionalText (snapshot.get "limitName") ∧
      (OverflowingWindow (snapshot.get "primary") ∨
        ReadableWindow (snapshot.get "primary") ∧
        OverflowingWindow (snapshot.get "secondary")) := by
  unfold bucket
  simp only [bind_eq_error, attempt_ne_trap, attempt_eq_ok, false_or,
    optionalWindow_eq_trap, pure, Except.pure, reduceCtorEq, and_false, exists_const,
    or_false, exists_and_right, exists_optionalString, exists_optionalWindow]

theorem exists_bucket :
    (∃ result, bucket snapshot limitID = .ok result) ↔
      OptionalText (snapshot.get "limitName") ∧
      ReadableWindow (snapshot.get "primary") ∧
      ReadableWindow (snapshot.get "secondary") := by
  rw [← exists_optionalString, ← exists_optionalWindow, ← exists_optionalWindow]
  unfold bucket
  simp only [bind_eq_ok, attempt_eq_ok, pure, Except.pure, Except.ok.injEq]
  constructor
  · rintro ⟨result, name, named, primary, first, secondary, second, -⟩
    exact ⟨⟨name, named⟩, ⟨primary, first⟩, secondary, second⟩
  · rintro ⟨⟨name, named⟩, ⟨primary, first⟩, secondary, second⟩
    exact ⟨_, name, named, primary, first, secondary, second, rfl⟩

theorem parseBucket_eq_trap :
    parseBucket platform snapshot explicitLimitID = .error .trap ↔
      OverflowingBucket platform explicitLimitID snapshot := by
  unfold OverflowingBucket parseBucket
  rw [← exists_identifier]
  simp only [bind_eq_error, attempt_ne_trap, attempt_eq_ok, false_or]
  constructor
  · rintro ⟨responseLimitID, reads, stops⟩
    split at stops
    · cases stops
    · rename_i matching
      exact ⟨⟨responseLimitID, reads, Bool.eq_false_iff.mpr matching⟩, bucket_eq_trap.mp stops⟩
  · rintro ⟨⟨responseLimitID, reads, matching⟩, limit⟩
    refine ⟨responseLimitID, reads, ?_⟩
    rw [if_neg (Bool.eq_false_iff.mp matching)]
    exact bucket_eq_trap.mpr limit

theorem exists_parseBucket :
    (∃ result, parseBucket platform snapshot explicitLimitID = .ok result) ↔
      ReadableBucket platform explicitLimitID snapshot := by
  unfold ReadableBucket parseBucket
  rw [← exists_identifier]
  simp only [bind_eq_ok, attempt_eq_ok]
  constructor
  · rintro ⟨result, responseLimitID, reads, passes⟩
    split at passes
    · cases passes
    · rename_i matching
      exact ⟨⟨responseLimitID, reads, Bool.eq_false_iff.mpr matching⟩,
        exists_bucket.mp ⟨result, passes⟩⟩
  · rintro ⟨⟨responseLimitID, reads, matching⟩, valid⟩
    obtain ⟨result, passes⟩ :=
      (@exists_bucket snapshot (explicitLimitID.or responseLimitID)).mpr valid
    refine ⟨result, responseLimitID, reads, ?_⟩
    rw [if_neg (Bool.eq_false_iff.mp matching)]
    exact passes

end Buckets

/-- The limits of a result have a number at the limit, and what is read before is
accepted. -/
def OverflowingResult (platform : Platform) (result : Object) : Prop :=
  ∃ historicalSnapshot : Object, result.get "rateLimits" = some (.object historicalSnapshot) ∧
    (∃ credits, parseResetCredits platform
        (result.get "rateLimitResetCredits") = .ok credits) ∧
    (Absent (result.get "rateLimitsByLimitId") ∧
        OverflowingBucket platform none historicalSnapshot ∨
      ∃ (earlier later : Object) (key : String) (snapshot : Object),
        result.get "rateLimitsByLimitId" =
          some (.object (earlier ++ (key, .object snapshot) :: later)) ∧
        (∀ field ∈ earlier, ∃ other, field.2 = .object other ∧
          ReadableBucket platform (some field.1) other) ∧
        OverflowingBucket platform (some key) snapshot)

/-- A response has a number at the limit, and what is read before is accepted. -/
def Overflows (platform : Platform) (line : String) : Prop :=
  ∃ object result : Object,
    platform.foundation.jsonObject (utf8 line) = some (.object object) ∧
    isReply platform (object.get "id") = true ∧
    (∀ error, object.get "error" ≠ some (.object error)) ∧
    object.get "result" = some (.object result) ∧ OverflowingResult platform result

section Responses

variable {object result : Object} {field : String × Json}

theorem parseEntry_eq_trap :
    parseEntry platform field = .error .trap ↔
      ∃ snapshot, field.2 = .object snapshot ∧
      OverflowingBucket platform (some field.1) snapshot := by
  obtain ⟨key, value⟩ := field
  cases value with
  | object snapshot => simp [parseEntry, parseBucket_eq_trap]
  | null | bool | number | string | array => simp [parseEntry]

theorem exists_parseEntry :
    (∃ bucket, parseEntry platform field = .ok bucket) ↔
      ∃ snapshot, field.2 = .object snapshot ∧
      ReadableBucket platform (some field.1) snapshot := by
  obtain ⟨key, value⟩ := field
  cases value with
  | object snapshot => simp [parseEntry, exists_parseBucket]
  | null | bool | number | string | array => simp [parseEntry]

theorem parseResult_eq_trap :
    parseResult platform result = .error .trap ↔
      OverflowingResult platform result := by
  unfold parseResult OverflowingResult
  match result.get "rateLimits" with
  | none | some .null | some (.bool _) | some (.number _) | some (.string _)
  | some (.array _) => simp
  | some (.object historicalSnapshot) =>
    simp only [bind_eq_error, attempt_ne_trap, attempt_eq_ok, false_or]
    match result.get "rateLimitsByLimitId" with
    | none | some .null => simp [bind_eq_error, parseBucket_eq_trap, Absent, pure, Except.pure]
    | some (.bool _) | some (.number _) | some (.string _) | some (.array _) => simp [Absent]
    | some (.object bucketValues) =>
      simp only [bind_eq_error, mapM_eq_error, exists_parseEntry, parseEntry_eq_trap,
        pure, Except.pure, reduceCtorEq, and_false, exists_const, or_false]
      constructor
      · rintro ⟨credits, accepted, earlier, ⟨key, value⟩, later, rfl, before,
          snapshot, held, limit⟩
        cases held
        exact ⟨historicalSnapshot, rfl, ⟨credits, accepted⟩,
          .inr ⟨earlier, later, key, snapshot, rfl, before, limit⟩⟩
      · rintro ⟨_, -, ⟨credits, accepted⟩, ⟨absent, -⟩ | ⟨earlier, later, key, snapshot,
          same, before, limit⟩⟩
        · simp [Absent] at absent
        · cases same
          exact ⟨credits, accepted, earlier, _, later, rfl, before, snapshot, rfl, limit⟩

theorem parseObject_eq_trap :
    parseObject platform object = .error .trap ↔
      isReply platform (object.get "id") = true ∧
      (∀ error, object.get "error" ≠ some (.object error)) ∧ ∃ result,
      object.get "result" = some (.object result) ∧
      OverflowingResult platform result := by
  unfold parseObject
  by_cases reply : isReply platform (object.get "id") = true
  · rw [if_pos reply]
    split
    · rename_i error held
      simp [bind_eq_error, held]
    · rename_i result held noError
      rw [parseResult_eq_trap]
      constructor
      · intro limit
        exact ⟨reply, fun error found => noError error found, result, held, limit⟩
      · rintro ⟨-, -, other, same, limit⟩
        cases held.symm.trans same
        exact limit
    · rename_i noError noResult
      refine iff_of_false (by simp) ?_
      rintro ⟨-, -, result, held, -⟩
      exact noResult result held
  · simp [reply]

theorem parseRateLimitsResponse_eq_trap {line : String} :
    parseRateLimitsResponse platform line = .error .trap ↔
      Overflows platform line := by
  unfold parseRateLimitsResponse Overflows
  cases platform.foundation.jsonObject (utf8 line) with
  | none => simp
  | some document =>
    cases document with
    | object object => simp [parseObject_eq_trap]
    | null | bool | number | string | array => simp

end Responses

/-- An error is thrown, or valid limits are returned. -/
def Safe (outcome : Except Stop AccountRateLimits) : Prop :=
  (∃ error, outcome = .error (.thrown error)) ∨ ∃ limits, outcome = .ok limits ∧
      ∀ bucket ∈ limits.buckets, ∀ window : AccountRateLimitWindow,
        bucket.primary = some window ∨ bucket.secondary = some window →
        0 ≤ window.usedPercent ∧ window.usedPercent ≤ 100 ∧
          (∀ minutes ∈ window.windowDurationMinutes, 0 < minutes) ∧
          ∀ date ∈ window.resetsAt, 0 < date

theorem safe_iff {outcome : Except Stop AccountRateLimits} :
    Safe outcome ↔ outcome ≠ .error .trap := by
  match outcome with
  | .error (.thrown error) => simp [Safe]
  | .error .trap => simp [Safe]
  | .ok limits =>
    refine iff_of_true (.inr ⟨limits, rfl, ?_⟩) (by simp)
    intro bucket _ window _
    exact ⟨window.percentage.1, window.percentage.2, window.lasting, window.ending⟩

/-- Reading a response throws an error or returns valid limits, unless a number at
the limit is read before anything else is wrong. -/
theorem usage_response_is_safe_iff
    (platform : Platform)
    (line : String) :
    Safe (parseRateLimitsResponse platform line) ↔
      ¬Overflows platform line := by
  rw [safe_iff, ne_eq, parseRateLimitsResponse_eq_trap]

namespace Sample

/-- A line with the largest integer. -/
def line : String :=
  "\x7b\"id\":3,\"result\":\x7b\"rateLimits\":\x7b\"primary\":" ++
    "\x7b\"usedPercent\":9223372036854775807\x7d\x7d\x7d\x7d"

/-- The object in this line. -/
def object : Object :=
  [("id", .number 3), ("result", .object [("rateLimits", .object
    [("primary", .object [("usedPercent", .number 9223372036854775807)])])])]

/-- A platform that reads this line. -/
def reader : Platform where
  foundation :=
    { Foundation.mute with
      jsonObject data := if data = utf8 line then some (.object object) else none }
  texts := .plain
  intValue := towardZero
  recoded _ := none
  prettyPrinted _ := none
  rest _ _ := none
  precedes first second := first < second

end Sample

/-- The largest integer as a percentage stops the process. -/
theorem largest_integer_stops_the_process :
    parseRateLimitsResponse Sample.reader Sample.line = .error .trap ∧
      ¬Safe (parseRateLimitsResponse Sample.reader Sample.line) := by
  have limit : OverflowingWindow
      (some (.object [("usedPercent", .number 9223372036854775807)])) :=
    ⟨_, rfl, .inl ⟨9223372036854775807, rfl, by norm_num [AtLimit]⟩⟩
  have stops : parseRateLimitsResponse Sample.reader Sample.line = .error .trap := by
    rw [parseRateLimitsResponse_eq_trap]
    have noError : Sample.object.get "error" = none := rfl
    refine ⟨Sample.object, _, if_pos rfl, by decide +kernel, by simp [noError], rfl, _, rfl,
      ⟨none, rfl⟩, .inl ⟨.inl rfl, ⟨.inl (.inl rfl), by simp⟩, .inl (.inl rfl), .inl limit⟩⟩
  exact ⟨stops, by rw [safe_iff, not_not]; exact stops⟩

end AccountUsageProtocol

end Turnrail
