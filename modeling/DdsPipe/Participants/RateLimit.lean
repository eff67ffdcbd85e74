import Mathlib

/-!
Owns the limits of the reception and the transmission rate: a reader accepts a
sample, and a writer passes one on, only when the minimum period has elapsed since
the last one; a reader keeps one out of several samples after that.

The period is computed once, through a conversion to a 32-bit integer. A rate
whose period does not fit is limited to the remainder of its period, and not as
configured (`rateLimits_iff`).

Does not own: the rounding of the rate to a floating-point value; rates are exact.
Timestamps are nanoseconds, and do not overflow.
-/

namespace DdsPipe.Participants

/-! ### The period -/

/-- The number of values of `unsigned int`. -/
def unsignedIntRange : Nat := 2 ^ 32

/-- The nanoseconds between two samples of the rate. -/
def intersamplePeriod (rate : ℚ) : Nat := ⌊10 ^ 9 / rate⌋₊

/-- `min_intersample_period_` of the constructors. -/
def minIntersamplePeriod (maxRate : ℚ) : Nat :=
  if 0 < maxRate then intersamplePeriod maxRate % unsignedIntRange else 0

/-! ### The reader -/

/-- `utils::fast_module`. -/
def fastModule (value modulus : Nat) : Nat :=
  if value < modulus then value else value % modulus

structure BaseReader where
  maxRxRate : ℚ
  downsampling : Nat
  minIntersamplePeriod : Nat
  downsamplingIdx : Nat := 0
  lastReceivedTs : Int

namespace BaseReader

def create (theBeginningOfTime : Int) (maxRxRate : ℚ) (downsampling : Nat) : BaseReader where
  maxRxRate := maxRxRate
  downsampling := downsampling
  minIntersamplePeriod := Participants.minIntersamplePeriod maxRxRate
  lastReceivedTs := theBeginningOfTime

/-- `now` is what `utils::now` returns. -/
def shouldAcceptSample (reader : BaseReader) (now : Int) : Bool × BaseReader :=
  if 0 < reader.maxRxRate ∧ now < reader.lastReceivedTs + reader.minIntersamplePeriod then
    (false, reader)
  else
    let prevDownsamplingIdx := reader.downsamplingIdx
    let reader := { reader with
      downsamplingIdx := fastModule (reader.downsamplingIdx + 1) reader.downsampling }
    if prevDownsamplingIdx ≠ 0 then (false, reader)
    else (true, { reader with lastReceivedTs := now })

/-- The times of the samples that are accepted, out of all that arrive. -/
def acceptedTimes (reader : BaseReader) : List Int → List Int
  | [] => []
  | now :: rest =>
      let (accepted, next) := reader.shouldAcceptSample now
      if accepted then now :: next.acceptedTimes rest else next.acceptedTimes rest

end BaseReader

/-! ### The writer -/

structure BaseWriter where
  maxTxRate : ℚ
  minIntersamplePeriod : Nat
  enabled : Bool := false
  lastSentTs : Int

/-- A call of a writer. `now` is what `utils::now` returns in it. -/
inductive WriterCall where
  | enable
  | disable
  | write (now : Int)
deriving DecidableEq, Repr

/-- When a sample is written. -/
def WriterCall.writeTime : WriterCall → Option Int
  | enable => none
  | disable => none
  | write now => some now

namespace BaseWriter

def create (theBeginningOfTime : Int) (maxTxRate : ℚ) : BaseWriter where
  maxTxRate := maxTxRate
  minIntersamplePeriod := Participants.minIntersamplePeriod maxTxRate
  lastSentTs := theBeginningOfTime

def shouldSendSample (writer : BaseWriter) (now : Int) : Bool × BaseWriter :=
  if 0 < writer.maxTxRate ∧ now < writer.lastSentTs + writer.minIntersamplePeriod then
    (false, writer)
  else (true, { writer with lastSentTs := now })

/-- Whether the sample is passed on to `write_nts_`. -/
def write (writer : BaseWriter) (now : Int) : Bool × BaseWriter :=
  if writer.enabled then writer.shouldSendSample now else (false, writer)

/-- The times of the samples that are passed on. -/
def passedOnTimes (writer : BaseWriter) : List WriterCall → List Int
  | [] => []
  | .enable :: rest => passedOnTimes { writer with enabled := true } rest
  | .disable :: rest => passedOnTimes { writer with enabled := false } rest
  | .write now :: rest =>
      let (passedOn, next) := writer.write now
      if passedOn then now :: next.passedOnTimes rest else next.passedOnTimes rest

end BaseWriter

/-! ### What the limits keep apart -/

/-- Consecutive times are at least a period apart. -/
def Apart (period : Nat) (times : List Int) : Prop :=
  times.IsChain fun one next : Int => one + period ≤ next

/-- Whatever times the samples arrive and are written at, those that are accepted
and those that are passed on are at least the period of the rate apart. -/
structure RateLimits (theBeginningOfTime : Int) (rate : ℚ) (downsampling : Nat) : Prop where
  reception : ∀ times : List Int, times.IsChain (· ≤ ·) →
    Apart (intersamplePeriod rate)
      ((BaseReader.create theBeginningOfTime rate downsampling).acceptedTimes times)
  transmission : ∀ calls : List WriterCall,
    (calls.filterMap WriterCall.writeTime).IsChain (· ≤ ·) →
    Apart (intersamplePeriod rate)
      ((BaseWriter.create theBeginningOfTime rate).passedOnTimes calls)

theorem minIntersamplePeriod_of_pos {rate : ℚ} (positive : 0 < rate) :
    minIntersamplePeriod rate = intersamplePeriod rate % unsignedIntRange :=
  if_pos positive

theorem fastModule_eq (value modulus : Nat) : fastModule value modulus = value % modulus := by
  unfold fastModule
  split
  · next small => exact (Nat.mod_eq_of_lt small).symm
  · rfl

section Reception

variable (reader : BaseReader) {now : Int} (rest : List Int)

/-- The period of the reader has not elapsed. -/
def BaseReader.Early (now : Int) : Prop :=
  0 < reader.maxRxRate ∧ now < reader.lastReceivedTs + reader.minIntersamplePeriod

/-- The reader after a sample that the downsampling counts. -/
def BaseReader.counted : BaseReader :=
  { reader with downsamplingIdx := fastModule (reader.downsamplingIdx + 1) reader.downsampling }

theorem acceptedTimes_of_early (early : reader.Early now) :
    reader.acceptedTimes (now :: rest) = reader.acceptedTimes rest := by
  have rejects : reader.shouldAcceptSample now = (false, reader) := if_pos early
  rw [BaseReader.acceptedTimes, rejects]
  rfl

theorem acceptedTimes_of_skipped (late : ¬ reader.Early now)
    (skipped : reader.downsamplingIdx ≠ 0) :
    reader.acceptedTimes (now :: rest) = reader.counted.acceptedTimes rest := by
  have rejects : reader.shouldAcceptSample now = (false, reader.counted) :=
    (if_neg late).trans (if_pos skipped)
  rw [BaseReader.acceptedTimes, rejects]
  rfl

theorem acceptedTimes_of_accepted (late : ¬ reader.Early now) (first : reader.downsamplingIdx = 0) :
    reader.acceptedTimes (now :: rest) =
      now :: BaseReader.acceptedTimes { reader.counted with lastReceivedTs := now } rest := by
  have accepts : reader.shouldAcceptSample now =
      (true, { reader.counted with lastReceivedTs := now }) :=
    (if_neg late).trans (if_neg (not_not.mpr first))
  rw [BaseReader.acceptedTimes, accepts]
  rfl

/-- What is accepted is apart by the period of the reader, and from the sample
that was accepted before. -/
theorem apart_acceptedTimes (reader : BaseReader) (limited : 0 < reader.maxRxRate)
    (times : List Int) :
    Apart reader.minIntersamplePeriod
      (reader.lastReceivedTs :: reader.acceptedTimes times) := by
  induction times generalizing reader with
  | nil => exact List.IsChain.singleton _
  | cons now rest inductionHypothesis =>
      by_cases early : reader.Early now
      · rw [acceptedTimes_of_early reader rest early]
        exact inductionHypothesis reader limited
      · by_cases first : reader.downsamplingIdx = 0
        · rw [acceptedTimes_of_accepted reader rest early first]
          have spaced : reader.lastReceivedTs + reader.minIntersamplePeriod ≤ now := by
            by_contra less
            exact early ⟨limited, by omega⟩
          exact List.isChain_cons_cons.mpr ⟨spaced,
            inductionHypothesis { reader.counted with lastReceivedTs := now } limited⟩
        · rw [acceptedTimes_of_skipped reader rest early first]
          exact inductionHypothesis reader.counted limited

end Reception

theorem apart_passedOnTimes (writer : BaseWriter) (limited : 0 < writer.maxTxRate)
    (calls : List WriterCall) :
    Apart writer.minIntersamplePeriod (writer.lastSentTs :: writer.passedOnTimes calls) := by
  induction calls generalizing writer with
  | nil => exact List.IsChain.singleton _
  | cons call rest inductionHypothesis =>
      cases call with
      | enable => exact inductionHypothesis { writer with enabled := true } limited
      | disable => exact inductionHypothesis { writer with enabled := false } limited
      | write now =>
          unfold BaseWriter.passedOnTimes BaseWriter.write BaseWriter.shouldSendSample
          cases enabled : writer.enabled with
          | false => exact inductionHypothesis writer limited
          | true =>
              by_cases early : now < writer.lastSentTs + writer.minIntersamplePeriod
              · simp only [limited, early, and_self, if_true]
                exact inductionHypothesis writer limited
              · have later := inductionHypothesis { writer with lastSentTs := now } limited
                simp only [early, and_false, if_false, if_true]
                apply List.isChain_cons_cons.mpr
                rw [enabled] at later
                exact ⟨by omega, later⟩

/-! ### Periods that do not fit -/

/-- A reader whose period has elapsed accepts one of enough samples. -/
theorem exists_acceptedTimes_replicate {now : Int} (waited : Nat) (reader : BaseReader)
    (elapsed : reader.lastReceivedTs + reader.minIntersamplePeriod ≤ now)
    (small : reader.downsamplingIdx < reader.downsampling)
    (reaches : (reader.downsamplingIdx + waited) % reader.downsampling = 0) :
    ∃ rest, reader.acceptedTimes (List.replicate (waited + 1) now) = now :: rest := by
  have late : ¬ reader.Early now := fun early => absurd early.2 (by omega)
  rw [List.replicate_succ]
  by_cases first : reader.downsamplingIdx = 0
  · exact ⟨_, acceptedTimes_of_accepted reader _ late first⟩
  · rw [acceptedTimes_of_skipped reader _ late first]
    cases waited with
    | zero =>
        rw [Nat.add_zero, Nat.mod_eq_of_lt small] at reaches
        exact absurd reaches first
    | succ waited =>
        apply exists_acceptedTimes_replicate waited reader.counted elapsed
        · show fastModule _ _ < _
          rw [fastModule_eq]
          exact Nat.mod_lt _ (by omega)
        · show (fastModule _ _ + waited) % reader.downsampling = 0
          rw [fastModule_eq, Nat.mod_add_mod, Nat.add_assoc, Nat.add_comm 1]
          exact reaches

/-- A reader takes two samples that are the period it computed apart. -/
theorem exists_acceptedTimes_pair (theBeginningOfTime : Int) (rate : ℚ) {downsampling : Nat}
    (positive : 0 < downsampling) :
    ∃ (first : Int) (times rest : List Int), times.IsChain (· ≤ ·) ∧
      (BaseReader.create theBeginningOfTime rate downsampling).acceptedTimes times =
        first :: (first + minIntersamplePeriod rate) :: rest := by
  let reader := BaseReader.create theBeginningOfTime rate downsampling
  let start : Int := theBeginningOfTime + minIntersamplePeriod rate
  let next : Int := start + minIntersamplePeriod rate
  have late : ¬ reader.Early start := fun early => absurd early.2 (lt_irrefl start)
  have small : fastModule 1 downsampling < downsampling := by
    rw [fastModule_eq]
    exact Nat.mod_lt _ positive
  have reaches : (fastModule 1 downsampling + (downsampling - 1)) % downsampling = 0 := by
    rw [fastModule_eq, Nat.mod_add_mod, Nat.add_sub_cancel' positive, Nat.mod_self]
  obtain ⟨rest, accepted⟩ := exists_acceptedTimes_replicate (downsampling - 1)
    { reader.counted with lastReceivedTs := start } (le_refl next) small reaches
  refine ⟨start, start :: List.replicate (downsampling - 1 + 1) next, rest, ?_, ?_⟩
  · rw [List.replicate_succ]
    apply List.isChain_cons_cons.mpr
    refine ⟨Int.le_add_of_nonneg_right (Int.natCast_nonneg _), ?_⟩
    rw [← List.replicate_succ]
    exact List.isChain_replicate_of_rel _ le_rfl
  · rw [acceptedTimes_of_accepted reader _ late rfl, accepted]

theorem intersamplePeriod_lt_of_apart {rate : ℚ} (limited : 0 < rate) {first : Int}
    {rest : List Int}
    (apart : Apart (intersamplePeriod rate)
      (first :: (first + minIntersamplePeriod rate) :: rest)) :
    intersamplePeriod rate < unsignedIntRange := by
  have spaced := (List.isChain_cons_cons.mp apart).1
  rw [minIntersamplePeriod_of_pos limited] at spaced
  have remainder : intersamplePeriod rate % unsignedIntRange < unsignedIntRange :=
    Nat.mod_lt _ (Nat.two_pow_pos 32)
  omega

/-- **The limits hold** exactly when the period of the rate fits into 32 bits. -/
theorem rateLimits_iff {theBeginningOfTime : Int} {rate : ℚ} {downsampling : Nat}
    (limited : 0 < rate) (positive : 0 < downsampling) :
    RateLimits theBeginningOfTime rate downsampling ↔
      intersamplePeriod rate < unsignedIntRange := by
  constructor
  · intro limits
    obtain ⟨first, times, rest, ascending, accepted⟩ :=
      exists_acceptedTimes_pair theBeginningOfTime rate positive
    have apart := limits.reception times ascending
    rw [accepted] at apart
    exact intersamplePeriod_lt_of_apart limited apart
  · intro fits
    have same : minIntersamplePeriod rate = intersamplePeriod rate := by
      rw [minIntersamplePeriod_of_pos limited, Nat.mod_eq_of_lt fits]
    constructor
    · intro times _
      have apart := apart_acceptedTimes (.create theBeginningOfTime rate downsampling) limited times
      rw [← same]
      exact List.IsChain.tail apart
    · intro calls _
      have apart := apart_passedOnTimes (.create theBeginningOfTime rate) limited calls
      rw [← same]
      exact List.IsChain.tail apart

/-- Ten samples a second, one out of three kept. -/
theorem rateLimits_iff_ten : RateLimits 0 10 3 := by
  apply (rateLimits_iff (by norm_num) (by decide)).mpr
  have period : intersamplePeriod 10 = 10 ^ 8 := by
    unfold intersamplePeriod
    norm_num
  rw [period]
  decide

/-- One sample in five seconds: the period of 5·10^9 nanoseconds becomes
705032704. -/
theorem not_rateLimits :
    ¬ ∀ (theBeginningOfTime : Int) (rate : ℚ) (downsampling : Nat), 0 < rate → 0 < downsampling →
      RateLimits theBeginningOfTime rate downsampling := by
  intro limits
  have period : intersamplePeriod (1 / 5) = 5 * 10 ^ 9 := by
    unfold intersamplePeriod
    norm_num
  obtain ⟨first, times, rest, ascending, accepted⟩ :=
    exists_acceptedTimes_pair 0 (1 / 5) Nat.one_pos
  have apart := (limits 0 (1 / 5) 1 (by norm_num) Nat.one_pos).reception times ascending
  rw [accepted] at apart
  have fits := intersamplePeriod_lt_of_apart (by norm_num) apart
  rw [period] at fits
  exact absurd fits (by decide)

end DdsPipe.Participants
