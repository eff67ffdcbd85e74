import DdsPipe.Participants.RateLimit
import DdsPipe.Types.Endpoint

/-!
Owns how the rate limit and the downsampling of a reader compose: which samples of
a sequence are accepted, in terms of the samples that pass the rate check
(`composes_of_fresh`).

Each filter moves the other's reference: the rate check refers to the last sample
that the downsampling lets through, and the downsampling counts the samples that
the rate check lets through.

Does not own: the period of a rate.
-/

namespace DdsPipe.Participants.BaseReader

open DdsPipe.Types

/-! ### Sequences of samples -/

/-- The reader after samples received at some times. -/
def receiveAll (reader : BaseReader) (times : List Int) : BaseReader :=
  times.foldl (fun reader now => (reader.shouldAcceptSample now).2) reader

/-- The time of the last sample that is accepted, or the initial one. -/
def lastAccepted (reader : BaseReader) (times : List Int) : Int :=
  (reader.acceptedTimes times).getLast?.getD reader.lastReceivedTs

/-- The rate check against a time. -/
def passesRate (reader : BaseReader) (last now : Int) : Bool :=
  !(0 < reader.maxRxRate ∧ now < last + reader.minIntersamplePeriod)

/-- Whether the sample at a position is accepted. -/
def acceptsAt (reader : BaseReader) (times : List Int) (position : Nat) : Bool :=
  times[position]?.any fun now =>
    ((reader.receiveAll (times.take position)).shouldAcceptSample now).1

/-- Whether the sample at a position passes the rate check against the last
accepted sample. -/
def passesAt (reader : BaseReader) (times : List Int) (position : Nat) : Bool :=
  times[position]?.any (reader.passesRate (reader.lastAccepted (times.take position)))

/-- The positions of the samples that pass the rate check. -/
def passed (reader : BaseReader) (times : List Int) : List Nat :=
  (List.range times.length).filter (reader.passesAt times)

/-- The samples accepted are the first of those that pass the rate check and every
one that comes a multiple of the factor later, and each filter moves on only when
it should. -/
structure Composes (reader : BaseReader) (times : List Int) : Prop where
  accepted : ∀ position, reader.acceptsAt times position = true ↔
    ∃ multiple, (reader.passed times)[multiple * reader.downsampling]? = some position
  timestamp : (reader.receiveAll times).lastReceivedTs = reader.lastAccepted times
  refusedKeeps : ∀ now, ((reader.receiveAll times).shouldAcceptSample now).1 = false →
    ((reader.receiveAll times).shouldAcceptSample now).2.lastReceivedTs =
      (reader.receiveAll times).lastReceivedTs
  earlyKeeps : ∀ now, reader.passesRate (reader.lastAccepted times) now = false →
    ((reader.receiveAll times).shouldAcceptSample now).2.downsamplingIdx =
      (reader.receiveAll times).downsamplingIdx
  bounded : (reader.receiveAll times).downsamplingIdx < reader.downsampling

/-! ### One more sample -/

variable {reader : BaseReader} {times : List Int} {now : Int}

theorem receiveAll_append (times others : List Int) :
    reader.receiveAll (times ++ others) = (reader.receiveAll times).receiveAll others :=
  List.foldl_append

theorem acceptedTimes_append (times others : List Int) :
    reader.acceptedTimes (times ++ others) =
      reader.acceptedTimes times ++ (reader.receiveAll times).acceptedTimes others := by
  induction times generalizing reader with
  | nil => rfl
  | cons now rest inductionHypothesis =>
      have later := @inductionHypothesis (reader.shouldAcceptSample now).2
      rw [List.cons_append, acceptedTimes, acceptedTimes]
      cases accepted : (reader.shouldAcceptSample now).1 with
      | true =>
          simp only [accepted, if_true, later, List.cons_append]
          rfl
      | false =>
          simp only [accepted, Bool.false_eq_true, if_false, later]
          rfl

theorem acceptedTimes_singleton :
    reader.acceptedTimes [now] = if (reader.shouldAcceptSample now).1 then [now] else [] :=
  rfl

/-- The configuration of a reader stays. -/
theorem shouldAcceptSample_frame :
    (reader.shouldAcceptSample now).2.maxRxRate = reader.maxRxRate ∧
      (reader.shouldAcceptSample now).2.downsampling = reader.downsampling ∧
        (reader.shouldAcceptSample now).2.minIntersamplePeriod = reader.minIntersamplePeriod := by
  unfold shouldAcceptSample
  split
  · exact ⟨rfl, rfl, rfl⟩
  · dsimp only
    split <;> exact ⟨rfl, rfl, rfl⟩

theorem receiveAll_frame (times : List Int) :
    (reader.receiveAll times).maxRxRate = reader.maxRxRate ∧
      (reader.receiveAll times).downsampling = reader.downsampling ∧
        (reader.receiveAll times).minIntersamplePeriod = reader.minIntersamplePeriod := by
  induction times generalizing reader with
  | nil => exact ⟨rfl, rfl, rfl⟩
  | cons now rest inductionHypothesis =>
      obtain ⟨rate, factor, period⟩ := @shouldAcceptSample_frame reader now
      obtain ⟨laterRate, laterFactor, laterPeriod⟩ :=
        @inductionHypothesis (reader.shouldAcceptSample now).2
      exact ⟨laterRate.trans rate, laterFactor.trans factor, laterPeriod.trans period⟩

theorem passesRate_iff :
    reader.passesRate reader.lastReceivedTs now = true ↔ ¬ reader.Early now := by
  rw [passesRate, Bool.not_eq_true', decide_eq_false_iff_not, Early]

/-- What a sample does, by the two filters. -/
theorem shouldAcceptSample_cases :
    (reader.passesRate reader.lastReceivedTs now = false ∧
        reader.shouldAcceptSample now = (false, reader)) ∨
      (reader.passesRate reader.lastReceivedTs now = true ∧ reader.downsamplingIdx ≠ 0 ∧
        reader.shouldAcceptSample now = (false, reader.counted)) ∨
      (reader.passesRate reader.lastReceivedTs now = true ∧ reader.downsamplingIdx = 0 ∧
        reader.shouldAcceptSample now = (true, { reader.counted with lastReceivedTs := now })) := by
  by_cases early : reader.Early now
  · left
    refine ⟨?_, if_pos early⟩
    rw [Bool.eq_false_iff, ne_eq, passesRate_iff]
    exact not_not.mpr early
  · right
    have late := passesRate_iff.mpr early
    by_cases first : reader.downsamplingIdx = 0
    · right
      exact ⟨late, first, (if_neg early).trans (if_neg (not_not.mpr first))⟩
    · left
      exact ⟨late, first, (if_neg early).trans (if_pos first)⟩

theorem shouldAcceptSample_fst_iff :
    (reader.shouldAcceptSample now).1 = true ↔
      reader.passesRate reader.lastReceivedTs now = true ∧ reader.downsamplingIdx = 0 := by
  rcases @shouldAcceptSample_cases reader now with
    ⟨early, taken⟩ | ⟨late, skipped, taken⟩ | ⟨late, first, taken⟩
  · simp [taken, early]
  · simp [taken, skipped]
  · simp [taken, late, first]

/-! ### The two references -/

theorem lastAccepted_append :
    reader.lastAccepted (times ++ [now]) =
      if ((reader.receiveAll times).shouldAcceptSample now).1 then now
      else reader.lastAccepted times := by
  rw [lastAccepted, acceptedTimes_append, acceptedTimes_singleton, lastAccepted]
  cases ((reader.receiveAll times).shouldAcceptSample now).1 with
  | true => simp
  | false => simp

/-- The timestamp is the one of the last accepted sample. -/
theorem lastReceivedTs_receiveAll (times : List Int) :
    (reader.receiveAll times).lastReceivedTs = reader.lastAccepted times := by
  induction times using List.reverseRecOn with
  | nil => rfl
  | append_singleton times now inductionHypothesis =>
      rw [receiveAll_append, lastAccepted_append, ← inductionHypothesis]
      show ((reader.receiveAll times).shouldAcceptSample now).2.lastReceivedTs = _
      rcases @shouldAcceptSample_cases (reader.receiveAll times) now with
        ⟨_, taken⟩ | ⟨_, _, taken⟩ | ⟨_, _, taken⟩
      · rw [taken]
        rfl
      · rw [taken]
        rfl
      · rw [taken]
        rfl

/-- The rate check refers to the last accepted sample. -/
theorem passesRate_receiveAll (times : List Int) (now : Int) :
    (reader.receiveAll times).passesRate (reader.receiveAll times).lastReceivedTs now =
      reader.passesRate (reader.lastAccepted times) now := by
  obtain ⟨rate, _, period⟩ := @receiveAll_frame reader times
  rw [lastReceivedTs_receiveAll]
  simp only [passesRate, rate, period]

theorem passesAt_append_of_lt {position : Nat} (before : position < times.length)
    (others : List Int) :
    reader.passesAt (times ++ others) position = reader.passesAt times position := by
  rw [passesAt, passesAt, List.getElem?_append_left before, List.take_append_of_le_length before.le]

theorem acceptsAt_append_of_lt {position : Nat} (before : position < times.length)
    (others : List Int) :
    reader.acceptsAt (times ++ others) position = reader.acceptsAt times position := by
  rw [acceptsAt, acceptsAt, List.getElem?_append_left before,
    List.take_append_of_le_length before.le]

theorem passesAt_last :
    reader.passesAt (times ++ [now]) times.length =
      reader.passesRate (reader.lastAccepted times) now := by
  simp [passesAt]

theorem acceptsAt_last :
    reader.acceptsAt (times ++ [now]) times.length =
      ((reader.receiveAll times).shouldAcceptSample now).1 := by
  simp [acceptsAt]

theorem passed_append :
    reader.passed (times ++ [now]) = reader.passed times ++
      if reader.passesRate (reader.lastAccepted times) now then [times.length] else [] := by
  have same : (List.range times.length).filter (reader.passesAt (times ++ [now])) =
      (List.range times.length).filter (reader.passesAt times) := by
    apply List.filter_congr
    intro position member
    exact passesAt_append_of_lt (List.mem_range.mp member) [now]
  rw [passed, List.length_append, List.length_singleton, List.range_succ, List.filter_append, same,
    List.filter_singleton, passesAt_last, passed, cond_eq_ite]

theorem lt_of_mem_passed {position : Nat} (member : position ∈ reader.passed times) :
    position < times.length :=
  List.mem_range.mp (List.mem_filter.mp member).1

/-- The downsampling counts the samples that pass the rate check. -/
theorem downsamplingIdx_receiveAll (fresh : reader.downsamplingIdx = 0) (times : List Int) :
    (reader.receiveAll times).downsamplingIdx =
      (reader.passed times).length % reader.downsampling := by
  induction times using List.reverseRecOn with
  | nil => rw [show reader.passed [] = [] from rfl, List.length_nil, Nat.zero_mod]; exact fresh
  | append_singleton times now inductionHypothesis =>
      rw [receiveAll_append, passed_append, ← passesRate_receiveAll]
      have counts : (reader.receiveAll times).counted.downsamplingIdx =
          ((reader.passed times).length + 1) % reader.downsampling := by
        rw [counted, fastModule_eq, (receiveAll_frame times).2.1, inductionHypothesis,
          Nat.mod_add_mod]
      show ((reader.receiveAll times).shouldAcceptSample now).2.downsamplingIdx = _
      rcases @shouldAcceptSample_cases (reader.receiveAll times) now with
        ⟨early, taken⟩ | ⟨late, _, taken⟩ | ⟨late, _, taken⟩
      · rw [taken, early]
        simpa using inductionHypothesis
      · rw [taken, late]
        simpa using counts
      · rw [taken, late]
        simpa using counts

/-! ### Composition -/

theorem acceptsAt_of_le {position : Nat} (outside : times.length ≤ position) :
    reader.acceptsAt times position = false := by
  rw [acceptsAt, List.getElem?_eq_none outside]
  rfl

/-- The position of the last sample comes last, if that sample passes. -/
theorem getElem?_passed_append_last {index : Nat} :
    (reader.passed (times ++ [now]))[index]? = some times.length ↔
      reader.passesRate (reader.lastAccepted times) now = true ∧
        index = (reader.passed times).length := by
  rw [passed_append]
  constructor
  · intro found
    rcases Nat.lt_or_ge index (reader.passed times).length with early | late
    · rw [List.getElem?_append_left early] at found
      exact absurd (lt_of_mem_passed (List.mem_of_getElem? found)) (lt_irrefl _)
    · rw [List.getElem?_append_right late] at found
      cases passes : reader.passesRate (reader.lastAccepted times) now with
      | false => simp [passes] at found
      | true =>
          refine ⟨rfl, ?_⟩
          rw [passes, if_pos rfl, List.getElem?_singleton] at found
          split at found
          · omega
          · cases found
  · rintro ⟨passes, rfl⟩
    rw [passes, if_pos rfl, List.getElem?_append_right le_rfl, Nat.sub_self]
    rfl

theorem getElem?_passed_append_of_lt {index position : Nat} (before : position < times.length) :
    (reader.passed (times ++ [now]))[index]? = some position ↔
      (reader.passed times)[index]? = some position := by
  rw [passed_append]
  rcases Nat.lt_or_ge index (reader.passed times).length with early | late
  · rw [List.getElem?_append_left early]
  · rw [List.getElem?_append_right late, List.getElem?_eq_none late]
    constructor
    · intro found
      have member := List.mem_of_getElem? found
      split at member
      · rw [List.mem_singleton] at member
        omega
      · cases member
    · intro found
      cases found

/-- The samples accepted are those that pass at every multiple of the factor. -/
theorem acceptsAt_iff (fresh : reader.downsamplingIdx = 0) (times : List Int) (position : Nat) :
    reader.acceptsAt times position = true ↔
      ∃ multiple, (reader.passed times)[multiple * reader.downsampling]? = some position := by
  induction times using List.reverseRecOn with
  | nil => simp [acceptsAt, passed]
  | append_singleton times now inductionHypothesis =>
      rcases Nat.lt_trichotomy position times.length with before | rfl | after
      · rw [acceptsAt_append_of_lt before, inductionHypothesis]
        apply exists_congr
        intro multiple
        rw [getElem?_passed_append_of_lt before]
      · rw [acceptsAt_last, shouldAcceptSample_fst_iff, passesRate_receiveAll,
          downsamplingIdx_receiveAll fresh]
        simp only [getElem?_passed_append_last]
        constructor
        · rintro ⟨passes, divides⟩
          refine ⟨(reader.passed times).length / reader.downsampling, passes, ?_⟩
          exact Nat.div_mul_cancel (Nat.dvd_of_mod_eq_zero divides)
        · rintro ⟨multiple, passes, same⟩
          exact ⟨passes, by rw [← same, Nat.mul_mod_left]⟩
      · rw [acceptsAt_of_le (by rw [List.length_append, List.length_singleton]; omega)]
        constructor
        · intro impossible
          cases impossible
        · rintro ⟨multiple, found⟩
          have inside := lt_of_mem_passed (List.mem_of_getElem? found)
          rw [List.length_append, List.length_singleton] at inside
          omega

/-- **The rate limit and the downsampling compose.** -/
theorem composes_of_fresh (fresh : reader.downsamplingIdx = 0) (positive : 0 < reader.downsampling)
    (times : List Int) : reader.Composes times where
  accepted := acceptsAt_iff fresh times
  timestamp := lastReceivedTs_receiveAll times
  refusedKeeps now refused := by
    rcases @shouldAcceptSample_cases (reader.receiveAll times) now with
      ⟨_, taken⟩ | ⟨_, _, taken⟩ | ⟨_, _, taken⟩
    · rw [taken]
    · rw [taken]
      rfl
    · rw [taken] at refused
      cases refused
  earlyKeeps now early := by
    rw [← passesRate_receiveAll] at early
    rcases @shouldAcceptSample_cases (reader.receiveAll times) now with
      ⟨_, taken⟩ | ⟨late, _, _⟩ | ⟨late, _, _⟩
    · rw [taken]
    · rw [early] at late
      cases late
    · rw [early] at late
      cases late
  bounded := by
    rw [downsamplingIdx_receiveAll fresh]
    exact Nat.mod_lt _ positive

/-- Ten samples a second, one out of two kept, of samples at 0, 50, 100, 120 and
130 milliseconds. -/
theorem composes_of_fresh_two :
    (create (-(10 ^ 8)) 10 2).Composes
      [0, 5 * 10 ^ 7, 10 ^ 8, 12 * 10 ^ 7, 13 * 10 ^ 7] :=
  composes_of_fresh rfl (by decide) _

/-! ### Changes of the own participant -/

/-- `CommonReader::should_accept_change_`, for the prefix of the guid of the RTPS
reader and that of the writer of the change. -/
def shouldAcceptChange (reader : BaseReader) (readerPrefix writerPrefix : GuidPrefix)
    (now : Int) : Bool × BaseReader :=
  if writerPrefix = readerPrefix then (false, reader) else reader.shouldAcceptSample now

def receiveChanges (reader : BaseReader) (readerPrefix : GuidPrefix)
    (changes : List (GuidPrefix × Int)) : BaseReader :=
  changes.foldl (fun reader change =>
    (reader.shouldAcceptChange readerPrefix change.1 change.2).2) reader

/-- The changes of the own participant reach neither filter. -/
theorem receiveChanges_eq (readerPrefix : GuidPrefix) (changes : List (GuidPrefix × Int)) :
    reader.receiveChanges readerPrefix changes =
      reader.receiveAll ((changes.filter fun change => change.1 ≠ readerPrefix).map Prod.snd) := by
  induction changes generalizing reader with
  | nil => rfl
  | cons change rest inductionHypothesis =>
      obtain ⟨writerPrefix, now⟩ := change
      show receiveChanges (reader.shouldAcceptChange readerPrefix writerPrefix now).2
        readerPrefix rest = _
      rw [inductionHypothesis]
      by_cases own : writerPrefix = readerPrefix
      · simp [shouldAcceptChange, own]
      · simp [shouldAcceptChange, own, receiveAll]

end DdsPipe.Participants.BaseReader
