import FileSearch.Predicate.Text
import FileSearch.Proofs.Query.Meaning
import FileSearch.Proofs.Time.Reading

set_option autoImplicit false

namespace FileSearch

namespace Instant

-- The moment that the text of a bound names.
def printed (up : Bool) (moment : Instant) : Instant :=
  (moment.widened up).wholeSecond

-- Nanoseconds since the start of 1970, on a scale without leap seconds.
def total (moment : Instant) : Int :=
  moment.second * 1000000000 + moment.nano

def IsNamedBy (moment : Instant) (literal : List Char) : Prop :=
  ∃ text : String, literal = "$time.iso(".toList ++ text.toList ++ [')'] ∧
    Instant.read text = .ok moment

-- Neither the start of the last second of the calendar nor that of a leap second after it, but a
-- moment behind one of them.
def IsBehindLastSecond (moment : Instant) : Prop :=
  moment.second = maxSecond ∧ moment.subsecond ≠ 0

instance (moment : Instant) : Decidable moment.IsBehindLastSecond :=
  inferInstanceAs (Decidable (_ ∧ _))

theorem ofParts?_whole (second : Int) (least : minSecond ≤ second) (most : second ≤ maxSecond) :
    ∃ moment, ofParts? second 0 = some moment ∧ moment.second = second ∧ moment.nano = 0 := by
  have bounded : Bounded second 0 := ⟨least, most, by decide⟩
  exact ⟨⟨second, 0, bounded⟩, dif_pos bounded, rfl, rfl⟩

-- A moment is left as it is only in the last second of the calendar, which ends a minute.
theorem widened_endsMinute (up : Bool) (moment : Instant) : (moment.widened up).EndsMinute := by
  obtain ⟨least, most, -⟩ := moment.bounded
  intro late
  rw [widened] at late ⊢
  split_ifs at late ⊢ with further
  · by_cases before : moment.second + 1 ≤ maxSecond
    · obtain ⟨whole, made, -, nano⟩ := ofParts?_whole (moment.second + 1) (by omega) before
      simp [made, nano] at late
    · have none' : ofParts? (moment.second + 1) 0 = none := dif_neg fun bounded => before bounded.2.1
      rw [none', Option.getD_none]
      rw [maxSecond] at most before
      omega
  · obtain ⟨whole, made, -, nano⟩ := ofParts?_whole moment.second least most
    simp [made, nano] at late

theorem printed_isNamedBy (up : Bool) (moment : Instant) :
    (moment.printed up).IsNamedBy ((Scalar.time moment).chars up) :=
  ⟨(moment.widened up).wholeText, rfl, read_wholeText _ (moment.widened_endsMinute up)⟩

theorem printed_down (moment : Instant) :
    (moment.printed false).second = moment.second ∧ (moment.printed false).nano = 0 := by
  obtain ⟨least, most, -⟩ := moment.bounded
  obtain ⟨whole, made, second, nano⟩ := ofParts?_whole moment.second least most
  simp [printed, widened, wholeSecond, made, second, nano]

theorem printed_up (moment : Instant) :
    (moment.nano = 0 ∧ (moment.printed true).second = moment.second ∧
        (moment.printed true).nano = 0) ∨
      (0 < moment.nano ∧ moment.second < maxSecond ∧
        (moment.printed true).second = moment.second + 1 ∧ (moment.printed true).nano = 0) ∨
      (0 < moment.nano ∧ moment.second = maxSecond ∧
        (moment.printed true).second = moment.second ∧
        (moment.printed true).nano = moment.nano / 1000000000 * 1000000000) := by
  obtain ⟨least, most, -⟩ := moment.bounded
  by_cases start : moment.nano = 0
  · obtain ⟨whole, made, second, nano⟩ := ofParts?_whole moment.second least most
    refine .inl ⟨start, ?_⟩
    simp [printed, widened, wholeSecond, start, made, second, nano]
  · have behind : 0 < moment.nano := Nat.pos_of_ne_zero start
    rcases lt_or_eq_of_le most with before | last
    · obtain ⟨whole, made, second, nano⟩ :=
        ofParts?_whole (moment.second + 1) (by omega) (by omega)
      refine .inr (.inl ⟨behind, before, ?_⟩)
      simp [printed, widened, wholeSecond, behind, made, second, nano]
    · -- No moment has the next second, and the bound itself is written.
      have none' : ofParts? (moment.second + 1) 0 = none :=
        dif_neg fun bounded => by have := bounded.2.1; omega
      refine .inr (.inr ⟨behind, last, ?_⟩)
      simp [printed, widened, wholeSecond, behind, none']

theorem subsecond_printed (up : Bool) (moment : Instant) : (moment.printed up).subsecond = 0 := by
  simp [printed, wholeSecond, subsecond]

theorem printed_near (up : Bool) (moment : Instant) :
    ((moment.printed up).total - moment.total).natAbs < 2000000000 := by
  have small := moment.bounded.2.2
  rw [total, total]
  cases up with
  | false =>
    obtain ⟨second, nano⟩ := moment.printed_down
    omega
  | true =>
    rcases moment.printed_up with ⟨start, second, nano⟩ | ⟨behind, -, second, nano⟩ |
      ⟨-, -, second, nano⟩ <;> omega

theorem printed_down_le (moment : Instant) : moment.printed false ≤ moment := by
  obtain ⟨second, nano⟩ := moment.printed_down
  rw [le_iff]
  omega

theorem le_printed_up_iff (moment : Instant) :
    moment ≤ moment.printed true ↔ ¬ moment.IsBehindLastSecond := by
  have small := moment.bounded.2.2
  rw [le_iff, IsBehindLastSecond, subsecond]
  rcases moment.printed_up with ⟨start, second, nano⟩ | ⟨behind, before, second, nano⟩ |
    ⟨-, last, second, nano⟩ <;> omega

theorem eq_of_parts {left right : Instant} (second : left.second = right.second)
    (nano : left.nano = right.nano) : left = right := by
  cases left
  cases right
  simp_all

theorem printed_of_whole (up : Bool) (moment : Instant) (whole : moment.nano = 0) :
    moment.printed up = moment := by
  cases up with
  | false =>
    obtain ⟨second, nano⟩ := moment.printed_down
    exact eq_of_parts second (nano.trans whole.symm)
  | true =>
    rcases moment.printed_up with ⟨-, second, nano⟩ | ⟨behind, -⟩ | ⟨behind, -⟩
    · exact eq_of_parts second (nano.trans whole.symm)
    · omega
    · omega

theorem printed_printed (up : Bool) (moment : Instant) :
    (moment.printed up).printed up = moment.printed up := by
  cases up with
  | false => exact printed_of_whole false _ moment.printed_down.2
  | true =>
    rcases moment.printed_up with ⟨-, -, nano⟩ | ⟨-, -, -, nano⟩ | ⟨-, last, second, nano⟩
    · exact printed_of_whole true _ nano
    · exact printed_of_whole true _ nano
    · -- The start of the last second, or of a leap second after it, stays what it is.
      apply eq_of_parts <;>
        rcases (moment.printed true).printed_up with ⟨start, same⟩ | ⟨-, before, -⟩ | ⟨-, -, same⟩ <;>
        omega

end Instant

def Scalar.printed (up : Bool) : Scalar → Scalar
  | .bytes value => .bytes value
  | .time value => .time (value.printed up)

namespace Predicate

mutual

-- The condition that the text of a condition says.
def printed : Predicate → Predicate
  | .always => .always
  | .contains attr needle => .contains attr needle
  | .endsWith attr suffix => .endsWith attr suffix
  | .atLeast attr bound => .atLeast attr (bound.printed false)
  | .atMost attr bound => .atMost attr (bound.printed true)
  | .and parts => .and (allPrinted parts)
  | .or parts => .or (allPrinted parts)

def allPrinted : List Predicate → List Predicate
  | [] => []
  | part :: rest => part.printed :: allPrinted rest

end

-- That a condition is, or is joined from, a given one.
inductive Comprises (part : Predicate) : Predicate → Prop
  | self : Comprises part part
  | and {whole : Predicate} {parts : List Predicate} (member : whole ∈ parts)
      (inner : Comprises part whole) : Comprises part (.and parts)
  | or {whole : Predicate} {parts : List Predicate} (member : whole ∈ parts)
      (inner : Comprises part whole) : Comprises part (.or parts)

theorem allPrinted_eq_map (parts : List Predicate) : allPrinted parts = parts.map printed := by
  induction parts with
  | nil => rw [allPrinted, List.map_nil]
  | cons part rest ih => rw [allPrinted, ih, List.map_cons]

-- Induction over a condition and, where it is joined from parts, over all of them.
@[elab_as_elim, induction_eliminator]
theorem parts_induction {motive : Predicate → Prop} (always : motive .always)
    (contains : ∀ attr needle, motive (.contains attr needle))
    (endsWith : ∀ attr suffix, motive (.endsWith attr suffix))
    (atLeast : ∀ attr bound, motive (.atLeast attr bound))
    (atMost : ∀ attr bound, motive (.atMost attr bound))
    (and : ∀ parts, (∀ part ∈ parts, motive part) → motive (.and parts))
    (or : ∀ parts, (∀ part ∈ parts, motive part) → motive (.or parts)) :
    ∀ predicate, motive predicate
  | .always => always
  | .contains attr needle => contains attr needle
  | .endsWith attr suffix => endsWith attr suffix
  | .atLeast attr bound => atLeast attr bound
  | .atMost attr bound => atMost attr bound
  | .and parts => and parts fun part _member =>
      parts_induction always contains endsWith atLeast atMost and or part
  | .or parts => or parts fun part _member =>
      parts_induction always contains endsWith atLeast atMost and or part

variable (file : Attributes) (attr : Attribute)

theorem atLeast_time_holds_iff (bound : Instant) :
    (atLeast attr (.time bound)).holds file = true ↔ ∃ moment ∈ file.time attr, bound ≤ moment := by
  cases read : file.time attr <;> simp [holds, compareBound, read, Std.isGE_compare]

theorem atMost_time_holds_iff (bound : Instant) :
    (atMost attr (.time bound)).holds file = true ↔ ∃ moment ∈ file.time attr, moment ≤ bound := by
  cases read : file.time attr <;> simp [holds, compareBound, read, Std.isLE_compare]

theorem printed_atLeast_holds (bound : Scalar) (held : (atLeast attr bound).holds file = true) :
    (atLeast attr bound).printed.holds file = true := by
  cases bound with
  | bytes value => exact held
  | time bound =>
    obtain ⟨moment, read, late⟩ := (atLeast_time_holds_iff file attr bound).mp held
    rw [printed, Scalar.printed, atLeast_time_holds_iff]
    exact ⟨moment, read, Instant.le_trans _ _ _ bound.printed_down_le late⟩

theorem printed_atMost_holds (bound : Scalar)
    (inside : ∀ moment, bound = .time moment → ¬ moment.IsBehindLastSecond)
    (held : (atMost attr bound).holds file = true) :
    (atMost attr bound).printed.holds file = true := by
  cases bound with
  | bytes value => exact held
  | time bound =>
    obtain ⟨moment, read, early⟩ := (atMost_time_holds_iff file attr bound).mp held
    rw [printed, Scalar.printed, atMost_time_holds_iff]
    exact ⟨moment, read,
      Instant.le_trans _ _ _ early (bound.le_printed_up_iff.mpr (inside bound rfl))⟩

theorem printed_holds (predicate : Predicate)
    (inside : ∀ attr bound, Comprises (.atMost attr (.time bound)) predicate →
      ¬ bound.IsBehindLastSecond)
    (held : predicate.holds file = true) : predicate.printed.holds file = true := by
  induction predicate with
  | always => exact held
  | contains attr needle => exact held
  | endsWith attr suffix => exact held
  | atLeast attr bound => exact printed_atLeast_holds file attr bound held
  | atMost attr bound =>
    refine printed_atMost_holds file attr bound ?_ held
    rintro moment rfl
    exact inside attr moment .self
  | and parts ih =>
    rw [holds, allHold_iff] at held
    rw [printed, holds, allHold_iff, allPrinted_eq_map, List.forall_mem_map]
    intro part member
    exact ih part member (fun attr bound within => inside attr bound (.and member within))
      (held part member)
  | or parts ih =>
    rw [holds, Bool.or_eq_true, anyHolds_iff] at held
    rw [printed, holds, Bool.or_eq_true, anyHolds_iff, allPrinted_eq_map]
    rcases held with none' | ⟨part, member, holds⟩
    · exact .inl (by simpa using none')
    · exact .inr ⟨part.printed, List.mem_map_of_mem member,
        ih part member (fun attr bound within => inside attr bound (.or member within)) holds⟩

theorem printed_atMost_admits_iff (bound : Instant) :
    (∀ file : Attributes, (atMost attr (.time bound)).holds file = true →
        (atMost attr (.time bound)).printed.holds file = true) ↔ ¬ bound.IsBehindLastSecond := by
  constructor
  · intro admits
    -- The file of the very moment of the bound is the one that is lost.
    let file := (RawRecord.empty.set attr (.time bound)).attributes
    have read : file.time attr = some bound := by
      simp [file, RawRecord.attributes, RawRecord.time, RawRecord.set]
    have held := (atMost_time_holds_iff file attr bound).mpr ⟨bound, read, .inr ⟨rfl, le_rfl⟩⟩
    have kept := admits file held
    rw [printed, Scalar.printed, atMost_time_holds_iff] at kept
    obtain ⟨moment, same, early⟩ := kept
    obtain rfl : bound = moment := by simpa [read] using same
    exact bound.le_printed_up_iff.mp early
  · intro inside file held
    refine printed_atMost_holds file attr _ ?_ held
    rintro moment same
    cases same
    exact inside

/-- What the text of a condition says holds of every file that the condition holds of, unless an
upper bound lies behind the start of the last second. -/
theorem rendering_admits_iff (up : Bool) (moment : Instant) :
    ((moment.printed up).IsNamedBy ((Scalar.time moment).chars up) ∧
      (moment.printed up).subsecond = 0 ∧
      ((moment.printed up).total - moment.total).natAbs < 2000000000) ∧
    moment.printed false ≤ moment ∧
    (moment ≤ moment.printed true ↔ ¬ moment.IsBehindLastSecond) ∧
    (∀ attr, (∀ file : Attributes, (atMost attr (.time moment)).holds file = true →
        (atMost attr (.time moment)).printed.holds file = true) ↔ ¬ moment.IsBehindLastSecond) ∧
    ∀ predicate : Predicate,
      (∀ attr bound, Comprises (.atMost attr (.time bound)) predicate →
        ¬ bound.IsBehindLastSecond) →
      ∀ file : Attributes, predicate.holds file = true → predicate.printed.holds file = true :=
  ⟨⟨moment.printed_isNamedBy up, moment.subsecond_printed up, moment.printed_near up⟩,
    moment.printed_down_le, moment.le_printed_up_iff,
    fun attr => printed_atMost_admits_iff attr moment,
    fun predicate inside file held => predicate.printed_holds file inside held⟩

theorem rendering_loses_last_moment :
    let last : Instant := ⟨Instant.maxSecond, 500000000, by decide⟩
    let early : Instant := ⟨-1, 1, by decide⟩
    (atMost .modifiedAt (.time last)).render =
        "kMDItemFSContentChangeDate <= $time.iso(+262142-12-31T23:59:59Z)" ∧
      ¬ last ≤ last.printed true ∧
      (¬ ∀ file : Attributes, (atMost .modifiedAt (.time last)).holds file = true →
        (atMost .modifiedAt (.time last)).printed.holds file = true) ∧
      ∀ file : Attributes, (atMost .modifiedAt (.time early)).holds file = true →
        (atMost .modifiedAt (.time early)).printed.holds file = true := by
  intro last early
  have behind : last.IsBehindLastSecond := by decide
  obtain ⟨-, -, above, admits, -⟩ := rendering_admits_iff true last
  obtain ⟨-, -, -, -, keeps⟩ := rendering_admits_iff true early
  refine ⟨by decide +kernel, fun least => above.mp least behind,
    fun kept => (admits .modifiedAt).mp kept behind, keeps _ ?_⟩
  intro attr bound within
  cases within
  decide

end Predicate

end FileSearch
