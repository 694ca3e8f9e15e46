import RollingBudget.Foundation.Text

namespace RollingBudget

/-! Calendar dates and timestamps as Python's `datetime` module represents them.
A date is its proleptic Gregorian ordinal; arithmetic that leaves the supported
range raises `OverflowError`. -/

structure Date where
  ordinal : Nat
  valid : 1 ≤ ordinal ∧ ordinal ≤ 3652059
deriving DecidableEq

namespace Date

@[ext] theorem ext {left right : Date} (equal : left.ordinal = right.ordinal) :
    left = right := by
  cases left
  cases right
  simpa using equal

instance : LinearOrder Date :=
  LinearOrder.lift' Date.ordinal fun _ _ equal => Date.ext equal

theorem le_iff {left right : Date} : left ≤ right ↔ left.ordinal ≤ right.ordinal := Iff.rfl

theorem lt_iff {left right : Date} : left < right ↔ left.ordinal < right.ordinal := Iff.rfl

/-- `date - timedelta(days=days)`; `none` stands for `OverflowError`. -/
def minusDays (date : Date) (days : Nat) : Option Date :=
  if inRange : days < date.ordinal then
    some ⟨date.ordinal - days, by have := date.valid; omega⟩
  else
    none

theorem minusDays_eq_some_iff {date result : Date} {days : Nat} :
    date.minusDays days = some result ↔ result.ordinal + days = date.ordinal := by
  unfold minusDays
  split
  · next inRange =>
    constructor
    · intro equal
      cases equal
      show date.ordinal - days + days = date.ordinal
      omega
    · intro equal
      have ordinals : date.ordinal - days = result.ordinal := by omega
      exact congrArg some (Date.ext ordinals)
  · next outside =>
    have := result.valid
    constructor
    · intro equal
      cases equal
    · omega

/-! ## Year, month and day -/

def isLeap (year : Nat) : Bool :=
  year % 4 = 0 ∧ (year % 100 ≠ 0 ∨ year % 400 = 0)

def daysBeforeYear (year : Nat) : Nat :=
  let previous := year - 1
  previous * 365 + previous / 4 - previous / 100 + previous / 400

def daysBeforeMonth (leap : Bool) (month : Nat) : Nat :=
  [0, 0, 31, 59, 90, 120, 151, 181, 212, 243, 273, 304, 334].getD month 0 +
    if 2 < month ∧ leap = true then 1 else 0

/-- Month and day of the zero-based day of a year. -/
def monthDay (leap : Bool) (dayOfYear : Nat) : Nat × Nat :=
  let estimate := (dayOfYear + 50) / 32
  let month := if dayOfYear < daysBeforeMonth leap estimate then estimate - 1 else estimate
  (month, dayOfYear - daysBeforeMonth leap month + 1)

/-- `datetime._ord2ymd`. -/
def yearMonthDay (date : Date) : Nat × Nat × Nat :=
  let days := date.ordinal - 1
  let n400 := days / 146097
  let days := days % 146097
  let n100 := days / 36524
  let days := days % 36524
  let n4 := days / 1461
  let days := days % 1461
  let n1 := days / 365
  let dayOfYear := days % 365
  let year := n400 * 400 + 1 + n100 * 100 + n4 * 4 + n1
  if n1 = 4 ∨ n100 = 4 then (year - 1, 12, 31)
  else (year, monthDay (n1 = 3 ∧ (n4 ≠ 24 ∨ n100 = 3)) dayOfYear)

private theorem monthDay_spec (leap : Bool) (dayOfYear : Nat) (bound : dayOfYear < 365) :
    daysBeforeMonth leap (monthDay leap dayOfYear).1 + (monthDay leap dayOfYear).2 =
      dayOfYear + 1 := by
  revert dayOfYear
  cases leap <;> decide +kernel

private theorem daysBeforeYear_of_cycles (n400 n100 n4 n1 : Nat)
    (centuries : n100 < 4) (fours : n4 < 25) (years : n1 < 4) :
    daysBeforeYear (400 * n400 + 100 * n100 + 4 * n4 + n1 + 1) =
      146097 * n400 + 36524 * n100 + 1461 * n4 + 365 * n1 := by
  have quarter : (400 * n400 + 100 * n100 + 4 * n4 + n1) / 4 =
      100 * n400 + 25 * n100 + n4 := by omega
  have century : (400 * n400 + 100 * n100 + 4 * n4 + n1) / 100 = 4 * n400 + n100 := by omega
  have cycle : (400 * n400 + 100 * n100 + 4 * n4 + n1) / 400 = n400 := by omega
  simp only [daysBeforeYear, Nat.add_sub_cancel, quarter, century, cycle]
  omega

private theorem isLeap_of_cycles (n400 n100 n4 n1 : Nat)
    (centuries : n100 < 4) (fours : n4 < 25) (years : n1 < 4) :
    isLeap (400 * n400 + 100 * n100 + 4 * n4 + n1 + 1) =
      decide (n1 = 3 ∧ (n4 ≠ 24 ∨ n100 = 3)) := by
  simp only [isLeap, decide_eq_decide]
  omega

/-- `date.toordinal` of the parts gives the date back. -/
theorem ordinal_of_yearMonthDay (date : Date) :
    daysBeforeYear date.yearMonthDay.1 +
      daysBeforeMonth (isLeap date.yearMonthDay.1) date.yearMonthDay.2.1 +
      date.yearMonthDay.2.2 = date.ordinal := by
  have positive := date.valid.1
  unfold yearMonthDay
  dsimp only
  generalize date.ordinal = ordinal at positive ⊢
  generalize a : (ordinal - 1) / 146097 = n400
  generalize b : (ordinal - 1) % 146097 / 36524 = n100
  generalize c : (ordinal - 1) % 146097 % 36524 / 1461 = n4
  generalize d : (ordinal - 1) % 146097 % 36524 % 1461 / 365 = n1
  generalize r : (ordinal - 1) % 146097 % 36524 % 1461 % 365 = dayOfYear
  have fours : n4 < 25 := by omega
  have days : ordinal = 146097 * n400 + 36524 * n100 + 1461 * n4 + 365 * n1 + dayOfYear + 1 := by
    omega
  split
  · next lastDay =>
    -- The 366th day of a leap year: the year divides by 400, or it ends a four-year cycle.
    by_cases century : n100 = 4
    · have year : n400 * 400 + 1 + n100 * 100 + n4 * 4 + n1 - 1 =
          400 * n400 + 100 * 3 + 4 * 24 + 3 + 1 := by omega
      have before := daysBeforeYear_of_cycles n400 3 24 3 (by decide) (by decide) (by decide)
      have leap := isLeap_of_cycles n400 3 24 3 (by decide) (by decide) (by decide)
      simp only [year, before, leap]
      norm_num [daysBeforeMonth]
      omega
    · have year : n400 * 400 + 1 + n100 * 100 + n4 * 4 + n1 - 1 =
          400 * n400 + 100 * n100 + 4 * n4 + 3 + 1 := by omega
      have notLast : n4 ≠ 24 := by omega
      have before := daysBeforeYear_of_cycles n400 n100 n4 3 (by omega) fours (by decide)
      have leap := isLeap_of_cycles n400 n100 n4 3 (by omega) fours (by decide)
      simp only [year, before, leap]
      norm_num [daysBeforeMonth, notLast]
      omega
  · next ordinary =>
    have year : n400 * 400 + 1 + n100 * 100 + n4 * 4 + n1 =
        400 * n400 + 100 * n100 + 4 * n4 + n1 + 1 := by omega
    have month := monthDay_spec (decide (n1 = 3 ∧ (n4 ≠ 24 ∨ n100 = 3))) dayOfYear (by omega)
    rw [year, daysBeforeYear_of_cycles n400 n100 n4 n1 (by omega) fours (by omega),
      isLeap_of_cycles n400 n100 n4 n1 (by omega) fours (by omega), add_assoc, month]
    omega

/-! ## Texts -/

/-- `date.isoformat()`. -/
def isoformat (date : Date) : Text :=
  let parts := date.yearMonthDay
  Text.zeroPad 4 (Text.digits parts.1) ++ '-' ::
    (Text.zeroPad 2 (Text.digits parts.2.1) ++ '-' ::
      Text.zeroPad 2 (Text.digits parts.2.2))

example : isoformat ⟨739847, by decide⟩ = "2026-08-19".toList := by decide +kernel

private theorem zeroPad_append_injective {width left right : Nat} {leftRest rightRest : Text}
    (equal : Text.zeroPad width (Text.digits left) ++ '-' :: leftRest =
      Text.zeroPad width (Text.digits right) ++ '-' :: rightRest) :
    left = right ∧ leftRest = rightRest := by
  rcases Text.append_eq_append_of_stopsAt
    (fun _ member => Text.isDigit_of_mem_zeroPad_digits member)
    (fun _ member => Text.isDigit_of_mem_zeroPad_digits member)
    (Text.stopsAt_cons leftRest rfl) (Text.stopsAt_cons rightRest rfl) equal with ⟨heads, rests⟩
  exact ⟨Text.zeroPad_digits_injective width heads, (List.cons.inj rests).2⟩

theorem isoformat_injective : Function.Injective isoformat := by
  intro left right equal
  rcases zeroPad_append_injective equal with ⟨years, afterYear⟩
  rcases zeroPad_append_injective afterYear with ⟨months, afterMonth⟩
  have days := Text.zeroPad_digits_injective 2 afterMonth
  ext
  rw [← ordinal_of_yearMonthDay left, ← ordinal_of_yearMonthDay right, years, months, days]

end Date

/-! ## Timestamps -/

/-- A UTC timestamp with microsecond resolution. -/
structure Datetime where
  date : Date
  microsecond : Nat
  valid : microsecond < 86400000000
deriving DecidableEq

namespace Datetime

/-- Microseconds since the start of day zero, for differences between timestamps. -/
def microseconds (instant : Datetime) : Int :=
  (instant.date.ordinal : Int) * 86400000000 + instant.microsecond

/-- `datetime.isoformat()` with the given offset text. -/
def isoformat (offset : Text) (instant : Datetime) : Text :=
  let second := instant.microsecond / 1000000
  let fraction := instant.microsecond % 1000000
  instant.date.isoformat ++ 'T' ::
    (Text.zeroPad 2 (Text.digits (second / 3600)) ++ ':' ::
      (Text.zeroPad 2 (Text.digits (second / 60 % 60)) ++ ':' ::
        (Text.zeroPad 2 (Text.digits (second % 60)) ++
          ((if fraction = 0 then [] else '.' :: Text.zeroPad 6 (Text.digits fraction)) ++
            offset))))

private theorem length_zeroPad_digits {width number : Nat} (positive : 0 < width)
    (small : number < 10 ^ width) : (Text.zeroPad width (Text.digits number)).length = width := by
  have bound : (Text.digits number).length ≤ width :=
    (Nat.length_toDigits_le_iff (by decide) positive).mpr small
  unfold Text.zeroPad
  rw [List.length_append, List.length_replicate]
  omega

private theorem isDigit_or_dash_of_mem_isoformat (date : Date) :
    ∀ character ∈ date.isoformat, (character.isDigit || character == '-') = true := by
  intro character member
  have ofDigits : ∀ width number, character ∈ Text.zeroPad width (Text.digits number) →
      (character.isDigit || character == '-') = true := by
    intro width number digit
    rw [Text.isDigit_of_mem_zeroPad_digits digit]
    rfl
  rcases List.mem_append.mp member with year | member
  · exact ofDigits _ _ year
  rcases List.mem_cons.mp member with rfl | member
  · rfl
  rcases List.mem_append.mp member with month | member
  · exact ofDigits _ _ month
  rcases List.mem_cons.mp member with rfl | day
  · rfl
  · exact ofDigits _ _ day

/-- A part of a fixed width ends where it ends, whatever follows it. -/
private theorem zeroPad_append_eq {width left right : Nat} {leftRest rightRest : Text}
    (positive : 0 < width) (leftSmall : left < 10 ^ width) (rightSmall : right < 10 ^ width)
    (equal : Text.zeroPad width (Text.digits left) ++ leftRest =
      Text.zeroPad width (Text.digits right) ++ rightRest) :
    left = right ∧ leftRest = rightRest := by
  have lengths := (length_zeroPad_digits positive leftSmall).trans
    (length_zeroPad_digits positive rightSmall).symm
  rcases List.append_inj equal lengths with ⟨parts, rests⟩
  exact ⟨Text.zeroPad_digits_injective width parts, rests⟩

/-- Timestamps with the same text are the same, whatever the offset text is. -/
theorem isoformat_injective (offset : Text) : Function.Injective (isoformat offset) := by
  intro left right equal
  have leftBound := left.valid
  have rightBound := right.valid
  unfold isoformat at equal
  dsimp only at equal
  rcases Text.append_eq_append_of_stopsAt (isDigit_or_dash_of_mem_isoformat left.date)
    (isDigit_or_dash_of_mem_isoformat right.date) (Text.stopsAt_cons _ rfl)
    (Text.stopsAt_cons _ rfl) equal with ⟨dates, times⟩
  rcases zeroPad_append_eq (by decide) (by omega) (by omega) (List.cons.inj times).2 with
    ⟨hours, afterHour⟩
  rcases zeroPad_append_eq (by decide) (by omega) (by omega) (List.cons.inj afterHour).2 with
    ⟨minutes, afterMinute⟩
  rcases zeroPad_append_eq (by decide) (by omega) (by omega) (List.cons.inj afterMinute).2 with
    ⟨seconds, fractions⟩
  have sameFraction := List.append_cancel_right fractions
  have fraction : left.microsecond % 1000000 = right.microsecond % 1000000 := by
    split at sameFraction
    · next leftZero =>
      split at sameFraction
      · next rightZero => rw [leftZero, rightZero]
      · cases sameFraction
    · split at sameFraction
      · cases sameFraction
      · exact Text.zeroPad_digits_injective 6 (List.cons.inj sameFraction).2
  have sameMicrosecond : left.microsecond = right.microsecond := by omega
  have sameDate := Date.isoformat_injective dates
  cases left
  cases right
  rw [mk.injEq]
  exact ⟨sameDate, sameMicrosecond⟩

end Datetime

end RollingBudget
