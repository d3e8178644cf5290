import Cantil.Library.Bytes

namespace Library.Calendar

/-- The Gregorian rule, also for the years before it was made. -/
def leap (year : Nat) : Bool := (year % 4 = 0 ∧ year % 100 ≠ 0) ∨ year % 400 = 0

def yearDays (year : Nat) : Nat := if leap year then 366 else 365

def monthDays (year : Nat) : Nat → Nat
  | 2 => if leap year then 29 else 28
  | 4 | 6 | 9 | 11 => 30
  | _ => 31

/-- The days from year 0 to the first of January of the year. -/
def daysBeforeYear (year : Nat) : Nat := 365 * year + (year + 3) / 4 + (year + 399) / 400 - (year + 99) / 100

def daysBeforeMonth (year : Nat) : Nat → Nat
  | 0 | 1 => 0
  | month + 2 => daysBeforeMonth year (month + 1) + monthDays year (month + 1)

@[ext]
structure Date where
  year : Nat
  month : Nat
  day : Nat
  deriving DecidableEq, Repr

namespace Date

/-- A day that the calendar has. -/
def Valid (date : Date) : Prop :=
  (1 ≤ date.month ∧ date.month ≤ 12) ∧ 1 ≤ date.day ∧ date.day ≤ monthDays date.year date.month

instance (date : Date) : Decidable date.Valid := inferInstanceAs (Decidable (_ ∧ _))

def number (date : Date) : Nat :=
  daysBeforeYear date.year + daysBeforeMonth date.year date.month + (date.day - 1)

end Date

theorem daysBeforeYear_succ (year : Nat) : daysBeforeYear (year + 1) = daysBeforeYear year + yearDays year := by
  unfold daysBeforeYear yearDays leap
  split_ifs with long <;> simp only [decide_eq_true_eq] at long <;> omega

theorem daysBeforeYear_mono {earlier later : Nat} (ordered : earlier ≤ later) :
    daysBeforeYear earlier ≤ daysBeforeYear later :=
  monotone_nat_of_le_succ (fun year => by rw [daysBeforeYear_succ]; omega) ordered

theorem daysBeforeMonth_mono (year : Nat) {earlier later : Nat} (ordered : earlier ≤ later) :
    daysBeforeMonth year earlier ≤ daysBeforeMonth year later := by
  refine monotone_nat_of_le_succ (fun month => ?_) ordered
  cases month with
  | zero => exact Nat.le_refl 0
  | succ month => exact Nat.le_add_right _ _

theorem daysBeforeMonth_succ (year : Nat) {month : Nat} (some : 1 ≤ month) :
    daysBeforeMonth year (month + 1) = daysBeforeMonth year month + monthDays year month := by
  obtain ⟨before, rfl⟩ := Nat.exists_eq_add_of_le' some
  rfl

theorem daysBeforeMonth_thirteen (year : Nat) : daysBeforeMonth year 13 = yearDays year := by
  simp only [daysBeforeMonth, monthDays, yearDays]
  split_ifs <;> rfl

namespace Date

variable {first second : Date}

/-- The days of a month are those before the next month. -/
theorem Valid.month_bounds (valid : first.Valid) :
    daysBeforeMonth first.year first.month + (first.day - 1) < daysBeforeMonth first.year (first.month + 1) ∧
      daysBeforeMonth first.year (first.month + 1) ≤ yearDays first.year := by
  obtain ⟨⟨january, december⟩, _, last⟩ := valid
  rw [← daysBeforeMonth_thirteen]
  refine ⟨?_, daysBeforeMonth_mono _ (by omega)⟩
  rw [daysBeforeMonth_succ _ january]
  omega

/-- The days of a year are those before the next year. -/
theorem Valid.year_bounds (valid : first.Valid) :
    daysBeforeYear first.year ≤ first.number ∧ first.number < daysBeforeYear (first.year + 1) := by
  have bounds := valid.month_bounds
  rw [daysBeforeYear_succ, number]
  omega

/-- Days follow each other as their dates do. -/
theorem Valid.number_le_iff (valid : first.Valid) (other : second.Valid) : first.number ≤ second.number ↔
    first.year < second.year ∨ first.year = second.year ∧
      (first.month < second.month ∨ first.month = second.month ∧ first.day ≤ second.day) := by
  have here := valid.year_bounds
  have there := other.year_bounds
  have otherDay := other.2.1
  rcases Nat.lt_trichotomy first.year second.year with before | same | behind
  · have := daysBeforeYear_mono (show first.year + 1 ≤ second.year from before)
    omega
  · have within := valid.month_bounds
    have beside := other.month_bounds
    unfold number
    rw [same] at within ⊢
    rcases Nat.lt_trichotomy first.month second.month with early | equal | late
    · have := daysBeforeMonth_mono second.year (show first.month + 1 ≤ second.month from early)
      omega
    · rw [equal]
      omega
    · have := daysBeforeMonth_mono second.year (show second.month + 1 ≤ first.month from late)
      omega
  · have := daysBeforeYear_mono (show second.year + 1 ≤ first.year from behind)
    omega

/-- A day has one date. -/
theorem Valid.eq_of_number (valid : first.Valid) (other : second.Valid) (same : first.number = second.number) :
    first = second := by
  have ordered := (valid.number_le_iff other).mp (Nat.le_of_eq same)
  have back := (other.number_le_iff valid).mp (Nat.le_of_eq same.symm)
  exact Date.ext (by omega) (by omega) (by omega)

end Date

/-- A second of a day. -/
@[ext]
structure Moment where
  date : Date
  hour : Nat
  minute : Nat
  second : Nat
  deriving DecidableEq, Repr

namespace Moment

def Valid (moment : Moment) : Prop :=
  moment.date.Valid ∧ moment.hour < 24 ∧ moment.minute < 60 ∧ moment.second < 60

instance (moment : Moment) : Decidable moment.Valid := inferInstanceAs (Decidable (_ ∧ _))

/-- The seconds since the first of January 1970. -/
def unix (moment : Moment) : Int :=
  (moment.date.number - (⟨1970, 1, 1⟩ : Date).number) * 86400 + moment.hour * 3600 + moment.minute * 60 + moment.second

/-- A second has one date and time. -/
theorem Valid.eq_of_unix {first other : Moment} (valid : first.Valid) (beside : other.Valid)
    (same : first.unix = other.unix) : first = other := by
  obtain ⟨day, _, _, _⟩ := valid
  obtain ⟨otherDay, _, _, _⟩ := beside
  unfold unix at same
  exact Moment.ext (day.eq_of_number otherDay (by omega)) (by omega) (by omega) (by omega)

end Moment

/-! The texts of the times in certificates and revocation lists. -/

/-- The number that a text of decimal digits stands for. -/
def readDigits (text : Bytes) : Option Nat :=
  text.foldlM (fun value char => if 48 ≤ char ∧ char ≤ 57 then some (value * 10 + (char.toNat - 48)) else none) 0

/-- The fields behind the year. The text ends in `Z`. -/
def readFields (year : Nat) (text : Bytes) : Option Moment := do
  let month ← readDigits (fieldAt 0 2 text)
  let day ← readDigits (fieldAt 2 2 text)
  let hour ← readDigits (fieldAt 4 2 text)
  let minute ← readDigits (fieldAt 6 2 text)
  let second ← readDigits (fieldAt 8 2 text)
  let moment : Moment := ⟨⟨year, month, day⟩, hour, minute, second⟩
  if text.drop 10 = [90] ∧ moment.Valid then some moment else none

/-- The short form has the years from 1950 to 2049. -/
def readTime (element : UInt8 × Bytes) : Option Moment :=
  if element.1 = 0x17 ∧ element.2.length = 13 then do
    let year ← readDigits (element.2.take 2)
    readFields (if year < 50 then 2000 + year else 1900 + year) (element.2.drop 2)
  else if element.1 = 0x18 ∧ element.2.length = 15 then do
    let year ← readDigits (element.2.take 4)
    readFields year (element.2.drop 4)
  else none

theorem readDigits_snoc (text : Bytes) (char : UInt8) : readDigits (text ++ [char]) =
    (readDigits text).bind fun value =>
      if 48 ≤ char ∧ char ≤ 57 then some (value * 10 + (char.toNat - 48)) else none := by
  simp [readDigits, List.foldlM_append]

theorem readDigits_lt {text : Bytes} {value : Nat} (read : readDigits text = some value) :
    value < 10 ^ text.length := by
  induction text using List.reverseRecOn generalizing value with
  | nil =>
    obtain rfl := Option.some.inj read
    exact Nat.one_pos
  | append_singleton front char ih =>
    rw [readDigits_snoc] at read
    obtain ⟨before, first, last⟩ := Option.bind_eq_some_iff.mp read
    split_ifs at last with digit
    have small := ih first
    have bound : char.toNat ≤ 57 := UInt8.le_iff_toNat_le.mp digit.2
    rw [List.length_append, List.length_singleton, ← Option.some.inj last]
    omega

theorem readFields_year {year : Nat} {text : Bytes} {moment : Moment} (read : readFields year text = some moment) :
    moment.date.year = year := by
  simp only [readFields, Option.bind_eq_bind, Option.bind_eq_some_iff] at read
  obtain ⟨_, _, _, _, _, _, _, _, _, _, read⟩ := read
  split_ifs at read
  rw [← Option.some.inj read]

/-- A time has a year of four digits. -/
theorem readTime_year {element : UInt8 × Bytes} {moment : Moment} (read : readTime element = some moment) :
    moment.date.year < 10000 := by
  unfold readTime at read
  split_ifs at read with short long
  · obtain ⟨year, digits, rest⟩ := Option.bind_eq_some_iff.mp read
    have small : year < 10 ^ 2 := by simpa [short.2] using readDigits_lt digits
    rw [readFields_year rest]
    split_ifs <;> omega
  · obtain ⟨year, digits, rest⟩ := Option.bind_eq_some_iff.mp read
    have small : year < 10 ^ 4 := by simpa [long.2] using readDigits_lt digits
    rw [readFields_year rest]
    exact small

end Library.Calendar
