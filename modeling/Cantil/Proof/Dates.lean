import Mathlib.Tactic.IntervalCases
import Cantil.Firmware.Ca.Crl
import Cantil.Library.Calendar

namespace Cantil.Ca
open Library Library.Calendar DerWrite

/-! Decimal texts. -/

section Decimal

variable {width value : Nat}

theorem decimal_succ (width value : Nat) :
    decimal (width + 1) value = decimal width (value / 10) ++ [UInt8.ofNat (48 + value % 10)] := by
  simp only [decimal, List.range_succ_eq_map, List.reverse_cons, List.map_append, ← List.map_reverse, List.map_map]
  simp [Function.comp_def, Nat.div_div_eq_div_mul, Nat.pow_succ, Nat.mul_comm]

theorem decimal_length (width value : Nat) : (decimal width value).length = width := by simp [decimal]

theorem decimalDigit_toNat (value : Nat) : (UInt8.ofNat (48 + value % 10)).toNat = 48 + value % 10 := by
  rw [UInt8.toNat_ofNat']
  omega

theorem readDigits_decimal (fits : value < 10 ^ width) : readDigits (decimal width value) = some value := by
  induction width generalizing value with
  | zero =>
    obtain rfl : value = 0 := by omega
    rfl
  | succ width ih =>
    have front := @ih (value / 10) (by omega)
    have digit := decimalDigit_toNat value
    rw [decimal_succ, readDigits_snoc, front, Option.bind_some, if_pos, Option.some.injEq]
    · omega
    · simp only [UInt8.le_iff_toNat_le, digit]
      exact ⟨by simp, by simp; omega⟩

theorem digits_decimal (width value : Nat) : digits (decimal width value) = value % 10 ^ width := by
  induction width generalizing value with
  | zero => rw [Nat.pow_zero, Nat.mod_one]; rfl
  | succ width ih =>
    rw [decimal_succ, digits, List.foldl_append, ← digits, ih, Nat.pow_succ', Nat.mod_mul]
    simp only [List.foldl_cons, List.foldl_nil, decimalDigit_toNat]
    omega

theorem decimal_isDigit (width value : Nat) : (decimal width value).all isDigit = true := by
  have digit (place : Nat) : isDigit (UInt8.ofNat (48 + value / 10 ^ place % 10)) = true := by
    simp only [isDigit, decide_eq_true_eq, UInt8.le_iff_toNat_le, decimalDigit_toNat]
    exact ⟨Nat.le_add_right 48 _, show _ ≤ 57 by omega⟩
  rw [decimal, List.all_map, List.all_eq_true]
  exact fun place _ => digit place

end Decimal

/-! The end of a validity. -/

/-- The date in front of a time of day. -/
def stampDate (stamp : Bytes) : Date := ⟨digits (stamp.take 4), digits (fieldAt 4 2 stamp), digits (fieldAt 6 2 stamp)⟩

theorem stampDate_decimal {year month day : Nat} (short : year < 10000) (two : month < 100) (twoDay : day < 100)
    (rest : Bytes) : stampDate (decimal 4 year ++ decimal 2 month ++ decimal 2 day ++ rest) = ⟨year, month, day⟩ := by
  have yearField : (decimal 4 year ++ decimal 2 month ++ decimal 2 day ++ rest).take 4 = decimal 4 year := rfl
  have monthField : fieldAt 4 2 (decimal 4 year ++ decimal 2 month ++ decimal 2 day ++ rest) = decimal 2 month := rfl
  have dayField : fieldAt 6 2 (decimal 4 year ++ decimal 2 month ++ decimal 2 day ++ rest) = decimal 2 day := rfl
  rw [stampDate, yearField, monthField, dayField, digits_decimal, digits_decimal, digits_decimal, Date.mk.injEq]
  omega

/-- The date that `compute_not_after` writes. -/
theorem computeNotAfter_date {validityDays : Nat} (narrow : validityDays ≤ 65535) :
    stampDate (computeNotAfter validityDays) =
      ⟨2026 + validityDays / 365, min (1 + validityDays % 365 / 30) 12, min (1 + validityDays % 365 % 30) 28⟩ :=
  stampDate_decimal (by omega) (by omega) (by omega) _

theorem notBeforeBase_date : stampDate notBeforeBase = ⟨2026, 1, 1⟩ :=
  stampDate_decimal (by decide) (by decide) (by decide) _

theorem computeNotAfter_valid {validityDays : Nat} (narrow : validityDays ≤ 65535) :
    (stampDate (computeNotAfter validityDays)).Valid := by
  rw [computeNotAfter_date narrow]
  refine ⟨⟨by dsimp only; omega, by dsimp only; omega⟩, by dsimp only; omega, ?_⟩
  have least (year month : Nat) : 28 ≤ monthDays year month := by
    unfold monthDays
    split <;> first | split_ifs <;> omega | omega
  exact (Nat.min_le_right _ _).trans (least _ _)

/-- What a user expects of two validities. -/
def Monotone (shorter longer : Nat) : Prop :=
  let first := stampDate (computeNotAfter shorter)
  let last := stampDate (computeNotAfter longer)
  first.Valid ∧ last.Valid ∧ (stampDate notBeforeBase).number < first.number ∧ first.number ≤ last.number

/-- A longer validity ends earlier only beyond twelve months. -/
theorem notAfter_monotone_iff {shorter longer : Nat} (some : 1 ≤ shorter) (ordered : shorter ≤ longer)
    (narrow : longer ≤ 65535) : Monotone shorter longer ↔
      ¬ (shorter / 365 = longer / 365 ∧ shorter % 365 < 360 ∧ 360 ≤ longer % 365 ∧
        longer % 365 < shorter % 365 + 30) := by
  have valid := computeNotAfter_valid (show shorter ≤ 65535 by omega)
  have other := computeNotAfter_valid narrow
  have base : (stampDate notBeforeBase).Valid := by decide
  have after : (stampDate notBeforeBase).number < (stampDate (computeNotAfter shorter)).number := by
    rw [← Nat.not_le, valid.number_le_iff base, notBeforeBase_date, computeNotAfter_date (by omega)]
    dsimp only
    omega
  simp only [Monotone, valid, other, after, true_and]
  rw [valid.number_le_iff other, computeNotAfter_date narrow, computeNotAfter_date (by omega)]
  dsimp only
  omega

/-- A year lasts longer than a month. -/
theorem notAfter_monotone_year : 1 ≤ 30 ∧ 30 ≤ 365 ∧ 365 ≤ 65535 ∧ Monotone 30 365 :=
  ⟨by decide, by decide, by decide, (notAfter_monotone_iff (by decide) (by decide) (by decide)).mpr (by decide)⟩

/-- 360 days end 27 days before 359 days. -/
theorem notAfter_not_monotone : stampDate (computeNotAfter 359) = ⟨2026, 12, 28⟩ ∧
    stampDate (computeNotAfter 360) = ⟨2026, 12, 1⟩ ∧ ¬ Monotone 359 360 := by
  refine ⟨computeNotAfter_date (by decide), computeNotAfter_date (by decide), fun monotone => ?_⟩
  have ordered := monotone.2.2.2
  revert ordered
  decide

/-! The times of a revocation list. -/

def CivilTime.moment (time : CivilTime) : Moment :=
  ⟨⟨time.year, time.month, time.day⟩, time.hour, time.minute, time.second⟩

theorem yearLoop_spec (days year : Nat) : (yearLoop days year).1 < yearDays (yearLoop days year).2 ∧
    daysBeforeYear (yearLoop days year).2 + (yearLoop days year).1 = daysBeforeYear year + days := by
  fun_induction yearLoop days year with
  | case1 days year inside => exact ⟨inside, rfl⟩
  | case2 days year outside ih =>
    have next : daysBeforeYear (year + 1) = daysBeforeYear year + yearDays year := daysBeforeYear_succ year
    omega

/-- The entry of the table, with the leap day in February. -/
theorem monthLengths_drop {month length : Nat} {rest : List Nat} (year : Nat)
    (behind : monthLengths.drop month = length :: rest) :
    month < 12 ∧ monthLengths.drop (month + 1) = rest ∧
      length + (if month = 1 ∧ isLeap year then 1 else 0) = monthDays year (month + 1) := by
  have inside : month < 12 := by
    have count := congrArg List.length behind
    simp only [monthLengths, List.length_drop, List.length_cons, List.length_nil] at count
    omega
  have next := congrArg List.tail behind
  rw [List.tail_drop] at next
  refine ⟨inside, next, ?_⟩
  have entry := congrArg List.head? behind
  have rule : leap year = isLeap year := rfl
  interval_cases month <;> obtain rfl := Option.some.inj entry <;> simp [monthDays, rule]
  split_ifs <;> rfl

theorem monthLoop_spec {year : Nat} (lengths : List Nat) {days month : Nat} (behind : monthLengths.drop month = lengths)
    (inside : daysBeforeMonth year (month + 1) + days < yearDays year) :
    let found := monthLoop (isLeap year) lengths days month
    found.2 < 12 ∧ found.1 < monthDays year (found.2 + 1) ∧
      daysBeforeMonth year (found.2 + 1) + found.1 = daysBeforeMonth year (month + 1) + days := by
  induction lengths generalizing days month with
  | nil =>
    have past : 12 ≤ month := by
      have count := List.drop_eq_nil_iff.mp behind
      exact count
    have whole := daysBeforeMonth_mono year (show 13 ≤ month + 1 by omega)
    rw [daysBeforeMonth_thirteen] at whole
    exact absurd inside (Nat.not_lt.mpr (whole.trans (Nat.le_add_right _ _)))
  | cons length rest ih =>
    obtain ⟨early, next, entry⟩ := monthLengths_drop year behind
    simp only [monthLoop, entry]
    split_ifs with here
    · exact ⟨early, here, rfl⟩
    · have step := daysBeforeMonth_succ year (show 1 ≤ month + 1 by omega)
      have later := @ih (days - monthDays year (month + 1)) (month + 1) next (by omega)
      omega

/-- The conversion gives the civil date and time of the second. -/
theorem unixToYmdhms_moment (secs : UInt64) :
    (unixToYmdhms secs).moment.Valid ∧ (unixToYmdhms secs).moment.unix = secs.toNat := by
  have years := yearLoop_spec (secs.toNat / 86400) 1970
  have months := @monthLoop_spec _ monthLengths _ 0 rfl (show daysBeforeMonth _ 1 + _ < _ by
    rw [daysBeforeMonth, Nat.zero_add]
    exact years.1)
  simp only [unixToYmdhms, CivilTime.moment]
  generalize yearLoop (secs.toNat / 86400) 1970 = reached at years months ⊢
  generalize monthLoop (isLeap reached.2) monthLengths reached.1 0 = found at months ⊢
  obtain ⟨december, last, total⟩ := months
  rw [daysBeforeMonth] at total
  have number : (⟨reached.2, found.2 + 1, found.1 + 1⟩ : Date).number =
      (⟨1970, 1, 1⟩ : Date).number + secs.toNat / 86400 := by
    have epoch : (⟨1970, 1, 1⟩ : Date).number = daysBeforeYear 1970 := rfl
    rw [epoch, Date.number]
    dsimp only
    omega
  constructor
  · refine ⟨⟨⟨?_, ?_⟩, ?_, ?_⟩, ?_, ?_, ?_⟩ <;> dsimp only <;> omega
  · rw [Moment.unix]
    dsimp only
    omega

/-- The fields behind the year of a time element. -/
def timeFields (moment : Moment) : Bytes :=
  decimal 2 moment.date.month ++ decimal 2 moment.date.day ++ decimal 2 moment.hour ++ decimal 2 moment.minute ++
    decimal 2 moment.second ++ [90]

theorem readFields_timeFields {moment : Moment} (valid : moment.Valid) :
    readFields moment.date.year (timeFields moment) = some moment := by
  have whole := valid
  have long (year month : Nat) : monthDays year month ≤ 31 := by
    unfold monthDays
    split <;> first | split_ifs <;> omega | omega
  have days := valid.1.2.2.trans (long _ _)
  obtain ⟨⟨⟨_, december⟩, _⟩, hours, minutes, seconds⟩ := valid
  have read (offset value : Nat) (field : fieldAt offset 2 (timeFields moment) = decimal 2 value)
      (small : value < 100) :
      readDigits (fieldAt offset 2 (timeFields moment)) = some value := by
    rw [field, readDigits_decimal small]
  have month := read 0 moment.date.month rfl (by omega)
  have day := read 2 moment.date.day rfl (by omega)
  have hour := read 4 moment.hour rfl (by omega)
  have minute := read 6 moment.minute rfl (by omega)
  have second := read 8 moment.second rfl (by omega)
  have ended : (timeFields moment).drop 10 = [90] := rfl
  simp only [readFields, month, day, hour, minute, second, Option.bind_eq_bind, Option.bind_some, ended, true_and]
  exact if_pos whole

/-- A time element up to 9999 is read back as its moment. -/
theorem readTime_timeElement {secs : UInt64} (early : (unixToYmdhms secs).year < 10000) :
    readTime (timeElement secs) = some (unixToYmdhms secs).moment := by
  have valid := (unixToYmdhms_moment secs).1
  unfold timeElement
  generalize unixToYmdhms secs = time at early valid ⊢
  have fields : readFields time.year (timeFields time.moment) = some time.moment := readFields_timeFields valid
  dsimp only
  split_ifs with short
  · have year : readDigits (decimal 2 (time.year % 100)) = some (time.year % 100) := readDigits_decimal (by omega)
    have century : (if time.year % 100 < 50 then 2000 + time.year % 100 else 1900 + time.year % 100) = time.year := by
      split_ifs <;> omega
    show (readDigits (decimal 2 (time.year % 100))).bind (fun year => readFields
      (if year < 50 then 2000 + year else 1900 + year) (timeFields time.moment)) = _
    rw [year, Option.bind_some, century, fields]
  · have year : readDigits (decimal 4 time.year) = some time.year := readDigits_decimal early
    rw [decimalWide, if_pos (show time.year < 10 ^ 4 from early), readTime,
      if_neg (fun utc => (show asn1GeneralizedTime ≠ 0x17 by decide) utc.1)]
    show (readDigits (decimal 4 time.year)).bind (fun year => readFields year (timeFields time.moment)) = _
    rw [year, Option.bind_some, fields]

/-- The civil date reads back as that second. -/
structure TimeSound (secs : UInt64) : Prop where
  civil : ∀ moment : Moment, moment.Valid ∧ moment.unix = secs.toNat ↔ moment = (unixToYmdhms secs).moment
  form : ((timeElement secs).1, (timeElement secs).2.length) =
    if 1950 ≤ (unixToYmdhms secs).year ∧ (unixToYmdhms secs).year < 2050 then (asn1UtcTime, 13)
    else (asn1GeneralizedTime, 15)
  reads : readTime (timeElement secs) = some (unixToYmdhms secs).moment

/-- The first second of the year 10000. -/
def yearTenThousand : Nat := 253402300800

theorem unixToYmdhms_early (secs : UInt64) : (unixToYmdhms secs).year < 10000 ↔ secs.toNat < yearTenThousand := by
  obtain ⟨⟨valid, hours, minutes, seconds⟩, unix⟩ := unixToYmdhms_moment secs
  have bounds := valid.year_bounds
  have epoch : (⟨1970, 1, 1⟩ : Date).number = 719528 := rfl
  have limit : daysBeforeYear 10000 = 3652425 := rfl
  rw [Moment.unix] at unix
  have year : (unixToYmdhms secs).moment.date.year = (unixToYmdhms secs).year := rfl
  rw [year] at bounds
  unfold yearTenThousand
  constructor
  · intro early
    have := daysBeforeYear_mono (show (unixToYmdhms secs).year + 1 ≤ 10000 from early)
    omega
  · intro early
    by_contra late
    have := daysBeforeYear_mono (Nat.not_lt.mp late)
    omega

/-- Four digits hold the years up to 9999. -/
theorem timeSound_iff (secs : UInt64) : TimeSound secs ↔ secs.toNat < yearTenThousand := by
  rw [← unixToYmdhms_early]
  constructor
  · intro sound
    exact readTime_year sound.reads
  · intro early
    obtain ⟨valid, unix⟩ := unixToYmdhms_moment secs
    refine ⟨fun moment => ⟨fun ⟨other, same⟩ => other.eq_of_unix valid (same.trans unix.symm), ?_⟩, ?_,
      readTime_timeElement early⟩
    · rintro rfl
      exact ⟨valid, unix⟩
    · unfold timeElement
      dsimp only
      split_ifs with short
      · rfl
      · rw [decimalWide, if_pos (show (unixToYmdhms secs).year < 10 ^ 4 from early)]
        rfl

/-- The times of a list are sound exactly up to the year 9999. -/
theorem crl_times_iff (config : Config) (range : 60 ≤ config.crlValiditySec ∧ config.crlValiditySec ≤ 31536000)
    (nowUnix stored : UInt64) :
    let nextUpdate := nowUnix + UInt64.ofNat config.crlValiditySec
    let revokedAt := if stored ≠ 0 then stored else nowUnix
    (TimeSound nowUnix ∧ TimeSound nextUpdate ∧ TimeSound revokedAt ∧ nowUnix < nextUpdate) ↔
      nowUnix.toNat + config.crlValiditySec < yearTenThousand ∧ stored.toNat < yearTenThousand := by
  have next : (nowUnix + UInt64.ofNat config.crlValiditySec).toNat =
      (nowUnix.toNat + config.crlValiditySec) % 2 ^ 64 := by
    rw [UInt64.toNat_add, UInt64.toNat_ofNat', Nat.add_mod_mod]
  simp only [timeSound_iff, UInt64.lt_iff_toNat_lt, next]
  unfold yearTenThousand
  split_ifs with given
  · omega
  · obtain rfl := not_not.mp given
    simp only [UInt64.toNat_zero]
    omega

/-- The times of a list of 2026 are sound. -/
theorem crl_times_today :
    60 ≤ Config.default.crlValiditySec ∧ Config.default.crlValiditySec ≤ 31536000 ∧ TimeSound 1767225600 ∧
      TimeSound (1767225600 + UInt64.ofNat Config.default.crlValiditySec) := by
  have sound := (crl_times_iff .default (by decide) 1767225600 0).mpr (by decide)
  exact ⟨by decide, by decide, sound.1, sound.2.1⟩

/-- Five-digit years are cut, and the 64 bits wrap. -/
theorem crl_times_fail : 10000 ≤ (unixToYmdhms 253402300800).year ∧ ¬ TimeSound 253402300800 ∧
    ¬ (0xFFFFFFFFFFFFFFFF : UInt64) < 0xFFFFFFFFFFFFFFFF + UInt64.ofNat Config.default.crlValiditySec := by
  rw [timeSound_iff, ← Nat.not_lt, unixToYmdhms_early]
  decide

end Cantil.Ca
