import Mathlib.Tactic.Common

/-!
# The calendar of `datetime`

Days of the proleptic Gregorian calendar, counted from 1 January of year 1 as day 1, and date-times
as microseconds. `ord2ymd` and `ymd2ord` are the two directions; years run from 1 to 9999, so a
count that lies outside has no date-time.
-/

namespace ControlAssurance.Lib

/-! ## Days -/

def isLeap (year : Nat) : Bool := year % 4 == 0 && (year % 100 != 0 || year % 400 == 0)

def daysInMonth (leap : Bool) (month : Nat) : Nat :=
  if month = 2 && leap then 29
  else [0, 31, 28, 31, 30, 31, 30, 31, 31, 30, 31, 30, 31].getD month 0

def daysBeforeMonth (leap : Bool) (month : Nat) : Nat :=
  [0, 0, 31, 59, 90, 120, 151, 181, 212, 243, 273, 304, 334].getD month 0
    + if 2 < month && leap then 1 else 0

def daysBeforeYear (year : Nat) : Nat :=
  (year - 1) * 365 + (year - 1) / 4 - (year - 1) / 100 + (year - 1) / 400

/-- The number of a day. -/
def ymd2ord (year month day : Nat) : Nat :=
  daysBeforeYear year + daysBeforeMonth (isLeap year) month + day

/-- Month and day of the `n`-th day of a year, counted from zero. The estimate is the right month
or the one after it. -/
def monthDay (leap : Bool) (n : Nat) : Nat × Nat :=
  let month := (n + 50) / 32
  if n < daysBeforeMonth leap month then (month - 1, n - daysBeforeMonth leap (month - 1) + 1)
  else (month, n - daysBeforeMonth leap month + 1)

/-- Year, month and day of a number: cycles of 400, 100, 4 and 1 years. The last day of a cycle
of 4 or 400 years overflows the count of the shorter ones. -/
def ord2ymd (ordinal : Nat) : Nat × Nat × Nat :=
  let n := ordinal - 1
  let n400 := n / 146097
  let n100 := n % 146097 / 36524
  let n4 := n % 146097 % 36524 / 1461
  let n1 := n % 146097 % 36524 % 1461 / 365
  let year := n400 * 400 + n100 * 100 + n4 * 4 + n1 + 1
  if n1 = 4 ∨ n100 = 4 then (year - 1, 12, 31)
  else (year, monthDay (n1 == 3 && (n4 != 24 || n100 == 3)) (n % 146097 % 36524 % 1461 % 365))

theorem monthDay_spec (leap : Bool) {n : Nat} (h : n < if leap then 366 else 365) :
    (1 ≤ (monthDay leap n).1 ∧ (monthDay leap n).1 ≤ 12)
      ∧ (1 ≤ (monthDay leap n).2 ∧ (monthDay leap n).2 ≤ daysInMonth leap (monthDay leap n).1)
      ∧ daysBeforeMonth leap (monthDay leap n).1 + (monthDay leap n).2 = n + 1 := by
  have htable : ∀ (leap : Bool) (n : Fin 366), n.val < (if leap then 366 else 365) →
      (1 ≤ (monthDay leap n).1 ∧ (monthDay leap n).1 ≤ 12)
        ∧ (1 ≤ (monthDay leap n).2 ∧ (monthDay leap n).2 ≤ daysInMonth leap (monthDay leap n).1)
        ∧ daysBeforeMonth leap (monthDay leap n).1 + (monthDay leap n).2 = n.val + 1 := by
    decide +kernel
  have hyear : n < 366 := by
    split at h <;> omega
  exact htable leap ⟨n, hyear⟩ h

/-- The years of whole cycles. -/
theorem daysBeforeYear_cycles {n400 n100 n4 n1 : Nat} (h100 : n100 < 4) (h4 : n4 < 25)
    (h1 : n1 < 4) : daysBeforeYear (n400 * 400 + n100 * 100 + n4 * 4 + n1 + 1)
      = n400 * 146097 + n100 * 36524 + n4 * 1461 + n1 * 365 := by
  rw [daysBeforeYear]
  omega

theorem isLeap_cycles {n400 n100 n4 n1 : Nat} (h100 : n100 < 4) (h4 : n4 < 25) (h1 : n1 < 4) :
    isLeap (n400 * 400 + n100 * 100 + n4 * 4 + n1 + 1)
      = (n1 == 3 && (n4 != 24 || n100 == 3)) := by
  rw [isLeap, Bool.eq_iff_iff]
  simp only [Bool.and_eq_true, Bool.or_eq_true, beq_iff_eq, bne_iff_ne]
  omega

/-- A number names a day of the calendar, and the day has that number. -/
theorem ord2ymd_spec {ordinal : Nat} (hpos : 1 ≤ ordinal) (hmax : ordinal ≤ 3652059)
    {year month day : Nat} (h : ord2ymd ordinal = (year, month, day)) :
    (1 ≤ year ∧ year ≤ 9999) ∧ (1 ≤ month ∧ month ≤ 12)
      ∧ (1 ≤ day ∧ day ≤ daysInMonth (isLeap year) month) ∧ ymd2ord year month day = ordinal := by
  obtain ⟨n, rfl⟩ := Nat.exists_eq_add_of_le' hpos
  simp only [ord2ymd, Nat.add_sub_cancel] at h
  generalize hn400 : n / 146097 = n400 at h
  generalize hn100 : n % 146097 / 36524 = n100 at h
  generalize hn4 : n % 146097 % 36524 / 1461 = n4 at h
  generalize hn1 : n % 146097 % 36524 % 1461 / 365 = n1 at h
  generalize hrest : n % 146097 % 36524 % 1461 % 365 = rest at h
  by_cases hoverflow : n1 = 4 ∨ n100 = 4
  · -- 31 December of a leap year
    rw [if_pos hoverflow] at h
    obtain ⟨hyear, rfl, rfl⟩ : n400 * 400 + n100 * 100 + n4 * 4 + n1 = year ∧ 12 = month
        ∧ 31 = day := by simpa using h
    have hlast : ∃ m100 m4, m100 < 4 ∧ m4 < 25 ∧ (m4 = 24 → m100 = 3)
        ∧ year = n400 * 400 + m100 * 100 + m4 * 4 + 3 + 1
        ∧ n = n400 * 146097 + m100 * 36524 + m4 * 1461 + 3 * 365 + 365 := by
      rcases hoverflow with hone | hhundred
      · exact ⟨n100, n4, by omega, by omega, by omega, by omega, by omega⟩
      · exact ⟨3, 24, by omega, by omega, by omega, by omega, by omega⟩
    obtain ⟨m100, m4, h100, h4, hcentury, rfl, hn⟩ := hlast
    have hleap : isLeap (n400 * 400 + m100 * 100 + m4 * 4 + 3 + 1) = true := by
      rw [isLeap_cycles h100 h4 (by omega)]
      by_cases hc : m4 = 24
      · simp [hcentury hc]
      · simp [hc]
    have hdecember : daysBeforeMonth true 12 = 335 := by decide
    rw [ymd2ord, hleap, daysBeforeYear_cycles h100 h4 (by omega), hdecember]
    refine ⟨by omega, by omega, by decide, ?_⟩
    rw [hn]
  · rw [if_neg hoverflow] at h
    have h100 : n100 < 4 := by omega
    have h4 : n4 < 25 := by omega
    have h1 : n1 < 4 := by omega
    obtain ⟨rfl, hmonth⟩ := Prod.mk.inj h
    rw [← @isLeap_cycles n400 n100 n4 n1 h100 h4 h1] at hmonth
    obtain ⟨hmonths, hdays, hsum⟩ := monthDay_spec
      (isLeap (n400 * 400 + n100 * 100 + n4 * 4 + n1 + 1)) (n := rest) (by split <;> omega)
    simp only [hmonth] at hmonths hdays hsum
    refine ⟨by omega, hmonths, hdays, ?_⟩
    rw [ymd2ord, daysBeforeYear_cycles h100 h4 h1]
    omega

/-! ## Date-times -/

structure DateTime where
  year : Nat
  month : Nat
  day : Nat
  hour : Nat
  minute : Nat
  second : Nat
  microsecond : Nat
  yearValid : 1 ≤ year ∧ year ≤ 9999
  monthValid : 1 ≤ month ∧ month ≤ 12
  dayValid : 1 ≤ day ∧ day ≤ daysInMonth (isLeap year) month
  timeValid : hour < 24 ∧ minute < 60 ∧ second < 60 ∧ microsecond < 1000000
deriving DecidableEq

/-- The position of a date-time, in microseconds. -/
def DateTime.microseconds (d : DateTime) : Nat :=
  (((ymd2ord d.year d.month d.day * 24 + d.hour) * 60 + d.minute) * 60 + d.second) * 1000000
    + d.microsecond

/-- The date-time at a position, where there is one. -/
def DateTime.ofMicroseconds (position : Nat) : Option DateTime :=
  let ordinal := position / 86400000000
  if h : 1 ≤ ordinal ∧ ordinal ≤ 3652059 then
    some {
      year := (ord2ymd ordinal).1
      month := (ord2ymd ordinal).2.1
      day := (ord2ymd ordinal).2.2
      hour := position / 3600000000 % 24
      minute := position / 60000000 % 60
      second := position / 1000000 % 60
      microsecond := position % 1000000
      yearValid := (ord2ymd_spec h.1 h.2 rfl).1
      monthValid := (ord2ymd_spec h.1 h.2 rfl).2.1
      dayValid := (ord2ymd_spec h.1 h.2 rfl).2.2.1
      timeValid := by omega }
  else none

/-- The date-time found at a position lies there. -/
theorem DateTime.microseconds_of {position : Nat} {d : DateTime}
    (h : DateTime.ofMicroseconds position = some d) : d.microseconds = position := by
  simp only [DateTime.ofMicroseconds] at h
  split at h
  · rename_i hrange
    obtain rfl := Option.some.inj h
    have hday : ymd2ord (ord2ymd (position / 86400000000)).1 (ord2ymd (position / 86400000000)).2.1
        (ord2ymd (position / 86400000000)).2.2 = position / 86400000000 :=
      (ord2ymd_spec hrange.1 hrange.2 rfl).2.2.2
    simp only [DateTime.microseconds]
    rw [hday]
    omega
  · cases h

/-- A position has a date-time from 1 January of year 1 until the end of year 9999. -/
theorem DateTime.ofMicroseconds_isSome {position : Nat} :
    (DateTime.ofMicroseconds position).isSome = true
      ↔ 86400000000 ≤ position ∧ position < 3652060 * 86400000000 := by
  simp only [DateTime.ofMicroseconds]
  split
  · simp only [Option.isSome_some, true_iff]
    omega
  · simp only [Option.isSome_none, Bool.false_eq_true, false_iff]
    omega

end ControlAssurance.Lib
