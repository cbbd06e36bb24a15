import ControlAssurance.Attestation.Preflight
import ControlAssurance.Lib.Calendar

/-!
# Timestamps

The wire form of a UTC timestamp, read and written, and the time of an admission: a local date-time
with its offset, which is brought to UTC where the calendar reaches.
-/

namespace ControlAssurance.Attestation

open Lib

/-! ## Digits -/

/-- A number in `width` decimal digits, as `format` writes it with leading zeros. -/
def paddedDecimal : Nat → Nat → Text
  | 0, _ => []
  | width + 1, n => paddedDecimal width (n / 10) ++ ['0'.toNat + n % 10]

def isDecimalDigit (code : Nat) : Bool := '0'.toNat ≤ code && code ≤ '9'.toNat

/-- `int` on decimal digits. -/
def decimalNumber (digits : Text) : Nat := digits.foldl (fun n code => n * 10 + (code - '0'.toNat)) 0

theorem paddedDecimal_length : ∀ (width n : Nat), (paddedDecimal width n).length = width
  | 0, _ => rfl
  | width + 1, n => by
    rw [paddedDecimal, List.length_append, paddedDecimal_length width (n / 10)]
    rfl

theorem paddedDecimal_digits : ∀ (width n : Nat), ∀ code ∈ paddedDecimal width n,
    isDecimalDigit code = true
  | 0, _, code, h => by cases h
  | width + 1, n, code, h => by
    rcases List.mem_append.mp h with h | h
    · exact paddedDecimal_digits width (n / 10) code h
    · obtain rfl := List.mem_singleton.mp h
      have hdigit : n % 10 < 10 := Nat.mod_lt _ (by decide)
      have htable : ∀ d : Fin 10, isDecimalDigit ('0'.toNat + d.val) = true := by decide
      exact htable ⟨n % 10, hdigit⟩

theorem decimalNumber_padded : ∀ (width n : Nat), n < 10 ^ width →
    decimalNumber (paddedDecimal width n) = n
  | 0, n, h => by
    have hzero : n = 0 := by simpa using h
    rw [hzero]
    rfl
  | width + 1, n, h => by
    have hrec := decimalNumber_padded width (n / 10) (by rw [Nat.pow_succ] at h; omega)
    rw [decimalNumber] at hrec
    rw [paddedDecimal, decimalNumber, List.foldl_append, hrec]
    show n / 10 * 10 + ('0'.toNat + n % 10 - '0'.toNat) = n
    omega

/-! ## The wire form -/

/-- The shape of `_CANONICAL_TIMESTAMP_PATTERN`, a zero for a digit. -/
def timestampShape : Text := text "0000-00-00T00:00:00.000000Z"

/-- `_CANONICAL_TIMESTAMP_PATTERN`. -/
def TimestampShaped (value : Text) : Prop :=
  value.length = timestampShape.length ∧ ∀ pair ∈ value.zip timestampShape,
    if pair.2 = '0'.toNat then isDecimalDigit pair.1 = true else pair.1 = pair.2

instance (value : Text) : Decidable (TimestampShaped value) := inferInstanceAs (Decidable (_ ∧ _))

/-- The digits from a position on. -/
def numberAt (start width : Nat) (value : Text) : Nat := decimalNumber ((value.drop start).take width)

/-- The date-time of seven numbers, where they make one. -/
def dateTime (year month day hour minute second microsecond : Nat) : Option DateTime :=
  if h : (1 ≤ year ∧ year ≤ 9999) ∧ (1 ≤ month ∧ month ≤ 12)
      ∧ (1 ≤ day ∧ day ≤ daysInMonth (isLeap year) month)
      ∧ (hour < 24 ∧ minute < 60 ∧ second < 60 ∧ microsecond < 1000000) then
    some ⟨year, month, day, hour, minute, second, microsecond, h.1, h.2.1, h.2.2.1, h.2.2.2⟩
  else none

/-- `_parse_canonical_timestamp`. -/
def parseCanonicalTimestamp (value : Text) : Except String DateTime := do
  require (TimestampShaped value) "timestamp must use YYYY-MM-DDTHH:MM:SS.ffffffZ"
  expect (dateTime (numberAt 0 4 value) (numberAt 5 2 value) (numberAt 8 2 value)
      (numberAt 11 2 value) (numberAt 14 2 value) (numberAt 17 2 value) (numberAt 20 6 value))
    "timestamp is not a valid UTC date and time"

/-- `_format_canonical_timestamp`. -/
def formatCanonicalTimestamp (d : DateTime) : Text :=
  paddedDecimal 4 d.year ++ text "-" ++ paddedDecimal 2 d.month ++ text "-" ++ paddedDecimal 2 d.day
    ++ text "T" ++ paddedDecimal 2 d.hour ++ text ":" ++ paddedDecimal 2 d.minute ++ text ":"
    ++ paddedDecimal 2 d.second ++ text "." ++ paddedDecimal 6 d.microsecond ++ text "Z"

/-! ## Reading what was written -/

theorem zip_digits {digits : Text} (h : ∀ code ∈ digits, isDecimalDigit code = true)
    {rest shape : Text} (hrest : ∀ pair ∈ rest.zip shape,
      if pair.2 = '0'.toNat then isDecimalDigit pair.1 = true else pair.1 = pair.2) :
    ∀ pair ∈ (digits ++ rest).zip (List.replicate digits.length '0'.toNat ++ shape),
      if pair.2 = '0'.toNat then isDecimalDigit pair.1 = true else pair.1 = pair.2 := by
  intro pair hpair
  rw [List.zip_append (by simp)] at hpair
  rcases List.mem_append.mp hpair with hpair | hpair
  · obtain ⟨hdigit, hzero⟩ := List.of_mem_zip (a := pair.1) (b := pair.2) hpair
    rw [if_pos (List.eq_of_mem_replicate hzero)]
    exact h _ hdigit
  · exact hrest pair hpair

theorem zip_mark {mark : Nat} (h : mark ≠ '0'.toNat) {rest shape : Text}
    (hrest : ∀ pair ∈ rest.zip shape,
      if pair.2 = '0'.toNat then isDecimalDigit pair.1 = true else pair.1 = pair.2) :
    ∀ pair ∈ (mark :: rest).zip (mark :: shape),
      if pair.2 = '0'.toNat then isDecimalDigit pair.1 = true else pair.1 = pair.2 := by
  intro pair hpair
  rcases List.mem_cons.mp hpair with rfl | hpair
  · exact (if_neg h).symm ▸ rfl
  · exact hrest pair hpair

theorem paddedDecimal_drop {width start : Nat} (n : Nat) (h : width ≤ start) :
    (paddedDecimal width n).drop start = [] :=
  List.drop_eq_nil_of_le (by rw [paddedDecimal_length]; exact h)

/-- The pieces of a written timestamp, nested to the right. -/
theorem formatCanonicalTimestamp_pieces (d : DateTime) : formatCanonicalTimestamp d
    = paddedDecimal 4 d.year ++ ('-'.toNat :: (paddedDecimal 2 d.month ++ ('-'.toNat
      :: (paddedDecimal 2 d.day ++ ('T'.toNat :: (paddedDecimal 2 d.hour ++ (':'.toNat
      :: (paddedDecimal 2 d.minute ++ (':'.toNat :: (paddedDecimal 2 d.second ++ ('.'.toNat
      :: (paddedDecimal 6 d.microsecond ++ ['Z'.toNat]))))))))))))  := by
  simp [formatCanonicalTimestamp, text]

theorem formatCanonicalTimestamp_shaped (d : DateTime) :
    TimestampShaped (formatCanonicalTimestamp d) := by
  have hshape : timestampShape = List.replicate 4 '0'.toNat ++ ('-'.toNat
      :: (List.replicate 2 '0'.toNat ++ ('-'.toNat :: (List.replicate 2 '0'.toNat ++ ('T'.toNat
      :: (List.replicate 2 '0'.toNat ++ (':'.toNat :: (List.replicate 2 '0'.toNat ++ (':'.toNat
      :: (List.replicate 2 '0'.toNat ++ ('.'.toNat :: (List.replicate 6 '0'.toNat
      ++ ['Z'.toNat])))))))))))) := by decide
  have hdigits : ∀ (width n : Nat) {rest shape : Text}, (∀ pair ∈ rest.zip shape,
      if pair.2 = '0'.toNat then isDecimalDigit pair.1 = true else pair.1 = pair.2) →
      ∀ pair ∈ (paddedDecimal width n ++ rest).zip (List.replicate width '0'.toNat ++ shape),
        if pair.2 = '0'.toNat then isDecimalDigit pair.1 = true else pair.1 = pair.2 := by
    intro width n rest shape hrest
    have hzip := zip_digits (paddedDecimal_digits width n) hrest
    rwa [paddedDecimal_length] at hzip
  constructor
  · rw [formatCanonicalTimestamp_pieces]
    simp only [List.length_append, List.length_cons, List.length_nil, paddedDecimal_length]
    decide
  · rw [formatCanonicalTimestamp_pieces, hshape]
    refine hdigits 4 _ (zip_mark (by decide) (hdigits 2 _ (zip_mark (by decide) (hdigits 2 _
      (zip_mark (by decide) (hdigits 2 _ (zip_mark (by decide) (hdigits 2 _ (zip_mark (by decide)
      (hdigits 2 _ (zip_mark (by decide) (hdigits 6 _ (zip_mark (by decide) ?_)))))))))))))
    intro pair hpair
    cases hpair

/-- A date-time is read back from what is written. -/
theorem parse_formatCanonicalTimestamp (d : DateTime) :
    parseCanonicalTimestamp (formatCanonicalTimestamp d) = .ok d := by
  have hyear := decimalNumber_padded 4 d.year (by have := d.yearValid; omega)
  have hmonth := decimalNumber_padded 2 d.month (by have := d.monthValid; omega)
  have hday := decimalNumber_padded 2 d.day (by
    have hlong : ∀ (leap : Bool) (month : Fin 13), daysInMonth leap month.val ≤ 31 := by decide
    have hdays := hlong (isLeap d.year) ⟨d.month, by have := d.monthValid; omega⟩
    have := d.dayValid
    simp only at hdays
    omega)
  have hhour := decimalNumber_padded 2 d.hour (by have := d.timeValid; omega)
  have hminute := decimalNumber_padded 2 d.minute (by have := d.timeValid; omega)
  have hsecond := decimalNumber_padded 2 d.second (by have := d.timeValid; omega)
  have hmicrosecond := decimalNumber_padded 6 d.microsecond (by have := d.timeValid; omega)
  rw [parseCanonicalTimestamp, require_pos (formatCanonicalTimestamp_shaped d), ok_bind]
  have hnumbers : numberAt 0 4 (formatCanonicalTimestamp d) = d.year
      ∧ numberAt 5 2 (formatCanonicalTimestamp d) = d.month
      ∧ numberAt 8 2 (formatCanonicalTimestamp d) = d.day
      ∧ numberAt 11 2 (formatCanonicalTimestamp d) = d.hour
      ∧ numberAt 14 2 (formatCanonicalTimestamp d) = d.minute
      ∧ numberAt 17 2 (formatCanonicalTimestamp d) = d.second
      ∧ numberAt 20 6 (formatCanonicalTimestamp d) = d.microsecond := by
    simp [formatCanonicalTimestamp_pieces, numberAt, List.drop_append,
      paddedDecimal_length, paddedDecimal_drop, hyear, hmonth, hday, hhour, hminute, hsecond, hmicrosecond]
  obtain ⟨h₁, h₂, h₃, h₄, h₅, h₆, h₇⟩ := hnumbers
  rw [h₁, h₂, h₃, h₄, h₅, h₆, h₇, dateTime,
    dif_pos ⟨d.yearValid, d.monthValid, d.dayValid, d.timeValid⟩]
  rfl

/-! ## Admission -/

/-- A `datetime` with an offset: its own fields, and how far they are ahead of UTC. -/
structure AdmissionTime where
  localTime : DateTime
  offset : Int
  offsetValid : -86400000000 < offset ∧ offset < 86400000000

/-- The instant, in microseconds of the calendar in UTC; it may lie outside the calendar. -/
def AdmissionTime.instant (t : AdmissionTime) : Int := t.localTime.microseconds - t.offset

/-- `_canonical_admission_time`: `astimezone` raises where the calendar does not reach. -/
def canonicalAdmissionTime (t : AdmissionTime) : Option DateTime :=
  DateTime.ofMicroseconds t.instant.toNat

theorem canonicalAdmissionTime_instant {t : AdmissionTime} {admitted : DateTime}
    (h : canonicalAdmissionTime t = some admitted) : (admitted.microseconds : Int) = t.instant := by
  have hfound : (DateTime.ofMicroseconds t.instant.toNat).isSome = true := by
    rw [canonicalAdmissionTime] at h
    rw [h]
    rfl
  have hrange := DateTime.ofMicroseconds_isSome.mp hfound
  rw [DateTime.microseconds_of h]
  omega

end ControlAssurance.Attestation
