import Mathlib.Tactic.Ring
import Rigor.TypingHistory

/-!
# Dates of the browser

A date is the number of milliseconds since 1970. The text `toISOString` writes
for a time value is read back to that time value (`dateParse_toISOString`), on
both sides of the year 9999.
-/

namespace IsoDates

open CodeTyping

/-! ## Decimal fields -/

/-- `n` in `width` decimal digits. -/
def digits : Nat → Nat → JsString
  | 0, _ => []
  | width + 1, n => digits width (n / 10) ++ [48 + n % 10]

def isDigit (c : Nat) : Bool := 48 ≤ c && c ≤ 57

def digitsValue (s : JsString) : Nat := s.foldl (fun n c => n * 10 + (c - 48)) 0

/-- `width` digits off the front of a text. -/
def readDigits (width : Nat) (s : JsString) : Option (Nat × JsString) :=
  let field := s.take width
  if field.length = width ∧ field.all isDigit then some (digitsValue field, s.drop width) else none

/-- One given code unit off the front of a text. -/
def readMark (c : Nat) : JsString → Option JsString
  | [] => none
  | d :: rest => if d = c then some rest else none

@[simp] theorem length_digits : ∀ width n, (digits width n).length = width
  | 0, _ => rfl
  | width + 1, n => by simp [digits, length_digits width]

theorem digitsValue_concat (front : JsString) (c : Nat) :
    digitsValue (front ++ [c]) = digitsValue front * 10 + (c - 48) := by
  simp only [digitsValue, List.foldl_append, List.foldl_cons, List.foldl_nil]

theorem all_isDigit_concat {front : JsString} {c : Nat} :
    (front ++ [c]).all isDigit ↔ front.all isDigit ∧ 48 ≤ c ∧ c ≤ 57 := by
  simp [isDigit]

theorem all_digits : ∀ width n, (digits width n).all isDigit
  | 0, _ => rfl
  | width + 1, n => by
    have hlt : n % 10 < 10 := Nat.mod_lt n (by omega)
    rw [digits, all_isDigit_concat]
    exact ⟨all_digits width (n / 10), by omega, by omega⟩

theorem digitsValue_digits : ∀ width n, n < 10 ^ width → digitsValue (digits width n) = n
  | 0, n, h => by simp at h; simp [digits, digitsValue, h]
  | width + 1, n, h => by
    have hlt : n / 10 < 10 ^ width := by
      rw [Nat.pow_succ] at h
      exact Nat.div_lt_of_lt_mul (by omega)
    rw [digits, digitsValue_concat, digitsValue_digits width (n / 10) hlt]
    omega

theorem readDigits_digits (width n : Nat) (h : n < 10 ^ width) (rest : JsString) :
    readDigits width (digits width n ++ rest) = some (n, rest) := by
  have hlen : (digits width n).length = width := length_digits width n
  have htake : (digits width n ++ rest).take width = digits width n := by
    rw [List.take_append_of_le_length (by omega), List.take_of_length_le (by omega)]
  have hdrop : (digits width n ++ rest).drop width = rest := by
    rw [List.drop_append_of_le_length (by omega), List.drop_of_length_le (by omega),
      List.nil_append]
  simp only [readDigits, htake, hdrop, length_digits, all_digits, and_self, if_true,
    digitsValue_digits width n h]

@[simp] theorem readMark_cons (c : Nat) (rest : JsString) : readMark c (c :: rest) = some rest := by
  simp [readMark]

/-! ## The calendar -/

structure CivilDate where
  year : Int
  month : Int
  day : Int
deriving DecidableEq

/-- The day `days` days after 1970-01-01. Years run from March here, so that a
leap day ends its year, in cycles of 400 years. -/
def civilFromDays (days : Int) : CivilDate :=
  let era := (days + 719468) / 146097
  let dayOfEra := (days + 719468) % 146097
  let century := min 3 (dayOfEra / 36524)
  let fourYears := (dayOfEra - 36524 * century) / 1461
  let dayOfFour := (dayOfEra - 36524 * century) % 1461
  let year := min 3 (dayOfFour / 365)
  let march := (5 * (dayOfFour - 365 * year) + 2) / 153
  { year := 400 * era + 100 * century + 4 * fourYears + year + (if march < 10 then 0 else 1)
    month := if march < 10 then march + 3 else march - 9
    day := dayOfFour - 365 * year - (153 * march + 2) / 5 + 1 }

/-- `MakeDay` on a month counted from 0, which may lie outside its year. -/
def makeDay (year month day : Int) : Int :=
  let civilYear := year + month / 12
  let civilMonth := month % 12 + 1
  let y := if civilMonth ≤ 2 then civilYear - 1 else civilYear
  let march := if 2 < civilMonth then civilMonth - 3 else civilMonth + 9
  let dayOfEra := y % 400 * 365 + y % 400 / 4 - y % 400 / 100 + (153 * march + 2) / 5
  y / 400 * 146097 + dayOfEra - 719468 + (day - 1)

/-- What the fields of a day have to do with each other: the year and the month
from March, and the day of the month. -/
theorem civilFromDays_fields (days : Int) : ∃ y march day : Int,
    0 ≤ march ∧ march < 12 ∧ 1 ≤ day ∧ day ≤ 31 ∧
    days = y / 400 * 146097 + (y % 400 * 365 + y % 400 / 4 - y % 400 / 100 + (153 * march + 2) / 5)
      - 719468 + (day - 1) ∧
    civilFromDays days = {
      year := y + (if march < 10 then 0 else 1)
      month := if march < 10 then march + 3 else march - 9
      day } := by
  have h0 : 0 ≤ (days + 719468) % 146097 := Int.emod_nonneg _ (by omega)
  have h1 : (days + 719468) % 146097 < 146097 := Int.emod_lt_of_pos _ (by omega)
  have hdays : days = (days + 719468) / 146097 * 146097 + (days + 719468) % 146097 - 719468 := by
    omega
  set era := (days + 719468) / 146097 with hera
  set dayOfEra := (days + 719468) % 146097 with hdoe
  set century := min 3 (dayOfEra / 36524) with hcentury
  set fourYears := (dayOfEra - 36524 * century) / 1461 with hfour
  set dayOfFour := (dayOfEra - 36524 * century) % 1461 with hdof
  set year := min 3 (dayOfFour / 365) with hyear
  set march := (5 * (dayOfFour - 365 * year) + 2) / 153 with hmarch
  have hfields : civilFromDays days = {
      year := 400 * era + 100 * century + 4 * fourYears + year + (if march < 10 then 0 else 1)
      month := if march < 10 then march + 3 else march - 9
      day := dayOfFour - 365 * year - (153 * march + 2) / 5 + 1 } := rfl
  clear_value era dayOfEra
  have hc : 0 ≤ century ∧ century ≤ 3 ∧ 0 ≤ dayOfEra - 36524 * century
      ∧ dayOfEra - 36524 * century ≤ 36524 := by
    clear hdays hera hdoe
    omega
  clear_value century
  have hf : 0 ≤ fourYears ∧ fourYears ≤ 24 ∧ 0 ≤ dayOfFour ∧ dayOfFour < 1461
      ∧ dayOfEra - 36524 * century = 1461 * fourYears + dayOfFour := by
    clear hdays hera hdoe
    omega
  clear_value fourYears dayOfFour
  have hy : 0 ≤ year ∧ year ≤ 3 ∧ 0 ≤ dayOfFour - 365 * year ∧ dayOfFour - 365 * year ≤ 365 := by
    clear hdays hera hdoe
    omega
  clear_value year
  have hq : 400 * era + 100 * century + 4 * fourYears + year
      = 100 * century + 4 * fourYears + year + 400 * era := by ring
  have hm : 0 ≤ march ∧ march < 12 ∧ 0 ≤ dayOfFour - 365 * year - (153 * march + 2) / 5
      ∧ dayOfFour - 365 * year - (153 * march + 2) / 5 < 31 := by
    clear hdays hera hdoe hcentury hfour hdof hyear hq
    omega
  refine ⟨400 * era + 100 * century + 4 * fourYears + year, march,
    dayOfFour - 365 * year - (153 * march + 2) / 5 + 1, hm.1, hm.2.1, by omega, by omega, ?_,
    hfields⟩
  have hdiv : (400 * era + 100 * century + 4 * fourYears + year) / 400 = era := by omega
  have hmod : (400 * era + 100 * century + 4 * fourYears + year) % 400
      = 100 * century + 4 * fourYears + year := by omega
  have h4 : (100 * century + 4 * fourYears + year) / 4 = 25 * century + fourYears := by omega
  have h100 : (100 * century + 4 * fourYears + year) / 100 = century := by omega
  rw [hdiv, hmod, h4, h100]
  omega

theorem makeDay_civilFromDays (days : Int) :
    makeDay (civilFromDays days).year ((civilFromDays days).month - 1) (civilFromDays days).day
      = days := by
  obtain ⟨y, march, day, hm0, hm1, -, -, hdays, hfields⟩ := civilFromDays_fields days
  rw [hfields, hdays]
  by_cases hm : march < 10
  · have hdiv : (march + 3 - 1) / 12 = 0 := by omega
    have hmod : (march + 3 - 1) % 12 = march + 2 := by omega
    have hle : ¬ march + 2 + 1 ≤ 2 := by omega
    have hlt : 2 < march + 2 + 1 := by omega
    have hsub : march + 2 + 1 - 3 = march := by omega
    simp only [makeDay, hm, if_true, hdiv, hmod, hle, hlt, if_false, hsub, Int.add_zero]
  · have hdiv : (march - 9 - 1) / 12 = 0 := by omega
    have hmod : (march - 9 - 1) % 12 = march - 10 := by omega
    have hle : march - 10 + 1 ≤ 2 := by omega
    have hlt : ¬ 2 < march - 10 + 1 := by omega
    have hsub : march - 10 + 1 + 9 = march := by omega
    simp only [makeDay, hm, if_false, hdiv, hmod, hle, hlt, if_true, hsub, Int.add_zero,
      Int.add_sub_cancel]

/-! ## Time values -/

def msPerDay : Int := 86400000

/-- The greatest time value of a date. -/
def maxTime : Int := 8640000000000000

def IsTimeValue (t : Int) : Prop := -maxTime ≤ t ∧ t ≤ maxTime

instance (t : Int) : Decidable (IsTimeValue t) := inferInstanceAs (Decidable (_ ∧ _))

/-- Four digits, or a sign and six outside the years 0 to 9999. -/
def yearText (year : Int) : JsString :=
  if 0 ≤ year ∧ year ≤ 9999 then digits 4 year.toNat
  else (if year < 0 then 45 else 43) :: digits 6 year.natAbs

def dayText (days : Int) : JsString :=
  let date := civilFromDays days
  yearText date.year ++ 45 :: digits 2 date.month.toNat ++ 45 :: digits 2 date.day.toNat

def clockText (ms : Nat) : JsString :=
  84 :: digits 2 (ms / 3600000) ++ 58 :: digits 2 (ms / 60000 % 60)
    ++ 58 :: digits 2 (ms / 1000 % 60) ++ 46 :: digits 3 (ms % 1000) ++ [90]

/-- `Date.prototype.toISOString`, on a time value. -/
def toISOString (t : Int) : JsString :=
  dayText (t / msPerDay) ++ clockText (t % msPerDay).toNat

def readYear (s : JsString) : Option (Int × JsString) :=
  match s with
  | 43 :: rest => (readDigits 6 rest).map fun (n, rest) => ((n : Int), rest)
  | 45 :: rest => (readDigits 6 rest).map fun (n, rest) => (-(n : Int), rest)
  | _ => (readDigits 4 s).map fun (n, rest) => ((n : Int), rest)

def readDay (s : JsString) : Option (Int × JsString) := do
  let (year, s) ← readYear s
  let s ← readMark 45 s
  let (month, s) ← readDigits 2 s
  let s ← readMark 45 s
  let (day, s) ← readDigits 2 s
  return (makeDay year (month - 1) day, s)

def readClock (s : JsString) : Option (Nat × JsString) := do
  let s ← readMark 84 s
  let (hour, s) ← readDigits 2 s
  let s ← readMark 58 s
  let (minute, s) ← readDigits 2 s
  let s ← readMark 58 s
  let (second, s) ← readDigits 2 s
  let s ← readMark 46 s
  let (ms, s) ← readDigits 3 s
  let s ← readMark 90 s
  return (hour * 3600000 + minute * 60000 + second * 1000 + ms, s)

/-- `Date.parse` on the texts of the form `toISOString` writes. -/
def dateParse (s : JsString) : Option Int := do
  let (days, s) ← readDay s
  let (ms, s) ← readClock s
  let t := days * msPerDay + ms
  if s = [] ∧ IsTimeValue t then some t else none

/-- A text that `new Date(value).toISOString()` gives back. A text of another
form than `toISOString` writes is no such text, whatever `Date.parse` makes of
it. -/
def validIsoDateTime (s : JsString) : Bool :=
  (dateParse s).any fun t => toISOString t = s

/-- A day of the form `YYYY-MM-DD` that `Date.UTC` does not move. -/
def validDateOnly (s : JsString) : Bool :=
  (do
    let (year, s) ← readDigits 4 s
    let s ← readMark 45 s
    let (month, s) ← readDigits 2 s
    let s ← readMark 45 s
    let (day, s) ← readDigits 2 s
    -- `Date.UTC` takes the years 0 to 99 for those of the twentieth century
    let fullYear : Int := if year ≤ 99 then 1900 + year else year
    let date : CivilDate := { year, month, day }
    if s = [] ∧ civilFromDays (makeDay fullYear (month - 1) day) = date then some date
    else none).isSome

theorem readYear_yearText {year : Int} (h : year.natAbs < 1000000) (rest : JsString) :
    readYear (yearText year ++ rest) = some (year, rest) := by
  by_cases hy : 0 ≤ year ∧ year ≤ 9999
  · have hread := readDigits_digits 4 (year.toNat) (by omega) rest
    have hhead : ∃ a as, digits 4 year.toNat = (48 + a) :: as :=
      ⟨year.toNat / 10 / 10 / 10 % 10, _, rfl⟩
    obtain ⟨a, as, has⟩ := hhead
    rw [yearText, if_pos hy]
    rw [has] at hread ⊢
    have hplus : 48 + a ≠ 43 := by omega
    have hminus : 48 + a ≠ 45 := by omega
    rw [List.cons_append] at hread ⊢
    unfold readYear
    split
    · exact absurd (List.cons.inj ‹_›).1 hplus
    · exact absurd (List.cons.inj ‹_›).1 hminus
    · rw [hread]
      simp only [Option.map_some, Option.some.injEq, Prod.mk.injEq, and_true]
      omega
  · have hread := readDigits_digits 6 (year.natAbs) (by omega) rest
    rw [yearText, if_neg hy]
    by_cases hneg : year < 0
    · simp only [hneg, if_true, List.cons_append, readYear, hread, Option.map_some,
        Option.some.injEq, Prod.mk.injEq, and_true]
      omega
    · simp only [hneg, if_false, List.cons_append, readYear, hread, Option.map_some,
        Option.some.injEq, Prod.mk.injEq, and_true]
      omega

theorem readDay_dayText {days : Int} (h : days.natAbs ≤ 100000000) (rest : JsString) :
    readDay (dayText days ++ rest) = some (days, rest) := by
  have hmake := makeDay_civilFromDays days
  have hcivil : (civilFromDays days).year.natAbs < 1000000
      ∧ 0 ≤ (civilFromDays days).month ∧ (civilFromDays days).month < 100
      ∧ 0 ≤ (civilFromDays days).day ∧ (civilFromDays days).day < 100 := by
    obtain ⟨y, march, day, hm0, hm1, hd1, hd2, hdays, hfields⟩ := civilFromDays_fields days
    rw [hfields]
    refine ⟨?_, ?_, ?_, by simp only; omega, by simp only; omega⟩
    · simp only
      split <;> omega
    · simp only
      split <;> omega
    · simp only
      split <;> omega
  obtain ⟨hyear, hmonth0, hmonth1, hday0, hday1⟩ := hcivil
  set date := civilFromDays days with hdate
  have hmonth := readDigits_digits 2 (date.month.toNat) (by omega)
  have hday := readDigits_digits 2 (date.day.toNat) (by omega)
  simp only [dayText, ← hdate, List.append_assoc, List.cons_append, readDay,
    readYear_yearText hyear, Option.bind_eq_bind, Option.bind_some, readMark_cons, hmonth, hday,
    Option.pure_def, Int.toNat_of_nonneg hmonth0, Int.toNat_of_nonneg hday0, hmake]

theorem readClock_clockText (ms : Nat) (h : ms < 86400000) :
    readClock (clockText ms) = some (ms, []) := by
  have hhour := readDigits_digits 2 (ms / 3600000) (by omega)
  have hminute := readDigits_digits 2 (ms / 60000 % 60) (by omega)
  have hsecond := readDigits_digits 2 (ms / 1000 % 60) (by omega)
  have hms := readDigits_digits 3 (ms % 1000) (by omega)
  have hsum : ms / 3600000 * 3600000 + ms / 60000 % 60 * 60000 + ms / 1000 % 60 * 1000 + ms % 1000
      = ms := by omega
  simp only [clockText, List.append_assoc, List.cons_append, readClock, readMark_cons,
    Option.bind_eq_bind, Option.bind_some, hhour, hminute, hsecond, hms, Option.pure_def, hsum]

theorem dateParse_toISOString {t : Int} (h : IsTimeValue t) :
    dateParse (toISOString t) = some t := by
  have hms0 : 0 ≤ t % msPerDay := Int.emod_nonneg _ (by decide)
  have hms1 : t % msPerDay < 86400000 := Int.emod_lt_of_pos _ (by decide)
  have ht : t / msPerDay * msPerDay + t % msPerDay = t := Int.ediv_mul_add_emod _ _
  have hday : (t / msPerDay).natAbs ≤ 100000000 := by
    simp only [IsTimeValue, maxTime, msPerDay] at h ⊢
    omega
  rw [dateParse, toISOString, readDay_dayText hday]
  simp only [Option.bind_eq_bind, Option.bind_some,
    readClock_clockText (t % msPerDay).toNat (by omega), Int.toNat_of_nonneg hms0, ht,
    true_and, if_pos h]

theorem validIsoDateTime_toISOString {t : Int} (h : IsTimeValue t) :
    validIsoDateTime (toISOString t) = true := by
  simp [validIsoDateTime, dateParse_toISOString h]

example : toISOString 1790000000000 = text "2026-09-21T14:13:20.000Z" := by decide

/-! ## The order of days -/

/-- The digits of a text are those of the number it stands for. -/
theorem digits_digitsValue (field : JsString) (h : field.all isDigit) :
    digits field.length (digitsValue field) = field := by
  induction field using List.reverseRecOn with
  | nil => rfl
  | append_singleton front c ih =>
    obtain ⟨hfront, hc⟩ := all_isDigit_concat.mp h
    rw [List.length_append, List.length_singleton, digits, digitsValue_concat]
    have hdiv : (digitsValue front * 10 + (c - 48)) / 10 = digitsValue front := by omega
    have hmod : 48 + (digitsValue front * 10 + (c - 48)) % 10 = c := by omega
    rw [hdiv, hmod, ih hfront]

theorem digitsValue_lt (field : JsString) (h : field.all isDigit) :
    digitsValue field < 10 ^ field.length := by
  induction field using List.reverseRecOn with
  | nil => exact Nat.one_pos
  | append_singleton front c ih =>
    obtain ⟨hfront, hc⟩ := all_isDigit_concat.mp h
    have hlt := ih hfront
    rw [digitsValue_concat, List.length_append, List.length_singleton, Nat.pow_succ]
    omega

theorem readDigits_eq_some {width n : Nat} {s rest : JsString}
    (h : readDigits width s = some (n, rest)) : n < 10 ^ width ∧ s = digits width n ++ rest := by
  unfold readDigits at h
  dsimp only at h
  split at h
  · rename_i hfield
    cases h
    have hdigits := digits_digitsValue (s.take width) hfield.2
    have hvalue := digitsValue_lt (s.take width) hfield.2
    rw [hfield.1] at hdigits hvalue
    rw [hdigits, List.take_append_drop]
    exact ⟨hvalue, rfl⟩
  · cases h

theorem readMark_eq_some {c : Nat} {s rest : JsString} (h : readMark c s = some rest) :
    s = c :: rest := by
  cases s with
  | nil => cases h
  | cons d tail =>
    simp only [readMark] at h
    split at h
    · rename_i hd
      cases h
      rw [hd]
    · cases h

/-- Fields of one width are in the order of their numbers. -/
theorem digits_lt_iff {width a b : Nat} {s t : JsString} (ha : a < 10 ^ width)
    (hb : b < 10 ^ width) :
    digits width a ++ s < digits width b ++ t ↔ a < b ∨ a = b ∧ s < t := by
  induction width generalizing a b s t with
  | zero =>
    have ha0 : a = 0 := by simpa using ha
    have hb0 : b = 0 := by simpa using hb
    subst ha0 hb0
    simp [digits]
  | succ width ih =>
    rw [Nat.pow_succ] at ha hb
    have hlead : a / 10 < 10 ^ width ∧ b / 10 < 10 ^ width := by omega
    rw [digits, digits, List.append_assoc, List.append_assoc, List.singleton_append,
      List.singleton_append, ih hlead.1 hlead.2, List.cons_lt_cons_iff]
    constructor
    · rintro (hlt | ⟨heq, hlt | ⟨hdigit, hrest⟩⟩)
      · exact .inl (by omega)
      · exact .inl (by omega)
      · exact .inr ⟨by omega, hrest⟩
    · rintro (hlt | ⟨rfl, hrest⟩)
      · by_cases hten : a / 10 < b / 10
        · exact .inl hten
        · exact .inr ⟨by omega, .inl (by omega)⟩
      · exact .inr ⟨rfl, .inr ⟨rfl, hrest⟩⟩

/-- `YYYY-MM-DD` -/
def dateOnlyText (year month day : Nat) : JsString :=
  digits 4 year ++ 45 :: (digits 2 month ++ 45 :: digits 2 day)

theorem validDateOnly_text {s : JsString} (h : validDateOnly s = true) :
    ∃ year month day, year < 10000 ∧ month < 100 ∧ day < 100
      ∧ s = dateOnlyText year month day := by
  obtain ⟨date, hdate⟩ := Option.isSome_iff_exists.mp h
  simp only [Option.bind_eq_bind, Option.bind_eq_some_iff, Prod.exists] at hdate
  obtain ⟨year, s₁, hyear, s₂, hmark, month, s₃, hmonth, s₄, hmark', day, s₅, hday, hend⟩ := hdate
  obtain ⟨hyearLt, rfl⟩ := readDigits_eq_some hyear
  obtain rfl := readMark_eq_some hmark
  obtain ⟨hmonthLt, rfl⟩ := readDigits_eq_some hmonth
  obtain rfl := readMark_eq_some hmark'
  obtain ⟨hdayLt, rfl⟩ := readDigits_eq_some hday
  rw [Option.ite_none_right_eq_some] at hend
  refine ⟨year, month, day, hyearLt, hmonthLt, hdayLt, ?_⟩
  rw [hend.1.1, List.append_nil]
  rfl

/-- Days of this form are in the order of the calendar. -/
theorem dateOnlyText_lt_iff {year month day year' month' day' : Nat} (hyear : year < 10000)
    (hmonth : month < 100) (hday : day < 100) (hyear' : year' < 10000) (hmonth' : month' < 100)
    (hday' : day' < 100) :
    dateOnlyText year month day < dateOnlyText year' month' day'
      ↔ year < year' ∨ year = year' ∧ (month < month' ∨ month = month' ∧ day < day') := by
  have hlast : digits 2 day ++ [] < digits 2 day' ++ []
      ↔ day < day' ∨ day = day' ∧ ([] : JsString) < [] := digits_lt_iff hday hday'
  rw [List.append_nil, List.append_nil, or_iff_left fun h => List.not_lt_nil _ h.2] at hlast
  have hmark (s t : JsString) : 45 :: s < 45 :: t ↔ s < t := by
    rw [List.cons_lt_cons_iff]
    exact ⟨fun h => h.elim (fun hlt => absurd hlt (lt_irrefl _)) And.right, fun h => .inr ⟨rfl, h⟩⟩
  rw [dateOnlyText, dateOnlyText, digits_lt_iff hyear hyear', hmark,
    digits_lt_iff hmonth hmonth', hmark, hlast]

end IsoDates
