import Mathlib.Algebra.Group.Nat.Defs
import ImageDiscovery.Proofs.Time.Calendar
import ImageDiscovery.Time.Timestamp.Reader

/-!
# Timestamps as documents write them

The text of a timestamp has numbers of fixed width between marks, and the relaxed reading takes each
of them off the beginning of the text and leaves what follows. The numbers are a date of the
calendar, a time of the day and a fraction of a second, and they stand for the timestamp again: also
within a leap second, whose second is `60`, and in years of more than four digits or before the year
zero, which are written with a sign.

## Main definitions

* `Time.Timestamp.IsInstant` — the timestamps that the calendar and the clock have.
* `Time.Numeral` — the digits of a number in a given width.

## Main results

* `Time.Reading.digits_append` — a number is taken off the beginning of a text.
* `Time.Timestamp.ofRelaxed?_documentText` — an instant is read as it was written.
-/

namespace ImageDiscovery.Time

open Text

/-! ### Numbers of a fixed width -/

/-- The digits of a number in a given width. -/
structure Numeral (width n : Nat) (ds : List Char) : Prop where
  length_eq : ds.length = width
  isDigit : ∀ c ∈ ds, isDigit c = true
  value_eq : valueOfDigits ds = n

theorem isDigit_of_mem_toDigits {n : Nat} {c : Char} (h : c ∈ Nat.toDigits 10 n) :
    isDigit c = true := by
  have hc := Nat.isDigit_of_mem_toDigits (by decide) (by decide) h
  simp only [Char.isDigit, Bool.and_eq_true, decide_eq_true_eq] at hc
  simp only [isDigit, Bool.and_eq_true, decide_eq_true_eq]
  exact hc

theorem valueOfDigits_eq (s : List Char) : valueOfDigits s = Nat.ofDigitChars 10 s 0 :=
  Nat.ofDigitChars_eq_foldl.symm

/-- A number has leading zeros up to the width, and more digits if it needs them. -/
theorem numeral_padded_max (width n : Nat) :
    Numeral (max width (Nat.toDigits 10 n).length) n (Timestamp.padded width n).toList := by
  rw [Timestamp.padded, String.toList_ofList]
  refine ⟨?_, fun c hc => ?_, ?_⟩
  · rw [List.length_append, List.length_replicate]
    omega
  · rcases List.mem_append.1 hc with hc | hc
    · rw [List.eq_of_mem_replicate hc]
      decide
    · exact isDigit_of_mem_toDigits hc
  · rw [valueOfDigits_eq, Nat.ofDigitChars_append, Nat.ofDigitChars_replicate_zero, Nat.mul_zero,
      Nat.ofDigitChars_ten_toDigits]

/-- A number that needs no more digits is written in the width. -/
theorem numeral_padded {width n : Nat} (hw : 0 < width) (h : n < 10 ^ width) :
    Numeral width n (Timestamp.padded width n).toList := by
  have hlength : (Nat.toDigits 10 n).length ≤ width :=
    (Nat.length_toDigits_le_iff (by decide) hw).2 h
  have hmax := numeral_padded_max width n
  rwa [Nat.max_eq_left hlength] at hmax

theorem isBlank_eq_false_of_isDigit {c : Char} (h : isDigit c = true) : isBlank c = false := by
  simp only [isDigit, Bool.and_eq_true, decide_eq_true_eq] at h
  simp only [isBlank, Bool.or_eq_false_iff, Bool.and_eq_false_iff, decide_eq_false_iff_not,
    beq_eq_false_iff_ne]
  omega

theorem trimStart_cons {c : Char} (h : isBlank c = false) (s : List Char) :
    trimStart (c :: s) = c :: s :=
  List.dropWhile_cons_of_neg (Bool.eq_false_iff.1 h)

namespace Numeral

variable {width n : Nat} {ds : List Char}

theorem exists_cons (h : Numeral width n ds) (hw : 0 < width) :
    ∃ c cs, ds = c :: cs ∧ Text.isDigit c = true := by
  obtain ⟨hlength, hdigits, -⟩ := h
  cases ds with
  | nil => exact absurd hlength (Nat.ne_of_lt hw)
  | cons c cs => exact ⟨c, cs, rfl, hdigits c List.mem_cons_self⟩

theorem trimStart_append (h : Numeral width n ds) (hw : 0 < width) (s : List Char) :
    trimStart (ds ++ s) = ds ++ s := by
  obtain ⟨c, cs, rfl, hc⟩ := h.exists_cons hw
  exact trimStart_cons (isBlank_eq_false_of_isDigit hc) _

end Numeral

/-! ### Taking numbers off a text -/

namespace Reading

variable {width n least greatest : Nat} {ds s : List Char}

/-- A number is taken off the beginning of a text if it has as many digits as are taken. -/
theorem digits_append (h : Numeral greatest n ds) (hleast : least ≤ greatest) (s : List Char) :
    digits least greatest (ds ++ s) = some (n, s) := by
  obtain ⟨hlength, hdigits, hvalue⟩ := h
  have htake : ((ds ++ s).take greatest).takeWhile isDigit = ds := by
    rw [← hlength, List.take_left, ← List.append_nil ds, List.takeWhile_append_of_pos hdigits,
      List.takeWhile_nil]
  rw [digits, htake, if_neg (by omega), hvalue, List.drop_left]

/-- The digits of a number are all that stand before a text without a digit in front. -/
theorem takeWhile_append_eq (h : Numeral width n ds) (hs : ∀ c ∈ s.head?, isDigit c = false) :
    (ds ++ s).takeWhile isDigit = ds ∧ (ds ++ s).dropWhile isDigit = s := by
  rw [List.takeWhile_append_of_pos h.isDigit, List.dropWhile_append_of_pos h.isDigit,
    dropWhile_eq_self hs]
  cases s with
  | nil => exact ⟨List.append_nil ds, rfl⟩
  | cons c s =>
    rw [List.takeWhile_cons_of_neg (Bool.eq_false_iff.1 (hs c rfl))]
    exact ⟨List.append_nil ds, rfl⟩

theorem allDigits_append (h : Numeral width n ds) (hw : 0 < width)
    (hs : ∀ c ∈ s.head?, isDigit c = false) : allDigits (ds ++ s) = some (n, s) := by
  obtain ⟨htake, hdrop⟩ := takeWhile_append_eq h hs
  obtain ⟨c, cs, rfl, -⟩ := h.exists_cons hw
  rw [allDigits, htake, hdrop]
  change some (valueOfDigits (c :: cs), s) = some (n, s)
  rw [h.value_eq]

theorem spacedNumber_append (h : Numeral 2 n ds) (s : List Char) :
    spacedNumber (ds ++ s) = some (n, s) := by
  rw [spacedNumber, h.trimStart_append (by decide), digits_append h (by decide)]

theorem spacedExpect_cons {c : Char} (h : isBlank c = false) (s : List Char) :
    spacedExpect c (c :: s) = some s := by
  rw [spacedExpect, trimStart_cons h, expect, if_pos rfl]

/-- A sign does not stand for a number of a text that begins with a digit. -/
theorem spacedYear_digits (h : Numeral 4 n ds) (s : List Char) :
    spacedYear (ds ++ s) = some ((n : Int), s) := by
  have hdigits := digits_append h (show 1 ≤ 4 by decide) s
  rw [spacedYear, h.trimStart_append (by decide)]
  obtain ⟨c, cs, rfl, hc⟩ := h.exists_cons (by decide)
  split
  · next heq =>
    obtain rfl := (List.cons.inj heq).1
    exact absurd hc (by decide)
  · next heq =>
    obtain rfl := (List.cons.inj heq).1
    exact absurd hc (by decide)
  · rw [hdigits, Option.map_some]

/-- A year is taken off the beginning of a text, whatever its sign and the number of its digits. -/
theorem spacedYear_append (y : Int) (hs : ∀ c ∈ s.head?, isDigit c = false) :
    spacedYear ((Timestamp.yearText y).toList ++ s) = some (y, s) := by
  have hall := allDigits_append (numeral_padded_max 4 y.natAbs) (by omega) hs
  unfold Timestamp.yearText
  split
  · next hneg =>
    have hsign : ("-" ++ Timestamp.padded 4 y.natAbs).toList ++ s =
        '-' :: ((Timestamp.padded 4 y.natAbs).toList ++ s) := by
      rw [String.toList_append]
      rfl
    rw [hsign, spacedYear, trimStart_cons (by decide)]
    change (allDigits _).map _ = _
    rw [hall, Option.map_some, show -(y.natAbs : Int) = y by omega]
  · split
    · next hneg hlong =>
      have hsign : ("+" ++ Timestamp.padded 4 y.natAbs).toList ++ s =
          '+' :: ((Timestamp.padded 4 y.natAbs).toList ++ s) := by
        rw [String.toList_append]
        rfl
      rw [hsign, spacedYear, trimStart_cons (by decide)]
      change (allDigits _).map _ = _
      rw [hall, Option.map_some, show (y.natAbs : Int) = y by omega]
    · next hneg hlong =>
      rw [spacedYear_digits (numeral_padded (by decide) (by omega)),
        show (y.natAbs : Int) = y by omega]

/-- A fraction of a second is taken off the beginning of a text. -/
theorem fraction_append (h : Numeral width n ds) (hw : 0 < width) (h9 : width ≤ 9)
    (hs : ∀ c ∈ s.head?, isDigit c = false) :
    fraction ('.' :: (ds ++ s)) = some (n * 10 ^ (9 - width), s) := by
  have hs' : ∀ c ∈ (s.take (9 - width)).head?, isDigit c = false := by
    intro c hc
    rw [List.head?_take] at hc
    exact hs c (Option.ite_none_left_eq_some.1 hc).2
  have htake : ((ds ++ s).take 9).takeWhile isDigit = ds := by
    rw [List.take_append, h.length_eq, List.take_of_length_le (by rw [h.length_eq]; exact h9)]
    exact (takeWhile_append_eq h hs').1
  have hne : ds.isEmpty = false := by
    obtain ⟨c, cs, rfl, -⟩ := h.exists_cons hw
    rfl
  have hvalue : valueOfDigits (ds ++ List.replicate (9 - width) '0') = n * 10 ^ (9 - width) := by
    rw [valueOfDigits_eq, Nat.ofDigitChars_append, Nat.ofDigitChars_replicate_zero,
      ← valueOfDigits_eq, h.value_eq, Nat.mul_comm]
  rw [fraction, htake, hne, if_neg Bool.false_ne_true, h.length_eq, hvalue,
    (takeWhile_append_eq h hs).2]

/-- The fraction of a second is read as it was written, before a zone that is no number. -/
theorem fraction_fractionText {nanos : Nat} (h : nanos < Timestamp.nanosPerSecond) :
    fraction ((Timestamp.fractionText nanos).toList ++ ['Z']) = some (nanos, ['Z']) := by
  have hzone : ∀ c ∈ ['Z'].head?, isDigit c = false := by
    rintro c ⟨⟩
    rfl
  have hpadded (width n : Nat) (hw : 0 < width) (h9 : width ≤ 9) (hn : n < 10 ^ width) :
      fraction (("." ++ Timestamp.padded width n).toList ++ ['Z']) =
        some (n * 10 ^ (9 - width), ['Z']) := by
    rw [String.toList_append]
    exact fraction_append (numeral_padded hw hn) hw h9 hzone
  have hlt : nanos < 1000000000 := h
  unfold Timestamp.fractionText
  simp only [beq_iff_eq]
  split
  · next hzero =>
    rw [hzero]
    rfl
  split
  · next hmillis =>
    rw [hpadded 3 (nanos / 1000000) (by omega) (by omega) (by omega)]
    congr 2
    omega
  split
  · next hmicros =>
    rw [hpadded 6 (nanos / 1000) (by omega) (by omega) (by omega)]
    congr 2
    omega
  · rw [hpadded 9 nanos (by omega) (by omega) (by omega)]
    congr 2
    omega

/-- The numbers of a reading in UTC fit the widths in which they are written. -/
structure Fits (r : Reading) : Prop where
  month_lt : r.month < 10 ^ 2
  day_lt : r.day < 10 ^ 2
  hour_lt : r.hour < 10 ^ 2
  minute_lt : r.minute < 10 ^ 2
  second_lt : r.second < 10 ^ 2
  nanos_lt : r.nanos < Timestamp.nanosPerSecond
  offset_eq : r.offset = 0

/-- A reading in UTC as documents write it. -/
def documentText (r : Reading) : String :=
  Timestamp.yearText r.year ++ "-" ++ Timestamp.padded 2 r.month ++ "-" ++
    Timestamp.padded 2 r.day ++ "T" ++ Timestamp.padded 2 r.hour ++ ":" ++
    Timestamp.padded 2 r.minute ++ ":" ++ Timestamp.padded 2 r.second ++
    Timestamp.fractionText r.nanos ++ "Z"

/-- A reading is taken off its text, one number after another. -/
theorem ofRelaxed?_documentText {r : Reading} (h : r.Fits) :
    ofRelaxed? r.documentText.toList = some r := by
  have htext : r.documentText.toList =
      (Timestamp.yearText r.year).toList ++ '-' :: ((Timestamp.padded 2 r.month).toList ++
      '-' :: ((Timestamp.padded 2 r.day).toList ++ 'T' :: ((Timestamp.padded 2 r.hour).toList ++
      ':' :: ((Timestamp.padded 2 r.minute).toList ++
      ':' :: ((Timestamp.padded 2 r.second).toList ++
      ((Timestamp.fractionText r.nanos).toList ++ ['Z'])))))) := by
    simp [documentText]
  have hzone : namedZone (trimStart ['Z']) = some (0, []) := by decide
  have hend : trimStart [] = [] := rfl
  rw [htext, ofRelaxed?, spacedYear_append _ (by rintro c ⟨⟩; decide)]
  simp only [Option.bind_eq_bind, Option.bind_some, spacedExpect_cons (c := '-') (by decide),
    spacedExpect_cons (c := ':') (by decide), timeMark,
    spacedNumber_append (numeral_padded (by decide) h.month_lt),
    spacedNumber_append (numeral_padded (by decide) h.day_lt),
    spacedNumber_append (numeral_padded (by decide) h.hour_lt),
    spacedNumber_append (numeral_padded (by decide) h.minute_lt),
    spacedNumber_append (numeral_padded (by decide) h.second_lt),
    fraction_fractionText h.nanos_lt, hzone, hend, List.isEmpty_nil, if_true]
  rw [← h.offset_eq]

/-- A reading in UTC stands for a point in time if the calendar and the clock have it. -/
theorem timestamp?_eq_some {r : Reading} {date : Date} {leap : Nat} {utc : Int}
    (hdate : ⟨r.year, r.month, r.day⟩ = date) (hvalid : date.isValid = true)
    (hclock : r.hour < 24 ∧ r.minute < 60 ∧ r.second ≤ 60) (hoffset : r.offset = 0)
    (hleap : (if r.second == 60 then 1 else 0) = leap)
    (hutc : date.days * 86400 + r.hour * 3600 + r.minute * 60 + (r.second - leap) = utc)
    (hyear : yearInRange date.year = true)
    (hrange : yearInRange (Date.ofDays (utc / 86400)).year = true) :
    r.timestamp? = some ⟨utc, r.nanos + leap * Timestamp.nanosPerSecond⟩ := by
  have hyear' : yearInRange r.year = true := by rwa [← hdate] at hyear
  simp only [timestamp?, hdate, hvalid, hclock, hoffset, hleap, hutc, hyear', hrange, Int.sub_zero]
  rfl

end Reading

/-! ### Timestamps -/

namespace Timestamp

variable {t : Timestamp}

/-- A timestamp is a point in time if its year is one of the calendar and its nanoseconds are those
of a second, or of a leap second at the end of a minute. -/
structure IsInstant (t : Timestamp) : Prop where
  year : yearInRange (Date.ofDays (t.seconds / 86400)).year = true
  nanos_lt : t.nanos < 2 * nanosPerSecond
  leap : nanosPerSecond ≤ t.nanos → t.seconds % 60 = 59

/-- One within a leap second, and zero otherwise. -/
def leapSecond (t : Timestamp) : Nat := if nanosPerSecond ≤ t.nanos then 1 else 0

theorem leapSecond_cases (h : t.IsInstant) :
    t.leapSecond = 0 ∧ t.nanos < nanosPerSecond ∨
      t.leapSecond = 1 ∧ nanosPerSecond ≤ t.nanos ∧ t.seconds % 60 = 59 := by
  by_cases hl : nanosPerSecond ≤ t.nanos
  · exact .inr ⟨if_pos hl, hl, h.leap hl⟩
  · exact .inl ⟨if_neg hl, Nat.lt_of_not_le hl⟩

/-- What the text of a timestamp says. -/
def reading (t : Timestamp) : Reading :=
  let date := Date.ofDays (t.seconds / 86400)
  let second := (t.seconds % 86400).toNat
  ⟨date.year, date.month, date.day, second / 3600, second / 60 % 60, second % 60 + t.leapSecond,
    t.nanos - t.leapSecond * nanosPerSecond, 0⟩

theorem documentText_reading (t : Timestamp) : t.reading.documentText = t.documentText := rfl

theorem fits_reading (h : t.IsInstant) : t.reading.Fits := by
  have hvalid := Date.isValid_ofDays (t.seconds / 86400)
  have hlast := Date.daysInMonth_le (Date.ofDays (t.seconds / 86400)).year
    (Date.ofDays (t.seconds / 86400)).month
  simp only [Date.isValid, Bool.and_eq_true, decide_eq_true_eq] at hvalid
  have hnanos := h.nanos_lt
  have hleap := leapSecond_cases h
  refine ⟨?_, ?_, ?_, ?_, ?_, ?_, rfl⟩ <;> simp only [reading]
  · omega
  · omega
  · omega
  · omega
  · omega
  · rcases hleap with ⟨hl, hlt⟩ | ⟨hl, -⟩ <;> rw [hl] <;> omega

/-- The numbers of an instant stand for it again. -/
theorem timestamp?_reading (h : t.IsInstant) : t.reading.timestamp? = some t := by
  have hleap := leapSecond_cases h
  -- The second of a leap second is the only one that is written as `60`.
  have hsecond : (if (t.seconds % 86400).toNat % 60 + t.leapSecond == 60 then 1 else 0) =
      t.leapSecond := by
    simp only [beq_iff_eq]
    split <;> omega
  have hclock : (t.seconds % 86400).toNat / 3600 < 24 ∧ (t.seconds % 86400).toNat / 60 % 60 < 60 ∧
      (t.seconds % 86400).toNat % 60 + t.leapSecond ≤ 60 := by
    omega
  have hutc : (Date.ofDays (t.seconds / 86400)).days * 86400 +
      ((t.seconds % 86400).toNat / 3600 : Nat) * 3600 +
      ((t.seconds % 86400).toNat / 60 % 60 : Nat) * 60 +
      (((t.seconds % 86400).toNat % 60 + t.leapSecond : Nat) - t.leapSecond) = t.seconds := by
    rw [Date.days_ofDays]
    omega
  have hnanos : t.nanos - t.leapSecond * nanosPerSecond + t.leapSecond * nanosPerSecond =
      t.nanos := by
    rcases hleap with ⟨hl, -⟩ | ⟨hl, hle, -⟩ <;> rw [hl] <;> omega
  have heq := Reading.timestamp?_eq_some (r := t.reading) rfl (Date.isValid_ofDays _) hclock rfl
    hsecond hutc h.year h.year
  rwa [show t.reading.nanos + t.leapSecond * nanosPerSecond = t.nanos from hnanos] at heq

/-- **An instant is read as it was written.** -/
theorem ofRelaxed?_documentText (h : t.IsInstant) : ofRelaxed? t.documentText = some t := by
  rw [ofRelaxed?, ← documentText_reading, Reading.ofRelaxed?_documentText (fits_reading h)]
  exact timestamp?_reading h

end Timestamp

end ImageDiscovery.Time
