import CrdSynthesis.Proofs.Codec

/-!
# Timestamps read back

A timestamp that was read lies within the calendar, whatever its offset was. Within four digits
of years it is written in full width, so that it is read back as it is.

## Main definitions

* `Timestamp.Valid`: the parts of a moment are in their ranges

## Main results

* `Timestamp.valid_of_parse`: what is read is valid
* `Timestamp.parse_text`: what is written is read back
-/

namespace CrdSynthesis

open Outcome

/-! ## Digits and blanks -/

namespace Text

theorem isBlank_of_isDigit {c : Char} (h : c.isDigit = true) : isBlank c = false := by
  simp only [Char.isDigit, Bool.and_eq_true, decide_eq_true_eq, UInt32.le_iff_toNat_le,
    ge_iff_le] at h
  change 48 ≤ c.toNat ∧ c.toNat ≤ 57 at h
  simp only [isBlank, blankRanges, List.any_cons, List.any_nil, Bool.or_false, Bool.or_eq_false_iff,
    Bool.and_eq_false_iff, decide_eq_false_iff_not]
  omega

theorem trimStart_cons {c : Char} (h : isBlank c = false) (cs : List Char) :
    trimStart (c :: cs) = c :: cs :=
  List.dropWhile_cons_of_neg (by simp [h])

theorem decimalValue_toDigits (n : Nat) : decimalValue (Nat.toDigits 10 n) = n :=
  Nat.ofDigitChars_ten_toDigits

/-- Zeros in front do not change a number. -/
theorem decimalValue_zeros_append (count : Nat) (ds : List Char) :
    decimalValue (List.replicate count '0' ++ ds) = decimalValue ds := by
  induction count with
  | zero => rfl
  | succ count ih => exact ih

end Text

namespace Timestamp

open Text

/-! ## The calendar -/

/-- The parts of the moment are in their ranges. -/
structure Valid (t : Timestamp) : Prop where
  month_pos : 1 ≤ t.month
  month_le : t.month ≤ 12
  day_pos : 1 ≤ t.day
  day_le : t.day ≤ daysInMonth t.year t.month
  hour_lt : t.hour < 24
  minute_lt : t.minute < 60
  second_le : t.second ≤ 60

theorem daysInMonth_range (year : Int) (month : Nat) :
    28 ≤ daysInMonth year month ∧ daysInMonth year month ≤ 31 := by
  unfold daysInMonth
  split
  · split <;> omega
  all_goals omega

/-- The day after stays in the calendar: within a month, in the next month, or in the
next year. -/
theorem Valid.nextDay {t : Timestamp} (h : t.Valid) : t.nextDay.Valid := by
  obtain ⟨hm, hm', hd, hd', hh, hn, hs⟩ := h
  unfold Timestamp.nextDay
  split
  · exact ⟨hm, hm', by simp, by simpa, hh, hn, hs⟩
  split
  · have := daysInMonth_range t.year (t.month + 1)
    exact ⟨by simp, by simp; omega, Nat.le_refl 1, by simp; omega, hh, hn, hs⟩
  · have := daysInMonth_range (t.year + 1) 1
    exact ⟨by simp, by simp, by simp, by simp; omega, hh, hn, hs⟩

/-- The day before stays in the calendar: within a month, at the end of the month before, or at
the end of the year before. -/
theorem Valid.previousDay {t : Timestamp} (h : t.Valid) : t.previousDay.Valid := by
  obtain ⟨hm, hm', hd, hd', hh, hn, hs⟩ := h
  unfold Timestamp.previousDay
  split
  · exact ⟨hm, hm', by simp; omega, by simp; omega, hh, hn, hs⟩
  split
  · have := daysInMonth_range t.year (t.month - 1)
    exact ⟨by simp; omega, by simp; omega, by simp; omega, by simp, hh, hn, hs⟩
  · exact ⟨by simp, by simp, by simp, by simp [daysInMonth], hh, hn, hs⟩

/-- A moment that is shifted by an offset moves by one day at most, so it stays valid. -/
theorem Valid.toUtc {t : Timestamp} (h : t.Valid) (offset : Int) : (t.toUtc offset).Valid := by
  obtain ⟨hm, hm', hd, hd', -, -, hs⟩ := h
  have hday : ∀ minutes : Int, (minutes % minutesPerDay).toNat < 24 * 60 := by
    intro minutes
    have := Int.emod_lt_of_pos minutes (show (0 : Int) < minutesPerDay by decide)
    simp only [minutesPerDay] at this ⊢
    omega
  have hmoved : ∀ ofDay : Nat, ofDay < 24 * 60 →
      ({ t with hour := ofDay / 60, minute := ofDay % 60 } : Timestamp).Valid := fun ofDay ho =>
    ⟨hm, hm', hd, hd', by simp; omega, by simp; omega, hs⟩
  unfold Timestamp.toUtc
  dsimp only
  split
  · exact (hmoved _ (hday _)).previousDay
  split
  · exact (hmoved _ (hday _)).nextDay
  · exact hmoved _ (hday _)

/-- Without an offset the moment is the local time. -/
theorem toUtc_zero {t : Timestamp} (h : t.Valid) : t.toUtc 0 = t := by
  have hh := h.hour_lt
  have hn := h.minute_lt
  have hlt : t.hour * 60 + t.minute < 24 * 60 := by omega
  have hmod : (((t.hour * 60 + t.minute : Nat) : Int) % minutesPerDay).toNat =
      t.hour * 60 + t.minute := by
    simp only [minutesPerDay]
    omega
  unfold toUtc
  simp only [Int.sub_zero, hmod]
  rw [if_neg (by omega), if_neg (by simp only [minutesPerDay]; omega)]
  have h1 : (t.hour * 60 + t.minute) / 60 = t.hour := by omega
  have h2 : (t.hour * 60 + t.minute) % 60 = t.minute := by omega
  rw [h1, h2]

/-! ## What is read is in range -/

/-- A part of a timestamp is only read within its bounds. -/
theorem part_range {low high n : Nat} {cs rest : List Char}
    (h : part low high cs = .ok (n, rest)) : low ≤ n ∧ n ≤ high := by
  obtain ⟨⟨m, r⟩, -, h⟩ := bind_eq_ok_iff.mp h
  dsimp only at h
  split at h
  · cases h
    assumption
  · cases h

/-- The day of a local time was compared with its month, so that what it is shifted to
is valid. -/
theorem valid_of_ofLocal {t u : Timestamp} {offset : Int} (h : ofLocal t offset = .ok u)
    (hmonth : 1 ≤ t.month ∧ t.month ≤ 12) (hday : 1 ≤ t.day) (hhour : t.hour < 24)
    (hminute : t.minute < 60) (hsecond : t.second ≤ 60) : u.Valid := by
  unfold ofLocal at h
  dsimp only at h
  split at h
  · cases h
  split at h
  · cases h
  split at h
  · cases h
  · -- the day was compared with its month before the moment was shifted
    rename_i hlocal _ _
    cases h
    have hle : t.day ≤ daysInMonth t.year t.month := by omega
    exact Valid.toUtc ⟨hmonth.1, hmonth.2, hday, hle, hhour, hminute, hsecond⟩ offset

/-- The numbers of a timestamp are read within their bounds, and the other steps add nothing
to it. -/
theorem valid_of_parse {text : String} {t : Timestamp} (h : parse text = .ok t) : t.Valid := by
  unfold parse at h
  obtain ⟨⟨year, _⟩, -, h⟩ := bind_eq_ok_iff.mp h
  obtain ⟨_, -, h⟩ := bind_eq_ok_iff.mp h
  obtain ⟨⟨month, _⟩, hmonth, h⟩ := bind_eq_ok_iff.mp h
  obtain ⟨_, -, h⟩ := bind_eq_ok_iff.mp h
  obtain ⟨⟨day, _⟩, hday, h⟩ := bind_eq_ok_iff.mp h
  obtain ⟨_, -, h⟩ := bind_eq_ok_iff.mp h
  obtain ⟨⟨hour, _⟩, hhour, h⟩ := bind_eq_ok_iff.mp h
  obtain ⟨_, -, h⟩ := bind_eq_ok_iff.mp h
  obtain ⟨⟨minute, _⟩, hminute, h⟩ := bind_eq_ok_iff.mp h
  obtain ⟨_, -, h⟩ := bind_eq_ok_iff.mp h
  obtain ⟨⟨second, _⟩, hsecond, h⟩ := bind_eq_ok_iff.mp h
  obtain ⟨_, -, h⟩ := bind_eq_ok_iff.mp h
  obtain ⟨⟨shift, _⟩, -, h⟩ := bind_eq_ok_iff.mp h
  dsimp only at h
  split at h
  · exact valid_of_ofLocal h (part_range hmonth) (part_range hday).1
      (Nat.lt_succ_of_le (part_range hhour).2) (Nat.lt_succ_of_le (part_range hminute).2)
      (part_range hsecond).2
  · cases h

/-! ## Written numbers -/

theorem isDigit_of_mem_padded {width n : Nat} {c : Char} (h : c ∈ padded width n) :
    c.isDigit = true := by
  rcases List.mem_append.mp h with h | h
  · rw [List.eq_of_mem_replicate h]
    rfl
  · exact Nat.isDigit_of_mem_toDigits (by omega) (by omega) h

theorem length_padded {width n : Nat} (h : (Nat.toDigits 10 n).length ≤ width) :
    (padded width n).length = width := by
  simp only [padded, List.length_append, List.length_replicate]
  omega

theorem padded_ne_nil (width n : Nat) : padded width n ≠ [] := by
  simp [padded, Nat.toDigits_ne_nil]

theorem decimalValue_padded (width n : Nat) : decimalValue (padded width n) = n := by
  rw [padded, decimalValue_zeros_append, decimalValue_toDigits]

/-- The digits that are written are read, whatever follows. -/
theorem digits_padded {width n : Nat} (h : (Nat.toDigits 10 n).length ≤ width)
    (rest : List Char) : digits width (padded width n ++ rest) = .ok (n, rest) := by
  have hlength := length_padded h
  have htake : (padded width n ++ rest).take width = padded width n :=
    List.take_left' hlength
  have hall : (padded width n).takeWhile Char.isDigit = padded width n := by
    rw [← List.append_nil (padded width n),
      List.takeWhile_append_of_pos fun _ hc => isDigit_of_mem_padded hc, List.takeWhile_nil]
  have hne := padded_ne_nil width n
  simp [digits, htake, hall, hne, decimalValue_padded]

/-- A number starts with a digit. -/
theorem trimStart_padded (width n : Nat) (rest : List Char) :
    trimStart (padded width n ++ rest) = padded width n ++ rest := by
  obtain ⟨c, cs, hcs⟩ := List.exists_cons_of_ne_nil (padded_ne_nil width n)
  have hc : c.isDigit = true := isDigit_of_mem_padded (hcs ▸ List.mem_cons_self ..)
  rw [hcs, List.cons_append, trimStart_cons (isBlank_of_isDigit hc)]

/-- A number below 100 has two digits at most. -/
theorem length_toDigits_le_two {n : Nat} (h : n < 100) : (Nat.toDigits 10 n).length ≤ 2 :=
  (Nat.length_toDigits_le_iff (by omega) (by omega)).mpr (by omega)

theorem length_toDigits_le_four {n : Nat} (h : n < 10000) : (Nat.toDigits 10 n).length ≤ 4 :=
  (Nat.length_toDigits_le_iff (by omega) (by omega)).mpr (by omega)

/-- A part within its bounds is read as it is written. -/
theorem part_padded {low high n : Nat} (hlow : low ≤ n) (hhigh : n ≤ high) (h : n < 100)
    (rest : List Char) : part low high (padded 2 n ++ rest) = .ok (n, rest) := by
  rw [part, trimStart_padded, digits_padded (length_toDigits_le_two h),
    ok_bind]
  exact if_pos ⟨hlow, hhigh⟩

theorem mark_cons {c : Char} (h : isBlank c = false) (rest : List Char) :
    mark c (c :: rest) = .ok rest := by
  rw [mark, trimStart_cons h]
  exact if_pos rfl

/-- A year of four digits is read as it is written: it starts with a digit and not with a sign. -/
theorem yearPart_yearText {year : Int} (h : 0 ≤ year ∧ year ≤ 9999) (rest : List Char) :
    yearPart (yearText year ++ rest) = .ok (year, rest) := by
  have hdigits : digits 4 (padded 4 year.natAbs ++ rest) = .ok (year.natAbs, rest) :=
    digits_padded (length_toDigits_le_four (by omega)) rest
  have hrange : Int32.minValue.toInt ≤ year ∧ year ≤ Int32.maxValue.toInt := by
    have hmin : Int32.minValue.toInt = -2147483648 := by decide
    have hmax : Int32.maxValue.toInt = 2147483647 := by decide
    omega
  have hyear : ((year.natAbs : Nat) : Int) = year := by omega
  obtain ⟨c, cs, hcs⟩ := List.exists_cons_of_ne_nil (padded_ne_nil 4 year.natAbs)
  have hc : c.isDigit = true := isDigit_of_mem_padded (hcs ▸ List.mem_cons_self ..)
  rw [yearText, if_pos h, yearPart]
  dsimp only
  rw [hcs, List.cons_append] at hdigits
  rw [trimStart_padded, hcs, List.cons_append]
  split
  · rename_i heq
    cases heq
    cases hc
  · rename_i heq
    cases heq
    cases hc
  · rw [hdigits]
    simp only [ok_bind, hyear]
    exact if_pos hrange

/-- A moment within four digits of years is read as it is written: each part from its digits,
without a fraction, and with no offset. -/
theorem parse_text {t : Timestamp} (h : t.Valid) (hy : 0 ≤ t.year ∧ t.year ≤ 9999) :
    parse t.text = .ok t := by
  have htext : t.text.toList = yearText t.year ++ ('-' :: (padded 2 t.month ++ ('-' ::
      (padded 2 t.day ++ ('T' :: (padded 2 t.hour ++ (':' :: (padded 2 t.minute ++ (':' ::
        (padded 2 t.second ++ ['Z'])))))))))) := by
    simp only [text, String.toList_ofList, List.append_assoc, List.cons_append, List.nil_append]
  have hutc := toUtc_zero h
  obtain ⟨hm, hm', hd, hd', hh, hn, hs⟩ := h
  have hdays := (daysInMonth_range t.year t.month).2
  have hmonth : ∀ rest, part 1 12 (padded 2 t.month ++ rest) = .ok (t.month, rest) :=
    part_padded hm hm' (by omega)
  have hday : ∀ rest, part 1 31 (padded 2 t.day ++ rest) = .ok (t.day, rest) :=
    part_padded hd (by omega) (by omega)
  have hhour : ∀ rest, part 0 23 (padded 2 t.hour ++ rest) = .ok (t.hour, rest) :=
    part_padded (Nat.zero_le _) (by omega) (by omega)
  have hminute : ∀ rest, part 0 59 (padded 2 t.minute ++ rest) = .ok (t.minute, rest) :=
    part_padded (Nat.zero_le _) (by omega) (by omega)
  have hsecond : ∀ rest, part 0 60 (padded 2 t.second ++ rest) = .ok (t.second, rest) :=
    part_padded (Nat.zero_le _) hs (by omega)
  have hmark : ∀ rest, mark '-' ('-' :: rest) = .ok rest := mark_cons (by decide)
  have hcolon : ∀ rest, mark ':' (':' :: rest) = .ok rest := mark_cons (by decide)
  have hseparator : ∀ rest, separator ('T' :: rest) = .ok rest := fun _ => rfl
  have hfraction : dropFraction ['Z'] = .ok ['Z'] := rfl
  have hoffset : offset (trimStart ['Z']) = .ok (0, []) := rfl
  have hend : (trimStart []).isEmpty = true := rfl
  have hlocal : ofLocal t 0 = .ok t := by
    have hmin : minYear = -262143 := rfl
    have hmax : maxYear = 262142 := rfl
    unfold ofLocal
    simp only [hutc]
    rw [if_neg (by omega), if_neg (by decide), if_neg (by omega)]
  simp only [parse, htext, yearPart_yearText hy, hmonth, hday, hhour, hminute, hsecond, hmark,
    hcolon, hseparator, hfraction, hoffset, hend, ok_bind, if_true]
  exact hlocal

end Timestamp

namespace Codec

/-- A moment within four digits of years is decoded from its own encoding. -/
theorem timestamp_returns {t : Timestamp} (h : t.Valid) (hy : 0 ≤ t.year ∧ t.year ≤ 9999) :
    timestamp.Returns t := by
  refine ⟨?_, Json.noConfusion⟩
  simp only [timestamp, Timestamp.parse_text h hy]

/-- What is decoded is a moment of the calendar. -/
theorem valid_of_decode_timestamp {value : Json} {t : Timestamp}
    (h : timestamp.decode value = .ok t) : t.Valid := by
  cases value with
  | string text =>
    simp only [timestamp] at h
    cases hp : Timestamp.parse text with
    | ok u =>
      rw [hp] at h
      cases h
      exact Timestamp.valid_of_parse hp
    | error defect =>
      rw [hp] at h
      cases h
  | _ => cases h

end Codec

end CrdSynthesis
