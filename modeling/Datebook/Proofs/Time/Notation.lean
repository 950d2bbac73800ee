import Datebook.Proofs.Time.Acceptance
import Datebook.Proofs.Time.LongDate

/-!
This module contains the grammar of long dates and the verification that the notations for the time of
an event agree: a timestamp, a map that holds it, and a long date with the same parts are all read as
the same instant, or are all refused.
-/

namespace Datebook

namespace Text

variable {c : Char}

theorem isBlank_of_digit? {d : Nat} (h : digit? c = some d) : isBlank c = false := by
  have hzeros : ∀ first ∈ zeros, ∀ k < 10, isBlank (Char.ofNat (first + k)) = false := by
    decide +kernel
  unfold digit? at h
  dsimp only at h
  split at h
  . split at h
    . next hrange =>
      have hblank := hzeros 0x30 (by decide) (c.toNat - 0x30) (by omega)
      rwa [Nat.add_sub_cancel' hrange.1, Char.ofNat_toNat] at hblank
    . cases h
  . rw [Option.map_eq_some_iff] at h
    obtain ⟨first, hfirst, -⟩ := h
    have hrange := List.find?_some hfirst
    rw [Bool.and_eq_true, decide_eq_true_eq, decide_eq_true_eq] at hrange
    have hblank := hzeros first (List.mem_of_find?_eq_some hfirst) (c.toNat - first) (by omega)
    rwa [Nat.add_sub_cancel' hrange.1, Char.ofNat_toNat] at hblank

end Text

namespace Timestamp

variable {s : List Char} {p : Parts} {count n : Nat}

theorem EndsWithDigit.endsWithInk (h : EndsWithDigit s) : Text.EndsWithInk s := by
  obtain ⟨before, c, rfl, d, hd⟩ := h
  exact ⟨before, c, rfl, Text.isBlank_of_digit? hd⟩

theorem IsWritten.endsWithInk (h : IsWritten s p) : Text.EndsWithInk s := by
  obtain ⟨hyear, hmonth, hday, hclock, hoffset⟩ := h
  cases hoffset with
  | absent =>
    rw [List.append_nil]
    cases hclock with
    | absent =>
      rw [List.append_nil]
      exact ((hday.endsWithDigit.cons _).append _).endsWithInk
    | given hmark hhour hminute hseconds =>
      have hends := (IsClock.given hmark hhour hminute hseconds).endsWithDigit (by simp)
      exact (hends.append _).endsWithInk
  | universal hmark =>
    refine ⟨_, _, rfl, ?_⟩
    cases hmark with
    | inl hmark => rw [hmark]; rfl
    | inr hmark => rw [hmark]; rfl
  | hours hsign hhour => exact ((hhour.endsWithDigit.cons _).append _).endsWithInk
  | minutes hsign hhour hcolon hminute =>
    exact ((hminute.endsWithDigit.append _).append _).endsWithInk

theorem IsWritten.exists_head (h : IsWritten s p)
    : ∃ c rest d, s = c :: rest ∧ Text.digit? c = some d := by
  obtain ⟨hyear, hmonth, hday, hclock, hoffset⟩ := h
  obtain ⟨c, rest, d, rfl, hd⟩ := hyear.exists_head
  exact ⟨c, _, d, rfl, hd⟩

theorem IsWritten.trim_eq (h : IsWritten s p) : Text.trim s = s := by
  have hends := h.endsWithInk
  obtain ⟨c, rest, d, rfl, hd⟩ := h.exists_head
  exact Text.trim_of_ends (Text.isBlank_of_digit? hd) hends

end Timestamp

namespace LongDate

open Timestamp (IsNumber)

inductive IsWord : List Char → Prop
  | intro {a b c : Char} (ha : isLetter a = true) (hb : isLetter b = true) (hc : isLetter c = true)
      : IsWord [a, b, c]

structure IsMonth (name : List Char) (month : Nat) : Prop where
  isWord : IsWord name
  named : ∃ index, months[index]? = some (String.ofList (name.map Char.toLower))
    ∧ month = index + 1

def IsShort (s : List Char) (n : Nat) : Prop :=
  IsNumber 1 s n ∨ IsNumber 2 s n

/--
Whether a text is a day of the week, as three letters and a space, or nothing.
-/
inductive IsWeekday : List Char → Prop
  | absent : IsWeekday []
  | given {word : List Char} (hword : IsWord word) : IsWeekday (word ++ [' '])

/--
Whether a text is a space and the name of a zone in parentheses, on one line, or nothing.
-/
inductive IsZone : List Char → Prop
  | absent : IsZone []
  | given {name : List Char} (hname : '\n' ∉ name) : IsZone (' ' :: '(' :: name ++ [')'])

inductive IsWritten : List Char → Timestamp.Parts → Prop
  | intro {weekday name days years hours minutes seconds offsetHours offsetMinutes zone : List Char}
      {sign : Char} {month day year hour minute second offsetHour offsetMinute : Nat}
      (hweekday : IsWeekday weekday) (hmonth : IsMonth name month) (hday : IsShort days day)
      (hyear : IsNumber 4 years year) (hhour : IsNumber 2 hours hour)
      (hminute : IsNumber 2 minutes minute) (hsecond : IsNumber 2 seconds second)
      (hsign : sign = '+' ∨ sign = '-') (hoffsetHour : IsNumber 2 offsetHours offsetHour)
      (hoffsetMinute : IsNumber 2 offsetMinutes offsetMinute) (hzone : IsZone zone)
      : IsWritten
          (weekday ++ name ++ ' ' :: days ++ ' ' :: years ++ ' ' :: hours ++ ':' :: minutes
            ++ ':' :: seconds ++ [' ', 'G', 'M', 'T', sign] ++ offsetHours ++ offsetMinutes ++ zone)
          ⟨year, month, day, hour, minute, second, 0, sign = '-', offsetHour, offsetMinute⟩

variable {s name word weekday days hours minutes seconds zone : List Char} {c sign : Char}
  {count n month day hour minute second : Nat} {p : Timestamp.Parts}

theorem IsMonth.monthNumber?_eq (h : IsMonth name month) : monthNumber? name = some month := by
  have hindices : ∀ index < 12, months.idxOf? (months.getD index "") = some index := by
    decide
  obtain ⟨-, index, hindex, rfl⟩ := h
  have hlt : index < 12 := (List.getElem?_eq_some_iff.mp hindex).1
  have hnumber := hindices index hlt
  rw [List.getD_eq_getElem?_getD, hindex, Option.getD_some] at hnumber
  unfold monthNumber?
  dsimp only
  rw [hnumber]
  rfl

theorem blanks_space (hc : Text.isBlank c = false) (rest : List Char)
    : blanks (' ' :: c :: rest) = some (c :: rest) := by
  rw [blanks, if_pos (by rfl), Text.trimStart, List.dropWhile_cons_of_neg (by simp [hc])]

theorem skipComma_space (rest : List Char) : skipComma (' ' :: rest) = ' ' :: rest :=
  rfl

theorem blanks_number (h : IsNumber (count + 1) s n) (rest : List Char)
    : blanks (' ' :: (s ++ rest)) = some (s ++ rest) := by
  obtain ⟨c, text, d, rfl, hd⟩ := h.exists_head
  exact blanks_space (Text.isBlank_of_digit? hd) _

theorem IsWord.blanks_append (h : IsWord word) (rest : List Char)
    : blanks (' ' :: (word ++ rest)) = some (word ++ rest) := by
  cases h with
  | intro ha => exact blanks_space (isBlank_of_isLetter ha) _

theorem IsWord.threeLetters_append (h : IsWord word) (rest : List Char)
    : threeLetters (word ++ rest) = some (word, rest) := by
  cases h with
  | intro ha hb hc => simp [threeLetters, ha, hb, hc]

theorem threeLetters_number (h : IsNumber (count + 1) s n) (rest : List Char)
    : threeLetters (s ++ rest) = none := by
  obtain ⟨c, text, d, rfl, hd⟩ := h.exists_head
  have hletter : isLetter c = false := by
    rw [← Bool.not_eq_true]
    intro hc
    rw [digit?_of_isLetter hc] at hd
    cases hd
  unfold threeLetters
  split
  . next heq =>
    injection heq with hc
    simp [← hc, hletter]
  . rfl

theorem IsShort.shortNumber_append (h : IsShort s n) (hc : Text.digit? c = none) (rest : List Char)
    : shortNumber (s ++ c :: rest) = some (n, c :: rest) := by
  unfold shortNumber
  cases h with
  | inr htwo => rw [htwo.number_append]
  | inl hone =>
    have hnone : Timestamp.number 0 2 (s ++ c :: rest) = none := by
      obtain ⟨values, hdigits, hlength, -⟩ := hone
      obtain ⟨d, rfl⟩ := List.length_eq_one_iff.mp hlength
      rw [Text.AreDigits, List.forall₂_cons_right_iff] at hdigits
      obtain ⟨c', _, hd, hnil, rfl⟩ := hdigits
      rw [List.forall₂_nil_right_iff.mp hnil]
      simp [Timestamp.number, hd, hc]
    rw [hnone, hone.number_append]

theorem month_append (hweekday : IsWeekday weekday) (hname : IsWord name) (hday : IsShort days day)
    (rest : List Char)
    : LongDate.month (weekday ++ (name ++ ' ' :: (days ++ rest))) = some (name, days ++ rest) := by
  have hblanks : blanks (' ' :: (days ++ rest)) = some (days ++ rest) := by
    cases hday with
    | inl hday => exact blanks_number hday rest
    | inr hday => exact blanks_number hday rest
  cases hweekday with
  | absent =>
    -- The word after the first one would have to start with a digit of the day.
    have hnone : threeLetters (days ++ rest) = none := by
      cases hday with
      | inl hday => exact threeLetters_number hday rest
      | inr hday => exact threeLetters_number hday rest
    simp [LongDate.month, hname.threeLetters_append, skipComma_space, hblanks, hnone]
  | given hword =>
    simp [LongDate.month, hword.threeLetters_append, skipComma_space, hname.blanks_append,
      hname.threeLetters_append, hblanks]

theorem clock_append (hhour : IsNumber 2 hours hour) (hminute : IsNumber 2 minutes minute)
    (hsecond : IsNumber 2 seconds second) (rest : List Char)
    : clock (' ' :: (hours ++ ':' :: (minutes ++ ':' :: (seconds ++ rest))))
        = some ((hour, minute, second), rest) := by
  simp [clock, blanks_number hhour, shortNumber, hhour.number_append, Timestamp.after_cons,
    hminute.number_append, hsecond.number_append]

theorem offset_append (hsign : sign = '+' ∨ sign = '-') (hhour : IsNumber 2 hours hour)
    (hminute : IsNumber 2 minutes minute) (rest : List Char)
    : offset (' ' :: 'G' :: 'M' :: 'T' :: sign :: (hours ++ (minutes ++ rest)))
        = some (some (decide (sign = '-'), hour, minute), rest) := by
  unfold offset
  rw [blanks_space rfl]
  simp [hsign, hhour.number_append, hminute.number_append]

theorem IsZone.isZoneName_eq (h : IsZone zone) : isZoneName zone = true := by
  cases h with
  | absent => rfl
  | given hname =>
    rw [List.cons_append, List.cons_append, isZoneName, blanks_space rfl]
    simp [hname]
    simp

theorem IsWritten.exists_parts? (h : IsWritten s p)
    : ∃ name, monthNumber? name = some p.month
      ∧ parts? s = some ⟨name, p.day, p.year, p.hour, p.minute, p.second,
          some (p.behind, p.offsetHour, p.offsetMinute)⟩ := by
  cases h with
  | @intro weekday name days years hours minutes seconds offsetHours offsetMinutes zone sign _ _ _ _ _ _
      _ _ hweekday hmonth hday hyear hhour hminute hsecond hsign hoffsetHour hoffsetMinute hzone =>
    refine ⟨name, hmonth.monthNumber?_eq, ?_⟩
    simp only [List.append_assoc, List.cons_append, List.nil_append, parts?, Option.bind_eq_bind,
      Option.bind_some, month_append hweekday hmonth.isWord hday,
      hday.shortNumber_append (by decide : Text.digit? ' ' = none), skipComma_space,
      blanks_number hyear, hyear.number_append, clock_append hhour hminute hsecond,
      offset_append hsign hoffsetHour hoffsetMinute, hzone.isZoneName_eq, if_true]

theorem IsWritten.endsWithInk (h : IsWritten s p) : Text.EndsWithInk s := by
  obtain ⟨hweekday, hmonth, hday, hyear, hhour, hminute, hsecond, hsign, hoffsetHour, hoffsetMinute,
    hzone⟩ := h
  cases hzone with
  | absent =>
    rw [List.append_nil]
    exact (hoffsetMinute.endsWithDigit.append _).endsWithInk
  | given hname =>
    rw [← List.append_assoc]
    exact ⟨_, _, rfl, rfl⟩

theorem IsWritten.trim_eq (h : IsWritten s p) : Text.trim s = s := by
  have hends := h.endsWithInk
  obtain ⟨name, -, hparts⟩ := h.exists_parts?
  obtain ⟨c, rest, rfl, hc⟩ := head_of_parts? hparts
  exact Text.trim_of_ends (isBlank_of_isLetter hc) hends

theorem IsWritten.micro_eq (h : IsWritten s p) : p.micro = 0 := by
  obtain ⟨⟩ := h
  rfl

variable {text : String}

theorem natAbs_ahead_lt (hhour : p.offsetHour ≤ 23) (hminute : p.offsetMinute ≤ 59)
    : p.ahead.natAbs < 86400 := by
  unfold Timestamp.Parts.ahead
  dsimp only
  split
  . omega
  . omega

theorem IsWritten.read_eq (h : IsWritten text.toList p) (hhour : p.offsetHour ≤ 23)
    (hminute : p.offsetMinute ≤ 59)
    : (p.Exists → read text = .ok (Instant.stamp p.universal))
      ∧ (¬ p.Exists → ∃ e, read text = .error (.date e)) := by
  obtain ⟨name, hmonth, hparts⟩ := h.exists_parts?
  have hreading : p.reading = ⟨⟨p.year, p.month, p.day⟩, p.hour, p.minute, p.second, 0⟩ := by
    rw [Timestamp.Parts.reading, h.micro_eq]
  have hreal : p.IsReal ↔ p.reading.isReal = true := by
    simp [Timestamp.Parts.isReal_iff (p := p) (by simp [h.micro_eq]), hhour, hminute]
  have hmoment : (⟨p.reading.toMicros, .fixed p.ahead⟩ : Moment).instant?
      = Instant.supported? p.universal :=
    rfl
  have hahead : Parts.ahead ⟨name, p.day, p.year, p.hour, p.minute, p.second,
      some (p.behind, p.offsetHour, p.offsetMinute)⟩ = p.ahead :=
    rfl
  unfold read
  rw [h.trim_eq, hparts]
  dsimp only
  rw [hmonth]
  dsimp only
  rw [hahead, if_neg (natAbs_ahead_lt hhour hminute).not_ge, ← hreading, Timestamp.ofMoment, hmoment, Instant.supported?]
  constructor
  . rintro ⟨hexists, hsupported⟩
    rw [if_pos (hreal.mp hexists), if_pos hsupported]
  . intro hnone
    by_cases hexists : p.reading.isReal = true
    . rw [if_pos hexists, if_neg fun hsupported => hnone ⟨hreal.mpr hexists, hsupported⟩]
      exact ⟨_, rfl⟩
    . rw [if_neg hexists]
      exact ⟨_, rfl⟩

theorem read_of_timestamp (h : Timestamp.IsWritten text.toList p)
    : read text = .error (.date (.longForm text)) := by
  have hnone : parts? text.toList = none := by
    rw [Option.eq_none_iff_forall_ne_some]
    intro q hq
    have hparts := timestamp_parts?_eq_none hq
    rw [h.parts?_eq] at hparts
    cases hparts
  unfold read
  rw [h.trim_eq, hnone]

end LongDate

namespace EventTime

variable {s long : String} {p : Timestamp.Parts} {fields : Fields}

theorem read_of_timestamp (h : Timestamp.IsWritten s.toList p)
    : (p.Exists → read (.text s) = .ok (Instant.stamp p.universal))
      ∧ (¬ p.Exists → ∃ e, read (.text s) = .error (.date e)) := by
  have hink : Text.isBlankText s = false := by
    rw [← Bool.not_eq_true, Text.isBlankText, ← Text.trim_eq_nil_iff, h.trim_eq]
    exact h.ne_nil
  have hwritten := h.trim_eq.symm ▸ h
  unfold read source
  dsimp only
  rw [if_neg (by simp [hink])]
  constructor
  . intro hexists
    rw [Timestamp.read_of_exists hwritten hexists]
  . intro hnone
    rw [Timestamp.read_of_not_exists hwritten hnone]
    exact ⟨_, LongDate.read_of_timestamp h⟩

theorem read_of_long (h : LongDate.IsWritten s.toList p) : read (.text s) = LongDate.read s := by
  obtain ⟨name, -, hparts⟩ := h.exists_parts?
  rw [← h.trim_eq] at hparts
  obtain ⟨hink, e, he⟩ := LongDate.of_parts? hparts
  unfold read source
  simp [hink, he]

theorem read_map (hsome : s ≠ "") (h : Fields.get fields "dateTime" = .text s)
    : read (.map fields) = read (.text s) := by
  have hsource : source (.map fields) = .text s := by
    rw [source, h, Value.orElse, if_pos (by simpa [Value.isTruthy] using hsome)]
  rw [read, hsource]
  rfl

/--
A time with an offset of less than a day is read alike in each notation: as a timestamp, as a map with
the timestamp under `dateTime`, and as a long date. All three give the instant of its parts, and if this
does not exist all three are refused.
-/
theorem read_agrees (hs : Timestamp.IsWritten s.toList p) (hlong : LongDate.IsWritten long.toList p)
    (hfields : Fields.get fields "dateTime" = .text s) (hhour : p.offsetHour ≤ 23)
    (hminute : p.offsetMinute ≤ 59)
    : (p.Exists
        → ∀ v ∈ [.text s, .map fields, .text long], read v = .ok (Instant.stamp p.universal))
      ∧ (¬ p.Exists
        → ∀ v ∈ [.text s, .map fields, .text long], ∃ e, read v = .error (.date e)) := by
  have hsome : s ≠ "" := by
    rintro rfl
    exact hs.ne_nil rfl
  simp only [List.forall_mem_cons, read_map hsome hfields, read_of_long hlong]
  obtain ⟨hread, herror⟩ := read_of_timestamp hs
  obtain ⟨hlongRead, hlongError⟩ := hlong.read_eq hhour hminute
  constructor
  . intro hexists
    exact ⟨hread hexists, hread hexists, hlongRead hexists, nofun⟩
  . intro hnone
    exact ⟨herror hnone, herror hnone, hlongError hnone, nofun⟩

/--
An afternoon in Kolkata, and the first midnight of the calendar there, which lies before the first
instant in universal time.
-/
theorem read_agrees_kolkata
    : (∀ v ∈ [.text "2025-08-20T15:00:00+05:30", .map [("dateTime", .text "2025-08-20T15:00:00+05:30")],
          .text "Wed aUg 20 2025 15:00:00 GMT+0530 (IST)"],
        read v = .ok "2025-08-20T09:30:00.000Z")
      ∧ ∀ v ∈ [.text "0001-01-01T00:00:00+05:30", .map [("dateTime", .text "0001-01-01T00:00:00+05:30")],
          .text "Jan 1 0001 00:00:00 GMT+0530"],
        ∃ e, read v = .error (.date e) := by
  have hhours : Timestamp.IsNumber 2 ['0', '5'] 5 := ⟨[0, 5], .cons rfl (.cons rfl .nil), rfl, rfl⟩
  have hminutes : Timestamp.IsNumber 2 ['3', '0'] 30 := ⟨[3, 0], .cons rfl (.cons rfl .nil), rfl, rfl⟩
  have hzero : Timestamp.IsNumber 2 ['0', '0'] 0 := ⟨[0, 0], .cons rfl (.cons rfl .nil), rfl, rfl⟩
  constructor
  . have hs : Timestamp.IsWritten "2025-08-20T15:00:00+05:30".toList
        ⟨2025, 8, 20, 15, 0, 0, 0, false, 5, 30⟩ :=
      Timestamp.parts?_eq_some_iff.mp (by decide)
    have hweekday : LongDate.IsWord ['W', 'e', 'd'] := .intro rfl rfl rfl
    have hmonth : LongDate.IsMonth ['a', 'U', 'g'] 8 := ⟨.intro rfl rfl rfl, 7, rfl, rfl⟩
    have hday : LongDate.IsShort ['2', '0'] 20 := .inr ⟨[2, 0], .cons rfl (.cons rfl .nil), rfl, rfl⟩
    have hyear : Timestamp.IsNumber 4 ['2', '0', '2', '5'] 2025 :=
      ⟨[2, 0, 2, 5], .cons rfl (.cons rfl (.cons rfl (.cons rfl .nil))), rfl, rfl⟩
    have hhour : Timestamp.IsNumber 2 ['1', '5'] 15 := ⟨[1, 5], .cons rfl (.cons rfl .nil), rfl, rfl⟩
    have hzone : '\n' ∉ ['I', 'S', 'T'] := by decide
    have hlong : LongDate.IsWritten "Wed aUg 20 2025 15:00:00 GMT+0530 (IST)".toList
        ⟨2025, 8, 20, 15, 0, 0, 0, false, 5, 30⟩ :=
      LongDate.IsWritten.intro (.given hweekday) hmonth hday hyear hhour hzero hzero (.inl rfl) hhours
        hminutes (.given hzone)
    have hexists : (⟨2025, 8, 20, 15, 0, 0, 0, false, 5, 30⟩ : Timestamp.Parts).Exists :=
      ⟨⟨by decide, by decide, by decide, by decide, by decide, by decide⟩, by decide⟩
    exact (read_agrees hs hlong rfl (by decide) (by decide)).1 hexists
  . have hs : Timestamp.IsWritten "0001-01-01T00:00:00+05:30".toList
        ⟨1, 1, 1, 0, 0, 0, 0, false, 5, 30⟩ :=
      Timestamp.parts?_eq_some_iff.mp (by decide)
    have hmonth : LongDate.IsMonth ['J', 'a', 'n'] 1 := ⟨.intro rfl rfl rfl, 0, rfl, rfl⟩
    have hday : LongDate.IsShort ['1'] 1 := .inl ⟨[1], .cons rfl .nil, rfl, rfl⟩
    have hyear : Timestamp.IsNumber 4 ['0', '0', '0', '1'] 1 :=
      ⟨[0, 0, 0, 1], .cons rfl (.cons rfl (.cons rfl (.cons rfl .nil))), rfl, rfl⟩
    have hlong : LongDate.IsWritten "Jan 1 0001 00:00:00 GMT+0530".toList
        ⟨1, 1, 1, 0, 0, 0, 0, false, 5, 30⟩ :=
      LongDate.IsWritten.intro .absent hmonth hday hyear hzero hzero hzero (.inl rfl) hhours hminutes
        .absent
    have hnone : ¬ (⟨1, 1, 1, 0, 0, 0, 0, false, 5, 30⟩ : Timestamp.Parts).Exists := by
      rintro ⟨-, hsupported⟩
      revert hsupported
      decide
    exact (read_agrees hs hlong rfl (by decide) (by decide)).2 hnone

end EventTime

end Datebook
