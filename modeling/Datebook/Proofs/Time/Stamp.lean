import Datebook.Proofs.Fault
import Datebook.Proofs.Time.Date
import Datebook.Proofs.Time.Written
import Datebook.Time.Window

/-!
This module contains the verification of canonical timestamps: the stamp of a supported instant has
the form of one, and it reads back as that instant cut down to a whole millisecond.
-/

namespace Datebook

def Instant.floorMilli (t : Instant) : Instant := t - t % 1000

theorem Instant.isSupported_iff {t : Int}
    : isSupported t = true ↔ 0 ≤ t ∧ t < 315537897600000000 := by
  unfold isSupported
  have hlimit : limit = 315537897600000000 := by decide
  rw [hlimit, Bool.and_eq_true, decide_eq_true_eq, decide_eq_true_eq]

namespace ClockReading

variable {t : Int}

theorem ofMicros_parts (h : Instant.isSupported t = true)
    : (ofMicros t).isReal = true ∧ (ofMicros t).toMicros = t := by
  rw [Instant.isSupported_iff] at h
  have hcount : t.toNat / 1000000 / 86400 < Date.count := by
    unfold Date.count
    omega
  constructor
  . unfold isReal ofMicros
    dsimp only
    rw [Date.isReal_ofDays hcount]
    simp only [Bool.true_and, Bool.and_eq_true, decide_eq_true_eq]
    omega
  . unfold toMicros ofMicros
    dsimp only
    rw [Date.toDays_ofDays]
    omega

structure InRange (c : ClockReading) : Prop where
  year : c.date.year < 10000
  month : c.date.month < 100
  day : c.date.day < 100
  hour : c.hour < 100
  minute : c.minute < 100
  second : c.second < 100
  micro : c.micro / 1000 < 1000

theorem inRange_ofMicros (h : Instant.isSupported t = true) : (ofMicros t).InRange := by
  obtain ⟨hreal, -⟩ := ofMicros_parts h
  obtain ⟨-, -, -, hmonth, hday⟩ := Date.ofDays_spec (t.toNat / 1000000 / 86400)
  have hdate : (ofMicros t).date = Date.ofDays (t.toNat / 1000000 / 86400) := rfl
  unfold isReal Date.isReal at hreal
  simp only [Bool.and_eq_true, decide_eq_true_eq] at hreal
  rw [← hdate] at hmonth hday
  constructor <;> omega

end ClockReading

namespace Timestamp

theorem isWritten_of_isNumber {years months days hours minutes seconds millis : List Char}
    {year month day hour minute second milli : Nat} (hyear : IsNumber 4 years year)
    (hmonth : IsNumber 2 months month) (hday : IsNumber 2 days day) (hhour : IsNumber 2 hours hour)
    (hminute : IsNumber 2 minutes minute) (hsecond : IsNumber 2 seconds second)
    (hmilli : IsNumber 3 millis milli)
    : IsWritten (years ++ '-' :: (months ++ '-' :: (days ++ 'T' :: (hours ++ ':' :: (minutes
          ++ ':' :: (seconds ++ '.' :: (millis ++ ['Z'])))))))
        ⟨year, month, day, hour, minute, second, milli * 1000, false, 0, 0⟩ := by
  obtain ⟨values, hdigits, hlength, hvalue⟩ := hmilli
  have hfraction : IsFraction ('.' :: millis) (milli * 1000) := by
    have h := IsFraction.given (.inl rfl) hdigits (List.ne_nil_of_length_eq_add_one hlength)
      (by omega)
    rwa [hlength, hvalue, show milli * 10 ^ 6 / 10 ^ 3 = milli * 1000 by omega] at h
  have h := IsWritten.intro hyear hmonth hday
    (.given (.inl rfl) hhour hminute (.given hsecond hfraction)) (.universal (.inl rfl))
  simpa only [List.append_assoc, List.cons_append] using h

theorem isWritten_stamp {c : ClockReading} (h : c.InRange)
    : IsWritten (c.text 'T' ++ '.' :: Text.padded 3 (c.micro / 1000) ++ ['Z'])
        ⟨c.date.year, c.date.month, c.date.day, c.hour, c.minute, c.second,
          c.micro / 1000 * 1000, false, 0, 0⟩ := by
  have hwritten := isWritten_of_isNumber (isNumber_padded h.year) (isNumber_padded h.month)
    (isNumber_padded h.day) (isNumber_padded h.hour) (isNumber_padded h.minute)
    (isNumber_padded h.second) (isNumber_padded h.micro)
  simpa only [ClockReading.text, ClockReading.dateText, List.append_assoc, List.cons_append]
    using hwritten

/--
Whether a text has a form, in which a zero stands for any plain digit and every other character for
itself.
-/
def hasForm : List Char → List Char → Bool
  | [], [] => true
  | form :: forms, c :: rest =>
    (if form = '0' then '0' ≤ c && c ≤ '9' else c = form) && hasForm forms rest
  | _, _ => false

def stampForm : List Char :=
  "0000-00-00T00:00:00.000Z".toList

theorem stampForm_eq
    : stampForm
        = List.replicate 4 '0' ++ '-' :: (List.replicate 2 '0' ++ '-' :: (List.replicate 2 '0'
          ++ 'T' :: (List.replicate 2 '0' ++ ':' :: (List.replicate 2 '0'
          ++ ':' :: (List.replicate 2 '0' ++ '.' :: (List.replicate 3 '0' ++ ['Z'])))))) := by
  decide

theorem hasForm_append {digits : List Char} (h : ∀ c ∈ digits, '0' ≤ c ∧ c ≤ '9')
    (forms rest : List Char)
    : hasForm (List.replicate digits.length '0' ++ forms) (digits ++ rest) = hasForm forms rest := by
  induction digits with
  | nil => rfl
  | cons c digits ih =>
    obtain ⟨hlow, hhigh⟩ := h c (by simp)
    rw [List.length_cons, List.replicate_succ, List.cons_append, List.cons_append, hasForm,
      ih (fun d hd => h d (by simp [hd]))]
    simp [hlow, hhigh]

theorem hasForm_padded {width n : Nat} {mark : Char} (h : n < 10 ^ (width + 1)) (hmark : mark ≠ '0')
    (forms rest : List Char)
    : hasForm (List.replicate (width + 1) '0' ++ mark :: forms)
        (Text.padded (width + 1) n ++ mark :: rest) = hasForm forms rest := by
  have hdigits : ∀ c ∈ Text.padded (width + 1) n, '0' ≤ c ∧ c ≤ '9' :=
    fun c => Text.isDigit_of_mem_padded
  have := hasForm_append hdigits (mark :: forms) (mark :: rest)
  rw [Text.length_padded h] at this
  rw [this]
  simp [hasForm, hmark]

theorem hasForm_stamp {c : ClockReading} (h : c.InRange)
    : hasForm stampForm (c.text 'T' ++ '.' :: Text.padded 3 (c.micro / 1000) ++ ['Z']) = true := by
  unfold ClockReading.text ClockReading.dateText
  rw [stampForm_eq]
  simp only [List.append_assoc, List.cons_append]
  rw [hasForm_padded h.year (by decide)]
  rw [hasForm_padded h.month (by decide)]
  rw [hasForm_padded h.day (by decide)]
  rw [hasForm_padded h.hour (by decide)]
  rw [hasForm_padded h.minute (by decide)]
  rw [hasForm_padded h.second (by decide)]
  rw [hasForm_padded h.micro (by decide)]
  rfl

theorem exists_of_hasForm {form : Char} {forms s : List Char}
    (h : hasForm (form :: forms) s = true)
    : ∃ c rest, s = c :: rest ∧ (if form = '0' then '0' ≤ c ∧ c ≤ '9' else c = form)
        ∧ hasForm forms rest = true := by
  cases s with
  | nil => cases h
  | cons c rest =>
    rw [hasForm, Bool.and_eq_true] at h
    refine ⟨c, rest, rfl, ?_, h.2⟩
    split
    . next hform => simpa [hform] using h.1
    . next hform => simpa [hform] using h.1

theorem exists_mark_of_hasForm {mark : Char} (hmark : mark ≠ '0') {forms s : List Char}
    (h : hasForm (mark :: forms) s = true) : ∃ rest, s = mark :: rest ∧ hasForm forms rest = true := by
  obtain ⟨c, rest, rfl, hc, hrest⟩ := exists_of_hasForm h
  rw [if_neg hmark] at hc
  exact ⟨rest, by rw [hc], hrest⟩

theorem exists_number_of_hasForm {count : Nat} {forms s : List Char}
    (h : hasForm (List.replicate count '0' ++ forms) s = true)
    : ∃ text n rest, s = text ++ rest ∧ IsNumber count text n ∧ hasForm forms rest = true := by
  induction count generalizing s with
  | zero => exact ⟨[], 0, s, rfl, ⟨[], .nil, rfl, rfl⟩, h⟩
  | succ count ih =>
    rw [List.replicate_succ, List.cons_append] at h
    obtain ⟨c, tail, rfl, hc, htail⟩ := exists_of_hasForm h
    obtain ⟨d, hd⟩ := Text.exists_digit? hc
    obtain ⟨text, n, rest, rfl, ⟨values, hdigits, hlength, -⟩, hrest⟩ := ih htail
    refine ⟨c :: text, _, rest, rfl, ⟨d :: values, .cons hd hdigits, ?_, rfl⟩, hrest⟩
    rw [List.length_cons, hlength]

theorem exists_isWritten_of_hasForm {s : List Char} (h : hasForm stampForm s = true)
    : ∃ p, IsWritten s p ∧ p.micro % 1000 = 0 := by
  rw [stampForm_eq] at h
  obtain ⟨years, year, s, rfl, hyear, h⟩ := exists_number_of_hasForm h
  obtain ⟨s, rfl, h⟩ := exists_mark_of_hasForm (by decide) h
  obtain ⟨months, month, s, rfl, hmonth, h⟩ := exists_number_of_hasForm h
  obtain ⟨s, rfl, h⟩ := exists_mark_of_hasForm (by decide) h
  obtain ⟨days, day, s, rfl, hday, h⟩ := exists_number_of_hasForm h
  obtain ⟨s, rfl, h⟩ := exists_mark_of_hasForm (by decide) h
  obtain ⟨hours, hour, s, rfl, hhour, h⟩ := exists_number_of_hasForm h
  obtain ⟨s, rfl, h⟩ := exists_mark_of_hasForm (by decide) h
  obtain ⟨minutes, minute, s, rfl, hminute, h⟩ := exists_number_of_hasForm h
  obtain ⟨s, rfl, h⟩ := exists_mark_of_hasForm (by decide) h
  obtain ⟨seconds, second, s, rfl, hsecond, h⟩ := exists_number_of_hasForm h
  obtain ⟨s, rfl, h⟩ := exists_mark_of_hasForm (by decide) h
  obtain ⟨millis, milli, s, rfl, hmilli, h⟩ := exists_number_of_hasForm h
  obtain ⟨s, rfl, h⟩ := exists_mark_of_hasForm (by decide) h
  cases s with
  | nil =>
    exact ⟨_, isWritten_of_isNumber hyear hmonth hday hhour hminute hsecond hmilli,
      Nat.mul_mod_left milli 1000⟩
  | cons c s => cases h

theorem isBlank_of_hasForm {forms s : List Char} (hforms : ∀ c ∈ forms, Text.isBlank c = false)
    (h : hasForm forms s = true)
    : ∀ c ∈ s, Text.isBlank c = false := by
  induction forms generalizing s with
  | nil =>
    cases s with
    | nil => simp
    | cons c rest => simp [hasForm] at h
  | cons form forms ih =>
    cases s with
    | nil => simp
    | cons c rest =>
      rw [hasForm, Bool.and_eq_true] at h
      obtain ⟨hc, hrest⟩ := h
      have hhead : Text.isBlank c = false := by
        split at hc
        . rw [Bool.and_eq_true, decide_eq_true_eq, decide_eq_true_eq] at hc
          exact Text.isBlank_of_isDigit hc
        . rw [of_decide_eq_true hc]
          exact hforms form (by simp)
      intro d hd
      rw [List.mem_cons] at hd
      cases hd with
      | inl hd => rw [hd, hhead]
      | inr hd => exact ih (fun e he => hforms e (by simp [he])) hrest d hd

def isStamp (s : String) : Bool :=
  hasForm stampForm s.toList

theorem read_eq (text : String)
    : read text
        = match Text.trim text.toList with
          | [] => .error .blank
          | s =>
            match parts? s with
            | none => .error (.form text)
            | some parts =>
              match parts.instant? with
              | none => .error (.components text)
              | some t => .ok t := by
  unfold read
  cases Text.trim text.toList with
  | nil => rfl
  | cons c rest =>
    dsimp only
    exact parts?_completed (c :: rest) ▸ rfl

theorem read_eq_ok {text : String} {u : Instant}
    : read text = .ok u ↔ ∃ p, parts? (Text.trim text.toList) = some p ∧ p.instant? = some u := by
  rw [read_eq]
  split
  . next hnil =>
    rw [hnil]
    simp [parts?, number]
  . cases parts? (Text.trim text.toList) with
    | none => simp
    | some p =>
      cases hinstant : p.instant? with
      | none => simp [hinstant]
      | some t => simp [hinstant]

variable {t : Int}

theorem isStamp_stamp (h : Instant.isSupported t = true) : isStamp (Instant.stamp t) = true := by
  unfold isStamp Instant.stamp
  rw [String.toList_ofList]
  exact hasForm_stamp (ClockReading.inRange_ofMicros h)

theorem isBlank_of_isStamp {s : String} (h : isStamp s = true)
    : ∀ c ∈ s.toList, Text.isBlank c = false := by
  have hform : stampForm.all (!Text.isBlank ·) = true := by decide
  rw [List.all_eq_true] at hform
  apply isBlank_of_hasForm ?_ h
  intro c hc
  simpa using hform c hc

theorem trim_of_isStamp {s : String} (h : isStamp s = true) : Text.trim s.toList = s.toList :=
  Text.trim_of_all (isBlank_of_isStamp h)

theorem supported?_eq_some {u : Instant} : Instant.supported? t = some u ↔ t = u ∧ u.isSupported := by
  unfold Instant.supported?
  split
  . next h =>
    rw [Option.some.injEq]
    exact ⟨fun heq => ⟨heq, heq ▸ h⟩, And.left⟩
  . next h =>
    constructor
    . intro hnone
      cases hnone
    . rintro ⟨rfl, hu⟩
      exact absurd hu h

theorem instant?_eq_some {p : Parts}
    : p.instant? = some t
        ↔ (p.reading.isReal = true ∧ p.offsetHour ≤ 23 ∧ p.offsetMinute ≤ 59)
          ∧ p.reading.toMicros - p.ahead * Instant.second = t ∧ Instant.isSupported t = true := by
  unfold Parts.instant?
  split
  . next h => rw [supported?_eq_some, iff_true_intro h, true_and]
  . next h => simp [h]

theorem isSupported_floorMilli (h : Instant.isSupported t = true)
    : (Instant.floorMilli t).isSupported = true := by
  unfold Instant.floorMilli
  rw [Instant.isSupported_iff] at *
  omega

theorem stamp_floorMilli (h : Instant.isSupported t = true)
    : Instant.stamp (Instant.floorMilli t) = Instant.stamp t := by
  rw [Instant.isSupported_iff] at h
  have hseconds : (Instant.floorMilli t).toNat / 1000000 = t.toNat / 1000000 := by
    unfold Instant.floorMilli
    omega
  have hmillis : (Instant.floorMilli t).toNat % 1000000 / 1000 = t.toNat % 1000000 / 1000 := by
    unfold Instant.floorMilli
    omega
  unfold Instant.stamp ClockReading.text ClockReading.ofMicros
  dsimp only
  rw [hseconds, hmillis]

theorem instant?_floor {c : ClockReading} (hreal : c.isReal = true)
    (h : Instant.isSupported c.toMicros = true)
    : Parts.instant? ⟨c.date.year, c.date.month, c.date.day, c.hour, c.minute, c.second,
        c.micro / 1000 * 1000, false, 0, 0⟩ = some (Instant.floorMilli c.toMicros) := by
  have hfloor : ClockReading.toMicros ⟨c.date, c.hour, c.minute, c.second, c.micro / 1000 * 1000⟩
      = Instant.floorMilli c.toMicros := by
    unfold Instant.floorMilli ClockReading.toMicros
    dsimp only
    omega
  unfold ClockReading.isReal at hreal
  simp only [Bool.and_eq_true, decide_eq_true_eq] at hreal
  obtain ⟨⟨⟨⟨hdate, hhour⟩, hminute⟩, hsecond⟩, hmicro⟩ := hreal
  have hreal : ClockReading.isReal ⟨c.date, c.hour, c.minute, c.second, c.micro / 1000 * 1000⟩
      = true := by
    unfold ClockReading.isReal
    simp only [Bool.and_eq_true, decide_eq_true_eq]
    exact ⟨⟨⟨⟨hdate, hhour⟩, hminute⟩, hsecond⟩, by omega⟩
  have hahead : Parts.ahead ⟨c.date.year, c.date.month, c.date.day, c.hour, c.minute, c.second,
      c.micro / 1000 * 1000, false, 0, 0⟩ = 0 := by
    simp [Parts.ahead]
  rw [instant?_eq_some, hahead]
  refine ⟨⟨hreal, Nat.zero_le 23, Nat.zero_le 59⟩, ?_, isSupported_floorMilli h⟩
  rw [Int.zero_mul, Int.sub_zero]
  exact hfloor

@[simp]
theorem read_stamp (h : Instant.isSupported t = true)
    : read (Instant.stamp t) = .ok (Instant.floorMilli t) := by
  obtain ⟨hreal, hmicros⟩ := ClockReading.ofMicros_parts h
  have hparts := (isWritten_stamp (ClockReading.inRange_ofMicros h)).parts?_eq
  have htext : (Instant.stamp t).toList = (ClockReading.ofMicros t).text 'T'
      ++ '.' :: Text.padded 3 ((ClockReading.ofMicros t).micro / 1000) ++ ['Z'] := by
    unfold Instant.stamp
    rw [String.toList_ofList]
  rw [← htext, ← trim_of_isStamp (isStamp_stamp h)] at hparts
  rw [← hmicros] at h
  rw [read_eq_ok.mpr ⟨_, hparts, instant?_floor hreal h⟩, hmicros]

theorem isSupported_of_ofMoment {m : Moment} (h : ofMoment m = .ok t)
    : Instant.isSupported t = true := by
  unfold ofMoment at h
  split at h
  . cases h
  . next hsome =>
    injection h with h
    unfold Moment.instant? at hsome
    rw [← h]
    exact (supported?_eq_some.mp hsome).2

theorem isSupported_of_read {s : String} (h : read s = .ok t) : Instant.isSupported t = true := by
  obtain ⟨p, -, hinstant⟩ := read_eq_ok.mp h
  exact (instant?_eq_some.mp hinstant).2.2

theorem isSupported_of_ofValue {v : Value} (h : ofValue v = .ok t)
    : Instant.isSupported t = true := by
  cases v with
  | text s => exact isSupported_of_read h
  | moment m => exact isSupported_of_ofMoment h
  | date d =>
    rw [ofValue] at h
    exact isSupported_of_ofMoment h
  | _ => cases h

def Denotes (v : Value) (t : Instant) : Prop :=
  ∃ s, v = .text s ∧ isStamp s = true ∧ read s = .ok t

def Before (v w : Value) : Prop :=
  ∃ t u, Denotes v t ∧ Denotes w u ∧ t < u

theorem denotes_stamp (h : Instant.isSupported t = true)
    : Denotes (.text (Instant.stamp t)) (Instant.floorMilli t) :=
  ⟨Instant.stamp t, rfl, isStamp_stamp h, read_stamp h⟩

theorem exists_of_normalize {v : Value} {s : String} (h : normalize v = .ok s)
    : ∃ t, ofValue v = .ok t ∧ Instant.isSupported t = true ∧ s = Instant.stamp t := by
  unfold normalize at h
  split at h
  . cases h
  . next t ht =>
    injection h with h
    exact ⟨t, ht, isSupported_of_ofValue ht, h.symm⟩

theorem denotes_of_normalize {v : Value} {s : String} (h : normalize v = .ok s)
    : ∃ t, Denotes (.text s) t := by
  obtain ⟨t, -, hsupported, rfl⟩ := exists_of_normalize h
  exact ⟨_, denotes_stamp hsupported⟩

theorem ofValue_of_denotes {v : Value} (h : Denotes v t) : ofValue v = .ok t := by
  obtain ⟨s, rfl, -, hread⟩ := h
  exact hread

theorem floorMilli_of_denotes {v : Value} {t : Int} (h : Denotes v t) : Instant.floorMilli t = t := by
  obtain ⟨s, rfl, hform, hread⟩ := h
  obtain ⟨p, hparts, hinstant⟩ := read_eq_ok.mp hread
  obtain ⟨q, hwritten, hmicro⟩ := exists_isWritten_of_hasForm hform
  rw [trim_of_isStamp hform, hwritten.parts?_eq] at hparts
  cases hparts
  obtain ⟨-, ht, -⟩ := instant?_eq_some.mp hinstant
  have hmillis : t % 1000 = 0 := by
    rw [← ht]
    unfold ClockReading.toMicros Instant.second
    show ((_ : Int) * 1000000 + (p.micro : Int) - (_ : Int) * 1000000) % 1000 = 0
    omega
  rw [Instant.floorMilli, hmillis, Int.sub_zero]

end Timestamp

theorem before_of_checkOrder {v w : Value} {t u : Instant} (hv : Timestamp.Denotes v t)
    (hw : Timestamp.Denotes w u) (h : checkOrder v w = .ok ()) : Timestamp.Before v w := by
  unfold checkOrder at h
  rw [Timestamp.ofValue_of_denotes hv, Timestamp.ofValue_of_denotes hw] at h
  refine ⟨t, u, hv, hw, ?_⟩
  simp only [Except.mapError_ok, bind, Except.bind] at h
  split at h
  . cases h
  . next hlt => exact Int.not_le.mp hlt

end Datebook
