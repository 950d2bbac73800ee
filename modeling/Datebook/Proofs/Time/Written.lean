import Datebook.Proofs.Text
import Datebook.Time.Timestamp
import Mathlib.Data.List.Forall2

/-!
This module contains the grammar of timestamps, the verification that the reader of their parts accepts
exactly the texts of the grammar, and that filling up a text changes nothing about its parts.
-/

namespace Datebook

namespace Text

def AreDigits : List Char → List Nat → Prop :=
  List.Forall₂ fun c d => digit? c = some d

theorem lt_ten_of_digit? {c : Char} {d : Nat} (h : digit? c = some d) : d < 10 := by
  unfold digit? at h
  dsimp only at h
  split at h
  . split at h
    . injection h with h
      omega
    . cases h
  . rw [Option.map_eq_some_iff] at h
    obtain ⟨first, hfirst, rfl⟩ := h
    have hrange := List.find?_some hfirst
    rw [Bool.and_eq_true, decide_eq_true_eq, decide_eq_true_eq] at hrange
    omega

theorem AreDigits.lt_ten {s : List Char} {values : List Nat} (h : AreDigits s values)
    : ∀ d ∈ values, d < 10 := by
  induction h with
  | nil => simp
  | cons hdigit _ ih =>
    rw [List.forall_mem_cons]
    exact ⟨lt_ten_of_digit? hdigit, ih⟩

theorem AreDigits.forall_mem {s : List Char} {values : List Nat} (h : AreDigits s values)
    : ∀ c ∈ s, ∃ d, digit? c = some d := by
  induction h with
  | nil => simp
  | cons hdigit _ ih =>
    rw [List.forall_mem_cons]
    exact ⟨⟨_, hdigit⟩, ih⟩

theorem foldl_digits (values : List Nat) (n : Nat)
    : values.foldl (fun n d => 10 * n + d) n = n * 10 ^ values.length + ofDigits values := by
  induction values generalizing n with
  | nil => simp [ofDigits]
  | cons d values ih =>
    unfold ofDigits
    rw [List.foldl_cons, List.foldl_cons, ih, ih (10 * 0 + d), List.length_cons, Nat.pow_succ']
    rw [Nat.add_mul, Nat.mul_comm 10 n, Nat.mul_assoc, Nat.mul_zero, Nat.zero_add, Nat.add_assoc]

theorem ofDigits_append (values more : List Nat)
    : ofDigits (values ++ more) = ofDigits values * 10 ^ more.length + ofDigits more := by
  unfold ofDigits
  rw [List.foldl_append, foldl_digits]
  rfl

theorem ofDigits_lt {values : List Nat} (h : ∀ d ∈ values, d < 10)
    : ofDigits values < 10 ^ values.length := by
  induction values with
  | nil => simp [ofDigits]
  | cons d values ih =>
    rw [List.forall_mem_cons] at h
    have hrest := ih h.2
    have hfirst : ofDigits (d :: values) = d * 10 ^ values.length + ofDigits values := by
      rw [← List.singleton_append, ofDigits_append]
      simp [ofDigits]
    rw [hfirst, List.length_cons, Nat.pow_succ']
    calc d * 10 ^ values.length + ofDigits values
      _ < d * 10 ^ values.length + 10 ^ values.length := by omega
      _ = (d + 1) * 10 ^ values.length := by rw [Nat.add_mul, Nat.one_mul]
      _ ≤ 10 * 10 ^ values.length := Nat.mul_le_mul_right _ (by omega)

theorem ofDigits_replicate_zero (count : Nat) : ofDigits (List.replicate count 0) = 0 := by
  induction count with
  | zero => rfl
  | succ count ih =>
    unfold ofDigits at *
    rwa [List.replicate_succ, List.foldl_cons]

end Text

namespace Timestamp

open Text

def IsNumber (count : Nat) (s : List Char) (n : Nat) : Prop :=
  ∃ values, AreDigits s values ∧ values.length = count ∧ ofDigits values = n

/--
Whether a text is a dot or a comma and one to nine digits, or nothing, and stands for a fraction of a
second of so many whole microseconds.
-/
inductive IsFraction : List Char → Nat → Prop
  | absent : IsFraction [] 0
  | given {mark : Char} {text : List Char} {values : List Nat} (hmark : mark = '.' ∨ mark = ',')
      (hdigits : AreDigits text values) (hsome : values ≠ []) (hmost : values.length ≤ 9)
      : IsFraction (mark :: text) (ofDigits values * 10 ^ 6 / 10 ^ values.length)

inductive IsSeconds : List Char → Nat → Nat → Prop
  | absent : IsSeconds [] 0 0
  | given {text fraction : List Char} {second micro : Nat} (hsecond : IsNumber 2 text second)
      (hfraction : IsFraction fraction micro) : IsSeconds (':' :: text ++ fraction) second micro

/--
Whether a text is a time of day behind the mark that sets it off from the date, or nothing.
-/
inductive IsClock : List Char → Nat → Nat → Nat → Nat → Prop
  | absent : IsClock [] 0 0 0 0
  | given {mark : Char} {hours minutes seconds : List Char} {hour minute second micro : Nat}
      (hmark : mark = 'T' ∨ mark = 't' ∨ mark = ' ') (hhour : IsNumber 2 hours hour)
      (hminute : IsNumber 2 minutes minute) (hseconds : IsSeconds seconds second micro)
      : IsClock (mark :: hours ++ ':' :: minutes ++ seconds) hour minute second micro

inductive IsOffset : List Char → Bool → Nat → Nat → Prop
  | absent : IsOffset [] false 0 0
  | universal {mark : Char} (hmark : mark = 'Z' ∨ mark = 'z') : IsOffset [mark] false 0 0
  | hours {sign : Char} {hours : List Char} {hour : Nat} (hsign : sign = '+' ∨ sign = '-')
      (hhour : IsNumber 2 hours hour) : IsOffset (sign :: hours) (sign = '-') hour 0
  | minutes {sign : Char} {hours colon minutes : List Char} {hour minute : Nat}
      (hsign : sign = '+' ∨ sign = '-') (hhour : IsNumber 2 hours hour)
      (hcolon : colon = [] ∨ colon = [':']) (hminute : IsNumber 2 minutes minute)
      : IsOffset (sign :: hours ++ colon ++ minutes) (sign = '-') hour minute

/--
Whether a text is a date, possibly with a time of day and an offset, with the given parts.
-/
inductive IsWritten : List Char → Parts → Prop
  | intro {years months days clock offset : List Char}
      {year month day hour minute second micro offsetHour offsetMinute : Nat} {behind : Bool}
      (hyear : IsNumber 4 years year) (hmonth : IsNumber 2 months month)
      (hday : IsNumber 2 days day) (hclock : IsClock clock hour minute second micro)
      (hoffset : IsOffset offset behind offsetHour offsetMinute)
      : IsWritten (years ++ '-' :: months ++ '-' :: days ++ clock ++ offset)
          ⟨year, month, day, hour, minute, second, micro, behind, offsetHour, offsetMinute⟩

variable {s text rest : List Char} {values : List Nat} {count n : Nat}

theorem number_digits (h : AreDigits text values) (value : Nat) (rest : List Char)
    : number value values.length (text ++ rest)
        = some (values.foldl (fun n d => 10 * n + d) value, rest) := by
  induction h generalizing value with
  | nil => rfl
  | cons hdigit _ ih =>
    rw [List.length_cons, List.cons_append, number, hdigit]
    exact ih _

theorem IsNumber.number_append (h : IsNumber count text n) (rest : List Char)
    : number 0 count (text ++ rest) = some (n, rest) := by
  obtain ⟨values, hdigits, hlength, hvalue⟩ := h
  rw [← hlength, ← hvalue]
  exact number_digits hdigits 0 rest

theorem IsNumber.exists_head (h : IsNumber (count + 1) s n)
    : ∃ c rest d, s = c :: rest ∧ digit? c = some d := by
  obtain ⟨values, hdigits, hlength, -⟩ := h
  cases hdigits with
  | nil => cases hlength
  | cons hdigit _ => exact ⟨_, _, _, rfl, hdigit⟩

theorem isNumber_padded {width : Nat} (h : n < 10 ^ (width + 1))
    : IsNumber (width + 1) (padded (width + 1) n) n := by
  induction width generalizing n with
  | zero =>
    have hn : n < 10 := h
    rw [padded_one hn]
    exact ⟨[n], .cons (digit?_digitChar hn) .nil, rfl, by simp [ofDigits]⟩
  | succ width ih =>
    rw [Nat.pow_succ] at h
    obtain ⟨values, hdigits, hlength, hvalue⟩ := ih (n := n / 10) (by omega)
    have hlast : digit? (Nat.digitChar (n % 10)) = some (n % 10) := digit?_digitChar (by omega)
    rw [padded_succ _ _ (Nat.succ_pos width)]
    refine ⟨values ++ [n % 10], List.rel_append hdigits (.cons hlast .nil), ?_, ?_⟩
    . rw [List.length_append, hlength]
      rfl
    . rw [ofDigits_append, hvalue]
      simp only [ofDigits, List.foldl_cons, List.foldl_nil, List.length_cons, List.length_nil]
      omega

theorem exists_digits_of_number {value : Nat} (h : number value count s = some (n, rest))
    : ∃ text values, s = text ++ rest ∧ AreDigits text values ∧ values.length = count
        ∧ values.foldl (fun n d => 10 * n + d) value = n := by
  induction count generalizing value s with
  | zero =>
    cases h
    exact ⟨[], [], rfl, .nil, rfl, rfl⟩
  | succ count ih =>
    cases s with
    | nil => cases h
    | cons c s =>
      rw [number] at h
      split at h
      . cases h
      . next d hd =>
        obtain ⟨text, values, rfl, hdigits, rfl, rfl⟩ := ih h
        exact ⟨c :: text, d :: values, rfl, .cons hd hdigits, rfl, rfl⟩

theorem exists_isNumber (h : number 0 count s = some (n, rest))
    : ∃ text, s = text ++ rest ∧ IsNumber count text n := by
  obtain ⟨text, values, hs, hdigits, hlength, hvalue⟩ := exists_digits_of_number h
  exact ⟨text, hs, values, hdigits, hlength, hvalue⟩

theorem eq_cons_of_after {c : Char} (h : after c s = some rest) : s = c :: rest := by
  cases s with
  | nil => cases h
  | cons d s =>
    rw [after] at h
    split at h
    . next hc =>
      injection h with h
      rw [hc, h]
    . cases h

theorem after_cons (c : Char) (rest : List Char) : after c (c :: rest) = some rest := by
  rw [after, if_pos rfl]

theorem exists_digits_of_digits (h : digits s = (values, rest))
    : ∃ text, s = text ++ rest ∧ AreDigits text values := by
  induction s generalizing values with
  | nil =>
    cases h
    exact ⟨[], rfl, .nil⟩
  | cons c s ih =>
    rw [digits] at h
    split at h
    . cases h
      exact ⟨[], rfl, .nil⟩
    . next d hd =>
      cases h
      obtain ⟨text, hs, hdigits⟩ := ih rfl
      exact ⟨c :: text, congrArg (c :: ·) hs, .cons hd hdigits⟩

theorem micros_eq (h : ∀ d ∈ values, d < 10)
    : micros values = ofDigits values * 10 ^ 6 / 10 ^ values.length := by
  unfold micros
  by_cases hlength : values.length ≤ 6
  . -- Nothing is cut off, and the zeros shift the digits up.
    have hpow : 10 ^ 6 = 10 ^ (6 - values.length) * 10 ^ values.length := by
      rw [← Nat.pow_add]
      congr 1
      omega
    rw [List.take_of_length_le hlength, ofDigits_append, ofDigits_replicate_zero,
      List.length_replicate, Nat.add_zero, hpow, ← Nat.mul_assoc,
      Nat.mul_div_cancel _ (Nat.pow_pos (by omega))]
  . -- No zeros are put in, and what is cut off is less than one microsecond.
    have hnone : 6 - values.length = 0 := by omega
    have htail := ofDigits_lt fun d hd => h d (List.mem_of_mem_drop (i := 6) hd)
    have hsplit := ofDigits_append (values.take 6) (values.drop 6)
    have hpow : 10 ^ values.length = 10 ^ 6 * 10 ^ (values.drop 6).length := by
      rw [← Nat.pow_add, List.length_drop]
      congr 1
      omega
    rw [List.take_append_drop] at hsplit
    rw [hnone, List.replicate_zero, List.append_nil, hpow, Nat.mul_comm (10 ^ 6),
      Nat.mul_div_mul_right _ _ (by omega), hsplit, Nat.mul_comm,
      Nat.mul_add_div (Nat.pow_pos (by omega)), Nat.div_eq_of_lt htail, Nat.add_zero]

def OpensOffset (s : List Char) : Prop :=
  s = [] ∨ ∃ c rest, s = c :: rest ∧ c ∈ ['Z', 'z', '+', '-']

section

variable {hour minute second micro : Nat} {behind : Bool} {fraction clock' offset' : List Char}

theorem IsOffset.opensOffset (h : IsOffset s behind hour minute) : OpensOffset s := by
  cases h with
  | absent => exact .inl rfl
  | universal hmark =>
    refine .inr ⟨_, _, rfl, ?_⟩
    cases hmark with
    | inl hmark => simp [hmark]
    | inr hmark => simp [hmark]
  | hours hsign => exact .inr ⟨_, _, rfl, by simp [hsign]⟩
  | minutes hsign => exact .inr ⟨_, _, rfl, by simp [hsign]⟩

theorem not_mem_offsetMarks
    : ∀ c ∈ ['Z', 'z', '+', '-'], digit? c = none
        ∧ c ≠ '.' ∧ c ≠ ',' ∧ c ≠ ':' ∧ c ≠ 'T' ∧ c ≠ 't' ∧ c ≠ ' ' := by
  simp only [List.forall_mem_cons]
  exact ⟨by decide, by decide, by decide, by decide, nofun⟩

theorem OpensOffset.digits_append (hrest : OpensOffset rest) (h : AreDigits text values)
    : digits (text ++ rest) = (values, rest) := by
  induction h with
  | nil =>
    obtain rfl | ⟨c, rest, rfl, hc⟩ := hrest
    . rfl
    . rw [List.nil_append, digits, (not_mem_offsetMarks c hc).1]
  | cons hdigit _ ih => rw [List.cons_append, digits, hdigit, ih]

theorem OpensOffset.seconds_append (hrest : OpensOffset rest) (h : IsSeconds s second micro)
    : seconds (s ++ rest) = some ((second, micro), rest) := by
  cases h with
  | absent =>
    obtain rfl | ⟨c, rest, rfl, hc⟩ := hrest
    . rfl
    . have hcolon := (not_mem_offsetMarks c hc).2.2.2.1
      rw [List.nil_append, seconds]
      simpa using hcolon
  | given hsecond hfraction =>
    rw [List.cons_append, List.cons_append, List.append_assoc, seconds, hsecond.number_append]
    cases hfraction with
    | absent =>
      obtain rfl | ⟨c, rest, rfl, hc⟩ := hrest
      . rfl
      . obtain ⟨-, hdot, hcomma, -⟩ := not_mem_offsetMarks c hc
        simp [hdot, hcomma]
    | given hmark hdigits hsome hmost =>
      rw [← micros_eq hdigits.lt_ten]
      simp [hmark, hrest.digits_append hdigits, hmost]

theorem OpensOffset.clock_append (hrest : OpensOffset rest)
    (h : IsClock s hour minute second micro)
    : clock (s ++ rest) = some ((hour, minute, second, micro), rest) := by
  cases h with
  | absent =>
    obtain rfl | ⟨c, rest, rfl, hc⟩ := hrest
    . rfl
    . obtain ⟨-, -, -, -, hupper, hlower, hspace⟩ := not_mem_offsetMarks c hc
      simp [clock, hupper, hlower, hspace]
  | given hmark hhour hminute hseconds =>
    simp only [List.cons_append, List.append_assoc, clock, hmark, if_true, Option.bind_eq_bind,
      hhour.number_append, Option.bind_some, after_cons, hminute.number_append,
      hrest.seconds_append hseconds]

theorem IsOffset.offset_eq (h : IsOffset s behind hour minute)
    : offset s = some (behind, hour, minute) := by
  have hsigns : ∀ sign : Char, sign = '+' ∨ sign = '-' → ¬ (sign = 'Z' ∨ sign = 'z') := by
    rintro sign (rfl | rfl)
    . decide
    . decide
  cases h with
  | absent => rfl
  | universal hmark => simp [offset, hmark]
  | @hours sign hours hour hsign hhour =>
    have hnumber := hhour.number_append []
    rw [List.append_nil] at hnumber
    simp [offset, hsigns _ hsign, hsign, hnumber]
  | @minutes sign hours colon minutes hour minute hsign hhour hcolon hminute =>
    have hnumber := hminute.number_append []
    rw [List.append_nil] at hnumber
    rw [List.cons_append, List.cons_append, List.append_assoc, offset, if_neg (hsigns _ hsign),
      if_pos hsign, hhour.number_append]
    cases hcolon with
    | inl hcolon =>
      -- What follows the hours is a digit and not a colon.
      obtain ⟨c, rest, d, rfl, hd⟩ := hminute.exists_head
      have hc : c ≠ ':' := by
        rintro rfl
        cases hd
      rw [hcolon]
      simp [hc, hnumber]
    | inr hcolon =>
      rw [hcolon]
      simp [hnumber]

theorem IsWritten.parts?_eq {p : Parts} (h : IsWritten s p) : parts? s = some p := by
  obtain ⟨hyear, hmonth, hday, hclock, hoffset⟩ := h
  simp only [List.append_assoc, List.cons_append, parts?, Option.bind_eq_bind, Option.bind_some,
    hyear.number_append, hmonth.number_append, hday.number_append, after_cons,
    hoffset.opensOffset.clock_append hclock, hoffset.offset_eq]

theorem exists_isSeconds (h : seconds s = some ((second, micro), rest))
    : ∃ text, s = text ++ rest ∧ IsSeconds text second micro := by
  unfold seconds at h
  split at h
  . next s =>
    rw [Option.bind_eq_bind, Option.bind_eq_some_iff] at h
    obtain ⟨⟨n, s⟩, hnumber, h⟩ := h
    obtain ⟨text, rfl, htext⟩ := exists_isNumber hnumber
    dsimp only at h
    split at h
    . next mark s =>
      split at h
      . next hmark =>
        split at h
        . cases h
        . next values s hsome hdigits =>
          split at h
          . next hmost =>
            cases h
            obtain ⟨text', rfl, hdigits'⟩ := exists_digits_of_digits hdigits
            have hfraction := IsFraction.given hmark hdigits' (by simpa using hsome) hmost
            rw [← micros_eq hdigits'.lt_ten] at hfraction
            exact ⟨_, by simp, .given htext hfraction⟩
          . cases h
      . cases h
        exact ⟨_, by simp, .given htext .absent⟩
    . cases h
      exact ⟨_, by simp, .given htext .absent⟩
  . cases h
    exact ⟨[], rfl, .absent⟩

theorem exists_isClock (h : clock s = some ((hour, minute, second, micro), rest))
    : ∃ text, s = text ++ rest ∧ IsClock text hour minute second micro := by
  unfold clock at h
  split at h
  . cases h
    exact ⟨[], rfl, .absent⟩
  . next mark s =>
    split at h
    . next hmark =>
      simp only [Option.bind_eq_bind, Option.bind_eq_some_iff] at h
      obtain ⟨⟨_, s⟩, hhour, s', hcolon, ⟨_, t⟩, hminute, ⟨⟨_, _⟩, u⟩, hseconds, h⟩ := h
      cases h
      obtain rfl : s = ':' :: s' := eq_cons_of_after hcolon
      obtain ⟨hours, rfl, hhours⟩ := exists_isNumber hhour
      obtain ⟨minutes, rfl, hminutes⟩ := exists_isNumber hminute
      obtain ⟨text, rfl, htext⟩ := exists_isSeconds hseconds
      exact ⟨_, by simp, .given hmark hhours hminutes htext⟩
    . cases h
      exact ⟨[], rfl, .absent⟩

theorem isOffset_of_offset (h : offset s = some (behind, hour, minute))
    : IsOffset s behind hour minute := by
  unfold offset at h
  split at h
  . cases h
    exact .absent
  . next mark s =>
    split at h
    . next hmark =>
      split at h
      . next hnil =>
        cases h
        rw [List.isEmpty_iff.mp hnil]
        exact .universal hmark
      . cases h
    . split at h
      . next hsign =>
        rw [Option.bind_eq_bind, Option.bind_eq_some_iff] at h
        obtain ⟨⟨_, s⟩, hhour, h⟩ := h
        obtain ⟨hours, rfl, hhours⟩ := exists_isNumber hhour
        dsimp only at h
        split at h
        . cases h
          rw [List.append_nil]
          exact .hours hsign hhours
        . next c more =>
          rw [Option.bind_eq_some_iff] at h
          obtain ⟨⟨_, t⟩, hminute, h⟩ := h
          dsimp only at h
          split at h
          . next hnil =>
            cases h
            rw [List.isEmpty_iff.mp hnil] at hminute
            obtain ⟨minutes, hmore, hminutes⟩ := exists_isNumber hminute
            rw [List.append_nil] at hmore
            split at hmore
            . next hcolon =>
              rw [hcolon, hmore]
              have := IsOffset.minutes hsign hhours (.inr rfl) hminutes
              simpa using this
            . rw [hmore]
              have := IsOffset.minutes hsign hhours (.inl rfl) hminutes
              simpa using this
          . cases h
      . cases h

theorem parts?_eq_some_iff {p : Parts} : parts? s = some p ↔ IsWritten s p := by
  refine ⟨?_, IsWritten.parts?_eq⟩
  intro h
  simp only [parts?, Option.bind_eq_bind, Option.bind_eq_some_iff] at h
  obtain ⟨⟨_, t⟩, hyear, t', hmark, ⟨_, u⟩, hmonth, u', hmark', ⟨_, v⟩, hday, ⟨⟨_, _, _, _⟩, w⟩,
    hclock, ⟨_, _, _⟩, hoffset, h⟩ := h
  cases h
  obtain rfl : t = '-' :: t' := eq_cons_of_after hmark
  obtain rfl : u = '-' :: u' := eq_cons_of_after hmark'
  obtain ⟨years, rfl, hyears⟩ := exists_isNumber hyear
  obtain ⟨months, rfl, hmonths⟩ := exists_isNumber hmonth
  obtain ⟨days, rfl, hdays⟩ := exists_isNumber hday
  obtain ⟨text, rfl, htext⟩ := exists_isClock hclock
  have := IsWritten.intro hyears hmonths hdays htext (isOffset_of_offset hoffset)
  simpa using this

theorem parts?_zeroSeconds (h : isToMinute s = true)
    : parts? (s ++ [':', '0', '0']) = parts? s := by
  unfold isToMinute at h
  simp only [decide_eq_true_eq, Option.bind_eq_bind, Option.bind_eq_some_iff] at h
  obtain ⟨⟨_, t⟩, hyear, t', hyear', ⟨_, u⟩, hmonth, u', hmonth', ⟨_, v⟩, hday, v', hday', ⟨_, w⟩, hhour,
    w', hhour', ⟨_, x⟩, hminute, h⟩ := h
  cases h
  obtain rfl : t = '-' :: t' := eq_cons_of_after hyear'
  obtain rfl : u = '-' :: u' := eq_cons_of_after hmonth'
  obtain rfl : v = 'T' :: v' := eq_cons_of_after hday'
  obtain rfl : w = ':' :: w' := eq_cons_of_after hhour'
  obtain ⟨years, rfl, hyears⟩ := exists_isNumber hyear
  obtain ⟨months, rfl, hmonths⟩ := exists_isNumber hmonth
  obtain ⟨days, rfl, hdays⟩ := exists_isNumber hday
  obtain ⟨hours, rfl, hhours⟩ := exists_isNumber hhour
  obtain ⟨minutes, rfl, hminutes⟩ := exists_isNumber hminute
  have hzero : IsNumber 2 ['0', '0'] 0 := ⟨[0, 0], .cons rfl (.cons rfl .nil), rfl, rfl⟩
  have hshort := IsWritten.intro hyears hmonths hdays
    (.given (.inl rfl) hhours hminutes .absent) .absent
  have hlong := IsWritten.intro hyears hmonths hdays
    (.given (.inl rfl) hhours hminutes (.given hzero .absent)) .absent
  simp only [List.append_assoc, List.cons_append, List.append_nil] at hshort hlong
  simp only [List.append_assoc, List.cons_append, List.append_nil]
  rw [hshort.parts?_eq, hlong.parts?_eq]

theorem endsWithOffset_append (h : (offset s).isSome = true) (hsome : s ≠ []) (before : List Char)
    : endsWithOffset (before ++ s) = true := by
  induction before with
  | nil =>
    cases s with
    | nil => exact absurd rfl hsome
    | cons c s => rw [List.nil_append, endsWithOffset, h, Bool.true_or]
  | cons c before ih => rw [List.cons_append, endsWithOffset, ih, Bool.or_true]

def EndsWithDigit (s : List Char) : Prop :=
  ∃ before c, s = before ++ [c] ∧ ∃ d, digit? c = some d

theorem EndsWithDigit.append (h : EndsWithDigit s) (before : List Char)
    : EndsWithDigit (before ++ s) := by
  obtain ⟨middle, c, rfl, hc⟩ := h
  exact ⟨before ++ middle, c, (List.append_assoc _ _ _).symm, hc⟩

theorem EndsWithDigit.cons (h : EndsWithDigit s) (c : Char) : EndsWithDigit (c :: s) :=
  h.append [c]

theorem EndsWithDigit.ne_concat {c : Char} (h : EndsWithDigit s) (hc : digit? c = none)
    (before : List Char) : before ++ [c] ≠ s := by
  obtain ⟨before', c', rfl, d, hd⟩ := h
  intro heq
  obtain ⟨-, rfl⟩ := List.append_singleton_inj.mp heq
  cases hc.symm.trans hd

theorem endsWithDigit_of_areDigits (h : AreDigits s values) (hsome : s ≠ [])
    : EndsWithDigit s := by
  refine ⟨s.dropLast, s.getLast hsome, (List.dropLast_append_getLast hsome).symm, ?_⟩
  exact h.forall_mem _ (List.getLast_mem hsome)

theorem IsNumber.endsWithDigit (h : IsNumber (count + 1) s n) : EndsWithDigit s := by
  obtain ⟨c, rest, -, rfl, -⟩ := h.exists_head
  obtain ⟨values, hdigits, -⟩ := h
  exact endsWithDigit_of_areDigits hdigits (List.cons_ne_nil c rest)

theorem IsClock.endsWithDigit (h : IsClock s hour minute second micro) (hsome : s ≠ [])
    : EndsWithDigit s := by
  cases h with
  | absent => exact absurd rfl hsome
  | given hmark hhour hminute hseconds =>
    cases hseconds with
    | absent =>
      rw [List.append_nil]
      exact (hminute.endsWithDigit.cons _).append _
    | given hsecond hfraction =>
      cases hfraction with
      | absent =>
        rw [List.append_nil]
        exact (hsecond.endsWithDigit.cons _).append _
      | given hmark hdigits hvalues hmost =>
        have hsome := (List.Forall₂.length_eq hdigits).symm ▸ List.length_pos_iff.mpr hvalues
        have hend := endsWithDigit_of_areDigits hdigits (List.length_pos_iff.mp hsome)
        exact ((hend.cons _).append _).append _

theorem parts?_universal (h : endsWithOffset s = false) : parts? (s ++ ['Z']) = parts? s := by
  apply Option.ext
  intro p
  simp only [parts?_eq_some_iff]
  constructor
  . generalize hlong : s ++ ['Z'] = long
    rintro @⟨years, months, days, clock, offset, _, _, _, _, _, _, _, _, _, _, hyear, hmonth, hday,
      hclock, hoffset⟩
    -- The mark at the end can only be all of the offset, since the other parts end with a digit.
    cases hoffset with
    | absent =>
      rw [List.append_nil] at hlong
      by_cases hsome : clock = []
      . rw [hsome, List.append_nil] at hlong
        exact absurd hlong ((hday.endsWithDigit.cons _).append _ |>.ne_concat rfl s)
      . exact absurd hlong ((hclock.endsWithDigit hsome).append _ |>.ne_concat rfl s)
    | universal hmark =>
      obtain ⟨rfl, -⟩ := List.append_singleton_inj.mp hlong
      have := IsWritten.intro hyear hmonth hday hclock .absent
      rwa [List.append_nil] at this
    | hours hsign hhour =>
      exact absurd hlong ((hhour.endsWithDigit.cons _).append _ |>.ne_concat rfl s)
    | minutes hsign hhour hcolon hminute =>
      exact absurd hlong ((hminute.endsWithDigit.append _).append _ |>.ne_concat rfl s)
  . rintro @⟨years, months, days, clock, offset, _, _, _, _, _, _, _, _, _, _, hyear, hmonth, hday,
      hclock, hoffset⟩
    have hnil : offset = [] := by
      by_contra hsome
      have hends := endsWithOffset_append (by rw [hoffset.offset_eq, Option.isSome_some]) hsome
      rw [hends] at h
      cases h
    subst hnil
    rw [List.append_nil]
    cases hoffset with
    | absent => exact .intro hyear hmonth hday hclock (.universal (.inl rfl))

theorem parts?_completed (s : List Char) : parts? (completed s) = parts? s := by
  have hseconds : parts? (if isToMinute s then s ++ [':', '0', '0'] else s) = parts? s := by
    split
    . next hminute => exact parts?_zeroSeconds hminute
    . rfl
  unfold completed
  rw [← hseconds]
  generalize (if isToMinute s then s ++ [':', '0', '0'] else s) = t
  dsimp only
  split
  . next hmark =>
    rw [Bool.and_eq_true, Bool.not_eq_true'] at hmark
    exact parts?_universal hmark.2
  . rfl

end

end Timestamp

end Datebook
