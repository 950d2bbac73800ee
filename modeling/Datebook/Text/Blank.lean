/-!
This module contains the characters that count as blank, and the trimming of text.
-/

namespace Datebook.Text

/--
The blank characters: tab to carriage return, the separators U+001C to U+001F, the space, and the
spaces and line separators of the wider character set. The zero-width characters are not blank.
-/
def isBlank (c : Char) : Bool :=
  let n := c.toNat
  (0x9 ≤ n && n ≤ 0xD) || (0x1C ≤ n && n ≤ 0x20) || n == 0x85 || n == 0xA0 || n == 0x1680
    || (0x2000 ≤ n && n ≤ 0x200A) || n == 0x2028 || n == 0x2029 || n == 0x202F || n == 0x205F
    || n == 0x3000

def trimStart (s : List Char) : List Char :=
  s.dropWhile isBlank

def trimEnd : List Char → List Char
  | [] => []
  | c :: rest =>
    match trimEnd rest with
    | [] => if isBlank c then [] else [c]
    | kept => c :: kept

def trim (s : List Char) : List Char :=
  trimEnd (trimStart s)

def strip (s : String) : String :=
  String.ofList (trim s.toList)

def isBlankText (s : String) : Bool :=
  s.toList.all isBlank

theorem trimEnd_cons_of_not_blank {c : Char} (h : isBlank c = false) (rest : List Char) :
    trimEnd (c :: rest) = c :: trimEnd rest := by
  rw [trimEnd]
  split <;> simp_all

theorem trimEnd_trimEnd (s : List Char) : trimEnd (trimEnd s) = trimEnd s := by
  induction s with
  | nil => rfl
  | cons c rest ih =>
    rw [trimEnd]
    split
    next h => by_cases hc : isBlank c <;> simp [hc, trimEnd]
    next kept h =>
      rw [trimEnd, ih]
      split <;> simp_all

theorem trim_trim (s : List Char) : trim (trim s) = trim s := by
  unfold trim trimStart
  cases h : s.dropWhile isBlank with
  | nil => rfl
  | cons c rest =>
    have hc : isBlank c = false := by
      have := List.head?_dropWhile_not isBlank s
      simpa [h] using this
    rw [trimEnd_cons_of_not_blank hc, List.dropWhile_cons_of_neg (by simp [hc]),
      trimEnd_cons_of_not_blank hc, trimEnd_trimEnd]

end Datebook.Text
