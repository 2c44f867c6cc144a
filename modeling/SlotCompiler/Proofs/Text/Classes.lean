import SlotCompiler.Text.Blank
import SlotCompiler.Text.Word

namespace SlotCompiler.Text

namespace Ranges

-- Walks both sets together: the ranges of `s` below the current range of `r` are below all that
-- follow it too, and are left behind.
def apart : Ranges → Ranges → Bool
  | [], _ => true
  | (low, high) :: r, s =>
    let above := s.dropWhile (·.2 < low)
    (above.head?.all fun q => high < q.1) && apart r above

theorem holds_dropWhile {s : Ranges} {low n : Nat} (hlow : low ≤ n) (h : s.holds n = true) :
    Ranges.holds (s.dropWhile (·.2 < low)) n = true := by
  induction s with
  | nil => exact h
  | cons q rest ih =>
      by_cases hq : q.2 < low
      · rw [List.dropWhile_cons_of_pos (by simpa using hq)]
        apply ih
        by_cases hn : n < q.1
        · simp [holds, hn] at h
        · simpa [holds, hn, show ¬n ≤ q.2 by omega] using h
      · rwa [List.dropWhile_cons_of_neg (by simpa using hq)]

theorem holds_eq_false_of_apart {r s : Ranges} {n : Nat} (h : apart r s = true)
    (hr : r.holds n = true) : s.holds n = false := by
  induction r generalizing s with
  | nil => simp [holds] at hr
  | cons p rest ih =>
      obtain ⟨low, high⟩ := p
      have hlow : low ≤ n := by
        apply Nat.le_of_not_lt
        intro hn
        simp [holds, hn] at hr
      simp only [apart, Bool.and_eq_true] at h
      rw [Bool.eq_false_iff]
      intro hs
      have habove := holds_dropWhile hlow hs
      by_cases hhigh : n ≤ high
      · cases hcase : s.dropWhile (·.2 < low) with
        | nil => simp [hcase, holds] at habove
        | cons q above =>
            have hq : high < q.1 := by simpa [hcase] using h.1
            simp [hcase, holds, show n < q.1 by omega] at habove
      · have hrest : Ranges.holds rest n = true := by
          simpa [holds, hhigh, show ¬n < low by omega] using hr
        simp [ih h.2 hrest] at habove

end Ranges

theorem ne_of_class {p : CodePoint → Bool} {c d : CodePoint} (hc : p c = true)
    (hd : p d = false) : c ≠ d := by
  rintro rfl
  simp [hd] at hc

theorem not_mem_of_class {p : CodePoint → Bool} {t : Text} {d : CodePoint}
    (ht : ∀ c ∈ t, p c = true) (hd : p d = false) : d ∉ t := by
  intro h
  exact ne_of_class (ht d h) hd rfl

theorem isDecimalDigit_eq_false_of_isLetter {c : CodePoint} (h : isLetter c = true) :
    isDecimalDigit c = false :=
  Ranges.holds_eq_false_of_apart (r := letters) (by decide +kernel) h

theorem isWord_eq_false_of_isBlank {c : CodePoint} (h : isBlank c = true) : isWord c = false := by
  have hletter : isLetter c = false :=
    Ranges.holds_eq_false_of_apart (r := blanks) (by decide +kernel) h
  have hdigit : isDecimalDigit c = false :=
    Ranges.holds_eq_false_of_apart (r := blanks) (by decide +kernel) h
  have hnumeral : isOtherNumeral c = false :=
    Ranges.holds_eq_false_of_apart (r := blanks) (by decide +kernel) h
  have hline : (c == .char '_') = false := by
    rw [beq_eq_false_iff_ne]
    rintro rfl
    revert h
    decide
  simp [isWord, hletter, hdigit, hnumeral, hline]

theorem isDecimalDigit_of_isAsciiDigit {c : CodePoint} (h : c.isAsciiDigit = true) :
    isDecimalDigit c = true := by
  simp only [CodePoint.isAsciiDigit, Bool.and_eq_true, decide_eq_true_eq] at h
  simp only [isDecimalDigit, decimalDigits, Ranges.holds]
  rw [if_neg (by omega)]
  simp [h.2]

theorem isWordStart_of_isNameStart {c : CodePoint} (h : isNameStart c = true) :
    isWordStart c = true := by
  simp only [isNameStart, Bool.or_eq_true, beq_iff_eq] at h
  rcases h with rfl | hletter
  · decide
  · simp [isWordStart, isWord, hletter, isDecimalDigit_eq_false_of_isLetter hletter]

theorem isWord_of_isWordStart {c : CodePoint} (h : isWordStart c = true) : isWord c = true := by
  simp only [isWordStart, Bool.and_eq_true] at h
  exact h.1

theorem isWordStart_eq_false_of_isAsciiDigit {c : CodePoint} (h : c.isAsciiDigit = true) :
    isWordStart c = false := by
  simp [isWordStart, isDecimalDigit_of_isAsciiDigit h]

theorem isAsciiDigit_eq_false_of_isBlank {c : CodePoint} (h : isBlank c = true) :
    c.isAsciiDigit = false := by
  rw [Bool.eq_false_iff]
  intro hdigit
  have hword := isWord_eq_false_of_isBlank h
  simp [isWord, isDecimalDigit_of_isAsciiDigit hdigit] at hword

end SlotCompiler.Text
