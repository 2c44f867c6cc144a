import SlotCompiler.Text

namespace SlotCompiler.Text

open CodePoint (char)

def decimal? (t : Text) : Option Nat :=
  if t ≠ [] ∧ ∀ c ∈ t, c.isAsciiDigit = true then some t.decimalValue else none

theorem ofString_toString (n : Nat) :
    ofString (toString (n : Int)) = (Nat.toDigits 10 n).map char := by
  rw [ofString, Int.toString_eq_repr, Int.repr_eq_if, if_pos (Int.natCast_nonneg n),
    Int.toNat_natCast, Nat.toList_repr]

theorem isAsciiDigit_of_mem_toDigits {n : Nat} {c : CodePoint}
    (h : c ∈ (Nat.toDigits 10 n).map char) : c.isAsciiDigit = true := by
  obtain ⟨d, hd, rfl⟩ := List.mem_map.mp h
  have hdigit := Nat.isDigit_of_mem_toDigits (by omega) (by omega) hd
  simp only [Char.isDigit, Bool.and_eq_true, decide_eq_true_eq, UInt32.le_iff_toNat_le] at hdigit
  rw [CodePoint.isAsciiDigit, Bool.and_eq_true]
  exact ⟨decide_eq_true hdigit.1, decide_eq_true hdigit.2⟩

theorem isAsciiDigit_of_mem_ofInt {n : Int} (hn : 0 ≤ n) {c : CodePoint} (h : c ∈ ofInt n) :
    c.isAsciiDigit = true := by
  obtain ⟨k, rfl⟩ := Int.eq_ofNat_of_zero_le hn
  rw [ofInt, ofString_toString] at h
  exact isAsciiDigit_of_mem_toDigits h

theorem decimalValue_map_char (digits : List Char) :
    decimalValue (digits.map char) = Nat.ofDigitChars 10 digits 0 := by
  rw [decimalValue, List.foldl_map, Nat.ofDigitChars_eq_foldl]
  simp only [CodePoint.toNat, Nat.mul_comm]
  rfl

theorem decimal?_ofString_toString (n : Nat) :
    decimal? (ofString (toString (n : Int))) = some n := by
  rw [ofString_toString, decimal?, if_pos, decimalValue_map_char, Nat.ofDigitChars_ten_toDigits]
  refine ⟨?_, fun c hc => isAsciiDigit_of_mem_toDigits hc⟩
  simp [Nat.toDigits_ne_nil]

end SlotCompiler.Text
