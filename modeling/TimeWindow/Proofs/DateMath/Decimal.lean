import TimeWindow.Text.Blank
import TimeWindow.Text.Digit

/-!
# Decimal forms

The digits that a number is written with are digits of date math and no white
space, and their value is the number.  A negative one has a minus as well.
-/

namespace TimeWindow.Proofs.DateMath.Decimal

open TimeWindow.Text

theorem toNat_of_isDigit {c : Char} (h : c.isDigit = true) :
    0x30 ≤ c.toNat ∧ c.toNat ≤ 0x39 := by
  simpa [Char.isDigit, UInt32.le_iff_toNat_le] using h

theorem isAsciiDigit_of_isDigit {c : Char} (h : c.isDigit = true) :
    isAsciiDigit c = true := by
  have hbounds := toNat_of_isDigit h
  simp [isAsciiDigit, asciiDigit?, hbounds]

theorem isBlank_of_isDigit {c : Char} (h : c.isDigit = true) :
    isBlank c = false := by
  obtain ⟨hlow, hhigh⟩ := toNat_of_isDigit h
  rw [Bool.eq_false_iff]
  intro hblank
  simp only [isBlank, Bool.or_eq_true, Bool.and_eq_true, decide_eq_true_eq,
    beq_iff_eq] at hblank
  omega

theorem decimalValue?_of_isDigit {c : Char} (h : c.isDigit = true) :
    decimalValue? c = some (c.toNat - 0x30) := by
  have hbounds := toNat_of_isDigit h
  have hascii : c.toNat < 0x80 := by omega
  simp [decimalValue?, hascii, hbounds]

theorem digitsValue_eq_ofDigitChars {run : List Char}
    (h : ∀ c ∈ run, c.isDigit = true) :
    digitsValue run = Nat.ofDigitChars 10 run 0 := by
  suffices hfold : ∀ n,
      run.foldl (fun n c => n * 10 + (decimalValue? c).getD 0) n =
      Nat.ofDigitChars 10 run n from hfold 0
  induction run with
  | nil => exact fun _ => rfl
  | cons c run ih =>
    intro n
    have hc := decimalValue?_of_isDigit (h c (by simp))
    rw [List.foldl_cons, hc, ih (fun d hd => h d (by simp [hd])), Nat.mul_comm n]
    rfl

theorem isDigit_toDigits {n : Nat} {c : Char} (h : c ∈ Nat.toDigits 10 n) :
    c.isDigit = true :=
  Nat.isDigit_of_mem_toDigits (by decide) (by decide) h

theorem digitsValue_toDigits (n : Nat) :
    digitsValue (Nat.toDigits 10 n) = n := by
  rw [digitsValue_eq_ofDigitChars fun _ h =>
    isDigit_toDigits h, Nat.ofDigitChars_ten_toDigits]

theorem mem_toString {n : Int} {c : Char} (h : c ∈ (toString n).toList) :
    c = '-' ∨ c.isDigit = true := by
  rw [Int.toString_eq_repr, Int.repr_eq_if] at h
  split at h
  · rw [Nat.toList_repr] at h
    exact .inr (isDigit_toDigits h)
  · rw [String.toList_append, List.mem_append, Nat.toList_repr] at h
    exact h.imp List.mem_singleton.1 isDigit_toDigits

end TimeWindow.Proofs.DateMath.Decimal
