import Mathlib.Tactic.Ring
import TimeWindow.Number.Numeral

/-!
# Runs of digits

What a run of digits of any script stands for, and where the reader of numerals
ends one.
-/

namespace TimeWindow.Proofs.Number.Digits

open TimeWindow.Text

def AllDecimal (run : List Char) : Prop := ∀ c ∈ run, isDecimal c = true

def digitList (run : List Char) : List Nat :=
  run.map fun c => (decimalValue? c).getD 0

def EndsDigits (rest : List Char) : Prop :=
  ∀ c ∈ rest.head?, isDecimal c = false

variable {c : Char} {run rest cs : List Char}

theorem decimalValue?_eq (h : isDecimal c = true) :
    decimalValue? c = some ((decimalValue? c).getD 0) := by
  obtain ⟨d, hd⟩ := Option.isSome_iff_exists.1 h
  rw [hd]
  rfl

theorem decimalValue_le (c : Char) : (decimalValue? c).getD 0 ≤ 9 := by
  unfold decimalValue?
  split
  · split
    · rename_i hbounds
      simp only [Bool.and_eq_true, decide_eq_true_eq] at hbounds
      rw [Option.getD_some]
      omega
    · exact Nat.zero_le _
  · cases hfound : decimalZeros.find? fun base =>
      base ≤ c.toNat && c.toNat < base + 10 with
    | none => exact Nat.zero_le _
    | some base =>
      have hbounds := List.find?_some hfound
      simp only [Bool.and_eq_true, decide_eq_true_eq] at hbounds
      rw [Option.map_some, Option.getD_some]
      omega

theorem digitList_append (a b : List Char) :
    digitList (a ++ b) = digitList a ++ digitList b :=
  List.map_append

@[simp] theorem length_digitList (run : List Char) :
    (digitList run).length = run.length :=
  List.length_map _

theorem digitList_eq_nil : digitList run = [] ↔ run = [] := List.map_eq_nil_iff

theorem ofDigits_digitList (run : List Char) :
    Numeral.ofDigits (digitList run) = digitsValue run := by
  unfold Numeral.ofDigits digitList digitsValue
  rw [List.foldl_map]

theorem digit_le_of_mem_digitList : ∀ d ∈ digitList run, d ≤ 9 := by
  intro d hd
  obtain ⟨c, -, rfl⟩ := List.mem_map.1 hd
  exact decimalValue_le c

/-! ## The number of a run -/

theorem foldl_digits (n : Nat) (digits : List Nat) :
    digits.foldl (fun n d => n * 10 + d) n =
      n * 10 ^ digits.length + Numeral.ofDigits digits := by
  unfold Numeral.ofDigits
  induction digits generalizing n with
  | nil => simp
  | cons d digits ih =>
    rw [List.foldl_cons, ih, List.foldl_cons, ih (0 * 10 + d), List.length_cons]
    ring

theorem ofDigits_cons (d : Nat) (digits : List Nat) :
    Numeral.ofDigits (d :: digits) = d * 10 ^ digits.length +
      Numeral.ofDigits digits := by
  rw [Numeral.ofDigits, List.foldl_cons, foldl_digits]
  ring

theorem ofDigits_lt {digits : List Nat} (h : ∀ d ∈ digits, d ≤ 9) :
    Numeral.ofDigits digits < 10 ^ digits.length := by
  induction digits with
  | nil => decide
  | cons d digits ih =>
    obtain ⟨hd, hdigits⟩ := List.forall_mem_cons.1 h
    have hrest := ih hdigits
    have hfirst : d * 10 ^ digits.length ≤ 9 * 10 ^ digits.length :=
      Nat.mul_le_mul_right _ hd
    rw [ofDigits_cons, List.length_cons, Nat.pow_succ]
    omega

theorem ofDigits_dropWhile (digits : List Nat) :
    Numeral.ofDigits (digits.dropWhile (· = 0)) = Numeral.ofDigits digits := by
  induction digits with
  | nil => rfl
  | cons d digits ih =>
    by_cases hd : d = 0
    · rw [List.dropWhile_cons_of_pos (by simpa using hd), ih, ofDigits_cons, hd,
        Nat.zero_mul, Nat.zero_add]
    · rw [List.dropWhile_cons_of_neg (by simpa using hd)]

theorem digitsValue_lt (run : List Char) :
    digitsValue run < 10 ^ run.length := by
  rw [← ofDigits_digitList, ← length_digitList]
  exact ofDigits_lt digit_le_of_mem_digitList

/-! ## Where a run ends -/

theorem digitRun_append (hrun : AllDecimal run) (hrest : EndsDigits rest) :
    Numeral.digitRun (run ++ rest) = (digitList run, rest) := by
  induction run with
  | nil =>
    cases rest with
    | nil => rfl
    | cons c rest =>
      have hnone : decimalValue? c = none := by
        simpa [isDecimal] using hrest c rfl
      rw [List.nil_append, Numeral.digitRun, hnone]
      rfl
  | cons c run ih =>
    rw [List.cons_append, Numeral.digitRun,
      decimalValue?_eq (hrun c List.mem_cons_self)]
    dsimp only
    rw [ih fun d hd => hrun d (List.mem_cons_of_mem c hd)]
    rfl

theorem digitRun_digits (hrun : AllDecimal run) :
    Numeral.digitRun run = (digitList run, []) := by
  have hnone : EndsDigits [] := nofun
  have hread := digitRun_append hrun hnone
  rwa [List.append_nil] at hread

theorem digitRun_cases (cs : List Char) :
    ∃ run rest, cs = run ++ rest ∧ AllDecimal run ∧ EndsDigits rest ∧
      Numeral.digitRun cs = (digitList run, rest) := by
  suffices hcut : ∃ run rest, cs = run ++ rest ∧ AllDecimal run ∧
      EndsDigits rest by
    obtain ⟨run, rest, rfl, hrun, hrest⟩ := hcut
    exact ⟨run, rest, rfl, hrun, hrest, digitRun_append hrun hrest⟩
  induction cs with
  | nil => exact ⟨[], [], rfl, nofun, nofun⟩
  | cons c cs ih =>
    cases hc : isDecimal c with
    | false => exact ⟨[], c :: cs, rfl, nofun, by simpa [EndsDigits] using hc⟩
    | true =>
      obtain ⟨run, rest, rfl, hrun, hrest⟩ := ih
      exact ⟨c :: run, rest, rfl, List.forall_mem_cons.2 ⟨hc, hrun⟩, hrest⟩

end TimeWindow.Proofs.Number.Digits
