import TimeWindow.Proofs.Number.Digits
import TimeWindow.Proofs.Number.Vanishing

/-!
# Written decimals

A `Decimal` is a decimal as it stands in a text: a sign, digits before and
behind a point, and an exponent, all but some digit optional.  The reader of
numerals reads exactly these (`read?_eq_some`, `read?_text_append`).
-/

namespace TimeWindow.Proofs.Number.Decimals

open TimeWindow.Text Number.Digits Number.Vanishing

/-! ## Parts -/

inductive Sign where
  | absent
  | plus
  | minus
  deriving DecidableEq

namespace Sign

def text : Sign → List Char
  | absent => []
  | plus => ['+']
  | minus => ['-']

def apply (s : Sign) (n : Int) : Int := if s = minus then -n else n

end Sign

structure Exponent where
  mark : Char
  sign : Sign
  digits : List Char
  marked : mark = 'e' ∨ mark = 'E'
  nonempty : digits ≠ []
  decimal : AllDecimal digits

namespace Exponent

def text (e : Exponent) : List Char := e.mark :: (e.sign.text ++ e.digits)

def value (e : Exponent) : Int := e.sign.apply (digitsValue e.digits)

end Exponent

structure Decimal where
  sign : Sign
  whole : List Char
  fraction : Option (List Char)
  exponent : Option Exponent
  wholeDecimal : AllDecimal whole
  fractionDecimal : AllDecimal (fraction.getD [])
  nonempty : whole ≠ [] ∨ fraction.getD [] ≠ []

def fractionText (fraction : Option (List Char)) : List Char :=
  fraction.elim [] ('.' :: ·)

def exponentText (exponent : Option Exponent) : List Char :=
  exponent.elim [] Exponent.text

def exponentValue (exponent : Option Exponent) : Int :=
  exponent.elim 0 Exponent.value

namespace Decimal

def text (d : Decimal) : List Char :=
  d.sign.text ++ (d.whole ++ (fractionText d.fraction ++ exponentText d.exponent))

/-- The integer before the point, zero if there is none. -/
def count (d : Decimal) : Int := d.sign.apply (digitsValue d.whole)

def value (d : Decimal) : Rat :=
  d.sign.apply (digitsValue (d.whole ++ d.fraction.getD [])) *
    10 ^ (exponentValue d.exponent - (d.fraction.getD []).length)

def numeral (d : Decimal) : Numeral where
  negative := decide (d.sign = .minus)
  whole := digitList d.whole
  fraction := digitList (d.fraction.getD [])
  exponent := exponentValue d.exponent

theorem value_numeral (d : Decimal) : Vanishing.value d.numeral = d.value := by
  unfold Vanishing.value value numeral Sign.apply
  dsimp only
  rw [← digitList_append, ofDigits_digitList, length_digitList]
  split
  · rename_i hminus
    rw [if_pos (by simpa using hminus)]
    push_cast
    ring
  · rename_i hminus
    rw [if_neg (by simpa using hminus)]
    push_cast
    ring

theorem isZero_numeral_iff (d : Decimal) :
    d.numeral.toDouble.isZero = true ↔ |d.value| ≤ threshold := by
  rw [← value_numeral]
  apply isZero_toDouble_iff
  rw [numeral, ← digitList_append]
  exact digit_le_of_mem_digitList

end Decimal

def marks : List Char := ['+', '-', '.', 'e', 'E']

theorem Sign.mem_text {s : Sign} {c : Char} (h : c ∈ s.text) : c ∈ marks := by
  cases s with
  | absent => cases h
  | plus | minus =>
    cases List.mem_singleton.1 h
    decide

theorem Exponent.mem_text {e : Exponent} {c : Char} (h : c ∈ e.text) :
    isDecimal c = true ∨ c ∈ marks := by
  unfold Exponent.text at h
  rw [List.mem_cons, List.mem_append] at h
  rcases h with rfl | h | h
  · rcases e.marked with hmark | hmark
    · exact .inr (hmark ▸ by decide)
    · exact .inr (hmark ▸ by decide)
  · exact .inr (Sign.mem_text h)
  · exact .inl (e.decimal c h)

theorem Decimal.mem_text {d : Decimal} {c : Char} (h : c ∈ d.text) :
    isDecimal c = true ∨ c ∈ marks := by
  unfold Decimal.text at h
  simp only [List.mem_append] at h
  rcases h with h | h | h | h
  · exact .inr (Sign.mem_text h)
  · exact .inl (d.wholeDecimal c h)
  · have hdecimal := d.fractionDecimal
    cases hfraction : d.fraction with
    | none =>
      rw [hfraction] at h
      cases h
    | some f =>
      rw [hfraction] at h hdecimal
      rcases List.mem_cons.1 h with rfl | h
      · exact .inr (by decide)
      · exact .inl (hdecimal c h)
  · cases hexponent : d.exponent with
    | none =>
      rw [hexponent] at h
      cases h
    | some e =>
      rw [hexponent] at h
      exact Exponent.mem_text h

/-! ## Reading the parts -/

variable {cs rest : List Char}

theorem isDecimal_point : isDecimal '.' = false := by decide

theorem sign_append (s : Sign) (h : ∀ c ∈ cs.head?, c ≠ '+' ∧ c ≠ '-') :
    Numeral.sign (s.text ++ cs) = (decide (s = .minus), cs) := by
  cases s with
  | plus => rfl
  | minus => rfl
  | absent =>
    cases cs with
    | nil => rfl
    | cons c cs =>
      obtain ⟨hplus, hminus⟩ := h c rfl
      change Numeral.sign (c :: cs) = (false, c :: cs)
      unfold Numeral.sign
      split
      · rename_i heq
        cases heq
        exact absurd rfl hminus
      · rename_i heq
        cases heq
        exact absurd rfl hplus
      · rfl

theorem sign_cases (cs : List Char) :
    ∃ (s : Sign) (rest : List Char), cs = s.text ++ rest ∧
      Numeral.sign cs = (decide (s = .minus), rest) := by
  unfold Numeral.sign
  split
  · rename_i rest
    exact ⟨.minus, rest, rfl, rfl⟩
  · rename_i rest
    exact ⟨.plus, rest, rfl, rfl⟩
  · exact ⟨.absent, cs, rfl, rfl⟩

/-- The digits behind the point that a text begins with, if it does. -/
def fractionPart (cs : List Char) : List Nat × List Char :=
  match cs with
  | '.' :: after => Numeral.digitRun after
  | _ => ([], cs)

theorem fractionPart_append {fraction : Option (List Char)}
    (hfraction : AllDecimal (fraction.getD [])) (hrest : EndsDigits rest)
    (hpoint : rest.head? ≠ some '.') :
    fractionPart (fractionText fraction ++ rest) =
      (digitList (fraction.getD []), rest) := by
  cases fraction with
  | some f => exact digitRun_append hfraction hrest
  | none =>
    unfold fractionPart fractionText
    split
    · rename_i heq
      rw [show rest = _ from heq] at hpoint
      exact absurd rfl hpoint
    · rfl

theorem fractionPart_cases (cs : List Char) :
    ∃ fraction rest, cs = fractionText fraction ++ rest ∧
    AllDecimal (fraction.getD []) ∧
    fractionPart cs = (digitList (fraction.getD []), rest) := by
  unfold fractionPart
  split
  · rename_i after
    obtain ⟨run, rest, rfl, hrun, -, hread⟩ := digitRun_cases after
    exact ⟨some run, rest, rfl, hrun, hread⟩
  · exact ⟨none, cs, rfl, nofun, rfl⟩

theorem head?_digits {run : List Char} (hrun : AllDecimal run)
    (hne : run ≠ []) (rest : List Char) :
    ∀ c ∈ (run ++ rest).head?, isDecimal c = true := by
  cases run with
  | nil => exact absurd rfl hne
  | cons c run => simpa using hrun c List.mem_cons_self

theorem not_sign_of_isDecimal {c : Char} (h : isDecimal c = true) :
    c ≠ '+' ∧ c ≠ '-' := by
  refine ⟨?_, ?_⟩
  · rintro rfl
    exact absurd h (by decide)
  · rintro rfl
    exact absurd h (by decide)

theorem apply_ofDigits (s : Sign) (run : List Char) :
    (if decide (s = .minus) then -(Numeral.ofDigits (digitList run) : Int)
      else Numeral.ofDigits (digitList run)) =
      s.apply (digitsValue run) := by
  rw [ofDigits_digitList]
  simp [Sign.apply]

theorem exponentPart_mark {mark : Char} (hmark : mark = 'e' ∨ mark = 'E')
    {s : Sign} {run : List Char}
    (hsign : Numeral.sign cs = (decide (s = .minus), run ++ rest))
    (hrun : AllDecimal run) (hrest : EndsDigits rest) :
    Numeral.exponentPart (mark :: cs) = if run = [] then (0, mark :: cs)
      else (s.apply (digitsValue run), rest) := by
  unfold Numeral.exponentPart
  dsimp only
  rw [if_pos (by simpa using hmark), hsign]
  dsimp only
  rw [digitRun_append hrun hrest, ← apply_ofDigits]
  cases run <;> rfl

theorem exponentPart_unmarked (h : cs.head? ≠ some 'e' ∧ cs.head? ≠ some 'E') :
    Numeral.exponentPart cs = (0, cs) := by
  cases cs with
  | nil => rfl
  | cons c cs =>
    have hc : ¬ (c = 'e' ∨ c = 'E') := by simpa using h
    simp [Numeral.exponentPart, hc]

theorem exponentPart_append {exponent : Option Exponent}
    (hrest : EndsDigits rest)
    (hmark : rest.head? ≠ some 'e' ∧ rest.head? ≠ some 'E') :
    Numeral.exponentPart (exponentText exponent ++ rest) =
      (exponentValue exponent, rest) := by
  cases exponent with
  | none => exact exponentPart_unmarked hmark
  | some e =>
    have hsign :
        Numeral.sign (e.sign.text ++ (e.digits ++ rest)) =
          (decide (e.sign = .minus), e.digits ++ rest) :=
      sign_append e.sign fun c hc =>
        not_sign_of_isDecimal (head?_digits e.decimal e.nonempty rest c hc)
    have htext :
        exponentText (some e) ++ rest =
          e.mark :: (e.sign.text ++ (e.digits ++ rest)) := by
      simp [exponentText, Exponent.text]
    rw [htext, exponentPart_mark e.marked hsign e.decimal hrest, if_neg e.nonempty]
    rfl

theorem exponentPart_cases (cs : List Char) :
    ∃ exponent rest, cs = exponentText exponent ++ rest ∧
    Numeral.exponentPart cs = (exponentValue exponent, rest) := by
  by_cases hmark : cs.head? ≠ some 'e' ∧ cs.head? ≠ some 'E'
  · exact ⟨none, cs, rfl, exponentPart_unmarked hmark⟩
  · obtain ⟨mark, hmarked, behind, rfl⟩ : ∃ mark, (mark = 'e' ∨ mark = 'E') ∧
        ∃ behind, cs = mark :: behind := by
      cases cs with
      | nil => exact absurd (by simp) hmark
      | cons c behind =>
        exact ⟨c, by simpa [or_iff_not_imp_left] using hmark, behind, rfl⟩
    obtain ⟨s, unsigned, rfl, hsign⟩ := sign_cases behind
    obtain ⟨run, rest, rfl, hrun, hrest, -⟩ := digitRun_cases unsigned
    have hread := exponentPart_mark hmarked hsign hrun hrest
    by_cases hne : run = []
    · rw [if_pos hne] at hread
      exact ⟨none, _, rfl, hread⟩
    · rw [if_neg hne] at hread
      exact ⟨some ⟨mark, s, run, hmarked, hne, hrun⟩,
        rest, by simp [exponentText, Exponent.text], hread⟩

/-! ## Reading decimals -/

theorem read?_eq (cs : List Char) : Numeral.read? cs =
    if (Numeral.digitRun (Numeral.sign cs).2).1 = [] &&
        (fractionPart (Numeral.digitRun (Numeral.sign cs).2).2).1 = [] then none
    else some
      ({ negative := (Numeral.sign cs).1, whole := (Numeral.digitRun
        (Numeral.sign cs).2).1, fraction := (fractionPart (Numeral.digitRun
        (Numeral.sign cs).2).2).1, exponent := (Numeral.exponentPart
        (fractionPart (Numeral.digitRun (Numeral.sign cs).2).2).2).1 },
        (Numeral.exponentPart
        (fractionPart (Numeral.digitRun (Numeral.sign cs).2).2).2).2) :=
  rfl

theorem head?_exponentText (exponent : Option Exponent) (rest : List Char)
    {P : Char → Prop} (he : P 'e') (hE : P 'E')
    (hrest : ∀ c ∈ rest.head?, P c) :
    ∀ c ∈ (exponentText exponent ++ rest).head?, P c := by
  cases exponent with
  | none => exact hrest
  | some e =>
    rintro c ⟨⟩
    rcases e.marked with hmark | hmark
    · exact hmark ▸ he
    · exact hmark ▸ hE

theorem head?_fractionText (fraction : Option (List Char)) (cs : List Char)
    {P : Char → Prop} (hpoint : P '.') (hcs : ∀ c ∈ cs.head?, P c) :
    ∀ c ∈ (fractionText fraction ++ cs).head?, P c := by
  cases fraction with
  | none => exact hcs
  | some f =>
    rintro c ⟨⟩
    exact hpoint

theorem head?_unsigned (d : Decimal) (cs : List Char) :
    ∀ c ∈ (d.whole ++ (fractionText d.fraction ++ cs)).head?,
      isDecimal c = true ∨ c = '.' := by
  by_cases hwhole : d.whole = []
  · obtain ⟨f, hf⟩ : ∃ f, d.fraction = some f := by
      have hne := d.nonempty.resolve_left (not_not.2 hwhole)
      cases hfraction : d.fraction with
      | none => exact absurd (by rw [hfraction]; rfl) hne
      | some f => exact ⟨f, rfl⟩
    rw [hwhole, hf]
    rintro c ⟨⟩
    exact .inr rfl
  · exact fun c hc => .inl (head?_digits d.wholeDecimal hwhole _ c hc)

theorem read?_text_append (d : Decimal)
    (hrest : ∀ c ∈ rest.head?, isDecimal c = false ∧ c ≠ '.' ∧ c ≠ 'e' ∧ c ≠ 'E') :
    Numeral.read? (d.text ++ rest) = some (d.numeral, rest) := by
  have htext : d.text ++ rest =
      d.sign.text ++ (d.whole ++
        (fractionText d.fraction ++ (exponentText d.exponent ++ rest))) := by
    simp [Decimal.text]
  have hdigits : EndsDigits rest := fun c hc => (hrest c hc).1
  have hbehind :
      ∀ c ∈ (exponentText d.exponent ++ rest).head?, isDecimal c = false ∧
        c ≠ '.' :=
    head?_exponentText _ _ (by decide) (by decide) fun c hc =>
      ⟨(hrest c hc).1, (hrest c hc).2.1⟩
  have hpoint : (exponentText d.exponent ++ rest).head? ≠ some '.' :=
    fun h => (hbehind '.' h).2 rfl
  have hmark : rest.head? ≠ some 'e' ∧ rest.head? ≠ some 'E' :=
    ⟨fun h => (hrest 'e' h).2.2.1 rfl, fun h => (hrest 'E' h).2.2.2 rfl⟩
  have hunsigned :
      ∀ c ∈ (d.whole ++
        (fractionText d.fraction ++ (exponentText d.exponent ++ rest))).head?,
      c ≠ '+' ∧ c ≠ '-' := by
    intro c hc
    rcases head?_unsigned d _ c hc with hdigit | rfl
    · exact not_sign_of_isDecimal hdigit
    · decide
  have hfraction := head?_fractionText d.fraction _ isDecimal_point fun c hc =>
    (hbehind c hc).1
  rw [htext, read?_eq, sign_append d.sign hunsigned]
  dsimp only
  rw [digitRun_append d.wholeDecimal hfraction]
  dsimp only
  rw [fractionPart_append d.fractionDecimal (fun c hc => (hbehind c hc).1) hpoint]
  dsimp only
  rw [exponentPart_append hdigits hmark, if_neg]
  · rfl
  · simpa [digitList_eq_nil, or_iff_not_imp_left] using d.nonempty

theorem read?_eq_some {n : Numeral} (h : Numeral.read? cs = some (n, rest)) :
    ∃ d : Decimal, n = d.numeral ∧ cs = d.text ++ rest := by
  obtain ⟨s, unsigned, rfl, hsign⟩ := sign_cases cs
  obtain ⟨whole, behindWhole, rfl, hwhole, -, hread⟩ := digitRun_cases unsigned
  obtain ⟨fraction, behindFraction, rfl, hfraction, hfractionPart⟩ :=
    fractionPart_cases behindWhole
  obtain ⟨exponent, behind, rfl, hexponent⟩ := exponentPart_cases behindFraction
  rw [read?_eq, hsign] at h
  dsimp only at h
  rw [hread] at h
  dsimp only at h
  rw [hfractionPart] at h
  dsimp only at h
  rw [hexponent] at h
  split at h
  · cases h
  · rename_i hsome
    cases h
    refine ⟨⟨s, whole, fraction, exponent, hwhole, hfraction, ?_⟩,
      rfl, by simp [Decimal.text]⟩
    simpa [digitList_eq_nil, or_iff_not_imp_left] using hsome

end TimeWindow.Proofs.Number.Decimals
