import Mathlib.Algebra.Field.Rat
import TimeWindow.Calendar.Timestamp
import TimeWindow.Reading.FreeForm
import TimeWindow.Proofs.DateMath.Decimal
import TimeWindow.Proofs.Number.Digits
import TimeWindow.Proofs.Trimming

/-!
# Digits as tokens

A run of the digits 0 to 9 that a field reads with a fixed width is a token of a
free-form date, if no digit, point or comma follows it, and has the same value
as such a token (`scans_digits`, `numeral?_digits`, `integer?_digits`).
-/

namespace TimeWindow.Proofs.Reading.Tokens

open TimeWindow.Text FreeForm DateMath.Decimal Number.Digits Trimming

/-! ## Digits -/

structure Digits (n : Nat) (v : Int) (ds : List Char) : Prop where
  length : ds.length = n
  ascii : ∀ c ∈ ds, isAsciiDigit c = true
  value : v = digitsValue ds

theorem toNat_of_isAsciiDigit {c : Char} (h : isAsciiDigit c = true) :
    0x30 ≤ c.toNat ∧ c.toNat ≤ 0x39 := by
  unfold isAsciiDigit asciiDigit? at h
  split at h
  · rename_i hbounds
    simpa using hbounds
  · cases h

theorem isDigit_of_isAsciiDigit {c : Char} (h : isAsciiDigit c = true) :
    c.isDigit = true := by
  have hbounds := toNat_of_isAsciiDigit h
  simpa [Char.isDigit, UInt32.le_iff_toNat_le] using hbounds

theorem isLetter_of_isAsciiDigit {c : Char} (h : isAsciiDigit c = true) :
    isLetter c = false := by
  obtain ⟨hlow, hhigh⟩ := toNat_of_isAsciiDigit h
  have hbelow : ∀ a : Char, 0x39 < a.toNat → ¬ a.val ≤ c.val := by
    intro a ha hle
    have hcode : a.toNat ≤ c.toNat := UInt32.le_iff_toNat_le.1 hle
    omega
  have hupper : c.isUpper = false :=
    decide_eq_false fun hbetween => hbelow 'A' (by decide) hbetween.1
  have hlower : c.isLower = false :=
    Bool.and_eq_false_iff.2 (.inl (decide_eq_false (hbelow 'a' (by decide))))
  have halpha : c.isAlpha = false := Bool.or_eq_false_iff.2 ⟨hupper, hlower⟩
  have hascii : ¬ 0x80 ≤ c.toNat := by omega
  simp [isLetter, halpha, hascii]

theorem ne_mark_of_isAsciiDigit {c : Char} (h : isAsciiDigit c = true) :
    c ≠ '.' ∧ c ≠ ',' := by
  constructor <;> (rintro rfl; cases h)

theorem isDigitLike_of_isAsciiDigit {c : Char} (h : isAsciiDigit c = true) :
    isDigitLike c = true := by
  unfold isDigitLike isDecimal
  rw [decimalValue?_of_isDigit (isDigit_of_isAsciiDigit h)]
  rfl

theorem isBlank_of_isAsciiDigit {c : Char} (h : isAsciiDigit c = true) :
    isBlank c = false :=
  isBlank_of_isDigit (isDigit_of_isAsciiDigit h)

theorem digits?_eq_some {n : Nat} {cs rest : List Char} {v : Int}
    (h : Timestamp.digits? n cs = some (v, rest)) :
    ∃ ds, cs = ds ++ rest ∧ Digits n v ds := by
  unfold Timestamp.digits? at h
  dsimp only at h
  rw [Option.ite_none_right_eq_some, Option.some_inj, Bool.and_eq_true,
    decide_eq_true_eq, List.all_eq_true] at h
  obtain ⟨⟨hlength, hascii⟩, heq⟩ := h
  cases heq
  exact ⟨cs.take n, (List.take_append_drop n cs).symm, hlength, hascii, rfl⟩

/-! ## Runs of digits -/

def Ends (rest : List Char) : Prop :=
  ∀ c ∈ rest.head?, isDigitLike c = false ∧ c ≠ '.' ∧ c ≠ ','

theorem ends_nil : Ends [] := nofun

theorem ends_cons {c : Char} (rest : List Char)
    (hdigit : isDigitLike c = false) (hpoint : c ≠ '.') (hcomma : c ≠ ',') :
    Ends (c :: rest) := by
  rintro d ⟨⟩
  exact ⟨hdigit, hpoint, hcomma⟩

theorem grow_stops {r : Run} {rest : List Char} (hletters : r.letters = false)
    (hword : r.shape.isWord = false)
    (h : ∀ c ∈ rest.head?, r.shape.extend? r.reversed c = none) :
    r.grow rest = (r, rest) := by
  cases rest with
  | nil => rfl
  | cons c rest =>
    obtain ⟨shape, letters, reversed⟩ := r
    cases hletters
    dsimp only at hword
    simp only [Run.grow, h c rfl, hword]
    rfl

theorem grow_digits {shape : Shape}
    (hshape : shape = .number ∨ shape = .dottedNumber) {ds rest : List Char}
    (hds : ∀ c ∈ ds, isAsciiDigit c = true) (run : List Char) :
    Run.grow ⟨shape, false, run⟩ (ds ++ rest) =
      Run.grow ⟨shape, false, ds.reverse ++ run⟩ rest := by
  have hword : shape.isWord = false := by rcases hshape with rfl | rfl <;> rfl
  induction ds generalizing run with
  | nil => rfl
  | cons c ds ih =>
    have hc := isDigitLike_of_isAsciiDigit (hds c List.mem_cons_self)
    have hextend : shape.extend? run c = some shape := by
      rcases hshape with rfl | rfl <;> simp [Shape.extend?, hc]
    rw [List.cons_append, Run.grow]
    simp only [hextend, hword, Bool.or_self]
    rw [ih fun d hd => hds d (List.mem_cons_of_mem c hd)]
    simp

theorem extend?_number_ends {rest : List Char} (h : Ends rest)
    (run : List Char) :
    ∀ c ∈ rest.head?, Shape.extend? .number run c = none := by
  intro c hc
  obtain ⟨hdigit, hpoint, hcomma⟩ := h c hc
  simp [Shape.extend?, hdigit, hpoint, hcomma]

theorem extend?_dotted_ends {rest run : List Char} (h : Ends rest)
    (hrun : run.head? ≠ some '.') :
    ∀ c ∈ rest.head?, Shape.extend? .dottedNumber run c = none := by
  intro c hc
  obtain ⟨hdigit, hpoint, -⟩ := h c hc
  simp [Shape.extend?, hdigit, hpoint, hrun]

/-! ## Scanning -/

def Scans (cs : List Char) (ts : List (List Char)) : Prop :=
  ∀ fuel, cs.length ≤ fuel → tokensFrom fuel cs = ts

theorem scans_nil : Scans [] [] := by
  intro fuel _
  cases fuel <;> rfl

theorem scans_cons {c : Char} {cs : List Char} {ts : List (List Char)}
    (h : ∀ fuel, cs.length ≤ fuel → tokensFrom (fuel + 1) (c :: cs) = ts) :
    Scans (c :: cs) ts := by
  intro fuel hfuel
  cases fuel with
  | zero => cases hfuel
  | succ fuel => exact h fuel (Nat.le_of_succ_le_succ hfuel)

theorem scans_mark {c : Char} {cs : List Char} {ts : List (List Char)}
    (hletter : isLetter c = false) (hdigit : isDigitLike c = false)
    (h : Scans cs ts) :
    Scans (c :: cs) ([if isBlank c then ' ' else c] :: ts) := by
  refine scans_cons fun fuel hfuel => ?_
  rw [tokensFrom]
  simp only [hletter, hdigit, Bool.false_eq_true, if_false]
  rw [h fuel hfuel]

theorem scans_run {c : Char} {cs rest : List Char} {ts : List (List Char)}
    {r : Run} (hdigit : isAsciiDigit c = true)
    (hgrow : Run.grow ⟨.number, false, [c]⟩ cs = (r, rest))
    (hlength : rest.length ≤ cs.length) (h : Scans rest ts) :
    Scans (c :: cs) (r.tokens ++ ts) := by
  refine scans_cons fun fuel hfuel => ?_
  rw [tokensFrom]
  simp only [isLetter_of_isAsciiDigit hdigit, isDigitLike_of_isAsciiDigit hdigit,
    Bool.false_eq_true, if_false, if_true, hgrow]
  rw [h fuel (Nat.le_trans hlength hfuel)]

theorem scans_letter {c : Char} {cs : List Char} {ts : List (List Char)}
    (hletter : isLetter c = true)
    (hcs : ∀ d ∈ cs.head?, isAsciiDigit d = true) (h : Scans cs ts) :
    Scans (c :: cs) ([c] :: ts) := by
  have hgrow :
      ∃ letters, Run.grow ⟨.word, false, [c]⟩ cs =
        (⟨.word, letters, [c]⟩, cs) := by
    cases cs with
    | nil => exact ⟨_, rfl⟩
    | cons d cs =>
      have hd := hcs d rfl
      have hpoint : d ≠ '.' := fun hd' => by subst hd'; cases hd
      have hextend : Shape.extend? .word [c] d = none := by
        simp [Shape.extend?, isLetter_of_isAsciiDigit hd, hpoint]
      refine ⟨true, ?_⟩
      simp only [Run.grow, hextend]
      rfl
  obtain ⟨letters, hgrow⟩ := hgrow
  refine scans_cons fun fuel hfuel => ?_
  rw [tokensFrom]
  simp only [hletter, if_true, hgrow]
  rw [h fuel hfuel]
  rfl

section

variable {n : Nat} {v : Int} {ds rest : List Char} {ts : List (List Char)}

theorem scans_digits (hds : Digits (n + 1) v ds) (hrest : Ends rest)
    (h : Scans rest ts) :
    Scans (ds ++ rest) (ds :: ts) := by
  obtain ⟨hlength, hascii, -⟩ := hds
  cases ds with
  | nil => cases hlength
  | cons c ds =>
    have hgrow :
        Run.grow ⟨.number, false, [c]⟩ (ds ++ rest) =
          (⟨.number, false, ds.reverse ++ [c]⟩, rest) := by
      rw [grow_digits (.inl rfl) fun d hd => hascii d (List.mem_cons_of_mem c hd)]
      exact grow_stops rfl rfl (extend?_number_ends hrest _)
    have hscans := scans_run (hascii c List.mem_cons_self) hgrow (by simp) h
    simpa [Run.tokens, Run.isLoose] using hscans

theorem head?_reverse_digits {fraction : List Char} (hne : fraction ≠ [])
    (hfraction : ∀ c ∈ fraction, isAsciiDigit c = true) (cs : List Char) :
    ∃ last, (fraction.reverse ++ cs).head? = some last ∧
      isAsciiDigit last = true := by
  obtain ⟨last, front, hlast⟩ :=
    List.exists_cons_of_ne_nil (List.reverse_ne_nil_iff.2 hne)
  refine ⟨last, ?_,
    hfraction last (List.mem_reverse.1 (hlast ▸ List.mem_cons_self))⟩
  rw [hlast]
  rfl

theorem tokens_pointed {mark : Char} (hmark : mark = '.' ∨ mark = ',')
    {run fraction : List Char} (hrun : ∀ c ∈ run, isAsciiDigit c = true)
    (hne : fraction ≠ []) (hfraction : ∀ c ∈ fraction, isAsciiDigit c = true) :
    Run.tokens ⟨.dottedNumber, false, fraction.reverse ++ mark :: run⟩ =
      [run.reverse ++ '.' :: fraction] := by
  have hnotIn :
      ∀ cs : List Char, (∀ c ∈ cs, isAsciiDigit c = true) → '.' ∉ cs :=
    fun cs hcs hmem => (ne_mark_of_isAsciiDigit (hcs _ hmem)).1 rfl
  have hpoints : (fraction.reverse ++ mark :: run).count '.' ≤ 1 := by
    rw [List.count_append, List.count_cons, List.count_reverse,
      List.count_eq_zero.2 (hnotIn _ hfraction),
      List.count_eq_zero.2 (hnotIn _ hrun)]
    split <;> omega
  have htight :
      Run.isLoose ⟨.dottedNumber, false, fraction.reverse ++ mark :: run⟩ =
        false := by
    obtain ⟨last, hlast, hdigit⟩ :=
      head?_reverse_digits hne hfraction (mark :: run)
    have hpoints : ¬ 1 < (fraction.reverse ++ mark :: run).count '.' := by omega
    unfold Run.isLoose
    simp only [hlast, hpoints, Option.some_inj, ne_mark_of_isAsciiDigit hdigit,
      decide_false, Bool.or_self, Bool.and_false]
  have hreverse : (fraction.reverse ++ mark :: run).reverse =
      run.reverse ++ mark :: fraction := by simp
  have hkept : ∀ cs : List Char, (∀ c ∈ cs, isAsciiDigit c = true) →
      cs.map (fun c => if c = ',' then '.' else c) = cs := by
    intro cs hcs
    refine (List.map_congr_left fun c hc => ?_).trans (List.map_id cs)
    rw [if_neg (ne_mark_of_isAsciiDigit (hcs c hc)).2]
    rfl
  unfold Run.tokens
  dsimp only
  rw [htight, hreverse]
  rcases hmark with rfl | rfl
  · simp
  · have hrun' : ∀ c ∈ run.reverse, isAsciiDigit c = true :=
      fun c hc => hrun c (List.mem_reverse.1 hc)
    simp [hnotIn _ hrun, hnotIn _ hfraction, hkept _ hrun', hkept _ hfraction]

theorem scans_pointed {mark : Char} (hmark : mark = '.' ∨ mark = ',')
    (hds : Digits 2 v ds) {fraction : List Char} (hne : fraction ≠ [])
    (hfraction : ∀ c ∈ fraction, isAsciiDigit c = true) (hrest : Ends rest)
    (h : Scans rest ts) :
    Scans (ds ++ mark :: (fraction ++ rest)) ((ds ++ '.' :: fraction) :: ts) := by
  obtain ⟨hlength, hascii, -⟩ := hds
  match ds, hlength with
  | [a, b], _ =>
    have ha := hascii a List.mem_cons_self
    have hb := isDigitLike_of_isAsciiDigit (hascii b (by simp))
    have hstep :
        Run.grow ⟨.number, false, [a]⟩ (b :: mark :: (fraction ++ rest)) =
        Run.grow ⟨.dottedNumber, false, [mark, b, a]⟩ (fraction ++ rest) := by
      rcases hmark with rfl | rfl
      · simp [Run.grow, Shape.extend?, hb, Shape.isWord,
          (by decide : isDigitLike '.' = false)]
      · simp [Run.grow, Shape.extend?, hb, Shape.isWord,
          (by decide : isDigitLike ',' = false)]
    obtain ⟨last, hlast, hdigit⟩ :=
      head?_reverse_digits hne hfraction [mark, b, a]
    have hgrow :
        Run.grow ⟨.number, false, [a]⟩ (b :: mark :: (fraction ++ rest)) =
        (⟨.dottedNumber, false, fraction.reverse ++ [mark, b, a]⟩, rest) := by
      rw [hstep, grow_digits (.inr rfl) hfraction]
      exact grow_stops rfl rfl (extend?_dotted_ends hrest
        (by simp [hlast, ne_mark_of_isAsciiDigit hdigit]))
    have hscans := scans_run ha hgrow (by simp; omega) h
    rw [tokens_pointed hmark (by simpa [and_comm] using hascii) hne
      hfraction] at hscans
    exact hscans

end

/-! ## Values -/

theorem decimalValue?_of_isAsciiDigit {c : Char} (h : isAsciiDigit c = true) :
    decimalValue? c = some ((decimalValue? c).getD 0) := by
  rw [decimalValue?_of_isDigit (isDigit_of_isAsciiDigit h)]
  rfl

theorem allDecimal_of_ascii {ds : List Char}
    (h : ∀ c ∈ ds, isAsciiDigit c = true) : AllDecimal ds := by
  intro c hc
  unfold isDecimal
  rw [decimalValue?_of_isAsciiDigit (h c hc)]
  rfl

theorem sign_of_isAsciiDigit {c : Char} (h : isAsciiDigit c = true)
    (cs : List Char) :
    Numeral.sign (c :: cs) = (false, c :: cs) := by
  unfold Numeral.sign
  split
  · rename_i heq
    cases heq
    cases h
  · rename_i heq
    cases heq
    cases h
  · rfl

theorem sign_digits {ds : List Char} (h : ∀ c ∈ ds, isAsciiDigit c = true) :
    Numeral.sign ds = (false, ds) := by
  cases ds with
  | nil => rfl
  | cons c ds => exact sign_of_isAsciiDigit (h c List.mem_cons_self) ds

theorem groupedDigits?_digits {c : Char} {ds : List Char}
    (h : ∀ d ∈ c :: ds, isAsciiDigit d = true) :
    Numeral.groupedDigits? (c :: ds) = some (digitList (c :: ds)) := by
  induction ds generalizing c with
  | nil =>
    have hc := decimalValue?_of_isAsciiDigit (h c List.mem_cons_self)
    rw [Numeral.groupedDigits?, hc]
    rfl
  | cons d ds ih =>
    have hc := decimalValue?_of_isAsciiDigit (h c List.mem_cons_self)
    have hd : d ≠ '_' := by
      rintro rfl
      cases h '_' (by simp)
    rw [Numeral.groupedDigits?]
    · rw [hc, ih fun e he => h e (List.mem_cons_of_mem c he)]
      rfl
    · exact nofun
    · rintro _ ⟨⟩
      exact hd rfl

section

variable {n : Nat} {v : Int} {ds : List Char} (h : Digits (n + 1) v ds)

include h

theorem numeral?_digits :
    ∃ numeral, numeral? (String.ofList ds) = some numeral ∧
      valueOf numeral = v := by
  obtain ⟨hlength, hascii, rfl⟩ := h
  have hne : digitList ds ≠ [] := by
    rw [Ne, digitList_eq_nil]
    rintro rfl
    cases hlength
  refine ⟨⟨false, digitList ds, [], 0⟩, ?_, ?_⟩
  · unfold numeral? Numeral.read?
    rw [String.toList_ofList, sign_digits hascii]
    dsimp only
    rw [digitRun_digits (allDecimal_of_ascii hascii)]
    simp [hne, Numeral.exponentPart]
  · simp [valueOf, ofDigits_digitList]

theorem digits_bounds : 0 ≤ v ∧ v < 10 ^ (n + 1) := by
  obtain ⟨hlength, hascii, rfl⟩ := h
  have hlt := digitsValue_lt ds
  rw [hlength] at hlt
  exact ⟨Int.natCast_nonneg _, by exact_mod_cast hlt⟩

theorem integer?_digits (hn : n < 4300) : Numeral.integer? ds = some v := by
  obtain ⟨hlength, hascii, rfl⟩ := h
  cases ds with
  | nil => cases hlength
  | cons c ds =>
    have hblank : ∀ d ∈ c :: ds, isUnicodeBlank d = false := by
      intro d hd
      simp [isUnicodeBlank, isBlank_of_isAsciiDigit (hascii d hd)]
    have htrim : trimBy isUnicodeBlank (c :: ds) = c :: ds :=
      trimBy_of_ends (fun d hd => hblank d (List.mem_of_mem_head? hd)) fun d hd =>
        hblank d (List.mem_of_getLast? hd)
    have hshort : ¬ Numeral.maxDigits < (digitList (c :: ds)).length := by
      unfold Numeral.maxDigits
      rw [length_digitList, hlength]
      omega
    unfold Numeral.integer?
    rw [htrim, sign_digits hascii]
    dsimp only
    rw [groupedDigits?_digits hascii]
    change (if Numeral.maxDigits < (digitList (c :: ds)).length then none
      else some _) = _
    rw [if_neg hshort, ofDigits_digitList]
    rfl

theorem isDigits_digits : isDigits (String.ofList ds) = true := by
  obtain ⟨hlength, hascii, -⟩ := h
  have hne : String.ofList ds ≠ "" := by
    intro hempty
    have := congrArg String.toList hempty
    rw [String.toList_ofList] at this
    subst this
    cases hlength
  unfold isDigits
  rw [String.toList_ofList]
  simp only [hne, ne_eq, not_false_eq_true, decide_true, Bool.true_and,
    List.all_eq_true]
  exact fun c hc => isDigitLike_of_isAsciiDigit (hascii c hc)

theorem not_contains_digits {words : List String}
    (hwords : words.all fun w => !(w.toList.any isAsciiDigit)) :
    words.contains (lower (String.ofList ds)) = false := by
  obtain ⟨hlength, hascii, -⟩ := h
  cases ds with
  | nil => cases hlength
  | cons c ds =>
    have hc := hascii c List.mem_cons_self
    have hlower : lowerChar c = c := by
      obtain ⟨hlow, hhigh⟩ := toNat_of_isAsciiDigit hc
      have hkelvin : c ≠ '\u212A' := by
        rintro rfl
        cases hc
      unfold lowerChar Char.toLower
      rw [if_neg hkelvin, dif_neg ?_]
      simp [UInt32.le_iff_toNat_le]
      omega
    rw [Bool.eq_false_iff]
    intro hmem
    rw [List.all_eq_true] at hwords
    have := hwords _ (List.contains_iff_mem.1 hmem)
    simp [lower, hlower, hc] at this

theorem placeOf?_digits {table : List (List String)}
    (htable : table.all fun words => words.all fun w =>
      !(w.toList.any isAsciiDigit)) :
    placeOf? table (String.ofList ds) = none := by
  unfold placeOf?
  rw [List.findIdx?_eq_none_iff]
  intro words hwords
  exact not_contains_digits h (List.all_eq_true.1 htable words hwords)

end

end TimeWindow.Proofs.Reading.Tokens
