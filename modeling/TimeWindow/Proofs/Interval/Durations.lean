import Mathlib.Tactic.IntervalCases
import TimeWindow.Proofs.Interval.Places
import TimeWindow.Proofs.Number.Decimals

/-!
# Durations and what is promised of them

A text holds a duration as a bare number of seconds or as a number with a unit.
`Promised` says which, by the characters of the text; the reader keeps to it but
for bare numbers with an information separator around them
(`reads_as_promised`).
-/

namespace TimeWindow.Proofs.Interval.Durations

open TimeWindow.Text Duration Interval.Places Number.Decimals Number.Digits
  Number.Vanishing Occurrences

/-! ## Bare numbers -/

structure IsBare (cs front : List Char) (d : Decimal) (back : List Char) :
    Prop where
  cut : cs = front ++ (d.text ++ back)
  front : ∀ c ∈ front, isBlank c = true
  back : ∀ c ∈ back, isBlank c = true

/-- There is an information separator in the white space around the number. -/
def Separated (cs : List Char) : Prop :=
  ∃ front d back, IsBare cs front d back ∧ ∃ c ∈ front ++ back,
    isInformationSeparator c = true

theorem isDecimal_of_isBlank {c : Char} (h : isBlank c = true) :
    isDecimal c = false := by
  unfold isBlank at h
  unfold isDecimal decimalValue?
  generalize c.toNat = n at h ⊢
  simp only [Bool.or_eq_true, Bool.and_eq_true, decide_eq_true_eq, beq_iff_eq] at h
  rw [Option.isSome_eq_false_iff]
  by_cases hsmall : n < 0x80
  · have hdigit : ¬ (0x30 ≤ n ∧ n ≤ 0x39) := by omega
    simp [hsmall, hdigit]
  · have hlarge : n = 0x85 ∨ n = 0xA0 ∨ n = 0x1680 ∨ (0x2000 ≤ n ∧ n ≤ 0x200A) ∨
        n = 0x2028 ∨ n = 0x2029 ∨ n = 0x202F ∨
        n = 0x205F ∨ n = 0x3000 := by omega
    rcases hlarge with rfl | rfl | rfl | ⟨hlow,
      hhigh⟩ | rfl | rfl | rfl | rfl | rfl
    all_goals try decide
    interval_cases n <;> decide

theorem not_mem_marks_of_isBlank {c : Char} (h : isBlank c = true) :
    c ∉ marks := by
  intro hmark
  simp only [marks, List.mem_cons, List.not_mem_nil, or_false] at hmark
  rcases hmark with rfl | rfl | rfl | rfl | rfl <;> exact absurd h (by decide)

theorem isBlank_of_isDecimal {c : Char} (h : isDecimal c = true) :
    isBlank c = false := by
  rw [Bool.eq_false_iff]
  intro hblank
  rw [isDecimal_of_isBlank hblank] at h
  cases h

theorem isBlank_of_mem_text {d : Decimal} {c : Char} (h : c ∈ d.text) :
    isBlank c = false := by
  rcases Decimal.mem_text h with hdecimal | hmark
  · exact isBlank_of_isDecimal hdecimal
  · rw [Bool.eq_false_iff]
    exact fun hblank => not_mem_marks_of_isBlank hblank hmark

theorem text_ne_nil (d : Decimal) : d.text ≠ [] := by
  intro h
  have hread : Numeral.read? (d.text ++ []) = some (d.numeral, []) :=
    read?_text_append d nofun
  rw [h] at hread
  cases hread

variable {cs front back : List Char} {d : Decimal}

theorem bareNumber?_of_isBare (h : IsBare cs front d back) :
    bareNumber? cs = some (d.numeral, (front ++ back).all fun c =>
      !isInformationSeparator c) := by
  obtain ⟨rfl, hfront, hback⟩ := h
  have htake : (front ++ (d.text ++ back)).takeWhile isBlank = front := by
    apply takeWhile_append hfront
    intro c hc
    rw [List.head?_append_of_ne_nil _ (text_ne_nil d)] at hc
    exact isBlank_of_mem_text (List.mem_of_mem_head? hc)
  have hread : Numeral.read? (d.text ++ back) = some (d.numeral, back) := by
    apply read?_text_append
    intro c hc
    have hblank := hback c (List.mem_of_mem_head? hc)
    have hmark := not_mem_marks_of_isBlank hblank
    simp only [marks, List.mem_cons, List.not_mem_nil, or_false, not_or] at hmark
    exact ⟨isDecimal_of_isBlank hblank, hmark.2.2⟩
  unfold bareNumber?
  rw [htake]
  dsimp only
  rw [List.drop_left, hread]
  exact if_pos (List.all_eq_true.2 hback)

theorem isBare_of_bareNumber? {n : Numeral} {readable : Bool}
    (h : bareNumber? cs = some (n, readable)) :
    ∃ front d back, IsBare cs front d back ∧ n = d.numeral := by
  unfold bareNumber? at h
  dsimp only at h
  split at h
  · cases h
  · rename_i n' rest hread
    split at h
    · rename_i hback
      cases h
      obtain ⟨d, rfl, hsplit⟩ := read?_eq_some hread
      refine ⟨cs.takeWhile isBlank, d, rest,
        ⟨?_, fun c => List.mem_takeWhile_imp, List.all_eq_true.1 hback⟩, rfl⟩
      rw [← hsplit]
      exact (List.prefix_iff_eq_append.1 (List.takeWhile_prefix isBlank)).symm
    · cases h

theorem unitLetter_bare {c : Char} (h : c ∈ unitLetters) :
    isDecimal c = false ∧ c ∉ marks ∧ isBlank c = false := by
  simp only [unitLetters, List.mem_cons, List.not_mem_nil, or_false] at h
  rcases h with rfl | rfl | rfl | rfl | rfl | rfl | rfl <;> decide

theorem not_place_of_isBare (h : IsBare cs front d back)
    (before rest : List Char) : ¬ Place cs before rest := by
  rintro ⟨hcut, -, c, hc, hletter⟩
  obtain ⟨hdecimal, hmark, hblank⟩ := unitLetter_bare hletter
  have hmem : c ∈ front ++ (d.text ++ back) := by
    rw [← h.cut, hcut]
    exact List.mem_append_right _ (List.mem_of_mem_head? hc)
  simp only [List.mem_append] at hmem
  rcases hmem with hmem | hmem | hmem
  · rw [h.front c hmem] at hblank
    cases hblank
  · rcases Decimal.mem_text hmem with htext | htext
    · rw [htext] at hdecimal
      cases hdecimal
    · exact hmark htext
  · rw [h.back c hmem] at hblank
    cases hblank

/-! ## What is promised -/

/-- The integer that a run of digits writes behind the text `before`. -/
def countBehind (before run : List Char) : Int :=
  if before.getLast? = some '-' then -(digitsValue run : Int)
    else digitsValue run

/-- What a text is to be read as: a bare number that is not zero as a double
counts seconds by its integer part; any other text counts the unit at its first
place, by the number that ends there; and without a place it is refused. -/
inductive Promised (cs : List Char) : Except Fault Duration → Prop where
  | number {front back : List Char} {d : Decimal}
      (bare : IsBare cs front d back) (nonzero : threshold < |d.value|) :
      Promised cs (.ok ⟨.second, d.count⟩)
  | measure {front rest before run : List Char} {scale : Scale}
      (other : ∀ front d back, IsBare cs front d back → |d.value| ≤ threshold)
      (place : FirstPlace cs front rest) (names : Names scale rest)
      (ends : EndsIn front before run) :
      Promised cs (.ok ⟨scale, countBehind before run⟩)
  | refused
      (other : ∀ front d back, IsBare cs front d back → |d.value| ≤ threshold)
      (nowhere : ∀ front rest, ¬ Place cs front rest) :
      Promised cs (.error refusal)

/-- The reader without its eye for separators. -/
def reading (cs : List Char) : Except Fault Duration :=
  match bareNumber? cs with
  | some (n, _) =>
    if n.toDouble.isZero then .error refusal
      else (signedCount n.negative n.whole).map fun count => ⟨.second, count⟩
  | none =>
    match measure? cs with
    | some (negative, digits, scale) =>
      (signedCount negative digits).map fun count => ⟨scale, count⟩
    | none => .error refusal

theorem signedCount_digitList {run : List Char}
    (hshort : run.length ≤ Numeral.maxDigits) (negative : Bool) :
    signedCount negative (digitList run) =
      .ok (if negative then -(digitsValue run : Int) else digitsValue run) := by
  unfold signedCount
  rw [length_digitList, if_neg (Nat.not_lt.2 hshort), ofDigits_digitList]

section

variable (hshort : ShortRuns isDecimal cs)

include hshort

theorem reading_of_isBare (h : IsBare cs front d back) :
    reading cs = if |d.value| ≤ threshold then .error refusal
      else .ok ⟨.second, d.count⟩ := by
  have hwhole : d.whole.length ≤ Numeral.maxDigits := by
    apply hshort _ _ d.wholeDecimal
    rw [h.cut]
    exact ⟨front ++ d.sign.text, fractionText d.fraction ++
      exponentText d.exponent ++ back, by simp [Decimal.text]⟩
  have hcount :
      signedCount d.numeral.negative d.numeral.whole = .ok d.count := by
    rw [Decimal.numeral, signedCount_digitList hwhole]
    simp [Decimal.count, Sign.apply]
  unfold reading
  rw [bareNumber?_of_isBare h]
  dsimp only
  rw [hcount]
  simp only [d.isZero_numeral_iff]
  rfl

theorem reading_of_place {before run rest : List Char} {scale : Scale}
    (hplace : FirstPlace cs front rest) (hnames : Names scale rest)
    (hends : EndsIn front before run) :
    reading cs = .ok ⟨scale, countBehind before run⟩ := by
  have hbare : bareNumber? cs = none := by
    rw [Option.eq_none_iff_forall_ne_some]
    rintro ⟨n, readable⟩ hsome
    obtain ⟨front', d, back, hbare, -⟩ := isBare_of_bareNumber? hsome
    exact not_place_of_isBare hbare _ _ hplace.toPlace
  have hrun : run.length ≤ Numeral.maxDigits := by
    apply hshort run (hends.isInfix.trans ?_) hends.decimal
    rw [hplace.cut]
    exact (List.prefix_append front rest).isInfix
  unfold reading
  rw [hbare]
  cases hmeasure : measure? cs with
  | none => exact absurd hmeasure (measure?_of_place hplace.toPlace)
  | some m =>
    obtain ⟨negative, digits, scale'⟩ := m
    obtain ⟨front', rest', before', run', hplace', hnames', hends', rfl, rfl⟩ :=
      measure?_eq_some hmeasure
    obtain ⟨rfl, rfl⟩ := hplace.unique hplace'
    obtain ⟨rfl, rfl⟩ := hends.unique hends'
    obtain rfl := hnames.unique hnames'
    dsimp only
    rw [signedCount_digitList hrun]
    simp [Except.map, countBehind]

end

theorem exists_promised (cs : List Char) : ∃ o, Promised cs o := by
  cases hbare : bareNumber? cs with
  | some answer =>
    obtain ⟨n, readable⟩ := answer
    obtain ⟨front, d, back, hd, rfl⟩ := isBare_of_bareNumber? hbare
    by_cases hzero : |d.value| ≤ threshold
    · refine ⟨_, .refused (fun front' d' back' hd' => ?_) (not_place_of_isBare hd)⟩
      rw [bareNumber?_of_isBare hd'] at hbare
      have hsame : d'.numeral = d.numeral :=
        congrArg Prod.fst (Option.some.inj hbare)
      rw [← Decimal.value_numeral, hsame, Decimal.value_numeral]
      exact hzero
    · exact ⟨_, .number hd (not_le.1 hzero)⟩
  | none =>
    have hother :
        ∀ front d back, IsBare cs front d back → |d.value| ≤ threshold := by
      intro front d back hd
      rw [bareNumber?_of_isBare hd] at hbare
      cases hbare
    cases hmeasure : measure? cs with
    | none =>
      exact ⟨_, .refused hother fun front rest hplace =>
        measure?_of_place hplace hmeasure⟩
    | some m =>
      obtain ⟨negative, digits, scale⟩ := m
      obtain ⟨front, rest, before, run, hplace, hnames, hends, -⟩ :=
        measure?_eq_some hmeasure
      exact ⟨_, .measure hother hplace hnames hends⟩

theorem reading_of_promised (hshort : ShortRuns isDecimal cs)
    {o : Except Fault Duration} (h : Promised cs o) :
    reading cs = o := by
  cases h with
  | number hbare hnonzero =>
    rw [reading_of_isBare hshort hbare, if_neg hnonzero.not_ge]
  | measure hother hplace hnames hends =>
    exact reading_of_place hshort hplace hnames hends
  | refused hother hnowhere =>
    cases hbare : bareNumber? cs with
    | some answer =>
      obtain ⟨front, d, back, hd, -⟩ := isBare_of_bareNumber? hbare
      rw [reading_of_isBare hshort hd, if_pos (hother _ _ _ hd)]
    | none =>
      have hmeasure : measure? cs = none := by
        rw [Option.eq_none_iff_forall_ne_some]
        rintro ⟨negative, digits, scale⟩ hsome
        obtain ⟨front, rest, before, run, hplace, -⟩ := measure?_eq_some hsome
        exact hnowhere _ _ hplace.toPlace
      unfold reading
      rw [hbare, hmeasure]

/-! ## What is read -/

theorem read_of_separated {text : String} (h : Separated text.toList) :
    Duration.read text = .error .notANumber := by
  obtain ⟨front, d, back, hd, c, hc, hseparator⟩ := h
  have hunreadable :
      ((front ++ back).all fun c => !isInformationSeparator c) = false := by
    rw [List.all_eq_false]
    exact ⟨c, hc, by simp [hseparator]⟩
  unfold Duration.read
  dsimp only
  rw [bareNumber?_of_isBare hd, hunreadable]
  rfl

theorem read_eq_reading {text : String} (h : ¬ Separated text.toList) :
    Duration.read text = reading text.toList := by
  unfold Duration.read reading
  dsimp only
  cases hbare : bareNumber? text.toList with
  | some answer =>
    obtain ⟨n, readable⟩ := answer
    obtain ⟨front, d, back, hd, rfl⟩ := isBare_of_bareNumber? hbare
    have hreadable :
        ((front ++ back).all fun c => !isInformationSeparator c) = true := by
      rw [List.all_eq_true]
      intro c hc
      by_contra hseparator
      exact h ⟨front, d, back, hd, c, hc, by simpa using hseparator⟩
    rw [bareNumber?_of_isBare hd, hreadable] at hbare
    cases hbare
    dsimp only
    cases d.numeral.toDouble.isZero with
    | true => rfl
    | false => cases signedCount d.numeral.negative d.numeral.whole <;> rfl
  | none =>
    cases measure? text.toList with
    | none => rfl
    | some m =>
      dsimp only
      cases signedCount m.1 m.2.1 <;> rfl

/-- **How durations are read.**  Every text whose runs of digits can be read is
promised one outcome, and has it exactly unless it is a bare number with an
information separator around it; then it is taken for a number that is none. -/
theorem reads_as_promised (text : String)
    (hshort : ShortRuns isDecimal text.toList) :
    ∃ outcome, (∀ o, Promised text.toList o ↔ o = outcome) ∧
      (Duration.read text = outcome ↔ ¬ Separated text.toList) ∧
      (Separated text.toList → Duration.read text = .error .notANumber) := by
  obtain ⟨outcome, hpromised⟩ := exists_promised text.toList
  have hreading := reading_of_promised hshort hpromised
  refine ⟨outcome, fun o => ⟨fun ho => ?_, fun ho => ho ▸ hpromised⟩,
    ⟨fun hread hseparated => ?_, fun h => ?_⟩, read_of_separated⟩
  · rw [← reading_of_promised hshort ho, hreading]
  · rw [read_of_separated hseparated] at hread
    subst hread
    cases hpromised
  · rw [read_eq_reading h, hreading]

theorem reads_as_promised_milliseconds :
    Promised "wait -1.5ms".toList (.ok ⟨.millisecond, -1⟩) ∧
    Duration.read "wait -1.5ms" = .ok ⟨.millisecond, -1⟩ := by
  have hread : Duration.read "wait -1.5ms" = .ok ⟨.millisecond, -1⟩ := by decide
  obtain ⟨outcome, hpromised, hiff, hrefused⟩ :=
    reads_as_promised "wait -1.5ms" (shortRuns_of_length (by decide))
  have hclean : ¬ Separated "wait -1.5ms".toList := by
    intro h
    rw [hrefused h] at hread
    cases hread
  exact ⟨(hpromised _).2 (hread.symm.trans (hiff.2 hclean)), hread⟩

def five : Decimal :=
  ⟨.absent, ['5'], none, none, List.forall_mem_singleton.2 (by decide), nofun,
    .inl (List.cons_ne_nil _ _)⟩

/-- Five seconds are promised of a five behind a file separator, but it is
refused as a number. -/
theorem reads_file_separator :
    Promised ['\x1c', '5'] (.ok ⟨.second, 5⟩) ∧
    Duration.read (String.ofList ['\x1c', '5']) = .error .notANumber := by
  have hbare : IsBare ['\x1c', '5'] ['\x1c'] five [] :=
    ⟨rfl, List.forall_mem_singleton.2 (by decide), nofun⟩
  have hvalue : five.value = 5 := by
    have hdigits : digitsValue ['5'] = 5 := by decide
    simp [five, Decimal.value, Sign.apply, exponentValue, hdigits]
  have hnonzero : threshold < |five.value| := by
    rw [hvalue]
    exact threshold_lt_one.trans (by norm_num)
  exact ⟨.number hbare hnonzero, by decide⟩

end TimeWindow.Proofs.Interval.Durations
