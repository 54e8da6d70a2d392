import TimeWindow.DateMath.Step
import Mathlib.Data.List.Basic

/-!
# The grammar of date math

`Written` says which texts are rows of steps and what each step means, without
mentioning how a text is read.  The reader `Step.read` follows one character
after the other; the lemmas below cut what it does into whole steps, up to
`read_eq_iff`, which says that it reads exactly the rows of steps.
-/

namespace TimeWindow.Proofs.DateMath.Grammar

open TimeWindow.DateMath Text

def bare (math : List Char) : List Char := math.filter fun c => !isBlank c

/-- The amount that a run of digits stands for; no digits at all stand for
one. -/
def amount (run : List Char) : Nat := if run = [] then 1 else digitsValue run

def mark (fiscal : Bool) : List Char := if fiscal then ['f'] else []

/-- A sign, a run of digits, perhaps the fiscal mark, and the letter of a
unit. -/
def word (sign : Char) (run : List Char) (fiscal : Bool) (unit : CalendarUnit) :
    List Char :=
  sign :: (run ++ (mark fiscal ++ [unit.letter]))

/-- The text of one step, and the step.  A rounding takes no amount but one, and
a fiscal mark changes nothing about a shift. -/
inductive WrittenStep : List Char → Step → Prop where
  | round {run : List Char} {fiscal : Bool} {unit : CalendarUnit}
      (digits : ∀ c ∈ run, isAsciiDigit c = true) (one : amount run = 1) :
      WrittenStep (word '/' run fiscal unit) (.round fiscal unit)
  | add {run : List Char} {fiscal : Bool} {unit : CalendarUnit}
      (digits : ∀ c ∈ run, isAsciiDigit c = true) :
      WrittenStep (word '+' run fiscal unit) (.shift (amount run) unit)
  | subtract {run : List Char} {fiscal : Bool} {unit : CalendarUnit}
      (digits : ∀ c ∈ run, isAsciiDigit c = true) :
      WrittenStep (word '-' run fiscal unit) (.shift (-(amount run : Int)) unit)

/-- A text that is a row of steps, one after the other, and the steps. -/
inductive Written : List Char → List Step → Prop where
  | nil : Written [] []
  | cons {text rest : List Char} {step : Step} {steps : List Step}
      (first : WrittenStep text step) (others : Written rest steps) :
      Written (text ++ rest) (step :: steps)

/-- Every digit of a text that begins at place `start` stands before place
10. -/
def DigitsEarly (start : Nat) (cs : List Char) : Prop :=
  ∀ n (h : n < cs.length), isAsciiDigit cs[n] = true → start + n < 10

instance (start : Nat) (cs : List Char) : Decidable (DigitsEarly start cs) :=
  inferInstanceAs (Decidable
    (∀ n (h : n < cs.length), isAsciiDigit cs[n] = true → start + n < 10))

/-- A row of steps with no digit at place 10 or later. -/
def IsMath (cs : List Char) (steps : List Step) : Prop :=
  Written cs steps ∧ DigitsEarly 0 cs

/-! ## Places of digits -/

theorem digitsEarly_nil (start : Nat) : DigitsEarly start [] := by
  intro n h
  simp at h

theorem digitsEarly_cons {start : Nat} {c : Char} {cs : List Char} :
    DigitsEarly start (c :: cs) ↔
      (isAsciiDigit c = true → start < 10) ∧ DigitsEarly (start + 1) cs := by
  constructor
  · intro h
    refine ⟨fun hc => h 0 (by simp) hc, ?_⟩
    intro n hn hdigit
    have := h (n + 1) (by simpa using hn) hdigit
    omega
  · rintro ⟨hhead, htail⟩ n hn hdigit
    cases n with
    | zero => exact hhead hdigit
    | succ n =>
      have := htail n (by simpa using hn) hdigit
      omega

theorem digitsEarly_append {start : Nat} {a b : List Char} :
    DigitsEarly start (a ++ b) ↔ DigitsEarly start a ∧
    DigitsEarly (start + a.length) b := by
  induction a generalizing start with
  | nil => simp [digitsEarly_nil]
  | cons c a ih =>
    rw [List.cons_append, digitsEarly_cons, digitsEarly_cons, ih, and_assoc,
      List.length_cons, Nat.add_right_comm, Nat.add_assoc]

theorem isAsciiDigit_letter (unit : CalendarUnit) :
    isAsciiDigit unit.letter = false := by
  cases unit <;> decide

theorem digitsEarly_mark_letter (start : Nat) (fiscal : Bool)
    (unit : CalendarUnit) :
    DigitsEarly start (mark fiscal ++ [unit.letter]) := by
  cases fiscal
  · simp [mark, digitsEarly_cons, digitsEarly_nil, isAsciiDigit_letter]
  · simp [mark, digitsEarly_cons, digitsEarly_nil, isAsciiDigit_letter,
      show isAsciiDigit 'f' = false by decide]

theorem isAsciiDigit_sign {c : Char} {op : Operation}
    (h : Operation.ofSign? c = some op) :
    isAsciiDigit c = false := by
  rw [Bool.eq_false_iff]
  intro hdigit
  have hsign : c ≠ '/' ∧ c ≠ '+' ∧ c ≠ '-' := by
    refine ⟨?_, ?_, ?_⟩ <;>
    · rintro rfl
      exact absurd hdigit (by decide)
  obtain ⟨h₁, h₂, h₃⟩ := hsign
  simp [Operation.ofSign?, h₁, h₂, h₃] at h

theorem digitsEarly_word {start : Nat} {sign : Char} {run : List Char}
    {fiscal : Bool} {unit : CalendarUnit} {op : Operation}
    (hsign : Operation.ofSign? sign = some op) :
    DigitsEarly start (word sign run fiscal unit) ↔
    DigitsEarly (start + 1) run := by
  rw [word, digitsEarly_cons, digitsEarly_append]
  simp [isAsciiDigit_sign hsign, digitsEarly_mark_letter]

theorem length_le_of_digitsEarly {start : Nat} {run : List Char}
    (digits : ∀ c ∈ run, isAsciiDigit c = true) (hrun : run ≠ [])
    (early : DigitsEarly start run) : start + run.length ≤ 10 := by
  have hpos := List.length_pos_iff.2 hrun
  have hlast := early (run.length - 1) (by omega) (digits _ (List.getElem_mem _))
  omega

/-! ## Reading one step

The reader carries the number of the digits it has seen and no list of them, so
`counted` is the number it carries behind a run.
-/

def counted (before : Option Nat) (run : List Char) : Option Nat :=
  run.foldl (fun n c => some (n.getD 0 * 10 + (decimalValue? c).getD 0)) before

def prepend (step : Step) (answer : List Step × Bool) : List Step × Bool :=
  (step :: answer.1, answer.2)

theorem asciiDigit?_of_isAsciiDigit {c : Char} (h : isAsciiDigit c = true) :
    asciiDigit? c = some ((decimalValue? c).getD 0) := by
  unfold isAsciiDigit asciiDigit? at h
  split at h
  · rename_i hc
    have hsmall : c.toNat < 0x80 := by
      simp only [Bool.and_eq_true, decide_eq_true_eq] at hc
      omega
    simp [asciiDigit?, decimalValue?, hc, hsmall]
  · simp at h

theorem asciiDigit?_eq_none {c : Char} (h : isAsciiDigit c = false) :
    asciiDigit? c = none := by
  simpa [isAsciiDigit] using h

theorem letter_of_ofLetter? {c : Char} {unit : CalendarUnit}
    (h : CalendarUnit.ofLetter? c = some unit) : c = unit.letter := by
  have hfound : unit.letter = c := by simpa using List.find?_some h
  exact hfound.symm

theorem letter_ne_mark (unit : CalendarUnit) : unit.letter ≠ 'f' := by
  cases unit <;> decide

theorem counted_eq (run : List Char) (n : Nat) :
    counted (some n) run =
      some (run.foldl (fun n c => n * 10 + (decimalValue? c).getD 0) n) := by
  induction run generalizing n with
  | nil => rfl
  | cons c run ih => exact ih _

theorem counted_none_getD (run : List Char) :
    (counted none run).getD 1 = amount run := by
  cases run with
  | nil => rfl
  | cons c run =>
    have h := counted_eq run (0 * 10 + (decimalValue? c).getD 0)
    change (counted (some (0 * 10 + (decimalValue? c).getD 0)) run).getD 1 = _
    rw [h]
    simp [amount, digitsValue]

theorem readFrom_digit {op : Operation} {before : Option Nat} {i : Nat}
    {c : Char} {cs : List Char} (hc : isAsciiDigit c = true) :
    Step.readFrom (.counting op before) i (c :: cs) =
      if i < 10 then Step.readFrom (.counting op (counted before [c])) (i + 1) cs
      else ([], false) := by
  rw [Step.readFrom, asciiDigit?_of_isAsciiDigit hc]
  rfl

theorem readFrom_run_early {op : Operation} {before : Option Nat} {i : Nat}
    {run rest : List Char} (digits : ∀ c ∈ run, isAsciiDigit c = true)
    (early : DigitsEarly i run) :
    Step.readFrom (.counting op before) i (run ++ rest) =
      Step.readFrom (.counting op (counted before run)) (i + run.length) rest := by
  induction run generalizing i before with
  | nil => rfl
  | cons c run ih =>
    have hc := digits c (by simp)
    rw [digitsEarly_cons] at early
    rw [List.cons_append, readFrom_digit hc, if_pos (early.1 hc),
      ih (fun d hd => digits d (by simp [hd])) early.2, List.length_cons]
    rw [Nat.add_right_comm, Nat.add_assoc]
    rfl

theorem readFrom_run_late {op : Operation} {before : Option Nat} {i : Nat}
    {run rest : List Char} (digits : ∀ c ∈ run, isAsciiDigit c = true)
    (late : ¬ DigitsEarly i run) :
    Step.readFrom (.counting op before) i (run ++ rest) = ([], false) := by
  induction run generalizing i before with
  | nil => exact absurd (digitsEarly_nil i) late
  | cons c run ih =>
    have hc := digits c (by simp)
    rw [List.cons_append, readFrom_digit hc]
    split
    · rename_i hi
      rw [digitsEarly_cons] at late
      apply ih (fun d hd => digits d (by simp [hd]))
      exact fun htail => late ⟨fun _ => hi, htail⟩
    · rfl

theorem readFrom_mark_letter {op : Operation} {before : Option Nat} {i : Nat}
    {fiscal : Bool} {unit : CalendarUnit} {rest : List Char}
    (takes : op.takes (before.getD 1) = true) :
    Step.readFrom (.counting op before) i (mark fiscal ++ unit.letter :: rest) =
      prepend (op.step (before.getD 1) fiscal unit)
        (Step.readFrom .ready (i + (mark fiscal).length + 1) rest) := by
  cases fiscal with
  | false =>
    change Step.readFrom _ i (unit.letter :: rest) = _
    rw [Step.readFrom, asciiDigit?_eq_none (isAsciiDigit_letter unit)]
    simp only [takes, if_true, if_neg (letter_ne_mark unit),
      CalendarUnit.ofLetter?_letter]
    rfl
  | true =>
    change Step.readFrom _ i ('f' :: unit.letter :: rest) = _
    rw [Step.readFrom, asciiDigit?_eq_none (by decide)]
    simp only [takes, if_true]
    rw [Step.readFrom, CalendarUnit.ofLetter?_letter]
    rfl

theorem readFrom_sign {op : Operation} {sign : Char} {i : Nat}
    {cs : List Char} (hsign : Operation.ofSign? sign = some op) :
    Step.readFrom .ready i (sign :: cs) =
      Step.readFrom (.counting op none) (i + 1) cs := by
  rw [Step.readFrom, hsign]

theorem WrittenStep.parts {text : List Char} {step : Step}
    (h : WrittenStep text step) :
    ∃ op sign run fiscal unit, text = word sign run fiscal unit ∧
      Operation.ofSign? sign = some op ∧ (∀ c ∈ run, isAsciiDigit c = true) ∧
      op.takes (amount run) = true ∧
      step = op.step (amount run) fiscal unit := by
  cases h with
  | @round run fiscal unit digits one =>
    exact ⟨.rounding, '/', run, fiscal, unit, rfl, rfl,
      digits, by simp [Operation.takes, one], rfl⟩
  | @add run fiscal unit digits =>
    exact ⟨.adding, '+', run, fiscal, unit, rfl, rfl, digits, rfl, rfl⟩
  | @subtract run fiscal unit digits =>
    exact ⟨.subtracting, '-', run, fiscal, unit, rfl, rfl, digits, rfl, rfl⟩

theorem writtenStep_word {op : Operation} {sign : Char} {run : List Char}
    {fiscal : Bool} {unit : CalendarUnit}
    (hsign : Operation.ofSign? sign = some op)
    (digits : ∀ c ∈ run, isAsciiDigit c = true)
    (takes : op.takes (amount run) = true) :
    WrittenStep (word sign run fiscal unit)
      (op.step (amount run) fiscal unit) := by
  unfold Operation.ofSign? at hsign
  split at hsign
  · rename_i h
    cases hsign
    subst h
    exact .round digits (by simpa [Operation.takes] using takes)
  · split at hsign
    · rename_i h
      cases hsign
      subst h
      exact .add digits
    · split at hsign
      · rename_i h
        cases hsign
        subst h
        exact .subtract digits
      · cases hsign

theorem readFrom_step {text rest : List Char} {step : Step} {i : Nat}
    (h : WrittenStep text step) (early : DigitsEarly i text) :
    Step.readFrom .ready i (text ++ rest) =
      prepend step (Step.readFrom .ready (i + text.length) rest) := by
  obtain ⟨op, sign, run, fiscal, unit, rfl, hsign, digits, takes, rfl⟩ := h.parts
  have hrun : DigitsEarly (i + 1) run := (digitsEarly_word hsign).1 early
  have hbehind : sign :: (run ++ (mark fiscal ++ [unit.letter])) ++ rest =
      sign :: (run ++ (mark fiscal ++ unit.letter :: rest)) := by simp
  rw [word, hbehind, readFrom_sign hsign, readFrom_run_early digits hrun,
    readFrom_mark_letter (by rw [counted_none_getD]; exact takes),
    counted_none_getD]
  congr 2
  simp only [List.length_cons, List.length_append, List.length_nil]
  omega

theorem readFrom_step_late {text rest : List Char} {step : Step} {i : Nat}
    (h : WrittenStep text step) (late : ¬ DigitsEarly i text) :
    Step.readFrom .ready i (text ++ rest) = ([], false) := by
  obtain ⟨op, sign, run, fiscal, unit, rfl, hsign, digits, takes, rfl⟩ := h.parts
  have hrun : ¬ DigitsEarly (i + 1) run :=
    fun hrun => late ((digitsEarly_word hsign).2 hrun)
  have hbehind : sign :: (run ++ (mark fiscal ++ [unit.letter])) ++ rest =
      sign :: (run ++ (mark fiscal ++ [unit.letter] ++ rest)) := by simp
  rw [word, hbehind, readFrom_sign hsign, readFrom_run_late digits hrun]

theorem readFrom_counting_cases (op : Operation) (before : Option Nat)
    (i : Nat) (cs : List Char) :
    Step.readFrom (.counting op before) i cs = ([], false) ∨
      ∃ (run : List Char) (fiscal : Bool) (unit : CalendarUnit) (rest : List Char),
        cs = run ++ (mark fiscal ++ unit.letter :: rest) ∧
        (∀ c ∈ run, isAsciiDigit c = true) ∧ DigitsEarly i run ∧
        op.takes ((counted before run).getD 1) = true := by
  induction cs generalizing before i with
  | nil => exact Or.inl rfl
  | cons c cs ih =>
    cases hc : isAsciiDigit c with
    | true =>
      rw [readFrom_digit hc]
      split
      · rename_i hi
        rcases ih (counted before [c]) (i + 1) with hstop | ⟨run, fiscal, unit,
          rest, rfl, digits, early, takes⟩
        · exact Or.inl hstop
        · refine Or.inr ⟨c :: run, fiscal, unit, rest, rfl, ?_, ?_, takes⟩
          · intro d hd
            rcases List.mem_cons.1 hd with rfl | hd
            · exact hc
            · exact digits d hd
          · rw [digitsEarly_cons]
            exact ⟨fun _ => hi, early⟩
      · exact Or.inl rfl
    | false =>
      rw [Step.readFrom, asciiDigit?_eq_none hc]
      dsimp only
      split
      · rename_i takes
        split
        · rename_i hmark
          subst hmark
          cases cs with
          | nil => exact Or.inl rfl
          | cons d cs =>
            rw [Step.readFrom]
            cases hd : CalendarUnit.ofLetter? d with
            | none => exact Or.inl rfl
            | some unit =>
              rw [letter_of_ofLetter? hd]
              exact Or.inr ⟨[], true, unit, cs,
                rfl, by simp, digitsEarly_nil i, takes⟩
        · cases hd : CalendarUnit.ofLetter? c with
          | none => exact Or.inl rfl
          | some unit =>
            rw [letter_of_ofLetter? hd]
            exact Or.inr ⟨[], false, unit, cs,
              rfl, by simp, digitsEarly_nil i, takes⟩
      · exact Or.inl rfl

theorem readFrom_ready_cases (i : Nat) (c : Char) (cs : List Char) :
    Step.readFrom .ready i (c :: cs) = ([], false) ∨
      ∃ text step rest, c :: cs = text ++ rest ∧ WrittenStep text step ∧
        DigitsEarly i text := by
  cases hsign : Operation.ofSign? c with
  | none =>
    rw [Step.readFrom, hsign]
    exact Or.inl rfl
  | some op =>
    rw [readFrom_sign hsign]
    rcases readFrom_counting_cases op none (i + 1) cs with
      hstop | ⟨run, fiscal, unit, rest, rfl, digits, early, takes⟩
    · exact Or.inl hstop
    · rw [counted_none_getD] at takes
      refine Or.inr ⟨word c run fiscal unit, _, rest, by simp [word],
        writtenStep_word hsign digits takes, ?_⟩
      exact (digitsEarly_word hsign).2 early

theorem WrittenStep.length_pos {text : List Char} {step : Step}
    (h : WrittenStep text step) :
    0 < text.length := by
  obtain ⟨op, sign, run, fiscal, unit, rfl, -⟩ := h.parts
  simp [word]

/-! ## Reading a row of steps -/

theorem readFrom_append {cs : List Char} {steps : List Step} {i : Nat}
    (h : Written cs steps) (early : DigitsEarly i cs) (rest : List Char) :
    Step.readFrom .ready i (cs ++ rest) =
      (steps ++ (Step.readFrom .ready (i + cs.length) rest).1,
        (Step.readFrom .ready (i + cs.length) rest).2) := by
  induction h generalizing i with
  | nil => rfl
  | @cons text others step steps first _ ih =>
    rw [digitsEarly_append] at early
    rw [List.append_assoc, readFrom_step first early.1, ih early.2, prepend,
      List.length_append, Nat.add_assoc]
    rfl

/-- The steps that the reader takes are written at the front of the text, and
what it calls complete is a row of steps. -/
theorem readFrom_sound (cs : List Char) (i : Nat) :
    ∃ head rest, cs = head ++ rest ∧ Written head (Step.readFrom .ready i cs).1 ∧
      DigitsEarly i head ∧
      ((Step.readFrom .ready i cs).2 = true → rest = []) := by
  -- on the length, as the reader takes a whole step and not one character
  induction hn : cs.length using Nat.strongRecOn generalizing cs i with
  | _ n ih =>
    cases cs with
    | nil => exact ⟨[], [], rfl, Written.nil, digitsEarly_nil i, fun _ => rfl⟩
    | cons c cs =>
      rcases readFrom_ready_cases i c cs with hstop | ⟨text, step, rest, hcs,
        first, early⟩
      · exact ⟨[], c :: cs,
          rfl, by rw [hstop]; exact Written.nil, digitsEarly_nil i, by simp [hstop]⟩
      · have hlt : rest.length < n := by
          have hpos := first.length_pos
          rw [← hn, hcs, List.length_append]
          omega
        obtain ⟨head, tail, hrest, hwritten, hhead, hwhole⟩ :=
          ih rest.length hlt rest (i + text.length) rfl
        rw [hcs, readFrom_step first early]
        refine ⟨text ++ head, tail, ?_, Written.cons first hwritten, ?_, hwhole⟩
        · rw [List.append_assoc, ← hrest]
        · rw [digitsEarly_append]
          exact ⟨early, hhead⟩

theorem exists_isMath_append_iff {text rest : List Char} {step : Step}
    (h : WrittenStep text step) :
    (∃ steps, IsMath (text ++ rest) steps) ↔ DigitsEarly 0 (text ++ rest) ∧
    ∃ steps, Written rest steps := by
  constructor
  · rintro ⟨steps, hwritten, early⟩
    have hread := readFrom_append hwritten early []
    rw [List.append_nil, readFrom_step h (digitsEarly_append.1 early).1] at hread
    have hcomplete : (Step.readFrom .ready (0 + text.length) rest).2 = true :=
      congrArg Prod.snd hread
    obtain ⟨head, tail, hrest, hhead, -, hwhole⟩ :=
      readFrom_sound rest (0 + text.length)
    rw [hwhole hcomplete, List.append_nil] at hrest
    rw [← hrest] at hhead
    exact ⟨early, _, hhead⟩
  · rintro ⟨early, steps, hrest⟩
    exact ⟨_, .cons h hrest, early⟩

/-- Of a row of steps the reader takes some of the first ones, however late
their digits stand. -/
theorem readFrom_isPrefix {cs : List Char} {steps : List Step} (i : Nat)
    (h : Written cs steps) :
    (Step.readFrom .ready i cs).1 <+: steps := by
  induction h generalizing i with
  | nil => exact List.prefix_rfl
  | @cons text rest step steps first others ih =>
    by_cases early : DigitsEarly i text
    · rw [readFrom_step first early, prepend, List.cons_prefix_cons]
      exact ⟨rfl, ih _⟩
    · rw [readFrom_step_late first early]
      exact List.nil_prefix

/-- What the reader calls complete is exactly a row of steps whose digits stand
early enough, and its steps are the ones written. -/
theorem read_eq_iff {math : List Char} {steps : List Step} :
    Step.read math = (steps, true) ↔ IsMath (bare math) steps := by
  constructor
  · intro h
    obtain ⟨head, rest, hcs, hwritten, early, hwhole⟩ :=
      readFrom_sound (bare math) 0
    change Step.readFrom .ready 0 (bare math) = _ at h
    rw [h] at hwritten hwhole
    rw [hcs, hwhole rfl, List.append_nil]
    exact ⟨hwritten, early⟩
  · rintro ⟨hwritten, early⟩
    have hread := readFrom_append hwritten early []
    simp only [List.append_nil] at hread
    rw [Step.read, ← bare, hread]
    simp [Step.readFrom]

theorem read_complete_iff {math : List Char} :
    (Step.read math).2 = true ↔ ∃ steps, IsMath (bare math) steps := by
  constructor
  · intro h
    exact ⟨(Step.read math).1, read_eq_iff.1 (Prod.ext rfl h)⟩
  · rintro ⟨steps, h⟩
    rw [read_eq_iff.2 h]

end TimeWindow.Proofs.DateMath.Grammar
