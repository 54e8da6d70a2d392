import Mathlib.Data.List.Infix
import Mathlib.Data.List.TakeWhile
import TimeWindow.Number.Numeral
import TimeWindow.Text.Search

/-!
# Words and runs that occur in a text

A text mentions a word that is an infix of it.  `ShortRuns` bounds the runs of
digits of a text by what is read as a number at all.
-/

namespace TimeWindow.Proofs.Occurrences

open TimeWindow.Text

theorem beginsWith_iff {word cs : List Char} :
    beginsWith word cs = true ↔ word <+: cs := by
  unfold beginsWith
  rw [Option.isSome_iff_exists]
  constructor
  · rintro ⟨rest, h⟩
    exact ⟨rest, (after?_eq_some h).symm⟩
  · rintro ⟨rest, rfl⟩
    exact ⟨rest, after?_append word rest⟩

theorem mentions_iff {word cs : List Char} :
    mentions word cs = true ↔ word <:+: cs := by
  induction cs with
  | nil => simp [mentions, cutAt?]
  | cons c cs ih =>
    rw [List.infix_cons_iff, ← beginsWith_iff, ← ih]
    cases h : after? word (c :: cs) <;> simp [mentions, cutAt?, beginsWith, h]

/-! ## Runs -/

theorem takeWhile_append {p : Char → Bool} {run rest : List Char}
    (hrun : ∀ c ∈ run, p c = true) (hrest : ∀ c ∈ rest.head?, p c = false) :
    (run ++ rest).takeWhile p = run := by
  rw [List.takeWhile_append_of_pos hrun]
  cases rest with
  | nil => exact List.append_nil run
  | cons c rest =>
    rw [List.takeWhile_cons_of_neg (by simp [hrest c rfl]), List.append_nil]

def ShortRuns (digit : Char → Bool) (cs : List Char) : Prop :=
  ∀ run, run <:+: cs → (∀ c ∈ run, digit c = true) →
    run.length ≤ Numeral.maxDigits

variable {digit : Char → Bool} {cs : List Char}

theorem ShortRuns.of_infix {part : List Char} (h : ShortRuns digit cs)
    (hpart : part <:+: cs) :
    ShortRuns digit part :=
  fun run hrun => h run (hrun.trans hpart)

theorem ShortRuns.takeWhile (h : ShortRuns digit cs) :
    (cs.takeWhile digit).length ≤ Numeral.maxDigits :=
  h _ (List.takeWhile_prefix digit).isInfix fun _ => List.mem_takeWhile_imp

theorem shortRuns_of_length (h : cs.length ≤ Numeral.maxDigits) :
    ShortRuns digit cs :=
  fun _ hrun _ => hrun.length_le.trans h

end TimeWindow.Proofs.Occurrences
