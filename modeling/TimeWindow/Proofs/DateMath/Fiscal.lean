import TimeWindow.Proofs.DateMath.Evaluation
import TimeWindow.Proofs.DateMath.Expression

/-!
# What depends on the fiscal calendar

Only a rounding with the fiscal mark asks for the first month of the fiscal
year.  The mark is an `f` in the math of a text, so a text without one, or one
that begins with it and has no anchor then, is the same under every fiscal
calendar (`parseText_of_not_fiscal`).
-/

namespace TimeWindow.Proofs.DateMath.Fiscal

open TimeWindow.DateMath Text Outcome Grammar Evaluation Expression

def withFiscalStart (month : Int) (rules : Rules) : Rules :=
  { rules with fiscalStart := month }

def bearsMark : Step → Bool
  | .round fiscal _ => fiscal
  | .shift _ _ => false

/-! ## Steps -/

theorem apply_of_unmarked {step : Step} (h : bearsMark step = false)
    (month : Int) (rules : Rules) (i : Instant) :
    step.apply (withFiscalStart month rules) i = step.apply rules i := by
  cases step with
  | round fiscal unit =>
    cases fiscal with
    | true => cases h
    | false => rfl
  | shift amount unit => rfl

theorem takeAll_of_unmarked {steps : List Step}
    (h : ∀ step ∈ steps, bearsMark step = false) (month : Int) (rules : Rules)
    (i : Instant) :
    takeAll (withFiscalStart month rules) i steps = takeAll rules i steps := by
  induction steps generalizing i with
  | nil => rw [takeAll_nil, takeAll_nil]
  | cons step steps ih =>
    rw [takeAll_cons, takeAll_cons, apply_of_unmarked (h step List.mem_cons_self)]
    exact congrArg _ (funext fun j =>
      ih (fun s hs => h s (List.mem_cons_of_mem _ hs)) j)

/-! ## Where the mark stands in the text -/

theorem unmarked_of_writtenStep {text : List Char} {step : Step}
    (h : WrittenStep text step) (hmark : 'f' ∉ text) :
    bearsMark step = false := by
  cases h with
  | @round run fiscal unit digits one =>
    cases fiscal with
    | true => exact absurd (by simp [word, mark]) hmark
    | false => rfl
  | add digits => rfl
  | subtract digits => rfl

theorem unmarked_of_written {cs : List Char} {steps : List Step}
    (h : Written cs steps) (hmark : 'f' ∉ cs) :
    ∀ step ∈ steps, bearsMark step = false := by
  -- each step has a text of its own, and the mark of a fiscal one stands in it
  induction h with
  | nil => simp
  | @cons text rest step steps first _ ih =>
    rw [List.mem_append, not_or] at hmark
    intro s hs
    rcases List.mem_cons.1 hs with rfl | hs
    · exact unmarked_of_writtenStep first hmark.1
    · exact ih hmark.2 s hs

theorem unmarked_read {math : List Char} (hmark : 'f' ∉ math) :
    ∀ step ∈ (Step.read math).1, bearsMark step = false := by
  obtain ⟨head, hhead, hwritten, -⟩ := isMath_read math
  refine unmarked_of_written hwritten fun hmem => hmark ?_
  exact List.mem_of_mem_filter (hhead.subset hmem)

theorem evaluate_of_unmarked {math : List Char} (hmark : 'f' ∉ math)
    (month : Int) (rules : Rules) (i : Instant) :
    evaluate (withFiscalStart month rules) math i = evaluate rules math i := by
  rw [evaluate_eq, evaluate_eq, takeAll_of_unmarked (unmarked_read hmark)]

/-! ## Expressions -/

theorem mem_of_anchor {rules : Rules} {p : Present} {cs math : List Char}
    {start : Option Instant} (h : anchor rules p cs = .ok (start, math))
    {c : Char} (hc : c ∈ math) : c ∈ cs := by
  unfold anchor at h
  split at h
  · rename_i behind hbehind
    obtain ⟨i, -, h⟩ := bind_eq_ok.1 h
    cases pure_eq_ok.1 h
    rw [after?_eq_some hbehind]
    exact List.mem_append_right _ hc
  · obtain ⟨i, -, h⟩ := bind_eq_ok.1 h
    cases pure_eq_ok.1 h
    cases hcut : cutAt? anchorMark cs with
    | none =>
      rw [hcut] at hc
      cases hc
    | some parts =>
      obtain ⟨before, rest⟩ := parts
      rw [hcut] at hc
      rw [cutAt?_eq_append hcut]
      exact List.mem_append_right _ hc

theorem parseText_of_unmarked {s : String} (hmark : 'f' ∉ s.toList)
    (month : Int) (rules : Rules) (p : Present) :
    parseText (withFiscalStart month rules) p s = parseText rules p s := by
  cases hanchor : anchor rules p s.toList with
  | error f =>
    have hsame : anchor (withFiscalStart month rules) p s.toList = .error f :=
      hanchor
    rw [parseText_of_anchor_error hanchor, parseText_of_anchor_error hsame]
  | ok answer =>
    obtain ⟨start, math⟩ := answer
    have hsame :
        anchor (withFiscalStart month rules) p s.toList = .ok (start, math) :=
      hanchor
    rw [parseText_of_anchor hanchor, parseText_of_anchor hsame]
    cases start with
    | none => rw [Option.elim_none, Option.elim_none]
    | some i =>
      exact evaluate_of_unmarked (fun hf => hmark (mem_of_anchor hanchor hf))
        month rules i

/-! ## Texts that begin with the mark

The flag leaves the first character out.  A text that begins with the mark has
no value: it does not begin with `now`, and in front of its `||` there is no
date. -/

theorem trimBy_of_mark (cs : List Char) :
    ∃ rest, trimBy isUnicodeBlank ('f' :: cs) = 'f' :: rest := by
  have hkept : isUnicodeBlank 'f' = false := by decide
  unfold trimBy dropTrailing
  rw [List.dropWhile_cons, hkept, if_neg Bool.false_ne_true, List.reverse_cons,
    List.dropWhile_append]
  split
  · exact ⟨[], by simp [hkept]⟩
  · exact ⟨_, by rw [List.reverse_append]; rfl⟩

theorem integer?_of_mark (cs : List Char) :
    Numeral.integer? ('f' :: cs) = none := by
  have hdigit : decimalValue? 'f' = none := by decide
  obtain ⟨rest, hrest⟩ := trimBy_of_mark cs
  have hsign : Numeral.sign ('f' :: rest) = (false, 'f' :: rest) := rfl
  have hgrouped : Numeral.groupedDigits? ('f' :: rest) = none := by
    unfold Numeral.groupedDigits?
    split
    · rfl
    all_goals
      rename_i heq
      cases heq
      rw [hdigit]
      rfl
  unfold Numeral.integer?
  rw [hrest, hsign]
  dsimp only
  rw [hgrouped]
  rfl

theorem date?_of_mark (cs : List Char) : Iso.date? ('f' :: cs) = none := by
  have hyear : Numeral.integer? (('f' :: cs).take 4) = none :=
    integer?_of_mark (cs.take 3)
  have hcalendar : Iso.calendarDate? ('f' :: cs) = none := by
    unfold Iso.calendarDate?
    rw [hyear]
    split <;> rfl
  have hother : Iso.otherDate? ('f' :: cs) = none := by
    unfold Iso.otherDate?
    rw [hyear]
    split <;> rfl
  rw [Iso.date?, hcalendar, hother]
  rfl

theorem parseIso_of_mark (cs : List Char) (z : Zone) :
    parseIso (String.ofList ('f' :: cs)) z = .ok none := by
  have hread : Iso.read? (String.ofList ('f' :: cs)) = none := by
    unfold Iso.read?
    rw [String.toList_ofList]
    dsimp only
    rw [date?_of_mark]
    split <;> rfl
  rw [parseIso, hread]

theorem cutAt?_of_mark (cs : List Char) :
    ∃ before rest, (cutAt? anchorMark ('f' :: cs)).getD ('f' :: cs, []) =
      ('f' :: before, rest) := by
  have hafter : after? anchorMark ('f' :: cs) = none := rfl
  rw [cutAt?, hafter]
  dsimp only
  cases cutAt? anchorMark cs with
  | none => exact ⟨cs, [], rfl⟩
  | some parts => exact ⟨parts.1, parts.2, rfl⟩

theorem parseText_of_leading_mark {s : String} {cs : List Char}
    (h : s.toList = 'f' :: cs) (rules : Rules) (p : Present) :
    parseText rules p s = .ok none := by
  obtain ⟨before, math, hcut⟩ := cutAt?_of_mark cs
  have hnow : after? nowWord ('f' :: cs) = none := rfl
  have hanchor : anchor rules p s.toList = .ok (none, math) := by
    rw [h, anchor, hnow]
    dsimp only
    rw [hcut]
    dsimp only
    rw [parseIso_of_mark]
    rfl
  rw [parseText_of_anchor hanchor]
  rfl

theorem parseText_of_not_fiscal {s : String}
    (h : s.toList.head? = some 'f' ∨ 'f' ∉ s.toList) (month : Int)
    (rules : Rules) (p : Present) :
    parseText (withFiscalStart month rules) p s = parseText rules p s := by
  rcases h with hhead | hmark
  · obtain ⟨cs, hcs⟩ := List.head?_eq_some_iff.1 hhead
    rw [parseText_of_leading_mark hcs, parseText_of_leading_mark hcs]
  · exact parseText_of_unmarked hmark month rules p

end TimeWindow.Proofs.DateMath.Fiscal
