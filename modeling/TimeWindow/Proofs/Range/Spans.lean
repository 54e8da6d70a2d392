import TimeWindow.Proofs.DateMath.Periods
import TimeWindow.Proofs.Range.Descriptions
import TimeWindow.Proofs.Range.Resolution
import TimeWindow.Proofs.Reading.Tokens

/-!
# Spans and their instants

A span is valid when it can be described, for which the text behind its unit
does not matter.  Date math does look at that text: `valid_span_answers` says
where the sides of a valid span have an instant, and where they have none.
-/

namespace TimeWindow.Proofs.Range.Spans

open TimeWindow.DateMath TimeWindow.Text DateMath.Grammar DateMath.Evaluation
  DateMath.Expression DateMath.Periods Reading.Tokens Range.Descriptions
  Range.Resolution Outcome

/-- A variable, which is filled in later and taken on trust. -/
def IsTemplate (v : String) : Prop :=
  beginsWith ['$'] v.toList = true ∨ beginsWith ['+', '$'] v.toList = true

/-- In every zone and fiscal calendar, from every reference instant from which
no step leaves the calendar, date math answers the text as `P` says. -/
def Answers (x : String) (P : Option Instant → Prop) : Prop :=
  ∃ math, x.toList = nowWord ++ math ∧
    ∀ (e : Engine) call rules p i, e.rules call = .ok rules →
      p.reference rules.zone = .ok i → Stays rules math i →
      ∃ o, e.parse call p (.text x) = .ok o ∧ P o

abbrev HasInstant (x : String) : Prop := Answers x fun o => ∃ j, o = some j

abbrev LacksInstant (x : String) : Prop := Answers x (· = none)

/-! ## Math behind now -/

section

variable {x : String} {math : List Char} (hx : x.toList = nowWord ++ math)

include hx

theorem parse_now {e : Engine} {call : Engine.Call} {rules : Rules}
    {p : Present} {i : Instant} (hrules : e.rules call = .ok rules)
    (hi : p.reference rules.zone = .ok i) :
    e.parse call p (.text x) = evaluate rules math i := by
  have hafter : after? nowWord x.toList = some math := by rw [hx, after?_append]
  rw [engine_parse hrules, parseText_of_now hafter, hi]
  rfl

theorem hasInstant_of_isMath {steps : List Step}
    (h : IsMath (bare math) steps) : HasInstant x := by
  refine ⟨math, hx, fun e call rules p i hrules hi hstays => ?_⟩
  obtain ⟨j, hj⟩ := hstays (bare math) steps List.prefix_rfl h
  refine ⟨some j, ?_, j, rfl⟩
  rw [parse_now hx hrules hi, evaluate_of_isMath h, hj]
  rfl

theorem lacksInstant_of_not_isMath (h : ¬ ∃ steps, IsMath (bare math) steps) :
    LacksInstant x := by
  refine ⟨math, hx, fun e call rules p i hrules hi hstays => ⟨none, ?_, rfl⟩⟩
  rw [parse_now hx hrules hi, evaluate_eq_none_iff hstays]
  exact h

end

theorem hasInstant_now : HasInstant "now" := by
  have hbehind : "now".toList = nowWord ++ [] := rfl
  exact hasInstant_of_isMath hbehind ⟨.nil, digitsEarly_nil 0⟩

/-! ## Presets -/

theorem hasInstant_of_read {x : String}
    (h : ((after? nowWord x.toList).any fun math => (Step.read math).2) = true) :
    HasInstant x := by
  cases hafter : after? nowWord x.toList with
  | none =>
    rw [hafter] at h
    cases h
  | some math =>
    rw [hafter] at h
    obtain ⟨steps, hmath⟩ := read_complete_iff.1 h
    exact hasInstant_of_isMath (after?_eq_some hafter) hmath

theorem hasInstant_of_preset {x : String} (h : IsPresetSide x) :
    HasInstant x := by
  have hreads : ∀ p ∈ presets, ∀ s ∈ [p.start, p.stop],
      ((after? nowWord s.toList).any fun math => (Step.read math).2) =
        true := by decide
  obtain ⟨p, hp, ⟨rfl, -⟩ | ⟨-, rfl⟩⟩ := h
  · exact hasInstant_of_read (hreads p hp _ (by simp))
  · exact hasInstant_of_read (hreads p hp _ (by simp))

/-! ## Offsets -/

section

variable {x : String} {sign : Char} {run : List Char} {unit : CalendarUnit}
  {rest : List Char}
  (h : IsOffset x.toList sign run unit rest)

include h

theorem bare_offset :
    bare (word sign run false unit ++ rest) =
      word sign run false unit ++ bare rest := by
  obtain ⟨-, hsign, -, hdigits, -⟩ := h
  rw [bare_append]
  congr 1
  unfold bare
  rw [List.filter_eq_self]
  intro c hc
  rw [Bool.not_eq_true']
  simp only [word, mark, if_neg Bool.false_ne_true, List.nil_append,
    List.mem_cons, List.mem_append, List.not_mem_nil, or_false] at hc
  rcases hc with rfl | hdigit | rfl
  · rcases hsign with rfl | rfl <;> decide
  · exact isBlank_of_isAsciiDigit (hdigits c hdigit)
  · exact isBlank_letter unit

theorem isMath_offset_iff :
    (∃ steps, IsMath (bare (word sign run false unit ++ rest)) steps) ↔
      DigitsEarly 0 (word sign run false unit ++ bare rest) ∧
      ∃ steps, Written (bare rest) steps := by
  rw [bare_offset h]
  obtain ⟨-, rfl | rfl, -, hdigits, -⟩ := h
  · exact exists_isMath_append_iff (.add hdigits)
  · exact exists_isMath_append_iff (.subtract hdigits)

theorem hasInstant_of_offset {steps : List Step}
    (hrest : Written (bare rest) steps)
    (early : DigitsEarly 0 (word sign run false unit ++ bare rest)) :
    HasInstant x := by
  obtain ⟨steps', hmath⟩ := (isMath_offset_iff h).2 ⟨early, steps, hrest⟩
  exact hasInstant_of_isMath h.1 hmath

theorem lacksInstant_of_offset
    (hrest : (¬ ∃ steps, Written (bare rest) steps) ∨ 10 < run.length) :
    LacksInstant x := by
  refine lacksInstant_of_not_isMath h.1 fun hmath => ?_
  obtain ⟨early, hwritten⟩ := (isMath_offset_iff h).1 hmath
  rcases hrest with hnot | hlong
  · exact hnot hwritten
  · obtain ⟨-, hsign, hrun, hdigits, -⟩ := h
    have hop : ∃ op, Operation.ofSign? sign = some op := by
      rcases hsign with rfl | rfl
      · exact ⟨.adding, rfl⟩
      · exact ⟨.subtracting, rfl⟩
    obtain ⟨op, hop⟩ := hop
    have hshort := length_le_of_digitsEarly hdigits hrun
      ((digitsEarly_word hop).1 (digitsEarly_append.1 early).1)
    omega

end

/-! ## Valid spans -/

theorem described_of_valid {v : String} (hplain : ¬ IsTemplate v)
    (hvalid : Description.isValidSpan v = .ok true) :
    ∃ info, Description.ofText v = .ok info ∧ info.isInvalid = false := by
  unfold Description.isValidSpan at hvalid
  rw [if_neg (by simpa [IsTemplate] using hplain)] at hvalid
  obtain ⟨info, hinfo, hok⟩ := bind_eq_ok.1 hvalid
  exact ⟨info, hinfo, by simpa [pure_eq_ok] using hok⟩

/-- **Where the sides of a valid span have an instant.**  One side is now, which
has one.  The other side has one if it belongs to a preset, or if what follows
its first step is a row of steps and no digit stands too late; it has none if
what follows is no row of steps, or if the amount has more than ten digits. -/
theorem valid_span_answers {v : String} (hplain : ¬ IsTemplate v)
    (hvalid : Description.isValidSpan v = .ok true) :
    (∃ info, Description.ofText v = .ok info ∧
      (info.start, info.stop) = Description.sides v) ∧
    HasInstant "now" ∧
    (IsPresetSide (Description.anchored v) ∨
      ∃ sign run unit rest,
        IsOffset (Description.anchored v).toList sign run unit rest) ∧
    (IsPresetSide (Description.anchored v) → HasInstant (Description.anchored v)) ∧
    ∀ sign run unit rest,
      IsOffset (Description.anchored v).toList sign run unit rest →
      (∀ steps, Written (bare rest) steps →
        DigitsEarly 0 (word sign run false unit ++ bare rest) →
        HasInstant (Description.anchored v)) ∧
      ((¬ ∃ steps, Written (bare rest) steps) ∨ 10 < run.length →
        LacksInstant (Description.anchored v)) := by
  obtain ⟨info, hinfo, hdescribed⟩ := described_of_valid hplain hvalid
  obtain ⟨hsides, hcases⟩ := described_cases hinfo
  refine ⟨⟨info, hinfo, hsides⟩, hasInstant_now, hcases hdescribed,
    hasInstant_of_preset, ?_⟩
  intro sign run unit rest hoffset
  exact ⟨fun steps => hasInstant_of_offset hoffset, lacksInstant_of_offset hoffset⟩

theorem valid_span_answers_ten_days :
    ¬ IsTemplate "10d / d" ∧ Description.isValidSpan "10d / d" = .ok true ∧
    HasInstant "now-10d / d" := by
  have hplain : ¬ IsTemplate "10d / d" := by unfold IsTemplate; decide
  have hvalid : Description.isValidSpan "10d / d" = .ok true := rfl
  have hoffset :
      IsOffset (Description.anchored "10d / d").toList '-' ['1', '0'] .day
        " / d".toList :=
    ⟨rfl, .inr rfl, by decide, List.all_eq_true.1 rfl, rfl⟩
  have hrest : Written (bare " / d".toList) [.round false .day] :=
    (read_eq_iff.1 rfl).1
  exact ⟨hplain, hvalid, ((valid_span_answers hplain hvalid).2.2.2.2
    _ _ _ _ hoffset).1 _ hrest (by decide)⟩

/-- Words behind the unit do not matter to the description, but date math finds
no step in them. -/
theorem valid_span_unanswered :
    ¬ IsTemplate "5m ago" ∧ Description.isValidSpan "5m ago" = .ok true ∧
      (∃ info, Description.ofText "5m ago" = .ok info ∧
        info.start = "now-5m ago") ∧
        ¬ HasInstant "now-5m ago" := by
  refine ⟨by unfold IsTemplate; decide, rfl, ⟨_, rfl, rfl⟩, ?_⟩
  rintro ⟨math, hmath, hanswer⟩
  have hbehind : "now-5m ago".toList = nowWord ++ "-5m ago".toList := rfl
  obtain rfl := List.append_cancel_left (hbehind.symm.trans hmath)
  have hnone : Engine.parse {} {} reference (.text "now-5m ago") = .ok none :=
    rfl
  obtain ⟨o, ho, j, rfl⟩ :=
    hanswer {} {} _ reference _ rfl rfl (stays_iff.2 ⟨_, rfl⟩)
  rw [hnone] at ho
  cases ho

end TimeWindow.Proofs.Range.Spans
