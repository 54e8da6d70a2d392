import TimeWindow.Proofs.Range.Resolution
import TimeWindow.Proofs.Reading.Bars

/-!
# Which texts a range takes for expressions

Three tests sort the sides of a range.  A text is math when it begins with `now`
or holds two bars in a row, and its range then keeps the raw pair; it is
evaluated as an expression when it speaks of now anywhere; and `Engine.parse`
evaluates every expression.  Where the tests differ, an anchored text is left
without an instant (`math_text_agrees`), and a text with `now` inside it is
frozen (`relative_kept_or_frozen`).
-/

namespace TimeWindow.Proofs.Range.Expressions

open TimeWindow.DateMath TimeWindow.Text Outcome Range.Resolution Reading.Bars

/-! ## Math texts under the two entry points -/

theorem bars_of_math {s : String} (hmath : isMathText s = true)
    (hnow : Engine.mentionsNow s = false) : anchorMark <:+: s.toList := by
  unfold isMathText at hmath
  rw [Bool.or_eq_true] at hmath
  rcases hmath with hbegins | hmark
  · have hmentions : Engine.mentionsNow s = true :=
      mentions_of_beginsWith hbegins
    rw [hmentions] at hnow
    cases hnow
  · unfold mentions at hmark
    obtain ⟨⟨before, rest⟩, hcut⟩ := Option.isSome_iff_exists.1 hmark
    exact ⟨before, rest, (cutAt?_eq_append hcut).symm⟩

theorem parseAbsolute_of_bars {s : String} (hbars : anchorMark <:+: s.toList)
    (clock : Wall) (z : Zone) (pivotYear : Int) :
    parseAbsolute clock s z pivotYear = .ok none ∨
      parseAbsolute clock s z pivotYear = .error .tooPrecise := by
  unfold parseAbsolute
  rcases read_of_bars ⟨clock.date, pivotYear⟩ hbars with hread | hread
  · rw [hread]
    exact .inl rfl
  · rw [hread]
    exact .inr rfl

section

variable {e : Engine} {call : Engine.Call} {p : Present} {s : String}
  {i : Instant}

theorem rules_of_parse (hparse : e.parse call p (.text s) = .ok (some i)) :
    ∃ rules, e.rules call = .ok rules ∧ parseText rules p s = .ok (some i) := by
  obtain ⟨rules, hrules, -⟩ := bind_eq_ok.1 hparse
  rw [engine_parse hrules] at hparse
  exact ⟨rules, hrules, hparse⟩

theorem parseInstant_of_now (hnow : Engine.mentionsNow s = true)
    (hparse : e.parse call p (.text s) = .ok (some i)) :
    e.parseInstant call p (.text s) = .ok (some i) := by
  obtain ⟨rules, hrules, hvalue⟩ := rules_of_parse hparse
  rw [parseInstant_text hrules, if_pos hnow]
  exact bind_eq_ok.2 ⟨some i, hvalue, rfl⟩

theorem parseInstant_of_anchor (hmath : isMathText s = true)
    (hnow : Engine.mentionsNow s = false)
    (hparse : e.parse call p (.text s) = .ok (some i)) :
    e.parseInstant call p (.text s) = .ok none ∨
      e.parseInstant call p (.text s) = .error .tooPrecise := by
  obtain ⟨rules, hrules, -⟩ := rules_of_parse hparse
  rw [parseInstant_text hrules, if_neg (Bool.eq_false_iff.1 hnow)]
  exact parseAbsolute_of_bars (bars_of_math hmath hnow) _ _ _

theorem parseInstant_of_math (hmath : isMathText s = true)
    {answer : Option Instant}
    (hparse : e.parse call p (.text s) = .ok (some i))
    (hanswer : e.parseInstant call p (.text s) = .ok answer) :
    answer = if Engine.mentionsNow s then some i else none := by
  split
  · rename_i hnow
    rw [parseInstant_of_now hnow hparse] at hanswer
    cases hanswer
    rfl
  · rename_i hnow
    rcases parseInstant_of_anchor hmath (Bool.eq_false_iff.2 hnow)
      hparse with h | h
    · rw [h] at hanswer
      cases hanswer
      rfl
    · rw [h] at hanswer
      cases hanswer

end

/-- **A math text that speaks of now has the same instant under both entry
points, and any other math text is resolved by the first alone.**  An anchored
text is left to the free-form reader, which takes no two bars in a row; so a
side of a range that is kept as math and has a value is missing exactly when it
does not speak of now. -/
theorem math_text_agrees {s : String} (hmath : isMathText s = true) :
    (∀ {e : Engine} {call : Engine.Call} {p : Present} {i : Instant},
      e.parse call p (.text s) = .ok (some i) →
        (Engine.mentionsNow s = true →
          e.parseInstant call p (.text s) = .ok (some i)) ∧
        (Engine.mentionsNow s = false →
          e.parseInstant call p (.text s) = .ok none ∨
          e.parseInstant call p (.text s) = .error .tooPrecise)) ∧
    ∀ {e : Engine} {c : RawRange.Call} {p : Present} {raw : RawRange}
      {r : TimeRange},
      raw.resolve e c p = .ok r →
        (raw.start = .text s → r.raw = raw ∧
          ∀ i, e.parse (c.side false) p raw.start = .ok (some i) →
            r.start = if Engine.mentionsNow s then some (.fixed i) else none) ∧
        (raw.stop = .text s → r.raw = raw ∧
          ∀ i, e.parse (c.side true) p raw.stop = .ok (some i) →
            r.stop = if Engine.mentionsNow s then some (.fixed i)
              else none) := by
  constructor
  · intro e call p i hparse
    exact ⟨fun hnow => parseInstant_of_now hnow hparse,
      fun hnow => parseInstant_of_anchor hmath hnow hparse⟩
  · intro e c p raw r hresolve
    obtain ⟨start, stop, hstart, hstop, hrstart, hrstop⟩ :=
      resolve_eq_ok hresolve
    constructor
    · intro hside
      have hkept : raw.start.isMath = true := by
        rw [hside]
        exact hmath
      refine ⟨resolve_raw_of_math hresolve (by rw [hkept, Bool.true_or]), ?_⟩
      intro i hparse
      rw [hside] at hparse hstart
      rw [hrstart, parseInstant_of_math hmath hparse hstart]
      split <;> rfl
    · intro hside
      have hkept : raw.stop.isMath = true := by
        rw [hside]
        exact hmath
      refine ⟨resolve_raw_of_math hresolve (by rw [hkept, Bool.or_true]), ?_⟩
      intro i hparse
      rw [hside] at hparse hstop
      rw [hrstop, parseInstant_of_math hmath hparse hstop]
      split <;> rfl

theorem anchored_text_missing :
    ∃ i r, Engine.parse {} {} reference (.text "2024-01-01||+1d") =
      .ok (some i) ∧
      RawRange.resolve {} {} reference ⟨.text "2024-01-01||+1d", .text "now"⟩ =
        .ok r ∧
      r.raw = ⟨.text "2024-01-01||+1d", .text "now"⟩ ∧ r.start = none := by
  have hmath : isMathText "2024-01-01||+1d" = true := by decide
  have hnow : Engine.mentionsNow "2024-01-01||+1d" = false := by decide
  obtain ⟨i, hi⟩ :
      ∃ i, Engine.parse {} {} reference (.text "2024-01-01||+1d") =
        .ok (some i) :=
    ⟨_, rfl⟩
  obtain ⟨r, hr⟩ : ∃ r, RawRange.resolve {} {} reference
      ⟨.text "2024-01-01||+1d", .text "now"⟩ = .ok r := ⟨_, rfl⟩
  obtain ⟨hraw, hstart⟩ := ((math_text_agrees hmath).2 hr).1 rfl
  have hmissing := hstart i hi
  rw [hnow] at hmissing
  exact ⟨i, r, hi, hr, hraw, hmissing⟩

theorem entry_points_differ :
    ¬ ∀ (e : Engine) (call : Engine.Call) (p : Present) (s : String) (i : Instant),
      isMathText s = true → e.parse call p (.text s) = .ok (some i) →
        e.parseInstant call p (.text s) = .ok (some i) := by
  intro h
  have hmath : isMathText "2024-01-01||+1d" = true := by decide
  obtain ⟨i, hi⟩ :
      ∃ i, Engine.parse {} {} reference (.text "2024-01-01||+1d") =
        .ok (some i) :=
    ⟨_, rfl⟩
  have hnone :
      Engine.parseInstant {} {} reference (.text "2024-01-01||+1d") = .ok none :=
    rfl
  have hsome := h {} {} reference "2024-01-01||+1d" i hmath hi
  rw [hnone] at hsome
  cases hsome

/-! ## Relative pairs -/

theorem isRelative_sides (start stop : Option Moment) :
    RawRange.isRelative ⟨TimeRange.side start, TimeRange.side stop⟩ = false := by
  cases start <;> cases stop <;> rfl

theorem parseInstant_side (e : Engine) (call : Engine.Call) (p p' : Present)
    (m : Option Moment) :
    e.parseInstant call p (TimeRange.side m) =
      e.parseInstant call p' (TimeRange.side m) := by
  cases m <;> rfl

theorem resolve_sides (e : Engine) (c : RawRange.Call) (p p' : Present)
    (start stop : Option Moment) :
    RawRange.resolve e c p ⟨TimeRange.side start, TimeRange.side stop⟩ =
      RawRange.resolve e c p' ⟨TimeRange.side start, TimeRange.side stop⟩ := by
  unfold RawRange.resolve
  rw [parseInstant_side e _ p p', parseInstant_side e _ p p']

theorem isSome_of_sideIsRelative {e : Engine} {call : Engine.Call}
    {p : Present} {side : Source} {answer : Option Instant}
    (hrelative : RawRange.sideIsRelative side = true)
    (h : e.parseInstant call p side = .ok answer) : answer.isSome := by
  cases side with
  | text s =>
    obtain ⟨rules, hrules, -⟩ := bind_eq_ok.1 h
    obtain ⟨i, rfl, -⟩ := parseInstant_answer hrules h hrelative
    rfl
  | moment | number | flag | collection | absent => cases hrelative

/-- **A relative pair is kept exactly when one of its sides is math.**
Otherwise its resolved sides take its place: those that speak of now are
instants, and what is left is not relative and resolves to the same at every
later now. -/
theorem relative_kept_or_frozen {e : Engine} {c : RawRange.Call} {p : Present}
    {raw : RawRange} {r : TimeRange} (h : raw.resolve e c p = .ok r)
    (hrelative : raw.isRelative = true) :
    ((r.raw = raw ∧ r.raw.isRelative = true) ↔
      (raw.start.isMath || raw.stop.isMath) = true) ∧
      ((raw.start.isMath || raw.stop.isMath) = false →
        r = .ofMoments r.start r.stop ∧
        (RawRange.sideIsRelative raw.start = true → r.start.isSome) ∧
        (RawRange.sideIsRelative raw.stop = true → r.stop.isSome) ∧
        r.raw.isRelative = false ∧
        ∀ p', r.raw.resolve e c p' = r.raw.resolve e c p) := by
  obtain ⟨start, stop, hstart, hstop, hrstart, hrstop⟩ := resolve_eq_ok h
  cases hmath : raw.start.isMath || raw.stop.isMath with
  | true =>
    have hkept := resolve_raw_of_math h hmath
    refine ⟨⟨fun _ => rfl, fun _ => ⟨hkept, ?_⟩⟩, fun hfalse => by cases hfalse⟩
    rw [hkept]
    exact hrelative
  | false =>
    have hraw := resolve_raw h
    rw [hmath] at hraw
    have hfrozen : r.raw.isRelative = false := by
      rw [hraw]
      exact isRelative_sides r.start r.stop
    refine ⟨⟨?_, fun hfalse => by cases hfalse⟩, fun _ =>
      ⟨?_, ?_, ?_, hfrozen, ?_⟩⟩
    · rintro ⟨-, hkept⟩
      rw [hfrozen] at hkept
      cases hkept
    · cases r
      exact congrArg _ hraw
    · intro hside
      rw [hrstart, Option.isSome_map]
      exact isSome_of_sideIsRelative hside hstart
    · intro hside
      rw [hrstop, Option.isSome_map]
      exact isSome_of_sideIsRelative hside hstop
    · intro p'
      rw [hraw]
      exact resolve_sides e c p' p r.start r.stop

theorem indented_now_frozen :
    ∃ r, RawRange.resolve {} {} reference ⟨.text " now", .text " now"⟩ = .ok r ∧
      r.start.isSome ∧ r.raw.isRelative = false ∧
      ∀ p', r.raw.resolve {} {} p' = r.raw.resolve {} {} reference := by
  have hrelative : RawRange.isRelative ⟨.text " now", .text " now"⟩ =
      true := by decide
  have hside : RawRange.sideIsRelative (.text " now") = true := by decide
  have hmath : (Source.isMath (.text " now") || Source.isMath (.text " now")) =
      false := by decide
  obtain ⟨r, hr⟩ :
      ∃ r, RawRange.resolve {} {} reference ⟨.text " now", .text " now"⟩ =
        .ok r :=
    ⟨_, rfl⟩
  obtain ⟨-, hstart, -, hfrozen, hsame⟩ :=
    (relative_kept_or_frozen hr hrelative).2 hmath
  exact ⟨r, hr, hstart hside, hfrozen, hsame⟩

theorem relative_not_kept :
    ¬ ∀ (e : Engine) (c : RawRange.Call) (p : Present) (raw : RawRange)
      (r : TimeRange),
      raw.resolve e c p = .ok r → raw.isRelative = true →
        r.raw = raw ∧ r.raw.isRelative = true := by
  intro h
  have hrelative : RawRange.isRelative ⟨.text " now", .text " now"⟩ =
      true := by decide
  obtain ⟨r, hr, hfrozen⟩ :
      ∃ r, RawRange.resolve {} {} reference ⟨.text " now", .text " now"⟩ = .ok r ∧
      r.raw.isRelative = false :=
    ⟨_, rfl, rfl⟩
  obtain ⟨-, hkept⟩ := h {} {} reference _ r hr hrelative
  rw [hfrozen] at hkept
  cases hkept

end TimeWindow.Proofs.Range.Expressions
