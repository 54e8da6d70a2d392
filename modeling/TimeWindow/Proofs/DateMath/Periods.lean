import TimeWindow.Proofs.DateMath.Evaluation
import TimeWindow.Proofs.DateMath.Expression
import TimeWindow.Proofs.DateMath.Steady
import TimeWindow.Proofs.DateMath.Decimal
import TimeWindow.Zone.Catalog

/-!
# Previous periods

The expression that goes back some units and rounds to one of them names a
period before the present one, by its beginning or by its end.  In a zone of one
offset such periods follow one another without a gap (`previous_abuts`).
-/

namespace TimeWindow.Proofs.DateMath.Periods

open TimeWindow.DateMath TimeWindow.Text Calendar.Tilings Zone.Steady Outcome
  DateMath.Decimal DateMath.Grammar DateMath.Evaluation DateMath.Expression
  DateMath.Steady

def millisecond : Int := 1000

def previous (n : Nat) (unit : CalendarUnit) (fiscal : Bool) : String :=
  "now-" ++ toString n ++ String.singleton unit.letter ++ "/" ++
    (if fiscal then "f" else "") ++
    String.singleton unit.letter

/-! ## How it is written -/

def stepsBack (n : Nat) (unit : CalendarUnit) (fiscal : Bool) : List Char :=
  word '-' (Nat.toDigits 10 n) false unit ++ (word '/' [] fiscal unit ++ [])

theorem toList_previous (n : Nat) (unit : CalendarUnit) (fiscal : Bool) :
    (previous n unit fiscal).toList = nowWord ++ stepsBack n unit fiscal := by
  have hmark : (if fiscal then "f" else "").toList = mark fiscal := by
    cases fiscal <;> rfl
  simp only [previous, stepsBack, word, nowWord, String.toList_append,
    String.toList_singleton, hmark, Nat.toString_eq_repr, Nat.toList_repr]
  simp [mark]

theorem isBlank_letter (unit : CalendarUnit) : isBlank unit.letter = false := by
  cases unit <;> decide

theorem bare_stepsBack (n : Nat) (unit : CalendarUnit) (fiscal : Bool) :
    bare (stepsBack n unit fiscal) = stepsBack n unit fiscal := by
  unfold bare
  rw [List.filter_eq_self]
  intro c hc
  have hf : isBlank 'f' = false := by decide
  have hmark : ∀ d ∈ mark fiscal, isBlank d = false := by
    cases fiscal <;> simp [mark, hf]
  simp only [stepsBack, word, mark, List.mem_append, List.mem_cons,
    List.not_mem_nil, or_false, Bool.false_eq_true, if_false,
    List.nil_append] at hc
  rw [Bool.not_eq_true']
  rcases hc with (rfl | hdigit | rfl) | rfl | hfiscal | rfl
  · decide
  · exact isBlank_of_isDigit (isDigit_toDigits hdigit)
  · exact isBlank_letter unit
  · decide
  · exact hmark c hfiscal
  · exact isBlank_letter unit

theorem isMath_stepsBack {n : Nat} (hn : n < 10 ^ 9) (unit : CalendarUnit)
    (fiscal : Bool) :
    IsMath (bare (stepsBack n unit fiscal))
      [.shift (-(n : Int)) unit, .round fiscal unit] := by
  have hdigits : ∀ c ∈ Nat.toDigits 10 n, isAsciiDigit c = true := fun c hc =>
    isAsciiDigit_of_isDigit (isDigit_toDigits hc)
  have hamount : amount (Nat.toDigits 10 n) = n := by
    rw [amount, if_neg Nat.toDigits_ne_nil, digitsValue_toDigits]
  have hlength : (Nat.toDigits 10 n).length ≤ 9 :=
    (Nat.length_toDigits_le_iff (by decide) (by decide)).2 hn
  rw [bare_stepsBack]
  constructor
  · have hback : WrittenStep (word '-' (Nat.toDigits 10 n) false unit)
        (.shift (-(n : Int)) unit) := by
      have hwritten :=
        @WrittenStep.subtract (Nat.toDigits 10 n) false unit hdigits
      rwa [hamount] at hwritten
    have hround : WrittenStep (word '/' [] fiscal unit) (.round fiscal unit) :=
      .round (by simp) rfl
    exact .cons hback (.cons hround .nil)
  · rw [stepsBack, List.append_nil, digitsEarly_append, digitsEarly_word rfl,
      digitsEarly_word rfl]
    refine ⟨?_, digitsEarly_nil _⟩
    intro k hk _
    omega

/-! ## Where it leads -/

/-- In a zone of one offset the expression has a value: what the clock shows at
the reference instant, moved back and rounded. -/
theorem parse_previous {rules : Rules} {weekStart : WeekStart} {p : Present}
    {n : Nat} {unit : CalendarUnit} {fiscal : Bool} {T : Tiling}
    {a : Option Instant}
    (h : parse rules p (.text (previous n unit fiscal)) = .ok a)
    (hsteady : rules.zone.isConstant = true)
    (hweek : rules.weekStart = some weekStart)
    (hT : tiling? rules.fiscalStart weekStart fiscal unit = some T)
    (hn : n < 10 ^ 9) :
    ∃ here v, p.reference rules.zone = .ok here ∧
      here.wall.addUnits (-(n : Int)) unit = .ok v ∧
      a = some (shown rules.zone (T.round rules.roundUp v)) := by
  have hnow :
      after? nowWord (previous n unit fiscal).toList =
        some (stepsBack n unit fiscal) := by
    rw [toList_previous, after?_append]
  change parseText rules p (previous n unit fiscal) = .ok a at h
  rw [parseText_of_now hnow] at h
  obtain ⟨here, hhere, h⟩ := bind_eq_ok.1 h
  rw [evaluate_of_isMath (isMath_stepsBack hn unit fiscal)] at h
  obtain ⟨rounded, hsteps, rfl⟩ := map_eq_ok.1 h
  rw [reference_shown hsteady hhere, takeAll_cons] at hsteps
  obtain ⟨moved, hback, hrest⟩ := bind_eq_ok.1 hsteps
  obtain ⟨v, rfl, hmoves⟩ := apply_shown hback hsteady hweek
  rw [takeAll_cons] at hrest
  obtain ⟨rounded, hround, hend⟩ := bind_eq_ok.1 hrest
  cases hend
  obtain ⟨r, rfl, hmoves'⟩ := apply_shown hround hsteady hweek
  cases hmoves with
  | shift hv =>
    refine ⟨here, v, hhere, hv, ?_⟩
    cases hmoves' with
    | round hT' =>
      rw [hT] at hT'
      cases hT'
      rfl
    | idle hnone =>
      rw [hT] at hnone
      cases hnone

/-- **Previous periods abut the following ones.**  In every zone of one offset,
for every reference instant, fiscal calendar and week start and every `n` of at
most nine digits: the end of the period `n + 1` units back is a millisecond
before the beginning of the period `n` units back. -/
theorem previous_abuts {rules : Rules} {weekStart : WeekStart} {p : Present}
    {n : Nat} {unit : CalendarUnit} {fiscal : Bool} {a b : Option Instant}
    (hsteady : rules.zone.isConstant = true)
    (hweek : rules.weekStart = some weekStart)
    (hfiscal : fiscal = true → unit = .quarter ∨ unit = .year)
    (hn : n + 1 < 10 ^ 9)
    (ha : parse { rules with roundUp := true } p
      (.text (previous (n + 1) unit fiscal)) = .ok a)
    (hb : parse { rules with roundUp := false } p
      (.text (previous n unit fiscal)) = .ok b) :
    ∃ i j, a = some i ∧ b = some j ∧ i.utcTicks + millisecond = j.utcTicks := by
  have htiling :
      ∃ T, tiling? rules.fiscalStart weekStart fiscal unit = some T := by
    cases fiscal with
    | false => exact ⟨_, rfl⟩
    | true =>
      rcases hfiscal rfl with rfl | rfl
      · exact ⟨_, rfl⟩
      · exact ⟨_, rfl⟩
  obtain ⟨T, hT⟩ := htiling
  obtain ⟨here, v, hhere, hv, rfl⟩ := parse_previous ha hsteady hweek hT hn
  obtain ⟨here', w, hhere', hw, rfl⟩ :=
    parse_previous hb hsteady hweek hT (by omega)
  rw [hhere] at hhere'
  cases hhere'
  have hback := index_addUnits hT hv
  have hback' := index_addUnits hT hw
  have hfollows : T.index w = T.index v + 1 := by
    push_cast at hback
    omega
  refine ⟨_, _, rfl, rfl, ?_⟩
  have habuts := T.round_abuts hfollows
  rw [utcTicks_shown, utcTicks_shown]
  dsimp only
  unfold millisecond
  unfold lastMoment at habuts
  omega

def western : Rules where
  zone := Zone.west 5
  weekStart := some .monday

def firstQuarter (month day sinceMidnight : Int) : Wall :=
  .onDate ⟨2024, month, day⟩ sinceMidnight

def endOfMarch : Present where
  clock := firstQuarter 3 31 0
  now := some (.fixed (.ofUtc (firstQuarter 3 31 (12 * Calendar.hour))))

theorem previous_abuts_leap_day :
    ∃ i j, parse { western with roundUp := true } endOfMarch (.text "now-2M/M") =
      .ok (some i) ∧
      parse { western with roundUp := false } endOfMarch (.text "now-1M/M") =
        .ok (some j) ∧
      i.utcTicks + millisecond = j.utcTicks := by
  have ha :
      parse { western with roundUp := true } endOfMarch
        (.text (previous 2 .month false)) =
      .ok (some (shown western.zone
        (firstQuarter 1 31 (Calendar.day - millisecond)))) := by
    decide +kernel
  have hb :
      parse { western with roundUp := false } endOfMarch
        (.text (previous 1 .month false)) =
      .ok (some (shown western.zone (firstQuarter 2 1 0))) := by
    decide +kernel
  obtain ⟨i, j, hi, hj, habuts⟩ :=
    previous_abuts rfl rfl (by simp) (by decide) ha hb
  rw [hi] at ha
  rw [hj] at hb
  exact ⟨i, j, ha, hb, habuts⟩

end TimeWindow.Proofs.DateMath.Periods
