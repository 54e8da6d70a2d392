import TimeWindow.Reading.FreeForm
import TimeWindow.Proofs.Calendar.Units
import TimeWindow.Proofs.Outcome

/-!
# Texts that leave a date to fill in

What a free-form text does not say about its date comes from a default date, and
a year of two digits is placed around the pivot.  A date with its year in full
is filled in one way only (`filled_of_complete`), and any other one in a way
that lies apart from a default date far enough away (`filled_apart`).
-/

namespace TimeWindow.Proofs.Reading.DefaultDate

open TimeWindow.FreeForm TimeWindow.Calendar Calendar.Days Calendar.Units

def Complete (date : PartialDate) : Prop :=
  date.year.isSome = true ∧ date.month.isSome = true ∧ date.day.isSome = true

/-- The year has more than two digits or is written as one that has. -/
def InFull (f : Findings) (date : PartialDate) : Prop :=
  ∀ year, date.year = some year → f.dates.century = true ∨ 100 ≤ year

def findings (pivotYear : Int) (text : String) : Except Failure Findings :=
  readTokens pivotYear (tokens text.toList).length {} [] (tokens text.toList)

def GivesDate (text : String) : Prop :=
  ∃ f date, (∀ pivotYear, findings pivotYear text = .ok f) ∧
    f.dates.resolve? = some date ∧
    Complete date ∧ InFull f date

def filled (f : Findings) (date : PartialDate) (d : Defaults) : Date :=
  let year := (date.year.map fun y =>
    fullYear d.pivotYear y f.dates.century).getD d.date.year
  let month := date.month.getD d.date.month
  ⟨year, month, date.day.getD (min d.date.day (monthLength year month))⟩

def timeOf (f : Findings) : ClockTime :=
  ⟨f.hour.getD 0, f.minute.getD 0, f.second.getD 0, f.microsecond.getD 0⟩

/-- The way from a day to the weekday that is found, if no day is given. -/
def forward (f : Findings) (date : PartialDate) (wall : Wall) : Int :=
  match f.weekday, date.day with
  | some weekday, none => (weekday - wall.weekday) % 7
  | _, _ => 0

def placed (f : Findings) (date : PartialDate) (base : Date) :
    Option Moment := do
  if date.year.isNone && date.month.isNone && date.day.isNone &&
    f.weekday.isNone && f.hour.isNone
    && f.minute.isNone && f.second.isNone && f.microsecond.isNone then none
  let wall ← Wall.of? base (timeOf f)
  let wall := wall.add (forward f date wall * day)
  if !wall.inRange then none
  match f.offset? with
  | none => return .plain wall
  | some seconds =>
    if seconds / 86400 < -(widestOffset - 1) ||
      widestOffset ≤ seconds / 86400 then none
    else return .fixed ⟨wall, .offset seconds⟩

theorem moment?_eq (f : Findings) (d : Defaults) :
    moment? f d = f.dates.resolve?.bind fun date =>
      placed f date (filled f date d) :=
  rfl

/-! ## Complete dates -/

theorem fullYear_inFull {pivotYear year : Int} {century : Bool}
    (h : century = true ∨ 100 ≤ year) :
    fullYear pivotYear year century = year := by
  unfold fullYear
  rw [if_neg]
  simp only [Bool.and_eq_true, decide_eq_true_eq, Bool.not_eq_true', not_and,
    Bool.not_eq_false]
  intro hshort
  rcases h with hcentury | hyear
  · exact hcentury
  · omega

theorem filled_of_complete {f : Findings} {date : PartialDate}
    (h : Complete date) (hfull : InFull f date) (d d' : Defaults) :
    filled f date d = filled f date d' := by
  obtain ⟨hyear, hmonth, hday⟩ := h
  obtain ⟨year, hyear⟩ := Option.isSome_iff_exists.1 hyear
  obtain ⟨month, hmonth⟩ := Option.isSome_iff_exists.1 hmonth
  obtain ⟨day, hday⟩ := Option.isSome_iff_exists.1 hday
  have hwritten : ∀ pivotYear, fullYear pivotYear year f.dates.century = year :=
    fun pivotYear => fullYear_inFull (hfull year hyear)
  simp [filled, hyear, hmonth, hday, hwritten]

theorem read_of_findings {text : String} {f : Findings} {d : Defaults}
    (h : findings d.pivotYear text = .ok f) :
    read text d = .ok (moment? f d) := by
  unfold findings at h
  unfold FreeForm.read
  dsimp only
  rw [h]

theorem findings_of_read {text : String} {d : Defaults} {m : Moment}
    (h : read text d = .ok (some m)) :
    ∃ f, findings d.pivotYear text = .ok f ∧ moment? f d = some m := by
  cases hfindings : findings d.pivotYear text with
  | error failure =>
    unfold findings at hfindings
    unfold FreeForm.read at h
    dsimp only at h
    rw [hfindings] at h
    cases failure <;> cases h
  | ok f =>
    rw [read_of_findings hfindings] at h
    injection h with hm
    exact ⟨f, rfl, hm⟩

theorem read_of_givesDate {text : String} (h : GivesDate text)
    (d d' : Defaults) :
    read text d = read text d' := by
  obtain ⟨f, date, hf, hdate, hcomplete, hfull⟩ := h
  rw [read_of_findings (hf _), read_of_findings (hf _), moment?_eq,
    moment?_eq, hdate]
  dsimp only [Option.bind_some]
  rw [filled_of_complete hcomplete hfull d d']

/-! ## Dates with fields to fill in -/

def far (d : Date) : Date where
  year := if d.year ≤ 5000 then 9000 else 1000
  month := if d.month ≤ 6 then 12 else 1
  day := if d.day ≤ 14 then 28 else 1

theorem proper_of_isReal {d : Date} (h : d.isReal = true) : Proper d := by
  simp only [Date.isReal, Bool.and_eq_true, decide_eq_true_eq] at h
  obtain ⟨⟨⟨⟨-, h₁⟩, h₁₂⟩, hfirst⟩, hlast⟩ := h
  exact ⟨h₁, h₁₂, hfirst, hlast⟩

theorem proper_far (d : Date) : Proper (far d) := by
  have hlength := (monthLength_bounds (far d).year (far d).month).1
  have hmonth : (far d).month = 12 ∨ (far d).month = 1 := by
    unfold far
    dsimp only
    split <;> simp
  have hday : (far d).day = 28 ∨ (far d).day = 1 := by
    unfold far
    dsimp only
    split <;> simp
  exact ⟨by omega, by omega, by omega, by omega⟩

def away (d : Defaults) : Defaults := { d with date := far d.date }

@[simp] theorem pivotYear_away (d : Defaults) :
    (away d).pivotYear = d.pivotYear :=
  rfl

def farClock (clock : Wall) : Wall := .onDate (far clock.date) 0

theorem date_farClock (clock : Wall) :
    (farClock clock).date = far clock.date := by
  refine date_eq_of_dayNumber (proper_far _) ?_
  rw [dayNumber_eq_iff]
  simp only [farClock, Wall.onDate, add_mul]
  unfold day hour minute second
  omega

theorem inRange_farClock (clock : Wall) : (farClock clock).inRange = true := by
  unfold farClock far
  split <;> split <;> split <;> decide

theorem apart_of_months {b b' : Date} (hb : Proper b) (hb' : Proper b')
    (h : b.monthNumber + 1 < b'.monthNumber) :
    b.dayNumber + 7 ≤ b'.dayNumber := by
  have hend := ((monthNumber_eq_iff hb).1 rfl).2
  have hstart := ((monthNumber_eq_iff hb').1 rfl).1
  have hbetween := monthStart_succ (b.monthNumber + 1)
  have hlength := (monthLength_bounds ((b.monthNumber + 1) / 12)
    ((b.monthNumber + 1) % 12 + 1)).1
  have hle : monthStart (b.monthNumber + 1 + 1) ≤ monthStart b'.monthNumber :=
    monthStart_le_iff.2 (by omega)
  omega

def Apart (b b' : Date) : Prop :=
  b.dayNumber + 7 ≤ b'.dayNumber ∨ b'.dayNumber + 7 ≤ b.dayNumber

section

variable {f : Findings} {date : PartialDate} {d : Defaults}

theorem apart_of_year_missing (hyear : date.year = none)
    (hb : Proper (filled f date d)) (hb' : Proper (filled f date (away d))) :
    Apart (filled f date d) (filled f date (away d)) := by
  have hfilled : ∀ d, (filled f date d).year = d.date.year := by
    intro d
    simp [filled, hyear]
  have hfar : (away d).date.year = if d.date.year ≤ 5000 then 9000 else 1000 :=
    rfl
  have hmonths :
      (filled f date d).monthNumber + 1 < (filled f date (away d)).monthNumber ∨
      (filled f date (away d)).monthNumber + 1 <
        (filled f date d).monthNumber := by
    obtain ⟨h₁, h₁₂, -, -⟩ := hb
    obtain ⟨h₁', h₁₂', -, -⟩ := hb'
    unfold Date.monthNumber
    rw [hfilled, hfilled, hfar]
    split <;> omega
  exact hmonths.imp (apart_of_months hb hb') (apart_of_months hb' hb)

theorem apart_of_month_missing (hyear : date.year.isSome = true)
    (hmonth : date.month = none) (hb : Proper (filled f date d))
    (hb' : Proper (filled f date (away d))) :
    Apart (filled f date d) (filled f date (away d)) := by
  obtain ⟨year, hyear⟩ := Option.isSome_iff_exists.1 hyear
  have hyears : (filled f date (away d)).year = (filled f date d).year := by
    simp [filled, hyear]
  have hfilled : ∀ d, (filled f date d).month = d.date.month := by
    intro d
    simp [filled, hmonth]
  have hfar : (away d).date.month = if d.date.month ≤ 6 then 12 else 1 := rfl
  have hmonths :
      (filled f date d).monthNumber + 1 < (filled f date (away d)).monthNumber ∨
      (filled f date (away d)).monthNumber + 1 <
        (filled f date d).monthNumber := by
    obtain ⟨h₁, h₁₂, -, -⟩ := hb
    rw [hfilled] at h₁ h₁₂
    unfold Date.monthNumber
    rw [hyears, hfilled, hfilled, hfar]
    split <;> omega
  exact hmonths.imp (apart_of_months hb hb') (apart_of_months hb' hb)

theorem apart_of_day_missing (hyear : date.year.isSome = true)
    (hmonth : date.month.isSome = true) (hday : date.day = none) :
    Apart (filled f date d) (filled f date (away d)) := by
  obtain ⟨year, hyear⟩ := Option.isSome_iff_exists.1 hyear
  obtain ⟨month, hmonth⟩ := Option.isSome_iff_exists.1 hmonth
  have hfilled :
      ∀ d, filled f date d = ⟨fullYear d.pivotYear year f.dates.century, month,
      min d.date.day
        (monthLength (fullYear d.pivotYear year f.dates.century) month)⟩ := by
    intro d
    simp [filled, hyear, hmonth, hday]
  have hfar : (away d).date.day = if d.date.day ≤ 14 then 28 else 1 := rfl
  have hlength :=
    (monthLength_bounds (fullYear d.pivotYear year f.dates.century) month).1
  unfold Apart Date.dayNumber
  rw [hfilled, hfilled, hfar, pivotYear_away]
  dsimp only
  split <;> omega

/-- An incomplete date is filled in with a week or more between, from a default
date and from the one far away. -/
theorem filled_apart (h : ¬ Complete date) (hb : Proper (filled f date d))
    (hb' : Proper (filled f date (away d))) :
    Apart (filled f date d) (filled f date (away d)) := by
  -- the largest unit that is missing sets the dates apart, whatever the smaller
  -- ones do
  cases hyear : date.year with
  | none => exact apart_of_year_missing hyear hb hb'
  | some year =>
    have hyear : date.year.isSome = true := by rw [hyear]; rfl
    cases hmonth : date.month with
    | none => exact apart_of_month_missing hyear hmonth hb hb'
    | some month =>
      have hmonth : date.month.isSome = true := by rw [hmonth]; rfl
      refine apart_of_day_missing hyear hmonth ?_
      rw [← Option.not_isSome_iff_eq_none]
      exact fun hday => h ⟨hyear, hmonth, hday⟩

end

/-! ## Where the filled date leads to -/

def tied (f : Findings) (wall : Wall) : Moment :=
  match f.offset? with
  | none => .plain wall
  | some seconds => .fixed ⟨wall, .offset seconds⟩

theorem tied_injective (f : Findings) : Function.Injective (tied f) := by
  intro w w' h
  unfold tied at h
  split at h
  · cases h
    rfl
  · cases h
    rfl

theorem dayNumber_onDate {d : Date} {c : ClockTime} (hc : c.isReal = true)
    (n : Int) :
    ((Wall.onDate d c.ticks).add (n * day)).dayNumber = d.dayNumber + n := by
  have hticks : 0 ≤ c.ticks ∧ c.ticks < day := by
    simp only [ClockTime.isReal, Bool.and_eq_true, decide_eq_true_eq] at hc
    unfold ClockTime.ticks Calendar.hour minute second day Calendar.hour
      minute second
    omega
  rw [dayNumber_eq_iff]
  simp only [Wall.onDate, Wall.add, add_mul]
  omega

theorem forward_bounds (f : Findings) (date : PartialDate) (wall : Wall) :
    0 ≤ forward f date wall ∧ forward f date wall < 7 := by
  unfold forward
  split <;> omega

theorem placed_eq_some {f : Findings} {date : PartialDate} {base : Date}
    {m : Moment} (h : placed f date base = some m) :
    ∃ start, Wall.of? base (timeOf f) = some start ∧
      m = tied f (start.add (forward f date start * day)) ∧
      (start.add (forward f date start * day)).inRange = true := by
  unfold placed at h
  unfold tied
  cases hoffset : f.offset? with
  | none =>
    simp only [hoffset, Option.bind_eq_bind, Option.pure_def, Option.bind_none,
      Option.ite_none_left_eq_some] at h
    obtain ⟨start, hstart, h⟩ := Option.bind_eq_some_iff.1 h.2
    rw [Option.ite_none_left_eq_some, Option.some_inj] at h
    exact ⟨start, hstart, h.2.symm, by simpa using h.1⟩
  | some seconds =>
    simp only [hoffset, Option.bind_eq_bind, Option.pure_def, Option.bind_none,
      Option.ite_none_left_eq_some] at h
    obtain ⟨start, hstart, h⟩ := Option.bind_eq_some_iff.1 h.2
    rw [Option.ite_none_left_eq_some, Option.ite_none_left_eq_some,
      Option.some_inj] at h
    exact ⟨start, hstart, h.2.2.symm, by simpa using h.1⟩

theorem placed_near {f : Findings} {date : PartialDate} {base : Date}
    {m : Moment} (h : placed f date base = some m) :
    Proper base ∧ ∃ wall, m = tied f wall ∧ base.dayNumber ≤ wall.dayNumber ∧
      wall.dayNumber < base.dayNumber + 7 := by
  obtain ⟨start, hstart, hm, -⟩ := placed_eq_some h
  unfold Wall.of? at hstart
  rw [Option.ite_none_right_eq_some, Bool.and_eq_true, Option.some_inj] at hstart
  obtain ⟨⟨hdate, htime⟩, rfl⟩ := hstart
  have hbounds := forward_bounds f date (Wall.onDate base (timeOf f).ticks)
  have hday := dayNumber_onDate (d := base) htime
    (forward f date (Wall.onDate base (timeOf f).ticks))
  exact ⟨proper_of_isReal hdate, _, hm, by omega, by omega⟩

theorem placed_ne {f : Findings} {date : PartialDate} {b b' : Date}
    {m m' : Moment} (h : Apart b b') (hm : placed f date b = some m)
    (hm' : placed f date b' = some m') : m ≠ m' := by
  obtain ⟨-, wall, rfl, hfirst, hlast⟩ := placed_near hm
  obtain ⟨-, wall', rfl, hfirst', hlast'⟩ := placed_near hm'
  intro hsame
  cases tied_injective f hsame
  rcases h with h | h <;> omega

theorem moment?_eq_some {f : Findings} {d : Defaults} {m : Moment}
    (h : moment? f d = some m) :
    ∃ wall, m = tied f wall ∧ wall.inRange = true := by
  rw [moment?_eq] at h
  obtain ⟨date, -, hplaced⟩ := Option.bind_eq_some_iff.1 h
  obtain ⟨start, -, hm, hrange⟩ := placed_eq_some hplaced
  exact ⟨_, hm, hrange⟩

theorem read_eq_some {text : String} {d : Defaults} {m : Moment}
    (h : read text d = .ok (some m)) :
    ∃ f wall, findings d.pivotYear text = .ok f ∧ m = tied f wall ∧
      wall.inRange = true := by
  obtain ⟨f, hfindings, hm⟩ := findings_of_read h
  obtain ⟨wall, hm, hrange⟩ := moment?_eq_some hm
  exact ⟨f, wall, hfindings, hm, hrange⟩

theorem moment?_away_ne {f : Findings} {date : PartialDate} {d : Defaults}
    {m : Moment} (hdate : f.dates.resolve? = some date) (h : ¬ Complete date)
    (hm : moment? f d = some m) :
    moment? f (away d) ≠ some m := by
  intro hm'
  rw [moment?_eq, hdate, Option.bind_some] at hm hm'
  have hapart := filled_apart h (placed_near hm).1 (placed_near hm').1
  exact placed_ne hapart hm hm' rfl

end TimeWindow.Proofs.Reading.DefaultDate
