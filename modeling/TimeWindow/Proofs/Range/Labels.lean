import TimeWindow.Proofs.DateMath.Expression
import TimeWindow.Proofs.Range.Resolution

/-!
# Labels beside a moment

A range of one moment and one other side is labelled by the moment and by how
long ago the other side is.  Only that second part looks at the present, so two
presents give one label exactly if they tell it alike (`describe_eq_iff`).  An
expression behind `now` is evaluated in UTC, whatever the zone of the label
(`told_now`).
-/

namespace TimeWindow.Proofs.Range.Labels

open TimeWindow.DateMath TimeWindow.Text Outcome DateMath.Expression
  Range.Resolution

/-! ## Pairs with one moment -/

/-- A pair of a moment and another side: the moment, whether the other side is
the end, and the other side. -/
inductive Mixed : RawRange → Moment → Bool → Source → Prop where
  | opening (m : Moment) {s : Source} (other : ∀ m', s ≠ .moment m') :
      Mixed ⟨.moment m, s⟩ m true s
  | closing (m : Moment) {s : Source} (other : ∀ m', s ≠ .moment m') :
      Mixed ⟨s, .moment m⟩ m false s

theorem Mixed.unique {raw : RawRange} {m m' : Moment} {up up' : Bool}
    {s s' : Source} (h : Mixed raw m up s) (h' : Mixed raw m' up' s') :
    m = m' ∧ up = up' ∧ s = s' := by
  cases h with
  | opening m other =>
    cases h' with
    | opening => exact ⟨rfl, rfl, rfl⟩
    | closing m' => exact absurd rfl (other m')
  | closing m other =>
    cases h' with
    | opening m' => exact absurd rfl (other m')
    | closing => exact ⟨rfl, rfl, rfl⟩

/-! ## What is told beside the moment -/

/-- How long ago an instant is told to be.  The moment beside it must be shown
as well, and comes first if it opens the range. -/
def tellAgo (e : Engine) (timeZone : Option String) (p : Present) (m : Moment)
    (up : Bool) (i : Instant) :
    Except Fault String :=
  if up then do
    let _ ← e.format m timeZone
    e.timeAgo (.fixed i) timeZone p
  else do
    let ago ← e.timeAgo (.fixed i) timeZone p
    let _ ← e.format m timeZone
    return ago

/-- What is told of the answer that an expression has, if it has one. -/
def tellAnswer (e : Engine) (timeZone : Option String) (p : Present)
    (m : Moment) (up : Bool) :
    Option Instant → Except Fault (Option String)
  | none => .ok none
  | some i => (tellAgo e timeZone p m up i).map some

def told (e : Engine) (timeZone : Option String) (p : Present) (m : Moment)
    (up : Bool) (s : Source) :
    Except Fault (Option String) :=
  e.parse { roundUp := up, timeZone := some "utc" } p s >>=
    tellAnswer e timeZone p m up

/-- The label of a moment with what is told beside it. -/
def label (text : String) (up : Bool) : Option String → String
  | none => ""
  | some ago => if up then text ++ " to " ++ ago else ago ++ " to " ++ text

theorem label_injective (text : String) (up : Bool) :
    Function.Injective (label text up) := by
  -- a label that tells something is not the empty one
  have hto : ∀ a b : String, a ++ " to " ++ b ≠ "" := by
    intro a b h
    have hlength := congrArg String.length h
    simp [String.length_append] at hlength
  intro o o' h
  cases o with
  | none =>
    cases o' with
    | none => rfl
    | some ago' => cases up <;> exact absurd h.symm (hto _ _)
  | some ago =>
    cases o' with
    | none => cases up <;> exact absurd h (hto _ _)
    | some ago' => cases up <;> simpa [label] using h

section

variable {e : Engine} {timeZone : Option String} {raw : RawRange} {m : Moment}
  {up : Bool} {s : Source}

/-- The label of a moment with an instant beside it; what opens the range is put
first. -/
def labelBeside (e : Engine) (timeZone : Option String) (p : Present)
    (m : Moment) (up : Bool) (i : Instant) : Except Fault String :=
  if up then do
    let shown ← e.format m timeZone
    let ago ← e.timeAgo (.fixed i) timeZone p
    return shown ++ " to " ++ ago
  else do
    let ago ← e.timeAgo (.fixed i) timeZone p
    let shown ← e.format m timeZone
    return ago ++ " to " ++ shown

theorem describeOther_eq (h : Mixed raw m up s) (p : Present) :
    raw.describeOther e timeZone p = (do
      match ← e.parse { roundUp := up, timeZone := some "utc" } p s with
      | none => return ""
      | some i => labelBeside e timeZone p m up i) := by
  cases h with
  | opening m other | closing m other =>
    cases s with
    | moment m' => exact absurd rfl (other m')
    | text | number | flag | collection | absent => rfl

theorem labelBeside_eq (p : Present) (m : Moment) (up : Bool) (i : Instant) :
    labelBeside e timeZone p m up i = (tellAgo e timeZone p m up i).map fun ago =>
      label ((e.format m timeZone).toOption.getD "") up (some ago) := by
  unfold labelBeside tellAgo
  cases up with
  | true =>
    cases e.format m timeZone with
    | error f => rfl
    | ok text => cases e.timeAgo (.fixed i) timeZone p <;> rfl
  | false =>
    cases e.timeAgo (.fixed i) timeZone p with
    | error f => rfl
    | ok ago => cases e.format m timeZone <;> rfl

theorem describeOther_mixed (h : Mixed raw m up s) (p : Present) :
    raw.describeOther e timeZone p =
      (told e timeZone p m up s).map
        (label ((e.format m timeZone).toOption.getD "") up) := by
  unfold told
  rw [describeOther_eq h]
  rcases e.parse _ p s with f | _ | i
  · rfl
  · rfl
  · change labelBeside e timeZone p m up i =
      ((tellAgo e timeZone p m up i).map some).map _
    rw [labelBeside_eq]
    cases tellAgo e timeZone p m up i <;> rfl

theorem mixed_or_still (e : Engine) (timeZone : Option String)
    (raw : RawRange) :
    (∃ m up s, Mixed raw m up s) ∨
      ∀ p p', raw.describeOther e timeZone p =
        raw.describeOther e timeZone p' := by
  obtain ⟨start, stop⟩ := raw
  cases start with
  | moment m =>
    cases stop with
    | moment m' => exact .inr fun _ _ => rfl
    | text | number | flag | collection | absent =>
      exact .inl ⟨m, true, _, .opening m nofun⟩
  | text | number | flag | collection | absent =>
    cases stop with
    | moment m => exact .inl ⟨m, false, _, .closing m nofun⟩
    | text | number | flag | collection | absent => exact .inr fun _ _ => rfl

theorem describe_eq_iff {p p' : Present} :
    raw.describe e timeZone p = raw.describe e timeZone p' ↔
      (Preset.find? raw = none → ∀ m up s, Mixed raw m up s →
        told e timeZone p m up s = told e timeZone p' m up s) := by
  unfold RawRange.describe
  cases Preset.find? raw with
  | some preset => exact iff_of_true rfl nofun
  | none =>
    dsimp only
    rcases mixed_or_still e timeZone raw with ⟨m, up, s, hmixed⟩ | hstill
    · rw [describeOther_mixed hmixed, describeOther_mixed hmixed]
      constructor
      · intro h _ m' up' s' hmixed'
        obtain ⟨rfl, rfl, rfl⟩ := hmixed.unique hmixed'
        exact map_inj (fun o o' => @label_injective _ up o o') h
      · intro h
        rw [h rfl m up s hmixed]
    · refine iff_of_true (hstill p p') fun _ m up s hmixed => ?_
      have hlabels := hstill p p'
      rw [describeOther_mixed hmixed, describeOther_mixed hmixed] at hlabels
      exact map_inj (fun o o' => @label_injective _ up o o') hlabels

end

/-! ## Expressions beside a moment -/

def labelRules (e : Engine) (up : Bool) : Rules where
  roundUp := up
  fiscalStart := e.fiscalStart
  zone := .utc
  weekStart := some e.weekStart

theorem rules_label (e : Engine) (up : Bool) :
    e.rules { roundUp := up, timeZone := some "utc" } = .ok (labelRules e up) :=
  rfl

def toldFrom (e : Engine) (timeZone : Option String) (p : Present)
    (m : Moment) (up : Bool) (math : List Char) (start : Instant) :
    Except Fault (Option String) :=
  evaluate (labelRules e up) math start >>= tellAnswer e timeZone p m up

theorem parse_label_still {e : Engine} {up : Bool} {s : Source}
    (h : ∀ t, s = .text t → after? nowWord t.toList = none) (p p' : Present) :
    e.parse { roundUp := up, timeZone := some "utc" } p s =
      e.parse { roundUp := up, timeZone := some "utc" } p' s := by
  cases s with
  | text t =>
    have hnow := h t rfl
    rw [engine_parse (rules_label e up), engine_parse (rules_label e up)]
    unfold parseText anchor
    rw [hnow]
  | moment | number | flag | collection | absent => rfl

theorem parse_label_now {e : Engine} {up : Bool} {t : String}
    {math : List Char} (h : after? nowWord t.toList = some math)
    (here : Present) (now : Moment) :
    e.parse { roundUp := up, timeZone := some "utc" }
      { here with now := some now } (.text t) =
      now.toZone .utc >>= evaluate (labelRules e up) math := by
  rw [engine_parse (rules_label e up), parseText_of_now h]
  rfl

theorem told_now {e : Engine} {timeZone : Option String} {m : Moment}
    {up : Bool} {t : String} {math : List Char}
    (h : after? nowWord t.toList = some math) (here : Present) (now : Moment) :
    told e timeZone { here with now := some now } m up (.text t) =
      now.toZone .utc >>=
        toldFrom e timeZone { here with now := some now } m up math := by
  unfold told
  rw [parse_label_now h]
  cases now.toZone .utc <;> rfl

end TimeWindow.Proofs.Range.Labels
