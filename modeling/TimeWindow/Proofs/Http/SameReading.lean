import TimeWindow.Proofs.DateMath.SameClock
import TimeWindow.Proofs.Http.Answers
import TimeWindow.Proofs.Http.Bodies
import TimeWindow.Proofs.Range.Idempotence
import TimeWindow.Proofs.Reading.WrittenMoments

/-!
# A text in a body and the same text in the library

A side of a body is a moment if the field for moments takes it, and only else
the text without outer white space that the library resolves.  Both come to the
same instants unless a count is among the texts (`same_reading_iff`).
-/

namespace TimeWindow.Proofs.Http.SameReading

open TimeWindow.Http TimeWindow.DateMath TimeWindow.Text Outcome Zone.Conversion
  Zone.Settling Zone.Naming DateMath.SameClock Reading.WrittenForms
  Reading.WrittenMoments Range.Distances Range.Resolution Range.Idempotence
  Answers Bodies

/-! ## What a body makes of a text -/

def trimmed (s : String) : String := String.ofList (trim s.toList)

/-- A text that is not blank as a side of an accepted body. -/
def entered (s : String) : Source :=
  match Field.momentText s with
  | .ok m => .moment m
  | .error _ => .text (trimmed s)

theorem side_entered {s : String} (h : trimmed s ≠ "")
    (location : List Issue.Place) :
    Body.side location (.str s) = .ok (entered s) := by
  unfold Body.side entered
  -- a text that is a moment has no unpaired surrogate, so that the field gets
  -- as far as its moment
  cases hmoment : Field.momentText s with
  | ok m => rw [moment_of_text hmoment]
  | error rule =>
    have hfield : ∃ rule', Field.moment (.str s) = .error rule' := by
      change ∃ rule', Field.ofText Field.momentText s = _
      unfold Field.ofText
      split
      · exact ⟨_, rfl⟩
      · exact ⟨rule, hmoment⟩
    obtain ⟨rule', hfield⟩ := hfield
    rw [hfield]
    exact if_neg h

/-- A text that a field takes for a count writes the instant of this count. -/
def Agrees (s : String) (i : Instant) : Prop :=
  ∀ w, Counted s w → w.ticks = i.utcTicks

section

variable {e : Engine} {call : Engine.Call} {rules : Rules}
  (hrules : e.rules call = .ok rules) {p : Present}
  {s : String} {i : Instant}
    (h : e.parseInstant call p (.text (trimmed s)) = .ok (some i))

include hrules h

theorem parse_absolute {m : Moment} (hm : Field.momentText s = .ok m) :
    ∃ m', FreeForm.read s (defaultsOf p) = .ok (some m') ∧
      m'.toZone rules.zone = .ok i := by
  have htidy := tidy_of_momentText hm
  have htrimmed : trimmed s = s := by
    unfold trimmed
    rw [trim_of_tidy htidy, String.ofList_toList]
  rw [htrimmed, parseInstant_text hrules, mentionsNow_of_tidy htidy] at h
  exact parseAbsolute_eq_some h

theorem parse_entered (hcount : ∀ w, ¬ Counted s w) :
    e.parseInstant call p (entered s) = .ok (some i) := by
  unfold entered
  cases hm : Field.momentText s with
  | error rule => exact h
  | ok m =>
    obtain ⟨m', hread, hi⟩ := parse_absolute hrules h hm
    rcases momentText_cases hm with ⟨w, hw, -⟩ | ⟨-, hsame⟩
    · exact absurd hw (hcount w)
    · rw [hsame _ _ hread] at hi
      dsimp only
      rw [parseInstant_moment hrules, hi]
      rfl

theorem ofUtc_of_parse {w : Wall} (hw : Counted s w) (hsane : rules.zone.Sane)
    (hinland : Inland rules.zone) :
    ∃ j, rules.zone.ofUtc ⟨i.utcTicks⟩ = .ok j := by
  obtain ⟨m, hread, hi⟩ := parse_absolute hrules h (momentText_of_counted hw)
  have hrange : m.wall.inRange = true := freeForm_inRange hread
  cases m with
  | plain w => exact ofUtc_of_localize hsane hinland hrange hi
  | fixed j =>
    obtain ⟨seconds, hseconds⟩ := freeForm_bare hread
    rw [toZone_utcTicks (show j.toZone _ = _ from hi)]
    obtain ⟨u, hu, hi⟩ :=
      bind_eq_ok.1 ((toZone_of_offset hseconds rules.zone).symm.trans hi)
    obtain ⟨-, rfl, -⟩ := toUtc_eq_ok.1 hu
    exact ⟨i, hi⟩

theorem parse_entered_iff (hsane : rules.zone.Sane)
    (hinland : Inland rules.zone) :
    (∃ k, e.parseInstant call p (entered s) = .ok (some k) ∧
      k.utcTicks = i.utcTicks) ↔ Agrees s i := by
  -- a text is a count for one instant at most
  by_cases hcount : ∃ w, Counted s w
  · obtain ⟨w, hw⟩ := hcount
    have hentered : entered s = .moment (.fixed (.ofUtc w)) := by
      unfold entered
      rw [momentText_of_counted hw]
    have hparse :
        e.parseInstant call p (entered s) = (rules.zone.ofUtc w).map some := by
      rw [hentered, parseInstant_moment hrules]
      exact congrArg (Except.map some) (toZone_ofUtc hw.inRange rules.zone)
    rw [hparse]
    constructor
    · rintro ⟨k, hk, hticks⟩ w' hw'
      obtain ⟨j, hj, hjk⟩ := map_eq_ok.1 hk
      cases hjk
      have hsame : w' = w := Option.some_inj.1 (hw'.count.symm.trans hw.count)
      rw [hsame, ← hticks, ofUtc_utcTicks hj]
    · intro hagrees
      obtain ⟨j, hj⟩ := ofUtc_of_parse hrules h hw hsane hinland
      rw [← hagrees w hw] at hj
      exact ⟨j, map_eq_ok.2 ⟨j, hj, rfl⟩, (ofUtc_utcTicks hj).trans (hagrees w hw)⟩
  · have hnone : ∀ w, ¬ Counted s w := fun w hw => hcount ⟨w, hw⟩
    exact ⟨fun _ w hw => absurd hw (hnone w), fun _ =>
      ⟨i, parse_entered hrules h hnone, rfl⟩⟩

end

/-! ## Both sides -/

section

variable {e : Engine} {c : RawRange.Call} {p : Present} {a b : String}
  {lib : TimeRange} {i j : Instant}
  (hlib : RawRange.resolve e c p ⟨.text (trimmed a), .text (trimmed b)⟩ = .ok lib)
  (hi : lib.start = some (.fixed i)) (hj : lib.stop = some (.fixed j))

include hlib hi hj

theorem resolve_entered (ha : ∀ w, ¬ Counted a w) (hb : ∀ w, ¬ Counted b w) :
    ∃ range, RawRange.resolve e c p ⟨entered a, entered b⟩ = .ok range ∧
      range.start = lib.start ∧
      range.stop = lib.stop := by
  obtain ⟨z, hz⟩ := zone_of_resolve hlib
  have hstart :=
    parse_entered (rules_side hz false) (parseInstant_of_side hlib false hi) ha
  have hstop :=
    parse_entered (rules_side hz true) (parseInstant_of_side hlib true hj) hb
  rw [hi, hj]
  exact resolve_of_sides ⟨entered a, entered b⟩ hstart hstop

theorem resolve_entered_iff :
    (∃ range, RawRange.resolve e c p ⟨entered a, entered b⟩ = .ok range ∧
      SameMoment lib.start range.start ∧ SameMoment lib.stop range.stop) ↔
    Agrees a i ∧ Agrees b j := by
  obtain ⟨z, hz⟩ := zone_of_resolve hlib
  have hsane : z.Sane := sane_of_resolve hz
  have hinland : Inland z := inland_of_resolve hz
  rw [← parse_entered_iff (rules_side hz false)
    (parseInstant_of_side hlib false hi) hsane hinland, ← parse_entered_iff
    (rules_side hz true) (parseInstant_of_side hlib true hj) hsane hinland, hi, hj]
  constructor
  · rintro ⟨range, hrange, hstart, hstop⟩
    obtain ⟨k, hk, hticks⟩ := sameMoment_right hstart
    obtain ⟨l, hl, hticks'⟩ := sameMoment_right hstop
    exact ⟨⟨k, parseInstant_of_side hrange false hk, hticks⟩, l,
      parseInstant_of_side hrange true hl, hticks'⟩
  · rintro ⟨⟨k, hk, hticks⟩, l, hl, hticks'⟩
    obtain ⟨range, hrange, hstart, hstop⟩ :=
      resolve_of_sides ⟨entered a, entered b⟩ hk hl
    exact ⟨range, hrange, hstart ▸ .instant hticks, hstop ▸ .instant hticks'⟩

end

/-! ## The answer -/

/-- There is a label and an abbreviation for a range, and a written form for all
of its texts. -/
def Sendable (e : Engine) (timeZone : Option String) (p : Present)
    (raw : RawRange) (range : TimeRange) : Prop :=
  ∃ display abbreviation, raw.describe e timeZone p = .ok display ∧
    range.abbreviation e timeZone p = .ok abbreviation ∧
    (shownRange raw range display abbreviation).json.hasHalf = false

def Worded : Source → Prop
  | .text _ | .moment _ | .absent => True
  | _ => False

theorem worded_entered (s : String) : Worded (entered s) := by
  unfold entered
  split <;> trivial

theorem worded_side (m : Option Moment) : Worded (TimeRange.side m) := by
  cases m <;> trivial

theorem hasInfinite_worded {side : Source} (h : Worded side) :
    (sourceJson side).hasInfinite = false := by
  cases side with
  | text | moment | absent => rfl
  | number | flag | collection => cases h

theorem hasInfinite_shownRange {e : Engine} {c : RawRange.Call} {p : Present}
    {a b : String} {range : TimeRange}
    (h : RawRange.resolve e c p ⟨entered a, entered b⟩ = .ok range)
    (display abbreviation : String) :
    (shownRange ⟨entered a, entered b⟩ range display
      abbreviation).json.hasInfinite = false := by
  -- the raw pair is that of the body, or that of the two moments
  have hraw : Worded range.raw.start ∧ Worded range.raw.stop := by
    rw [resolve_raw h]
    split
    · exact ⟨worded_entered a, worded_entered b⟩
    · exact ⟨worded_side _, worded_side _⟩
  have hmoment : ∀ m : Option Moment, (momentJson m).hasInfinite = false := by
    intro m
    cases m <;> rfl
  have hfrom := hasInfinite_worded hraw.1
  have hto := hasInfinite_worded hraw.2
  unfold Json.hasInfinite at hfrom hto hmoment ⊢
  simp only [ResolvedRange.json, shownRange, rawJson, Json.ofString?, Json.any,
    Json.anyMember, hmoment, hfrom, hto]
  rfl

def membersOf (a b timeZone : String) (month : Int) (now : Json) :
    List (String × Json) :=
  [("from", .str a), ("to", .str b), ("time_zone", .str timeZone),
    ("fiscal_year_start_month", .num (.int month)), ("now", now)]

def bodyOf (a b timeZone : String) (month : Int) (now : Json) : Json :=
  .obj (membersOf a b timeZone month now)

theorem read_bodyOf {a b timeZone : String} {month : Int} {now : Json}
    {n : Instant} (ha : trimmed a ≠ "") (hb : trimmed b ≠ "")
    (hmonth : 0 ≤ month ∧ month ≤ 11)
    (hnow : Field.moment now = .ok (.fixed n)) :
    ResolveBody.read (bodyOf a b timeZone month now) =
      .ok ⟨⟨entered a, entered b⟩, some timeZone, some month,
        some (.fixed n)⟩ := by
  have hwithin :
      Field.optional (Body.integerWithin 0 11) (.num (.int month)) =
        .ok (some month) := by
    unfold Field.optional Body.integerWithin
    refine bind_eq_ok.2 ⟨month, bind_eq_ok.2 ⟨month, rfl, ?_⟩, rfl⟩
    rw [if_neg (Int.not_lt.2 hmonth.1), if_neg (Int.not_lt.2 hmonth.2)]
    rfl
  have hoptional :
      ∀ {α : Type} (place : List Issue.Place) (v : Json) (f : Json →
        Except Issue.Rule α) {o : α},
      f v = .ok o → Checked.read place v f = .ok o := by
    intro α place v f o h
    unfold Checked.read
    rw [h]
  have hsides :
      Body.sides (membersOf a b timeZone month now) =
        .ok ⟨entered a, entered b⟩ :=
    Checked.part_eq_ok.2 ⟨_, _, Checked.part_eq_ok.2
      ⟨_, _, rfl, side_entered ha _, rfl⟩, side_entered hb _, rfl⟩
  have hzone :
      Body.optional (membersOf a b timeZone month now) "time_zone" Field.string =
        .ok (some timeZone) :=
    rfl
  have hfiscal :
      Body.optional (membersOf a b timeZone month now) "fiscal_year_start_month"
        (Body.integerWithin 0 11) =
      .ok (some month) :=
    hoptional _ _ _ hwithin
  have hpresent :
      Body.optional (membersOf a b timeZone month now) "now" Field.moment =
        .ok (some (.fixed n)) :=
    optional_moment rfl (by rintro rfl; cases hnow) hnow
  exact bind_eq_ok.2 ⟨_, rfl, Checked.part_eq_ok.2 ⟨_, _,
    Checked.part_eq_ok.2 ⟨_, _, Checked.part_eq_ok.2 ⟨_, _, Checked.part_eq_ok.2
    ⟨_, _, rfl, hsides, rfl⟩, hzone, rfl⟩, hfiscal, rfl⟩, hpresent, rfl⟩⟩

/-- The range of two sides in a zone and a fiscal year, as seen from a
reference. -/
def resolved (e : Engine) (timeZone : String) (month : Int) (here : Present)
    (n : Instant) (start stop : Source) :
    Except Fault TimeRange :=
  RawRange.resolve e ⟨some timeZone, some month⟩
    { here with now := some (.fixed n) } ⟨start, stop⟩

section

variable {s : Server} {r : Request} {e : Engine} {a b timeZone : String}
  {month : Int} {now : Json} {n : Instant}
  (he : EngineOf s.session e)
  (hasks : Asks r .resolve (bodyOf a b timeZone month now))
  (ha : trimmed a ≠ "") (hb : trimmed b ≠ "")
  (hmonth : 0 ≤ month ∧ month ≤ 11) (hnow : Field.moment now = .ok (.fixed n))
  {range : TimeRange}
  (hrange : resolved e timeZone month s.session.here n (entered a) (entered b) =
    .ok range)

include he hasks ha hb hmonth hnow hrange

theorem answer_of_sendable
    (h : Sendable e (some timeZone) { s.session.here with now := some (.fixed n) }
      ⟨entered a, entered b⟩ range) :
    ∃ x : ResolvedRange, (s.answer r).1 = .content 200 x.json ∧
      x.range = range := by
  obtain ⟨display, abbreviation, hdisplay, habbreviation, hhalf⟩ := h
  refine ⟨shownRange ⟨entered a, entered b⟩ range display abbreviation, ?_, rfl⟩
  refine answer_result hasks (perform_resolve s _ _) he
    (read_bodyOf ha hb hmonth hnow) ?_
    (hasInfinite_shownRange hrange display abbreviation) hhalf
  exact map_eq_ok.2
    ⟨_, handler_resolve_eq_ok.2
      ⟨range, display, abbreviation, hrange, hdisplay, habbreviation, rfl⟩, rfl⟩

theorem sendable_of_answer {body : Json}
    (h : (s.answer r).1 = .content 200 body) :
    Sendable e (some timeZone) { s.session.here with now := some (.fixed n) }
      ⟨entered a, entered b⟩ range := by
  obtain ⟨e', he', hresult⟩ := result_of_content hasks (perform_resolve s _ _)
    (read_bodyOf ha hb hmonth hnow) h
  cases he'.symm.trans he
  obtain ⟨x, hx, hbody⟩ := map_eq_ok.1 hresult
  obtain ⟨range', display, abbreviation, hrange', hdisplay, habbreviation, rfl⟩ :=
    handler_resolve_eq_ok.1 hx
  cases hrange'.symm.trans hrange
  refine ⟨display, abbreviation, hdisplay, habbreviation, ?_⟩
  rw [hbody]
  exact hasHalf_of_content hasks h

end

/-- **The same text is the same instant over HTTP, unless it is a count.**
Where the library resolves two texts to instants, a request with these texts
resolves to the very same ones if no count is among them.  In general it is
answered with these instants exactly if every text that is taken for a count
writes the instant of this count, and there is a label for the range and a
written form for all that is sent. -/
theorem same_reading_iff {s : Server} {r : Request} {e : Engine}
    {a b timeZone : String} {month : Int} {now : Json} {n i j : Instant}
    {lib : TimeRange} (he : EngineOf s.session e)
    (hasks : Asks r .resolve (bodyOf a b timeZone month now))
    (ha : trimmed a ≠ "") (hb : trimmed b ≠ "")
    (hmonth : 0 ≤ month ∧ month ≤ 11)
    (hnow : Field.moment now = .ok (.fixed n))
    (hlib : resolved e timeZone month s.session.here n (.text (trimmed a))
      (.text (trimmed b)) = .ok lib) (hi : lib.start = some (.fixed i))
    (hj : lib.stop = some (.fixed j)) :
    ((∀ w, ¬ Counted a w) → (∀ w, ¬ Counted b w) →
      ∃ range,
        resolved e timeZone month s.session.here n (entered a) (entered b) =
          .ok range ∧
        range.start = lib.start ∧ range.stop = lib.stop) ∧
    ((∃ x : ResolvedRange, (s.answer r).1 = .content 200 x.json ∧
        resolved e timeZone month s.session.here n (entered a) (entered b) =
          .ok x.range ∧
        SameMoment lib.start x.range.start ∧ SameMoment lib.stop x.range.stop) ↔
      Agrees a i ∧ Agrees b j ∧
        ∀ range,
          resolved e timeZone month s.session.here n (entered a) (entered b) =
            .ok range →
          Sendable e (some timeZone)
            { s.session.here with now := some (.fixed n) }
            ⟨entered a, entered b⟩ range) := by
  refine ⟨resolve_entered hlib hi hj, ?_⟩
  -- the instants agree through the texts, and with a range resolved only
  -- sending it can fail
  rw [← and_assoc, ← resolve_entered_iff hlib hi hj]
  constructor
  · rintro ⟨x, hanswer, hx, hstart, hstop⟩
    exact ⟨⟨x.range, hx, hstart, hstop⟩,
      fun range hrange =>
      sendable_of_answer he hasks ha hb hmonth hnow hrange hanswer⟩
  · rintro ⟨⟨range, hrange, hstart, hstop⟩, hsend⟩
    obtain ⟨x, hanswer, rfl⟩ :=
      answer_of_sendable he hasks ha hb hmonth hnow hrange (hsend range hrange)
    exact ⟨x, hanswer, hrange, hstart, hstop⟩

def standing : Server where
  session := { clock := .onDate ⟨2024, 3, 15⟩ 0, engine := some ⟨0, {}⟩ }
  settings := ⟨"", "test", false, "", none, "", 0, "", "utc", 0, .sunday, 100⟩

def noon : Instant := .ofUtc (.onDate ⟨2024, 3, 15⟩ (12 * Calendar.hour))

def atUtc (d : Date) (hour minute second : Int) : Instant :=
  ⟨.onDate d (hour * Calendar.hour + minute * Calendar.minute +
    second * Calendar.second), .period .utc ⟨0, 0, "UTC"⟩⟩

/-- A body with two texts for UTC, and the request that sends it. -/
def utcBody (a b : String) : Json :=
  bodyOf a b "utc" 0 (.str "2024-03-15T12:00:00Z")

def utcRequest (a b : String) : Request where
  method := "POST"
  target := "/api/v1/ranges/resolve"
  payload := .value (utcBody a b)

theorem asks_utcRequest (a b : String) :
    Asks (utcRequest a b) .resolve (utcBody a b) :=
  ⟨route_resolve, rfl⟩

/-- What the two sides of such a body resolve to, and what the library makes of
the texts themselves. -/
def utcEntered (a b : String) : Except Fault TimeRange :=
  resolved {} "utc" 0 standing.session.here noon (entered a) (entered b)

def utcPlain (a b : String) : Except Fault TimeRange :=
  resolved {} "utc" 0 standing.session.here noon (.text (trimmed a))
    (.text (trimmed b))

theorem written_day_same :
    ∃ x : ResolvedRange, (standing.answer (utcRequest "2024-03-15" " now")).1 =
      .content 200 x.json ∧
      SameMoment (some (.fixed (atUtc ⟨2024, 3, 15⟩ 0 0 0))) x.range.start ∧
      SameMoment (some (.fixed (atUtc ⟨2024, 3, 15⟩ 12 0 0))) x.range.stop := by
  have hlib : utcPlain "2024-03-15" " now" =
      .ok ⟨some (.fixed (atUtc ⟨2024, 3, 15⟩ 0 0 0)),
        some (.fixed (atUtc ⟨2024, 3, 15⟩ 12 0 0)),
        ⟨.text "2024-03-15", .text "now"⟩⟩ := by
    decide +kernel
  have hrange : utcEntered "2024-03-15" " now" =
      .ok ⟨some (.fixed (atUtc ⟨2024, 3, 15⟩ 0 0 0)),
        some (.fixed (atUtc ⟨2024, 3, 15⟩ 12 0 0)),
        ⟨entered "2024-03-15", .text "now"⟩⟩ := by
    decide +kernel
  have hsend :
      Sendable {} (some "utc")
        { standing.session.here with now := some (.fixed noon) }
      ⟨entered "2024-03-15", entered " now"⟩
      ⟨some (.fixed (atUtc ⟨2024, 3, 15⟩ 0 0 0)),
        some (.fixed (atUtc ⟨2024, 3, 15⟩ 12 0 0)),
        ⟨entered "2024-03-15", .text "now"⟩⟩ := by
    refine ⟨"2024-03-15 00:00:00 to now", "UTC", ?_, ?_, ?_⟩ <;> decide +kernel
  have hday : ∀ w, ¬ Counted "2024-03-15" w := fun w hw => nomatch hw.count
  have hword : ∀ w, ¬ Counted " now" w := fun w hw => nomatch hw.count
  obtain ⟨-, hiff⟩ := same_reading_iff (s := standing) rfl
    (asks_utcRequest "2024-03-15" " now") (by decide)
    (by decide) (by decide) rfl hlib rfl rfl
  obtain ⟨x, hx, -, hstart, hstop⟩ :=
    hiff.2 ⟨fun w hw => absurd hw (hday w), fun w hw => absurd hw (hword w),
    fun range h => Except.ok.inj (hrange.symm.trans h) ▸ hsend⟩
  exact ⟨x, hx, hstart, hstop⟩

/-- Two days written without hyphens are days of March 2024 to the library and
seconds of August 1970 in a body. -/
theorem compact_days_counted :
    Asks (utcRequest "20240315" "20240316") .resolve
      (utcBody "20240315" "20240316") ∧
      utcPlain "20240315" "20240316" =
        .ok (.ofMoments (some (.fixed (atUtc ⟨2024, 3, 15⟩ 0 0 0)))
          (some (.fixed (atUtc ⟨2024, 3, 16⟩ 0 0 0)))) ∧
      ∃ x : ResolvedRange,
        (standing.answer (utcRequest "20240315" "20240316")).1 =
        .content 200 x.json ∧
        x.range.start = some (.fixed (atUtc ⟨1970, 8, 23⟩ 6 18 35)) ∧
        x.range.stop = some (.fixed (atUtc ⟨1970, 8, 23⟩ 6 18 36)) ∧
        ¬ SameMoment (some (.fixed (atUtc ⟨2024, 3, 15⟩ 0 0 0)))
          x.range.start := by
  have hrange : utcEntered "20240315" "20240316" =
      .ok (.ofMoments (some (.fixed (atUtc ⟨1970, 8, 23⟩ 6 18 35)))
        (some (.fixed (atUtc ⟨1970, 8, 23⟩ 6 18 36)))) := by
    decide +kernel
  have hsend :
      Sendable {} (some "utc")
        { standing.session.here with now := some (.fixed noon) }
      ⟨entered "20240315", entered "20240316"⟩
      (.ofMoments (some (.fixed (atUtc ⟨1970, 8, 23⟩ 6 18 35)))
        (some (.fixed (atUtc ⟨1970, 8, 23⟩ 6 18 36)))) := by
    refine ⟨"1970-08-23 06:18:35 to 1970-08-23 06:18:36", "UTC", ?_, ?_, ?_⟩
      <;> decide +kernel
  obtain ⟨x, hx, hxrange⟩ := answer_of_sendable (s := standing) rfl
    (asks_utcRequest "20240315" "20240316") (by decide)
    (by decide) (by decide) rfl hrange hsend
  have hstart : x.range.start = some (.fixed (atUtc ⟨1970, 8, 23⟩ 6 18 35)) := by
    rw [hxrange]; rfl
  have hstop : x.range.stop = some (.fixed (atUtc ⟨1970, 8, 23⟩ 6 18 36)) := by
    rw [hxrange]; rfl
  have hother :
      ¬ SameMoment (some (.fixed (atUtc ⟨2024, 3, 15⟩ 0 0 0))) x.range.start := by
    intro h
    obtain ⟨k, hk, hticks⟩ := sameMoment_right h
    cases hk.symm.trans hstart
    exact absurd hticks (by decide)
  exact ⟨asks_utcRequest _ _, by decide +kernel, x, hx, hstart, hstop, hother⟩

end TimeWindow.Proofs.Http.SameReading
