import TimeWindow.Http.Body
import TimeWindow.Proofs.Range.Distances

/-!
# Accepted bodies

Every moment of a body that was accepted lies in the calendar
(`rangeBody_inCalendar`).
-/

namespace TimeWindow.Proofs.Http.Bodies

open TimeWindow.Http TimeWindow.DateMath Outcome DateMath.Holding
  Range.Distances

/-! ## Moments -/

section

variable {P : Moment → Prop}
  (hplain : ∀ w : Wall, w.inRange = true → P (.plain w))
  (hfixed : ∀ (w : Wall) (seconds : Int), w.inRange = true →
    P (.fixed ⟨w, .offset seconds⟩))

include hfixed

theorem countedMoment_gives (w : Wall) : Gives P (Field.countedMoment w) := by
  unfold Field.countedMoment
  split
  · rename_i h
    exact gives_ok (hfixed w 0 h)
  · exact gives_error _

include hplain

theorem momentText_gives (s : String) : Gives P (Field.momentText s) := by
  unfold Field.momentText
  dsimp only
  -- date and time, then a count, then a date alone
  split
  · split
    · rename_i hw _
      exact gives_ok (hplain _ (of?_inRange hw))
    · rename_i hw _
      exact gives_ok (hfixed _ _ (of?_inRange hw))
    · exact gives_error _
  · split
    · exact countedMoment_gives hfixed _
    · split
      · split
        · split
          · rename_i hw
            exact gives_ok (hplain _ (of?_inRange hw))
          · exact gives_error _
        · exact gives_error _
      · exact gives_error _

/-- What a field holds as a moment is a wall time of the calendar, without an
offset or with a bare one. -/
theorem moment_gives (v : Json) : Gives P (Field.moment v) := by
  cases v with
  | str s =>
    change Gives _ (Field.ofText Field.momentText s)
    unfold Field.ofText
    split
    · exact gives_error _
    · exact momentText_gives hplain hfixed s
  | num n =>
    change Gives _ (if n.toDouble?.isNone then _ else _)
    split
    · exact gives_error _
    · split
      · exact countedMoment_gives hfixed _
      · exact gives_error _
  | null | bool | arr | obj => exact gives_error _

end

theorem moment_inRange (v : Json) :
    Gives (fun m => m.wall.inRange = true) (Field.moment v) :=
  moment_gives (fun _ h => h) (fun _ _ h => h) v

/-! ## Fields -/

theorem read_gives {α : Type} {P : α → Prop} {f : Json → Except Issue.Rule α}
    {v : Json} (h : Gives P (f v)) (location : List Issue.Place) :
    Gives P (Checked.read location v f) := by
  unfold Checked.read
  split
  · rename_i a ha
    exact gives_ok (h a ha)
  · exact gives_error _

def Accepted (P : Moment → Prop) : Source → Prop
  | .text _ => True
  | .moment m => P m
  | _ => False

theorem required_gives {α : Type} {P : α → Prop}
    {read : List Issue.Place → Json → Checked α}
    (h : ∀ location v, Gives P (read location v))
    (members : List (String × Json)) (name : String) (others : List String) :
    Gives P (Body.required members name others read) := by
  unfold Body.required
  split
  · exact h _ _
  · exact gives_error _

section

variable {P : Moment → Prop} (hmoment : ∀ v, Gives P (Field.moment v))

include hmoment

theorem side_accepted (location : List Issue.Place) (v : Json) :
    Gives (Accepted P) (Body.side location v) := by
  unfold Body.side
  split
  · rename_i m hm
    exact gives_ok (hmoment v m hm)
  · split
    · dsimp only
      split
      · exact gives_error _
      · exact gives_ok trivial
    · exact gives_error _

theorem sides_accepted (members : List (String × Json)) :
    Gives (fun raw => Accepted P raw.start ∧ Accepted P raw.stop)
      (Body.sides members) := by
  intro raw h
  obtain ⟨_, stop, hstarted, hstop, rfl⟩ := Checked.part_eq_ok.1 h
  obtain ⟨_, start, hmk, hstart, rfl⟩ := Checked.part_eq_ok.1 hstarted
  cases hmk
  exact ⟨required_gives (side_accepted hmoment) members _ _ start hstart,
    required_gives (side_accepted hmoment) members _ _ stop hstop⟩

end

theorem optional_gives {α : Type} {P : α → Prop}
    {read : Json → Except Issue.Rule α} (h : ∀ v, Gives P (read v))
    (members : List (String × Json)) (name : String) :
    Gives (fun o => ∀ a, o = some a → P a) (Body.optional members name read) := by
  unfold Body.optional
  split
  · exact gives_ok nofun
  · refine read_gives ?_ _
    unfold Field.optional
    split
    · exact gives_ok nofun
    · refine (h _).bind fun a ha => gives_ok ?_
      rintro a' ⟨⟩
      exact ha

theorem optional_moment {members : List (String × Json)} {name : String}
    {v : Json} {m : Moment} (hv : members.lookup name = some v)
    (hnull : v ≠ .null) (hm : Field.moment v = .ok m) :
    Body.optional members name Field.moment = .ok (some m) := by
  have hread : Field.optional Field.moment v = .ok (some m) := by
    unfold Field.optional
    split
    · exact absurd rfl hnull
    · rw [hm]
      rfl
  unfold Body.optional Checked.read
  rw [hv]
  dsimp only
  rw [hread]

/-! ## Bodies -/

structure InCalendar (b : RangeBody) : Prop where
  start : Source.InCalendar b.range.start
  stop : Source.InCalendar b.range.stop
  now : ∀ m, b.now = some m → m.wall.inRange = true

theorem inCalendar_of_accepted {side : Source}
    (h : Accepted (fun m => m.wall.inRange = true) side) :
    Source.InCalendar side := by
  rintro m rfl
  exact h

theorem rangeBody_inCalendar (v : Json) :
    Gives InCalendar (RangeBody.read v) := by
  intro b h
  obtain ⟨members, -, hparts⟩ := bind_eq_ok.1 h
  obtain ⟨_, now, hzoned, hnow, rfl⟩ := Checked.part_eq_ok.1 hparts
  obtain ⟨_, timeZone, hranged, -, rfl⟩ := Checked.part_eq_ok.1 hzoned
  obtain ⟨_, range, hmk, hrange, rfl⟩ := Checked.part_eq_ok.1 hranged
  cases hmk
  obtain ⟨hstart, hstop⟩ := sides_accepted moment_inRange members range hrange
  exact ⟨inCalendar_of_accepted hstart, inCalendar_of_accepted hstop,
    optional_gives moment_inRange members _ now hnow⟩

end TimeWindow.Proofs.Http.Bodies
