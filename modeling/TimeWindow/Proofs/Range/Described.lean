import TimeWindow.Proofs.Range.Descriptions
import TimeWindow.Proofs.Occurrences
import TimeWindow.Range.Resolve

/-!
# What an expression is described as

`Describes` tells the description of an expression by the words that occur in
it, and in no other way: the preset of its two sides, or the offset that it
begins with, or only the two sides.  `Description.ofText` finds that
description, and the label of a range up to now is the one of its description.
-/

namespace TimeWindow.Proofs.Range.Described

open TimeWindow.DateMath TimeWindow.Text DateMath.Grammar Outcome
  Range.Descriptions Occurrences

/-! ## The two sides -/

def Ahead (e : String) : Prop := e.toList.head? = some '+'

instance (e : String) : Decidable (Ahead e) :=
  inferInstanceAs (Decidable (_ = _))

def full (e : String) : String :=
  if nowWord <:+: e.toList then e else if Ahead e then "now" ++ e
    else "now-" ++ e

/-- The two sides that the expression stands for. -/
def pair (e : String) : String × String :=
  if Ahead e then ("now", full e) else (full e, "now")

theorem looksAhead_iff {e : String} :
    Description.looksAhead e = true ↔ Ahead e := by
  unfold Description.looksAhead Ahead
  rw [beginsWith_iff]
  cases e.toList with
  | nil => simp
  | cons c cs => simp [eq_comm]

theorem anchored_eq_full (e : String) : Description.anchored e = full e := by
  unfold Description.anchored full Engine.mentionsNow
  simp only [mentions_iff, looksAhead_iff]
  split
  · rfl
  · split <;> rfl

theorem sides_eq_pair (e : String) : Description.sides e = pair e := by
  unfold Description.sides pair
  simp only [looksAhead_iff, anchored_eq_full]

/-! ## Offsets -/

theorem unitOf?_letter {unit : CalendarUnit} (h : (Offset.word? unit).isSome) :
    Offset.unitOf? unit.letter = some unit := by
  unfold Offset.unitOf?
  rw [CalendarUnit.ofLetter?_letter]
  simp [h]

theorem split?_of_isOffset {cs run rest : List Char} {sign : Char}
    {unit : CalendarUnit} (h : IsOffset cs sign run unit rest) :
    Offset.split? cs = some (decide (sign = '+'), run, unit) := by
  obtain ⟨rfl, hsign, hrun, hdigits, hword⟩ := h
  have hafter :
      after? "now".toList (nowWord ++ (word sign run false unit ++ rest)) =
      some (sign :: (run ++ unit.letter :: rest)) := by
    rw [show "now".toList = nowWord from rfl, after?_append]
    simp [word, mark]
  have htake : (run ++ unit.letter :: rest).takeWhile isAsciiDigit = run :=
    takeWhile_append hdigits (by simp [isAsciiDigit_letter])
  unfold Offset.split?
  rw [hafter]
  dsimp only
  rw [htake, if_pos (by simpa using hsign), List.drop_left]
  dsimp only
  rw [if_neg hrun, unitOf?_letter hword]
  rfl

theorem isTooLong_eq_false {cs : List Char}
    (h : ∀ sign rest, cs = nowWord ++ sign :: rest → ShortRuns isAsciiDigit rest) :
    Offset.isTooLong cs = false := by
  unfold Offset.isTooLong
  split
  · rename_i sign rest hafter
    have hshort := (h sign rest (after?_eq_some hafter)).takeWhile
    simp [Nat.not_lt.2 hshort]
  · rfl

theorem isTooLong_full {e : String} (h : ShortRuns isAsciiDigit e.toList) :
    Offset.isTooLong (full e).toList = false := by
  apply isTooLong_eq_false
  intro sign rest hfull
  apply h.of_infix
  unfold full at hfull
  split at hfull
  · rw [hfull]
    exact ⟨nowWord ++ [sign], [], by simp⟩
  · split at hfull
    · have hbehind : e.toList = sign :: rest := by simpa [nowWord] using hfull
      rw [hbehind]
      exact ⟨[sign], [], by simp⟩
    · have hbehind : sign = '-' ∧ rest = e.toList := by
        simpa [nowWord, eq_comm] using hfull
      rw [hbehind.2]

/-! ## Descriptions -/

/-- Last or next, the amount, and the name of the unit, in the plural for more
than one. -/
def label (ahead : Bool) (amount : Nat) (name : String) : String :=
  (if ahead then "Next " else "Last ") ++ toString amount ++ " " ++ name ++
    (if 1 < amount then "s" else "")

/-- The description of an expression: of the preset with its two sides; or else
of the offset that it begins with; or else none but the two sides. -/
inductive Describes (e : String) : Description → Prop where
  | preset {p : Preset} (listed : p ∈ presets)
      (same : (p.start, p.stop) = pair e) :
      Describes e (.described p.start p.stop p.display p.group)
  | offset {sign : Char} {run rest : List Char} {unit : CalendarUnit}
      {name : String} (other : ∀ p ∈ presets, (p.start, p.stop) ≠ pair e)
      (begins : IsOffset (full e).toList sign run unit rest)
      (named : Offset.word? unit = some name) :
      Describes e (.described (pair e).1 (pair e).2
        (label (Ahead e) (digitsValue run) name) (some (Description.groupOf unit)))
  | neither (other : ∀ p ∈ presets, (p.start, p.stop) ≠ pair e)
      (none : ∀ sign run unit rest, ¬ IsOffset (full e).toList sign run unit rest) :
      Describes e (.unparseable (pair e).1 (pair e).2)

section

variable {e : String}

theorem exists_describes (e : String) : ∃ d, Describes e d := by
  by_cases hpreset : ∃ p ∈ presets, (p.start, p.stop) = pair e
  · obtain ⟨p, hp, hsame⟩ := hpreset
    exact ⟨_, .preset hp hsame⟩
  · have hother : ∀ p ∈ presets, (p.start, p.stop) ≠ pair e :=
      fun p hp hsame => hpreset ⟨p, hp, hsame⟩
    by_cases hoffset : ∃ sign run unit rest,
      IsOffset (full e).toList sign run unit rest
    · obtain ⟨sign, run, unit, rest, hbegins⟩ := hoffset
      obtain ⟨name, hname⟩ := Option.isSome_iff_exists.1 hbegins.2.2.2.2
      exact ⟨_, .offset hother hbegins hname⟩
    · exact ⟨_, .neither hother fun sign run unit rest h =>
        hoffset ⟨sign, run, unit, rest, h⟩⟩

theorem ofText_of_preset {p : Preset} (hp : p ∈ presets)
    (hsame : (p.start, p.stop) = pair e) :
    Description.ofText e = .ok (.described p.start p.stop p.display p.group) := by
  unfold Description.ofText
  rw [sides_eq_pair]
  dsimp only
  rw [find?_eq_some_iff.2 ⟨hp, hsame⟩]
  rfl

theorem ofText_of_other (hother : ∀ p ∈ presets, (p.start, p.stop) ≠ pair e)
    (hshort : ShortRuns isAsciiDigit e.toList) :
    Description.ofText e = .ok (match Offset.split? (full e).toList with
      | some (ahead, run, unit) => .described (pair e).1 (pair e).2
          (Description.offsetText (Ahead e) ⟨ahead, digitsValue run, unit⟩)
            (some (Description.groupOf unit))
      | none => .unparseable (pair e).1 (pair e).2) := by
  have hahead : Description.looksAhead e = decide (Ahead e) := by
    rw [Bool.eq_iff_iff, looksAhead_iff, decide_eq_true_iff]
  unfold Description.ofText
  rw [sides_eq_pair, anchored_eq_full, hahead]
  dsimp only
  rw [find?_eq_none_iff.2 hother]
  unfold Offset.read
  rw [isTooLong_full hshort]
  cases Offset.split? (full e).toList <;> rfl

theorem ofText_of_describes (hshort : ShortRuns isAsciiDigit e.toList)
    {d : Description} (h : Describes e d) :
    Description.ofText e = .ok d := by
  cases h with
  | preset hp hsame => exact ofText_of_preset hp hsame
  | offset hother hbegins hname =>
    rw [ofText_of_other hother hshort, split?_of_isOffset hbegins]
    dsimp only
    unfold Description.offsetText
    dsimp only
    rw [hname]
    rfl
  | neither hother hnone =>
    have hsplit : Offset.split? (full e).toList = none := by
      rw [Option.eq_none_iff_forall_ne_some]
      rintro ⟨ahead, run, unit⟩ hsplit
      obtain ⟨sign, rest, hbegins⟩ := split?_eq_some hsplit
      exact hnone sign run unit rest hbegins
    rw [ofText_of_other hother hshort, hsplit]

theorem ofText_iff (hshort : ShortRuns isAsciiDigit e.toList)
    {d : Description} :
    Description.ofText e = .ok d ↔ Describes e d := by
  refine ⟨fun h => ?_, ofText_of_describes hshort⟩
  obtain ⟨d', hd'⟩ := exists_describes e
  have hsame := ofText_of_describes hshort hd'
  rw [h] at hsame
  cases hsame
  exact hd'

theorem Describes.sides {d : Description} (h : Describes e d) :
    (d.start, d.stop) = pair e := by
  cases h with
  | preset hp hsame => exact hsame
  | offset => rfl
  | neither => rfl

end

/-! ## The label of a range up to now -/

theorem pair_of_preset_until_now {p : Preset} (hp : p ∈ presets)
    (hstop : p.stop = "now") :
    pair p.start = (p.start, p.stop) := by
  have hall : ∀ p ∈ presets, p.stop = "now" →
      pair p.start = (p.start, p.stop) := by decide +kernel
  exact hall p hp hstop

theorem describe_until_now (engine : Engine) (timeZone : Option String)
    (p : Present) (s : String) :
    RawRange.describe engine timeZone p ⟨.text s, .text "now"⟩ =
      (Description.ofText s).map Description.display := by
  unfold RawRange.describe
  split
  · rename_i preset hfound
    obtain ⟨hp, hsides⟩ :
        preset ∈ presets ∧ (preset.start, preset.stop) = (s, "now") :=
      find?_eq_some_iff.1 hfound
    have hpair : (preset.start, preset.stop) = pair s := by
      obtain ⟨hstart, hstop⟩ := Prod.ext_iff.1 hsides
      rw [← pair_of_preset_until_now hp hstop, show preset.start = s from hstart]
    rw [ofText_of_preset hp hpair]
    rfl
  · have hother :
        RawRange.describeOther engine timeZone p ⟨.text s, .text "now"⟩ =
        (do return (← Description.ofText s).display) := by
      unfold RawRange.describeOther
      exact if_pos rfl
    rw [hother]
    cases Description.ofText s <;> rfl

/-- **What an expression is described as.**  An expression whose runs of digits
can be read has exactly one description, told by the words that occur in it,
with the two sides that it stands for.  A preset is looked up under no sides but
its own, and the label of the range from any text to now is that of the text's
description. -/
theorem described_exactly :
    (∀ e, ShortRuns isAsciiDigit e.toList →
      ∃ d, Description.ofText e = .ok d ∧ (d.start, d.stop) = pair e ∧
        ∀ d', Describes e d' ↔ d' = d) ∧
    (∀ sides p, Preset.find? ⟨.text sides.1, .text sides.2⟩ = some p ↔
      p ∈ presets ∧ (p.start, p.stop) = sides) ∧
    ∀ engine timeZone p s,
      RawRange.describe engine timeZone p ⟨.text s, .text "now"⟩ =
      (Description.ofText s).map Description.display := by
  refine ⟨?_, fun sides p => find?_eq_some_iff, describe_until_now⟩
  intro e hshort
  obtain ⟨d, hd⟩ := exists_describes e
  have htext := ofText_of_describes hshort hd
  refine ⟨d, htext, hd.sides, fun d' => ?_⟩
  rw [← ofText_iff hshort, htext]
  exact ⟨fun h => (Except.ok.inj h).symm, fun h => congrArg Except.ok h.symm⟩

theorem described_exactly_three_days :
    ∃ d, Description.ofText "+3d" = .ok d ∧
      (d.start, d.stop) = ("now", "now+3d") ∧ Describes "+3d" d ∧
      d.display = "Next 3 days" := by
  obtain ⟨d, hd, hsides, hdescribes⟩ :=
    described_exactly.1 "+3d" (shortRuns_of_length (by decide))
  refine ⟨d, hd, hsides.trans (by decide), (hdescribes d).2 rfl, ?_⟩
  have hread : Description.ofText "+3d" =
      .ok (.described "now" "now+3d" "Next 3 days" (some .longer)) := by decide
  cases hd.symm.trans hread
  rfl

end TimeWindow.Proofs.Range.Described
