import Mathlib.Data.List.Infix
import Mathlib.Data.List.TakeWhile
import TimeWindow.Proofs.DateMath.Grammar
import TimeWindow.Proofs.Outcome
import TimeWindow.Range.Description

/-!
# What descriptions are read from

The description of an expression has the two sides that the expression stands
for, and a label where these are the sides of a preset or where the expression
begins with an offset from now (`described_cases`).
-/

namespace TimeWindow.Proofs.Range.Descriptions

open TimeWindow.DateMath TimeWindow.Text DateMath.Grammar Outcome

/-! ## Offsets -/

/-- The text begins with now, a sign, a run of digits and the letter of a unit
that has a word. -/
def IsOffset (cs : List Char) (sign : Char) (run : List Char)
    (unit : CalendarUnit) (rest : List Char) : Prop :=
  cs = nowWord ++ (word sign run false unit ++ rest) ∧
    (sign = '+' ∨ sign = '-') ∧ run ≠ [] ∧
    (∀ c ∈ run, isAsciiDigit c = true) ∧ (Offset.word? unit).isSome

theorem unitOf?_eq_some {c : Char} {unit : CalendarUnit}
    (h : Offset.unitOf? c = some unit) :
    c = unit.letter ∧ (Offset.word? unit).isSome := by
  obtain ⟨hletter, hword⟩ := Option.filter_eq_some_iff.1 h
  exact ⟨letter_of_ofLetter? hletter, hword⟩

theorem split?_eq_some {cs : List Char} {ahead : Bool} {run : List Char}
    {unit : CalendarUnit} (h : Offset.split? cs = some (ahead, run, unit)) :
    ∃ sign rest, IsOffset cs sign run unit rest := by
  unfold Offset.split? at h
  split at h
  · rename_i sign behind hafter
    split at h
    · rename_i hsign
      dsimp only at h
      split at h
      · rename_i letter rest hrest
        split at h
        · cases h
        · rename_i hrun
          obtain ⟨unit', hunit, heq⟩ := Option.map_eq_some_iff.1 h
          cases heq
          obtain ⟨rfl, hword⟩ := unitOf?_eq_some hunit
          have hdigits :
              ∀ c ∈ behind.takeWhile isAsciiDigit, isAsciiDigit c = true :=
            fun c => List.mem_takeWhile_imp
          have hbehind := List.prefix_iff_eq_append.1
            (List.takeWhile_prefix isAsciiDigit (l := behind))
          rw [hrest] at hbehind
          generalize behind.takeWhile isAsciiDigit = run at *
          refine ⟨sign, rest, ?_, by simpa using hsign, hrun, hdigits, hword⟩
          rw [after?_eq_some hafter, ← hbehind]
          simp [word, mark, nowWord]
      · cases h
    · cases h
  · cases h

/-! ## Presets -/

def presets : List Preset := Preset.offered ++ Preset.hidden

/-- The text is a side of a preset that has now on the other side. -/
def IsPresetSide (x : String) : Prop :=
  ∃ p ∈ presets, (p.start = x ∧ p.stop = "now") ∨ (p.start = "now" ∧ p.stop = x)

theorem found {raw : RawRange} {p : Preset} (h : Preset.find? raw = some p) :
    p ∈ presets ∧ p.key = raw.key :=
  ⟨List.mem_of_find?_eq_some h, by simpa using List.find?_some h⟩

theorem sides_of_key {p : Preset} (hp : p ∈ presets) {start stop : String}
    (h : p.key = start ++ " to " ++ stop) :
    p.start = start ∧ p.stop = stop := by
  have honce : ∀ p ∈ presets, ∀ before ∈ p.key.toList.inits,
      " to ".toList <+: p.key.toList.drop before.length →
      before = p.start.toList := by decide +kernel
  have hlist : p.key.toList =
      start.toList ++ (" to ".toList ++ stop.toList) := by simp [h]
  have hstart : start.toList = p.start.toList := by
    apply honce p hp
    · rw [List.mem_inits, hlist]
      exact List.prefix_append _ _
    · rw [hlist, List.drop_left]
      exact List.prefix_append _ _
  have hsame : start = p.start := String.toList_inj.1 hstart
  refine ⟨hsame.symm, ?_⟩
  unfold Preset.key at h
  rw [hsame] at h
  simpa using h

theorem find?_eq_some_iff {sides : String × String} {p : Preset} :
    Preset.find? ⟨.text sides.1, .text sides.2⟩ = some p ↔
    p ∈ presets ∧ (p.start, p.stop) = sides := by
  constructor
  · intro h
    obtain ⟨hmem, hkey⟩ := found h
    obtain ⟨hstart, hstop⟩ := sides_of_key hmem hkey
    exact ⟨hmem, Prod.ext hstart hstop⟩
  · rintro ⟨hmem, rfl⟩
    have hall : ∀ p ∈ presets, Preset.find? ⟨.text p.start, .text p.stop⟩ =
        some p := by decide +kernel
    exact hall p hmem

theorem find?_eq_none_iff {sides : String × String} :
    Preset.find? ⟨.text sides.1, .text sides.2⟩ = none ↔
    ∀ p ∈ presets, (p.start, p.stop) ≠ sides := by
  simp only [Option.eq_none_iff_forall_ne_some, ne_eq, find?_eq_some_iff, not_and]

theorem preset_of_sides {s : String} {p : Preset}
    (h : Preset.find?
      ⟨.text (Description.sides s).1, .text (Description.sides s).2⟩ = some p) :
    (p.start, p.stop) = Description.sides s ∧
    IsPresetSide (Description.anchored s) := by
  obtain ⟨hmem, hsides⟩ := find?_eq_some_iff.1 h
  refine ⟨hsides, p, hmem, ?_⟩
  unfold Description.sides at hsides
  split at hsides
  · obtain ⟨hstart, hstop⟩ := Prod.ext_iff.1 hsides
    exact .inr ⟨hstart, hstop⟩
  · obtain ⟨hstart, hstop⟩ := Prod.ext_iff.1 hsides
    exact .inl ⟨hstart, hstop⟩

/-! ## Descriptions -/

theorem offset_of_read {s : String} {o : Offset}
    (h : Offset.read s = .ok (some o)) :
    ∃ sign run rest, IsOffset s.toList sign run o.unit rest := by
  unfold Offset.read at h
  split at h
  · cases h
  · injection h with h
    obtain ⟨⟨ahead, run, unit⟩, hsplit, rfl⟩ := Option.map_eq_some_iff.1 h
    obtain ⟨sign, rest, hoffset⟩ := split?_eq_some hsplit
    exact ⟨sign, run, rest, hoffset⟩

theorem described_cases {s : String} {info : Description}
    (h : Description.ofText s = .ok info) :
    (info.start, info.stop) = Description.sides s ∧
      (info.isInvalid = false → IsPresetSide (Description.anchored s) ∨
        ∃ sign run unit rest,
          IsOffset (Description.anchored s).toList sign run unit rest) := by
  unfold Description.ofText at h
  dsimp only at h
  split at h
  · rename_i p hfind
    obtain ⟨hsides, hpreset⟩ := preset_of_sides hfind
    cases h
    exact ⟨hsides, fun _ => .inl hpreset⟩
  · obtain ⟨found, hread, hrest⟩ := bind_eq_ok.1 h
    cases found with
    | none =>
      cases hrest
      exact ⟨rfl, fun hvalid => by cases hvalid⟩
    | some o =>
      cases hrest
      obtain ⟨sign, run, rest, hoffset⟩ := offset_of_read hread
      exact ⟨rfl, fun _ => .inr ⟨sign, run, o.unit, rest, hoffset⟩⟩

end TimeWindow.Proofs.Range.Descriptions
