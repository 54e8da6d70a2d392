import Mathlib
import TimeWindow.Interval.Label
import TimeWindow.Proofs.DateMath.Decimal

/-!
# Texts of spans

A span is told in hours, minutes and seconds, and a part that is zero is left
out.  `readSpan?` reads such a text word by word.  It finds the span again,
rounded to whole seconds, so that two spans are told alike exactly if they round
to one second (`span_text_determines`).
-/

namespace TimeWindow.Proofs.Interval.SpanTexts

open TimeWindow.Text TimeWindow.Interval DateMath.Decimal

/-! ## Reading -/

def numberBefore? (unit : String) (word : List Char) : Option Int :=
  match cutAt? unit.toList word with
  | some (number, []) => (String.ofList number).toInt?
  | _ => none

/-- The numbers of some units, in the order of the units; one that is left out
counts zero. -/
def readWords? : List String → List (List Char) → Option (List Int)
  | [], [] => some []
  | [], _ :: _ => none
  | _ :: units, [] => (readWords? units []).map (0 :: ·)
  | unit :: units, word :: words =>
    match numberBefore? unit word with
    | some n => (readWords? units words).map (n :: ·)
    | none => (readWords? units (word :: words)).map (0 :: ·)

/-- The hours, minutes and seconds that a text tells. -/
def readSpan? (text : String) : Option (Int × Int × Int) :=
  match readWords? ["h", "min", "sec"] (splitAt ' ' text.toList) with
  | some [hours, minutes, seconds] => some (hours, minutes, seconds)
  | _ => none

/-! ## Words -/

/-- A letter that a unit begins with, and that is in no number. -/
structure Opens (letter : Char) (unit : String) : Prop where
  opens : ∃ rest, unit.toList = letter :: rest
  sign : letter ≠ '-'
  digit : letter.isDigit = false

variable {letter : Char} {unit : String} {units : List String}
  {words : List (List Char)} {n : Int}

theorem Opens.not_mem_toString (h : Opens letter unit) :
    letter ∉ (toString n).toList := by
  intro hmem
  rcases mem_toString hmem with hsign | hdigit
  · exact h.sign hsign
  · rw [h.digit] at hdigit
    cases hdigit

theorem cutAt?_append {mark before : List Char} (h : letter ∉ before) :
    cutAt? (letter :: mark) (before ++ letter :: mark) = some (before, []) := by
  induction before with
  | nil =>
    have hafter := after?_append (letter :: mark) []
    rw [List.append_nil] at hafter
    rw [List.nil_append, cutAt?, hafter]
  | cons c before ih =>
    obtain ⟨hc, hbefore⟩ := not_or.1 (List.mem_cons.not.1 h)
    rw [List.cons_append, cutAt?, after?, if_neg hc, ih hbefore]
    rfl

theorem cutAt?_eq_none {mark cs : List Char} (h : letter ∉ cs) :
    cutAt? (letter :: mark) cs = none := by
  rw [Option.eq_none_iff_forall_ne_some]
  rintro ⟨before, rest⟩ hcut
  apply h
  rw [cutAt?_eq_append hcut]
  simp

theorem numberBefore?_written (hunit : Opens letter unit) :
    numberBefore? unit (toString n ++ unit).toList = some n := by
  obtain ⟨rest, hrest⟩ := hunit.opens
  have hcut :
      cutAt? unit.toList (toString n ++ unit).toList =
        some ((toString n).toList, []) := by
    rw [String.toList_append, hrest]
    exact cutAt?_append hunit.not_mem_toString
  rw [numberBefore?, hcut]
  dsimp only
  rw [String.ofList_toList, Int.toString_eq_repr, Int.toInt?_repr]

theorem numberBefore?_other (hunit : Opens letter unit) {word : List Char}
    (h : letter ∉ word) :
    numberBefore? unit word = none := by
  obtain ⟨rest, hrest⟩ := hunit.opens
  rw [numberBefore?, hrest, cutAt?_eq_none h]

theorem readWords?_part (hunit : Opens letter unit)
    (hwords : ∀ word ∈ words, letter ∉ word) :
    readWords? (unit :: units) ((part n unit).map String.toList ++ words) =
      (readWords? units words).map (n :: ·) := by
  unfold part
  split
  · rename_i hzero
    cases words with
    | nil => rw [hzero, List.map_nil, List.nil_append, readWords?]
    | cons word words =>
      rw [hzero, List.map_nil, List.nil_append, readWords?,
        numberBefore?_other hunit (hwords word List.mem_cons_self)]
  · rw [List.map_singleton, List.singleton_append, readWords?,
      numberBefore?_written hunit]

/-! ## Telling -/

def told (n : Int) : List String :=
  part (n / 3600) "h" ++ part (n / 60 % 60) "min" ++ part (n % 60) "sec"

theorem part_eq_nil : part n unit = [] ↔ n = 0 := by
  unfold part
  split <;> simp_all

theorem told_eq_nil : told n = [] ↔ n = 0 := by
  unfold told
  rw [List.append_eq_nil_iff, List.append_eq_nil_iff, part_eq_nil, part_eq_nil,
    part_eq_nil]
  omega

theorem spanParts_eq (n : Int) :
    spanParts .exact n = .ok (n / 3600, n / 60 % 60, n % 60) := by
  have hminutes : ((n : Rat) / 60).floor = n / 60 :=
    Rat.floor_intCast_div_natCast n 60
  have hhours : ((n : Rat) / 60 / 60).floor = n / 3600 := by
    rw [div_div]
    exact_mod_cast Rat.floor_intCast_div_natCast n 3600
  change Except.ok (((n : Rat) / 60 / 60).floor,
    ((n : Rat) / 60).floor - ((n : Rat) / 60 / 60).floor * 60, n % 60) = _
  rw [hminutes, hhours]
  congr 3
  omega

def wording (n : Int) : String :=
  if n = 0 then "less than 1sec" else " ".intercalate (told n)

theorem spanText_eq (ms : Rat) :
    spanText .exact ms = .ok (wording (round (ms / 1000))) := by
  have hround : round (ms / 1000) = (ms / 1000 + 1 / 2).floor :=
    round_eq (ms / 1000)
  rw [hround]
  unfold spanText
  dsimp only [Precision.exact_hold, Precision.exact_round, bind, Except.bind]
  generalize (ms / 1000 + 1 / 2).floor = n
  rw [spanParts_eq]
  dsimp only
  unfold wording
  split
  · rename_i hnil
    rw [if_pos (told_eq_nil.1 hnil)]
    rfl
  · rename_i hne
    rw [if_neg (told_eq_nil.not.1 hne)]
    rfl

/-! ## Telling and reading -/

theorem not_mem_part {c : Char} (hnumber : c ∉ (toString n).toList)
    (hunit : c ∉ unit.toList) :
    ∀ word ∈ (part n unit).map String.toList, c ∉ word := by
  unfold part
  split
  · exact nofun
  · rw [List.map_singleton, List.forall_mem_singleton, String.toList_append,
      List.mem_append]
    exact not_or.2 ⟨hnumber, hunit⟩

theorem readWords?_told (n : Int) :
    readWords? ["h", "min", "sec"] ((told n).map String.toList) =
    some [n / 3600, n / 60 % 60, n % 60] := by
  have hhours : Opens 'h' "h" := ⟨⟨_, rfl⟩, by decide, by decide⟩
  have hminutes : Opens 'm' "min" := ⟨⟨_, rfl⟩, by decide, by decide⟩
  have hseconds : Opens 's' "sec" := ⟨⟨_, rfl⟩, by decide, by decide⟩
  have hlast :
      readWords? ["sec"] ((part (n % 60) "sec").map String.toList) =
        some [n % 60] := by
    have hread := @readWords?_part 's' "sec" [] [] (n % 60) hseconds nofun
    rwa [List.append_nil] at hread
  unfold told
  rw [List.map_append, List.map_append, List.append_assoc,
    readWords?_part hhours, readWords?_part hminutes, hlast]
  · rfl
  · exact not_mem_part hminutes.not_mem_toString (by decide)
  · rw [List.forall_mem_append]
    exact ⟨not_mem_part hhours.not_mem_toString (by decide),
      not_mem_part hhours.not_mem_toString (by decide)⟩

theorem blank_not_mem_told :
    ∀ word ∈ (told n).map String.toList, ' ' ∉ word := by
  have hnumber : ∀ k : Int, ' ' ∉ (toString k).toList := by
    intro k hmem
    rcases mem_toString hmem with h | h <;> exact absurd h (by decide)
  unfold told
  rw [List.map_append, List.map_append, List.forall_mem_append,
    List.forall_mem_append]
  exact ⟨⟨not_mem_part (hnumber _) (by decide),
    not_mem_part (hnumber _) (by decide)⟩,
    not_mem_part (hnumber _) (by decide)⟩

theorem readSpan?_wording (n : Int) :
    readSpan? (wording n) = if n = 0 then none
      else some (n / 3600, n / 60 % 60, n % 60) := by
  unfold wording
  split
  · decide
  · rename_i hn
    have hne : (told n).map String.toList ≠ [] := by
      rwa [Ne, List.map_eq_nil_iff, told_eq_nil]
    have hwords :
        splitAt ' ' (" ".intercalate (told n)).toList =
          (told n).map String.toList := by
      rw [String.toList_intercalate, splitAt_eq_splitOn]
      exact List.splitOn_intercalate ' ' blank_not_mem_told hne
    rw [readSpan?, hwords, readWords?_told]

theorem wording_injective : Function.Injective wording := by
  intro n n' h
  have hread := congrArg readSpan? h
  rw [readSpan?_wording, readSpan?_wording] at hread
  split at hread
  · rename_i hn
    split at hread
    · rename_i hn'
      rw [hn, hn']
    · cases hread
  · split at hread
    · cases hread
    · rw [Option.some.injEq, Prod.mk.injEq, Prod.mk.injEq] at hread
      omega

example : spanText .exact (-3723000) = .ok "-2h 57min 57sec" := by cbv

end TimeWindow.Proofs.Interval.SpanTexts
