import TimeWindow.DateMath.Expression
import TimeWindow.Proofs.Outcome

/-!
# Expressions as an anchor and math

An expression evaluates its math from where its anchor stands, and has no value
where it has no anchor.
-/

namespace TimeWindow.Proofs.DateMath.Expression

open TimeWindow.DateMath TimeWindow.Text

theorem parseText_of_anchor {rules : Rules} {p : Present} {s : String}
    {start : Option Instant} {math : List Char}
    (h : anchor rules p s.toList = .ok (start, math)) :
    parseText rules p s = start.elim (.ok none) (evaluate rules math) := by
  unfold parseText
  rw [h]
  cases start <;> rfl

theorem parseText_of_anchor_error {rules : Rules} {p : Present} {s : String}
    {f : Fault} (h : anchor rules p s.toList = .error f) :
    parseText rules p s = .error f := by
  unfold parseText
  rw [h]
  rfl

theorem parseText_of_now {rules : Rules} {p : Present} {s : String}
    {math : List Char} (h : after? nowWord s.toList = some math) :
    parseText rules p s = p.reference rules.zone >>= evaluate rules math := by
  unfold parseText anchor
  rw [h]
  cases p.reference rules.zone <;> rfl

theorem parseText_of_not_math {rules : Rules} {p : Present} {s : String}
    (hmath : isMathText s = false) :
    parseText rules p s = parseIso s rules.zone := by
  unfold isMathText at hmath
  rw [Bool.or_eq_false_iff] at hmath
  have hnow : after? nowWord s.toList = none := by
    simpa [beginsWith] using hmath.1
  have hmark : cutAt? anchorMark s.toList = none := by
    simpa [mentions] using hmath.2
  unfold parseText anchor
  rw [hnow, hmark]
  simp only [Option.getD_none, String.ofList_toList]
  rcases parseIso s rules.zone with f | _ | i <;> rfl

end TimeWindow.Proofs.DateMath.Expression
