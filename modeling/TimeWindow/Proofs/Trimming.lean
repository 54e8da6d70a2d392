import Mathlib.Data.List.TakeWhile
import TimeWindow.Text.Blank

/-!
# Trimming

Trimming takes characters of one class off the ends of a text and nothing else
(`exists_trimBy`).  It does not see what is put around a text (`trimBy_padded`),
and it leaves a text alone that has none of them at its ends (`trimBy_of_ends`).
-/

namespace TimeWindow.Proofs.Trimming

open TimeWindow.Text

variable {p : Char → Bool} {cs before after : List Char}

theorem dropTrailing_append (h : ∀ c ∈ after, p c = true) :
    dropTrailing p (cs ++ after) = dropTrailing p cs := by
  unfold dropTrailing
  rw [List.reverse_append, List.dropWhile_append_of_pos fun c hc =>
    h c (List.mem_reverse.1 hc)]

theorem trimBy_padded (hbefore : ∀ c ∈ before, p c = true)
    (hafter : ∀ c ∈ after, p c = true) :
    trimBy p (before ++ cs ++ after) = trimBy p cs := by
  unfold trimBy
  rw [List.append_assoc, List.dropWhile_append_of_pos hbefore,
    List.dropWhile_append]
  split
  · rename_i hcs
    rw [List.isEmpty_iff] at hcs
    rw [hcs, List.dropWhile_eq_nil_iff.2 hafter]
  · exact dropTrailing_append hafter

theorem trimBy_eq_nil (h : ∀ c ∈ cs, p c = true) : trimBy p cs = [] := by
  unfold trimBy
  rw [List.dropWhile_eq_nil_iff.2 h]
  rfl

theorem trimBy_of_ends (hfirst : ∀ c ∈ cs.head?, p c = false)
    (hlast : ∀ c ∈ cs.getLast?, p c = false) :
    trimBy p cs = cs := by
  have hdrop :
      ∀ ds : List Char, (∀ d ∈ ds.head?, p d = false) → ds.dropWhile p = ds := by
    intro ds hhead
    cases ds with
    | nil => rfl
    | cons d ds => exact List.dropWhile_cons_of_neg (by simp [hhead d rfl])
  unfold trimBy dropTrailing
  rw [hdrop cs hfirst, hdrop cs.reverse (by rwa [List.head?_reverse]),
    List.reverse_reverse]

theorem exists_trimBy (p : Char → Bool) (cs : List Char) :
    ∃ before after, (∀ c ∈ before, p c = true) ∧
    (∀ c ∈ after, p c = true) ∧ cs = before ++ trimBy p cs ++ after := by
  refine ⟨cs.takeWhile p, ((cs.dropWhile p).reverse.takeWhile p).reverse,
    ?_, ?_, ?_⟩
  · exact fun c => List.mem_takeWhile_imp
  · exact fun c hc => List.mem_takeWhile_imp (List.mem_reverse.1 hc)
  · unfold trimBy dropTrailing
    rw [List.append_assoc, ← List.reverse_append, List.takeWhile_append_dropWhile,
      List.reverse_reverse, List.takeWhile_append_dropWhile]

theorem trimBy_trimBy (p : Char → Bool) (cs : List Char) :
    trimBy p (trimBy p cs) = trimBy p cs := by
  obtain ⟨before, after, hbefore, hafter, hcs⟩ := exists_trimBy p cs
  rw [← trimBy_padded hbefore hafter, ← hcs]

end TimeWindow.Proofs.Trimming
