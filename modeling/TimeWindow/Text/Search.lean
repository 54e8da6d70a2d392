/-!
# Searching and cutting text

Occurrences of one text in another, and cuts at a mark. `cutAt?_eq_append` says
that a cut loses only the mark itself, and `splitAt_eq_splitOn` that pieces are
those of the list.
-/

namespace TimeWindow.Text

def after? : List Char → List Char → Option (List Char)
  | [], cs => some cs
  | _ :: _, [] => none
  | w :: ws, c :: cs => if w = c then after? ws cs else none

def beginsWith (word cs : List Char) : Bool := (after? word cs).isSome

def cutAt? (mark : List Char) : List Char → Option (List Char × List Char)
  | [] => if mark = [] then some ([], []) else none
  | c :: cs =>
    match after? mark (c :: cs) with
    | some rest => some ([], rest)
    | none => (cutAt? mark cs).map fun (before, rest) => (c :: before, rest)

def mentions (word cs : List Char) : Bool := (cutAt? word cs).isSome

def splitAt (mark : Char) : List Char → List (List Char)
  | [] => [[]]
  | c :: cs =>
    match splitAt mark cs with
    | [] => [[c]]
    | piece :: pieces =>
      if c = mark then [] :: piece :: pieces else (c :: piece) :: pieces

/-- The text behind its first `skip` characters with each occurrence of a word
replaced, from the left. -/
def replaceFrom (word other : List Char) : Nat → List Char → List Char
  | _, [] => []
  | skip + 1, _ :: cs => replaceFrom word other skip cs
  | 0, c :: cs =>
    match after? word (c :: cs) with
    | some _ => other ++ replaceFrom word other (word.length - 1) cs
    | none => c :: replaceFrom word other 0 cs

def replaceAll (word other cs : List Char) : List Char :=
  replaceFrom word other 0 cs

theorem after?_eq_some {word cs rest : List Char}
    (h : after? word cs = some rest) : cs = word ++ rest := by
  induction word generalizing cs with
  | nil => simpa [after?] using h
  | cons w ws ih =>
    cases cs with
    | nil => simp [after?] at h
    | cons c cs =>
      by_cases hc : w = c
      · simp only [after?, hc, if_true] at h
        rw [ih h, hc, List.cons_append]
      · simp [after?, hc] at h

theorem after?_append (word rest : List Char) :
    after? word (word ++ rest) = some rest := by
  induction word with
  | nil => rfl
  | cons w ws ih => simp [after?, ih]

theorem cutAt?_eq_append {mark cs before rest : List Char}
    (h : cutAt? mark cs = some (before, rest)) :
    cs = before ++ mark ++ rest := by
  induction cs generalizing before with
  | nil =>
    by_cases hm : mark = []
    · simp [cutAt?, hm] at h
      simp [h, hm]
    · simp [cutAt?, hm] at h
  | cons c cs ih =>
    cases ha : after? mark (c :: cs) with
    | some r =>
      simp only [cutAt?, ha, Option.some.injEq, Prod.mk.injEq] at h
      rw [after?_eq_some ha, ← h.1, ← h.2, List.nil_append]
    | none =>
      simp only [cutAt?, ha, Option.map_eq_some_iff] at h
      obtain ⟨⟨b, r⟩, hcut, heq⟩ := h
      simp only [Prod.mk.injEq] at heq
      obtain ⟨rfl, rfl⟩ := heq
      simp [ih hcut]

theorem mentions_of_beginsWith {word cs : List Char}
    (h : beginsWith word cs = true) : mentions word cs = true := by
  cases cs with
  | nil =>
    cases word with
    | nil => rfl
    | cons w ws => exact h
  | cons c cs =>
    cases ha : after? word (c :: cs) with
    | none => simp [beginsWith, ha] at h
    | some rest => simp [mentions, cutAt?, ha]

theorem splitAt_eq_splitOn (mark : Char) (cs : List Char) :
    splitAt mark cs = cs.splitOn mark := by
  induction cs with
  | nil => rfl
  | cons c cs ih =>
    obtain ⟨piece, pieces, hpieces⟩ :=
      List.exists_cons_of_ne_nil (List.splitOn_ne_nil mark cs)
    rw [splitAt, ih, List.splitOn_cons_eq_if_modifyHead, hpieces]
    simp

end TimeWindow.Text
