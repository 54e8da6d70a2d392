import Mathlib.Data.List.Forall2
import TimeWindow.Proofs.Service.Settings
import TimeWindow.Proofs.Trimming

/-!
# Origins written with commas

Settings take the origins that may call the service from one text.  Where it is
written with commas, the origins come out as they went in, whatever white space
and blank entries stand around them (`comma_form_read_back`).
-/

namespace TimeWindow.Proofs.Service.Origins

open TimeWindow.Text TimeWindow.Settings Trimming

/-! ## Comma forms -/

def Blank (cs : List Char) : Prop := ∀ c ∈ cs, isBlank c = true

instance (cs : List Char) : Decidable (Blank cs) :=
  List.decidableBAll (fun c => isBlank c = true) cs

structure IsOrigin (s : String) : Prop where
  filled : s ≠ ""
  comma : ',' ∉ s.toList
  first : s.toList.head?.any isBlank = false
  last : s.toList.getLast?.any isBlank = false

/-- Entries hold origins in their order: an entry has one, with white space
around it, or it is blank. -/
inductive Hold : List (List Char) → List String → Prop where
  | nil : Hold [] []
  | blank {entry : List Char} {entries : List (List Char)}
      {origins : List String} (blank : Blank entry)
      (rest : Hold entries origins) : Hold (entry :: entries) origins
  | origin {before after : List Char} {origin : String}
      {entries : List (List Char)} {origins : List String}
      (before_blank : Blank before) (isOrigin : IsOrigin origin)
      (after_blank : Blank after) (rest : Hold entries origins) :
      Hold ((before ++ origin.toList ++ after) :: entries) (origin :: origins)

/-- The text consists of entries that hold the origins, with commas between
them. -/
def CommaForm (text : String) (origins : List String) : Prop :=
  ∃ entries, Hold entries origins ∧ text.toList = [','].intercalate entries

/-- The text begins and ends with brackets, outer white space apart. -/
def Bracketed (text : String) : Prop :=
  ∃ before inner after, Blank before ∧ Blank after ∧
    text.toList = before ++ ('[' :: inner ++ [']']) ++ after

variable {cs before after : List Char} {text : String}
  {entries : List (List Char)} {origins : List String}

theorem exists_trim (cs : List Char) :
    ∃ before after, Blank before ∧ Blank after ∧
      cs = before ++ trim cs ++ after :=
  exists_trimBy isBlank cs

/-! ## Brackets -/

theorem bracketed_iff : Bracketed text ↔
    (trim text.toList).head? = some '[' ∧
    (trim text.toList).getLast? = some ']' := by
  constructor
  · rintro ⟨before, inner, after, hbefore, hafter, htext⟩
    have hlast : ('[' :: inner ++ [']']).getLast? = some ']' :=
      List.getLast?_concat
    have htrim : trim text.toList = '[' :: inner ++ [']'] := by
      rw [trim, htext, trimBy_padded hbefore hafter]
      apply trimBy_of_ends
      · rintro c ⟨⟩
        rfl
      · rw [hlast]
        rintro c ⟨⟩
        rfl
    rw [htrim]
    exact ⟨rfl, hlast⟩
  · rintro ⟨hfirst, hlast⟩
    obtain ⟨before, after, hbefore, hafter, htext⟩ := exists_trim text.toList
    obtain ⟨rest, hrest⟩ := List.head?_eq_some_iff.1 hfirst
    obtain ⟨inner, hinner⟩ := List.getLast?_eq_some_iff.1 hlast
    -- one character cannot be both brackets
    cases inner with
    | nil =>
      rw [hinner] at hrest
      cases hrest
    | cons c inner =>
      rw [hinner] at hrest
      cases hrest
      exact ⟨before, inner, after, hbefore, hafter, htext.trans (by rw [hinner])⟩

/-! ## White space around entries -/

def Padded (entry padded : List Char) : Prop :=
  ∃ before after, Blank before ∧ Blank after ∧ padded = before ++ entry ++ after

theorem comma_not_mem_of_blank (h : Blank cs) : ',' ∉ cs :=
  fun hmem => absurd (h ',' hmem) (by decide)

theorem forall₂_modifyHead {α : Type} {R : α → α → Prop} {f g : α → α}
    {as bs : List α} (h : List.Forall₂ R as bs)
    (hfirst : ∀ a b, R a b → R (f a) (g b)) :
    List.Forall₂ R (as.modifyHead f) (bs.modifyHead g) := by
  cases h with
  | nil => exact .nil
  | cons hab hrest => exact .cons (hfirst _ _ hab) hrest

theorem forall₂_splitOn_append (h : Blank after) :
    List.Forall₂
      (fun entry padded => ∃ blanks, Blank blanks ∧ padded = entry ++ blanks)
      (cs.splitOn ',') ((cs ++ after).splitOn ',') := by
  induction cs with
  | nil =>
    rw [List.nil_append, List.splitOn_nil,
      List.splitOn_eq_singleton (comma_not_mem_of_blank h)]
    exact .cons ⟨after, h, rfl⟩ .nil
  | cons c cs ih =>
    rw [List.cons_append, List.splitOn_cons_eq_if_modifyHead,
      List.splitOn_cons_eq_if_modifyHead]
    split
    · exact .cons ⟨[], nofun, rfl⟩ ih
    · refine forall₂_modifyHead ih ?_
      rintro entry _ ⟨blanks, hblanks, rfl⟩
      exact ⟨blanks, hblanks, rfl⟩

theorem forall₂_splitOn_padded (hbefore : Blank before) (hafter : Blank after) :
    List.Forall₂ Padded (cs.splitOn ',')
      ((before ++ cs ++ after).splitOn ',') := by
  induction before with
  | nil =>
    refine (forall₂_splitOn_append hafter).imp ?_
    rintro entry _ ⟨blanks, hblanks, rfl⟩
    exact ⟨[], blanks, nofun, hblanks, rfl⟩
  | cons c before ih =>
    obtain ⟨hc, hbefore⟩ := List.forall_mem_cons.1 hbefore
    have hcomma : (c == ',') = false :=
      beq_false_of_ne fun heq => absurd hc (heq ▸ by decide)
    have hentries : List.Forall₂ Padded ((cs.splitOn ',').modifyHead id)
        (((before ++ cs ++ after).splitOn ',').modifyHead (c :: ·)) := by
      refine forall₂_modifyHead (ih hbefore) ?_
      rintro entry _ ⟨before, after, hbefore, hafter, rfl⟩
      exact ⟨c :: before, after, List.forall_mem_cons.2 ⟨hc, hbefore⟩, hafter, rfl⟩
    rw [List.modifyHead_id] at hentries
    rw [List.cons_append, List.cons_append,
      List.splitOn_cons_eq_if_modifyHead, hcomma]
    exact hentries

theorem originsByComma_trim (cs : List Char) :
    originsByComma (trim cs) = originsByComma cs := by
  obtain ⟨before, after, hbefore, hafter, hcs⟩ := exists_trim cs
  have hentries :
      List.Forall₂ Padded ((trim cs).splitOn ',')
        ((before ++ trim cs ++ after).splitOn ',') :=
    forall₂_splitOn_padded hbefore hafter
  rw [← hcs] at hentries
  have htrim :
      ((trim cs).splitOn ',').map trim = (cs.splitOn ',').map trim := by
    rw [← List.forall₂_eq_eq_eq, List.forall₂_map_left_iff,
      List.forall₂_map_right_iff]
    refine hentries.imp ?_
    rintro entry _ ⟨before, after, hbefore, hafter, rfl⟩
    exact (trimBy_padded hbefore hafter).symm
  unfold originsByComma
  rw [splitAt_eq_splitOn, splitAt_eq_splitOn, htrim]

/-! ## Entries and their origins -/

theorem Hold.comma_not_mem (h : Hold entries origins) :
    ∀ entry ∈ entries, ',' ∉ entry := by
  induction h with
  | nil => exact nofun
  | blank blank _ ih =>
    exact List.forall_mem_cons.2 ⟨comma_not_mem_of_blank blank, ih⟩
  | origin before_blank isOrigin after_blank _ ih =>
    refine List.forall_mem_cons.2 ⟨?_, ih⟩
    rw [List.mem_append, List.mem_append, not_or, not_or]
    exact ⟨⟨comma_not_mem_of_blank before_blank, isOrigin.comma⟩,
      comma_not_mem_of_blank after_blank⟩

theorem Hold.filterMap_trim (h : Hold entries origins) :
    (entries.map trim).filterMap
    (fun entry => if entry = [] then none else some (String.ofList entry)) =
      origins := by
  induction h with
  | nil => rfl
  | blank blank _ ih =>
    rw [List.map_cons, trim, trimBy_eq_nil blank, List.filterMap_cons, if_pos rfl]
    exact ih
  | origin before_blank isOrigin after_blank _ ih =>
    rename_i origin _ _ _
    have hne : origin.toList ≠ [] :=
      fun hnil => isOrigin.filled (String.toList_eq_nil_iff.1 hnil)
    have hends : trimBy isBlank origin.toList = origin.toList :=
      trimBy_of_ends ((Option.any_eq_false _ _).1 isOrigin.first)
        ((Option.any_eq_false _ _).1 isOrigin.last)
    rw [List.map_cons, trim, trimBy_padded before_blank after_blank, hends,
      List.filterMap_cons, if_neg hne, String.ofList_toList, ih]

theorem CommaForm.originsByComma (h : CommaForm text origins)
    (hne : origins ≠ []) :
    originsByComma text.toList = origins := by
  obtain ⟨entries, hold, htext⟩ := h
  have hentries : entries ≠ [] := by
    rintro rfl
    cases hold
    exact hne rfl
  unfold Settings.originsByComma
  rw [htext, splitAt_eq_splitOn, List.splitOn_intercalate ',' hold.comma_not_mem
    hentries, hold.filterMap_trim]

theorem plainOrigins_trim (h : originsByComma (trim cs) ≠ []) :
    plainOrigins (trim cs) = (originsByComma (trim cs)).map .str := by
  unfold plainOrigins
  split
  · rfl
  · rename_i hcomma
    rw [Bool.not_eq_true, List.contains_eq_mem, decide_eq_false_iff_not] at hcomma
    have hne : trim cs ≠ [] := fun hnil => h (hnil ▸ rfl)
    have htrim : trim (trim cs) = trim cs := trimBy_trimBy isBlank cs
    have hone : originsByComma (trim cs) = [String.ofList (trim cs)] := by
      unfold originsByComma
      rw [splitAt_eq_splitOn, List.splitOn_eq_singleton hcomma, List.map_singleton,
        htrim, List.filterMap_cons, if_neg hne, List.filterMap_nil]
    rw [if_pos hne, hone, List.map_singleton]

theorem CommaForm.originsOf (h : CommaForm text origins) (hne : origins ≠ [])
    (hplain : ¬ Bracketed text) :
    originsOf text = origins.map .str := by
  have horigins : Settings.originsByComma (trim text.toList) = origins :=
    (originsByComma_trim _).trans (h.originsByComma hne)
  have hends :
      ¬ ((trim text.toList).head? = some '[' &&
        (trim text.toList).getLast? = some ']') = true := by
    rw [Bool.and_eq_true, decide_eq_true_eq, decide_eq_true_eq]
    exact bracketed_iff.not.1 hplain
  unfold Settings.originsOf
  dsimp only
  rw [if_neg hends, plainOrigins_trim (horigins ▸ hne), horigins]

/-! ## Settings -/

def givenOrigins (text : String) : List (String × Json) :=
  [(originsNames.field, .str text)]

variable {env : Environment}

theorem field_other {α : Type} {name : String} (h : name ≠ originsNames.field)
    (standard : α) (read : Json → Except Issue α) :
    field env (givenOrigins text) ⟨name, none⟩ standard read =
      field env [] ⟨name, none⟩ standard read := by
  have hlookup : (givenOrigins text).lookup name = none := by
    rw [givenOrigins, List.lookup_cons, beq_false_of_ne h]
    rfl
  unfold field find?
  dsimp only
  rw [hlookup]
  rfl

theorem field_origins (h : valueOf? env (lower secondOriginsName) = none)
    (standard : String) :
    field env (givenOrigins text) originsNames standard (plain Field.string) =
      .ok text := by
  have hlookup : (givenOrigins text).lookup secondOriginsName = none := rfl
  have hfound :
      find? env (givenOrigins text) originsNames =
        some (originsNames.field, .str text) := by
    unfold find? originsNames
    dsimp only
    rw [hlookup, h]
    rfl
  unfold field
  rw [hfound]
  rfl

theorem leftOver_eq_nil_iff :
    leftOver env (givenOrigins text) = [] ↔
    valueOf? env (lower secondOriginsName) = none := by
  have hlookup : (givenOrigins text).lookup secondOriginsName = none := rfl
  have hfield : originsNames.field ∈ fieldNames := by decide
  unfold leftOver
  dsimp only
  rw [hlookup]
  obtain hsecond | ⟨v, hsecond⟩ :=
    Option.eq_none_or_eq_some (valueOf? env (lower secondOriginsName))
  · simp [givenOrigins, hfield, hsecond]
  · simp [givenOrigins, hsecond]

theorem read_givenOrigins {base : Settings}
    (h : Settings.read env [] = .ok base)
    (hfree : valueOf? env (lower secondOriginsName) = none) :
    Settings.read env (givenOrigins text) =
      .ok { base with allowedOriginsText := text } := by
  unfold Settings.read at h ⊢
  dsimp only at h ⊢
  simp (disch := decide) only [field_other]
  rw [field_origins hfree, leftOver_eq_nil_iff.2 hfree]
  split at h
  · rename_i happName henvironment hdebug hlevel hlogs hhost hport _ hzone
      hfiscal hweek hresolution _
    cases h
    rw [happName, henvironment, hdebug, hlevel, hlogs, hhost, hport, hzone,
      hfiscal, hweek, hresolution]
  · cases h

theorem text_of_read {s : Settings}
    (h : Settings.read env (givenOrigins text) = .ok s) :
    s.allowedOriginsText = text := by
  unfold Settings.read at h
  dsimp only at h
  split at h
  · rename_i horigins _ _ _ _ hleft
    cases h
    rw [field_origins (leftOver_eq_nil_iff.1 hleft)] at horigins
    cases horigins
    rfl
  · cases h

/-- **Origins come out of their comma form as they went in.**  Let some origins
be written with commas, with white space around them and blank entries among
them as may be, and not in brackets.  Settings that are made of this text have
exactly these origins.  They are made where no variables are set, and wherever
the variables make settings and do not name the origins as well; all other
values are then as the variables say. -/
theorem comma_form_read_back (hform : CommaForm text origins)
    (hne : origins ≠ []) (hplain : ¬ Bracketed text) :
    (∃ s, Settings.read [] (givenOrigins text) = .ok s ∧
      s.allowedOrigins = origins.map .str) ∧
    ∀ env : Environment,
      (∀ s, Settings.read env (givenOrigins text) = .ok s →
        s.allowedOrigins = origins.map .str) ∧
      ∀ base, Settings.read env [] = .ok base →
        valueOf? env (lower secondOriginsName) = none →
        Settings.read env (givenOrigins text) =
          .ok { base with allowedOriginsText := text } := by
  have horigins :
      ∀ env s, Settings.read env (givenOrigins text) = .ok s →
        s.allowedOrigins = origins.map .str := by
    intro env s hs
    rw [allowedOrigins, text_of_read hs]
    exact hform.originsOf hne hplain
  obtain ⟨base, hbase⟩ : ∃ base, Settings.read [] [] = .ok base := ⟨_, rfl⟩
  have hread :
      Settings.read [] (givenOrigins text) =
        .ok { base with allowedOriginsText := text } :=
    read_givenOrigins hbase rfl
  exact ⟨⟨_, hread, horigins [] _ hread⟩, fun env =>
    ⟨horigins env, fun base => read_givenOrigins⟩⟩

/-- Two origins, the second of which begins with a bracket, with white space and
blank entries. -/
theorem comma_form_read_back_two :
    CommaForm " https://a.example ,,\t[b , " ["https://a.example", "[b"] ∧
      ¬ Bracketed " https://a.example ,,\t[b , " ∧
      ∃ s,
        Settings.read [] (givenOrigins " https://a.example ,,\t[b , ") = .ok s ∧
        s.allowedOrigins = [.str "https://a.example", .str "[b"] := by
  have hfirst : IsOrigin "https://a.example" :=
    ⟨by decide, by decide, by decide, by decide⟩
  have hsecond : IsOrigin "[b" := ⟨by decide, by decide, by decide, by decide⟩
  have hhold :
      Hold [[' '] ++ "https://a.example".toList ++ [' '], [],
        ['\t'] ++ "[b".toList ++ [' '], [' ']]
      ["https://a.example", "[b"] :=
    .origin (by decide) hfirst (by decide) (.blank (by decide)
      (.origin (by decide) hsecond (by decide) (.blank (by decide) .nil)))
  have hform :
      CommaForm " https://a.example ,,\t[b , " ["https://a.example", "[b"] :=
    ⟨_, hhold, by decide⟩
  have hplain : ¬ Bracketed " https://a.example ,,\t[b , " :=
    bracketed_iff.not.2 (by decide)
  exact ⟨hform, hplain, (comma_form_read_back hform (by decide) hplain).1⟩

end TimeWindow.Proofs.Service.Origins
