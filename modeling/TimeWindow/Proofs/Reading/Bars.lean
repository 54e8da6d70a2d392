import TimeWindow.Reading.FreeForm
import TimeWindow.Proofs.Outcome
import Mathlib.Data.List.Infix

/-!
# Texts with two bars in a row

A bar is no letter, no digit and no filler, so that it is a token of its own
which no rule of the free-form reader takes.  Only in the place of a year behind
"of" is one token passed over unread; of two bars in a row the second is met all
the same, and the text is refused (`read_of_bars`).
-/

namespace TimeWindow.Proofs.Reading.Bars

open TimeWindow.FreeForm TimeWindow.Text Outcome

theorem infix_tail {α : Type} {a c : α} {l : List α} (h : [a, a] <:+: c :: l)
    (hc : c ≠ a) :
    [a, a] <:+: l := by
  rcases List.infix_cons_iff.1 h with hfront | hrest
  · rw [List.cons_prefix_cons] at hfront
    exact absurd hfront.1.symm hc
  · exact hrest

theorem infix_behind {α : Type} {a : α} {x l : List α} (hx : a ∉ x)
    (h : [a, a] <:+: x ++ l) :
    [a, a] <:+: l := by
  induction x with
  | nil => exact h
  | cons c x ih =>
    rw [List.mem_cons, not_or] at hx
    exact ih hx.2 (infix_tail h (Ne.symm hx.1))

/-! ## Bars among the tokens -/

theorem extend?_bar (shape : Shape) (run : List Char) :
    shape.extend? run '|' = none := by
  have hletter : isLetter '|' = false := by decide
  have hdigit : isDigitLike '|' = false := by decide
  cases shape <;> simp [Shape.extend?, hletter, hdigit]

theorem grow_append (r : Run) (cs : List Char) :
    ∃ x, cs = x ++ (r.grow cs).2 ∧ '|' ∉ x := by
  induction cs generalizing r with
  | nil => exact ⟨[], rfl, by simp⟩
  | cons c cs ih =>
    cases hextend : r.shape.extend? r.reversed c with
    | none =>
      refine ⟨[], ?_, by simp⟩
      simp [Run.grow, hextend]
    | some shape =>
      obtain ⟨x, hx, hbar⟩ :=
        ih ⟨shape, r.letters || r.shape.isWord, c :: r.reversed⟩
      have hc : '|' ≠ c := by
        rintro rfl
        rw [extend?_bar] at hextend
        cases hextend
      refine ⟨c :: x, ?_, by simp [hc, hbar]⟩
      rw [Run.grow]
      simp only [hextend, List.cons_append]
      rw [← hx]

theorem tokensFrom_bar (fuel : Nat) (cs : List Char) :
    tokensFrom (fuel + 1) ('|' :: cs) = ['|'] :: tokensFrom fuel cs := by
  have hletter : isLetter '|' = false := by decide
  have hdigit : isDigitLike '|' = false := by decide
  have hblank : isBlank '|' = false := by decide
  simp [tokensFrom, hletter, hdigit, hblank]

theorem tokensFrom_bars {fuel : Nat} {cs : List Char} (hfuel : cs.length ≤ fuel)
    (h : ['|', '|'] <:+: cs) : [['|'], ['|']] <:+: tokensFrom fuel cs := by
  induction fuel generalizing cs with
  | zero =>
    have hlength := h.length_le
    simp only [List.length_cons, List.length_nil] at hlength
    omega
  | succ fuel ih =>
    cases cs with
    | nil =>
      have hlength := h.length_le
      simp at hlength
    | cons c cs =>
      rw [List.length_cons] at hfuel
      by_cases hc : c = '|'
      · subst hc
        rw [tokensFrom_bar]
        rcases List.infix_cons_iff.1 h with hfront | hrest
        · rw [List.cons_prefix_cons] at hfront
          obtain ⟨rest, rfl⟩ := hfront.2
          cases fuel with
          | zero => simp at hfuel
          | succ fuel =>
            rw [List.singleton_append, tokensFrom_bar]
            exact ⟨[], tokensFrom fuel rest, rfl⟩
        · exact (ih (by omega) hrest).trans (List.infix_cons (List.infix_refl _))
      · have htail := infix_tail h hc
        -- a run of letters or digits ends before the first bar at the latest
        have hrun : ∀ r : Run,
            [['|'], ['|']] <:+: (Run.grow r cs).1.tokens ++
              tokensFrom fuel (Run.grow r cs).2 := by
          intro r
          obtain ⟨x, hx, hbar⟩ := grow_append r cs
          rw [hx] at htail
          have hlength : cs.length = x.length + (Run.grow r cs).2.length := by
            rw [← List.length_append, ← hx]
          exact (ih (by omega) (infix_behind hbar htail)).trans
            (List.infix_append_right)
        rw [tokensFrom]
        split
        · exact hrun ⟨.word, false, [c]⟩
        · split
          · exact hrun ⟨.number, false, [c]⟩
          · exact (ih (by omega) htail).trans (List.infix_cons (List.infix_refl _))

theorem tokens_bars {text : String} (h : ['|', '|'] <:+: text.toList) :
    ["|", "|"] <:+: tokens text.toList := by
  have hkept : ['|', '|'] <:+: text.toList.filter (· ≠ '\x00') :=
    List.IsInfix.filter (fun c => decide (c ≠ '\x00')) h
  exact (tokensFrom_bars (le_refl _) hkept).map String.ofList

theorem bar_ne {P : String → Bool} {token : String} (hbar : P "|" = false)
    (h : P token = true) :
    "|" ≠ token := by
  rintro rfl
  rw [h] at hbar
  cases hbar

theorem bar_ne_of_integer {token : String} {n : Int}
    (h : integer token.toList = .ok n) :
    "|" ≠ token := by
  rintro rfl
  cases h

/-! ## What a reading uses up -/

def KeepsBars (after : List String) (r : Reading) : Prop :=
  ∀ f used, r = .ok (f, used) → "|" ∉ after.take (used - 1)

section

variable {after : List String}

theorem keepsBars_ok {f : Findings} {used : Nat}
    (h : "|" ∉ after.take (used - 1)) :
    KeepsBars after (.ok (f, used)) := by
  rintro g n ⟨⟩
  exact h

theorem keepsBars_error (e : Failure) : KeepsBars after (.error e) := by
  rintro g n ⟨⟩

theorem keepsBars_bind {α : Type} {x : Except Failure α} {k : α → Reading}
    (h : ∀ a, x = .ok a → KeepsBars after (k a)) :
    KeepsBars after (x >>= k) := by
  intro f used hok
  obtain ⟨a, ha, hk⟩ := bind_eq_ok.1 hok
  exact h a ha f used hk

theorem readSix_keepsBars (f : Findings) (cs : List Char) :
    KeepsBars after (readSix f cs) := by
  unfold readSix
  split
  · dsimp only
    refine keepsBars_bind fun _ _ => keepsBars_bind fun _ _ =>
      keepsBars_bind fun _ _ => ?_
    exact keepsBars_ok (by simp)
  · refine keepsBars_bind fun _ _ => keepsBars_bind fun _ _ =>
      keepsBars_bind fun _ _ => ?_
    exact keepsBars_ok (by simp)

theorem readLong_keepsBars (f : Findings) (cs : List Char) :
    KeepsBars after (readLong f cs) := by
  unfold readLong
  refine keepsBars_bind fun _ _ => keepsBars_bind fun _ _ =>
    keepsBars_bind fun _ _ => ?_
  dsimp only
  split
  · exact keepsBars_ok (by simp)
  · refine keepsBars_bind fun _ _ => keepsBars_bind fun _ _ => ?_
    split
    · exact keepsBars_ok (by simp)
    · exact keepsBars_bind fun _ _ => keepsBars_ok (by simp)

theorem readClock_keepsBars (f : Findings) (q : Rat) (minutes : String)
    (rest : List String) :
    KeepsBars (":" :: minutes :: rest) (readClock f q minutes rest) := by
  unfold readClock
  refine keepsBars_bind fun numeral hnumeral => keepsBars_bind fun _ _ => ?_
  have hminutes : "|" ≠ minutes := by
    rintro rfl
    cases hnumeral
  dsimp only
  split
  · exact keepsBars_bind fun _ _ => keepsBars_ok (by simp [hminutes])
  · exact keepsBars_ok (by simp)

theorem readSeparated_keepsBars (f : Findings) (token sep : String)
    (hsep : "|" ≠ sep) (rest : List String) :
    KeepsBars (sep :: rest) (readSeparated f token sep rest) := by
  unfold readSeparated
  refine keepsBars_bind fun dates _ => ?_
  split
  · exact keepsBars_ok (by simp)
  · rename_i second rest
    -- a bar is neither a number nor a month
    by_cases hbar : "|" = second
    · subst hbar
      exact keepsBars_error .unreadable
    split
    · exact keepsBars_ok (by simp)
    · extract_lets last third
      have hthird :
          ∀ dates, KeepsBars (sep :: second :: rest) (third dates) := by
        intro dates
        simp only [third, last]
        split
        · exact keepsBars_ok (by simp [hsep])
        · split
          · exact keepsBars_ok (by simp [hsep])
          · rename_i mark rest hmark
            have hmark' : mark = sep := by simpa using hmark
            refine keepsBars_bind fun _ _ => ?_
            split
            · exact keepsBars_bind fun _ _ =>
                keepsBars_ok (by simp [hsep, hbar, hmark'])
            · exact keepsBars_bind fun _ _ =>
                keepsBars_ok (by simp [hsep, hbar, hmark'])
      split
      · exact keepsBars_bind fun dates _ => hthird dates
      · exact keepsBars_bind fun dates _ => hthird dates

theorem unitAround?_keepsBars {before : List String} {unit used : Nat}
    (h : unitAround? before after = some (unit, used)) :
    "|" ∉ after.take (used - 1) := by
  unfold unitAround? at h
  extract_lets behind inFront at h
  rcases Option.or_eq_some_iff.1 h with hbehind | ⟨-, hfront⟩
  · simp only [behind] at hbehind
    split at hbehind
    · split at hbehind
      · cases hbehind
        simp
      · split at hbehind
        · obtain ⟨_, -, heq⟩ := Option.map_eq_some_iff.1 hbehind
          cases heq
          simp
        · cases hbehind
    · cases hbehind
  · have hused : used = 0 := by
      simp only [inFront] at hfront
      split at hfront
      · split at hfront
        · cases hfront
          rfl
        · split at hfront
          · obtain ⟨_, -, heq⟩ := Option.map_eq_some_iff.1 hfront
            cases heq
            rfl
          · cases hfront
      · cases hfront
    simp [hused]

theorem readDay_keepsBars (f : Findings) (q : Rat) :
    KeepsBars after (readNumber.readDay f q) := by
  unfold readNumber.readDay
  split
  · exact keepsBars_bind fun _ _ => keepsBars_ok (by simp)
  · exact keepsBars_error _

theorem readNumber_keepsBars (f : Findings) (before : List String)
    (token : String) (numeral : Numeral) (after : List String) :
    KeepsBars after (readNumber f before token numeral after) := by
  unfold readNumber
  extract_lets q cs dateIsComplete standsAlone
  split
  · refine keepsBars_bind fun _ _ => ?_
    dsimp only
    split
    · exact keepsBars_bind fun _ _ => keepsBars_ok (by simp)
    · exact keepsBars_ok (by simp)
  · split
    · exact readSix_keepsBars _ _
    · split
      · exact readLong_keepsBars _ _
      · split
        · rename_i unit used hunit
          exact keepsBars_bind fun _ _ =>
            keepsBars_ok (unitAround?_keepsBars hunit)
        · split
          · exact keepsBars_bind fun _ _ => keepsBars_ok (by simp)
          · split
            · exact readClock_keepsBars _ _ _ _
            · split
              · rename_i hsep
                refine readSeparated_keepsBars _ _ _ ?_ _
                rintro rfl
                exact absurd hsep (by decide)
              · split
                · rename_i hfiller
                  split
                  · exact keepsBars_ok
                      (by simp [bar_ne (P := isFiller) (by decide) hfiller])
                  · exact keepsBars_bind fun _ _ => keepsBars_ok (by simp)
                · split
                  · split
                    · exact keepsBars_ok (by simp)
                    · exact readDay_keepsBars _ _
                  · exact readDay_keepsBars _ _

theorem readMonth_keepsBars (pivot : Int) (f : Findings) (month : Nat)
    (after : List String) :
    KeepsBars after (readMonth pivot f month after) := by
  unfold readMonth
  refine keepsBars_bind fun _ _ => ?_
  split
  · rename_i sep rest
    split
    · rename_i hsep
      have hsep' : "|" ≠ sep := by
        rintro rfl
        exact absurd hsep (by decide)
      cases rest with
      | nil => exact keepsBars_error _
      | cons second rest =>
        by_cases hbar : "|" = second
        · subst hbar
          exact keepsBars_error .unreadable
        refine keepsBars_bind fun _ _ => keepsBars_bind fun _ _ => ?_
        split
        · rename_i hrest
          rw [List.drop_succ_cons, List.drop_zero] at hrest
          split
          · rename_i hmark
            refine keepsBars_bind fun _ _ => keepsBars_bind fun _ _ => ?_
            exact keepsBars_ok (by simp [hsep', hbar, hrest, hmark])
          · exact keepsBars_ok (by simp [hsep'])
        · exact keepsBars_ok (by simp [hsep'])
    · split
      · split
        · rename_i word _ _ _ hword
          have hword' : "|" ≠ word :=
            bar_ne (P := isPertaining) (by decide) hword
          split
          · refine keepsBars_bind fun _ _ => keepsBars_bind fun _ _ => ?_
            exact keepsBars_ok (by simp [hword'])
          · exact keepsBars_ok (by simp [hword'])
        · exact keepsBars_ok (by simp)
      · exact keepsBars_ok (by simp)
  · exact keepsBars_ok (by simp)

theorem readOffset_keepsBars (f : Findings) (sign : String)
    (after : List String) :
    KeepsBars after (readOffset f sign after) := by
  unfold readOffset
  cases after with
  | nil => exact keepsBars_error _
  | cons digits rest =>
    refine keepsBars_bind fun _ hdigits => ?_
    cases hdigits
    extract_lets cs withName
    -- a zone's name in brackets may follow the tokens of the offset
    have hname : ∀ hours minutes used, "|" ∉ (digits :: rest).take (used - 1) →
        "|" ∉ (digits :: rest).take used →
        KeepsBars (digits :: rest) (withName (hours, minutes, used)) := by
      intro hours minutes used hlast hused
      simp only [withName]
      split
      · rename_i filler name tail htail
        split
        · rename_i hfiller
          refine keepsBars_ok ?_
          have hthree : (digits :: rest).take (used + 3) =
              (digits :: rest).take used ++ [filler, "(", name] := by
            rw [List.take_add, htail]
            rfl
          simp only [Bool.and_eq_true] at hfiller
          have hfiller' : "|" ≠ filler :=
            bar_ne (P := isFiller) (by decide) hfiller.1.1.1
          have hname : "|" ≠ name :=
            bar_ne (P := isZoneName) (by decide) hfiller.2
          rw [show used + 4 - 1 = used + 3 by omega, hthree]
          simp [hused, hname, hfiller']
        · exact keepsBars_ok hlast
      · exact keepsBars_ok hlast
    split
    · rename_i hfour
      have hdigits : "|" ≠ digits := by
        rintro rfl
        exact absurd hfour (by decide)
      refine keepsBars_bind fun hours _ => keepsBars_bind fun minutes _ => ?_
      exact hname hours minutes 1 (by simp) (by simp [hdigits])
    · split
      · rename_i tail htail
        refine keepsBars_bind fun hours hhours =>
          keepsBars_bind fun last hlast => ?_
        refine keepsBars_bind fun minutes hminutes => ?_
        have hdigits : "|" ≠ digits := bar_ne_of_integer hhours
        have hlast' : "|" ≠ last := bar_ne_of_integer hminutes
        rw [List.drop_succ_cons, List.drop_zero] at htail
        cases tail with
        | nil => cases hlast
        | cons next tail =>
          cases hlast
          exact hname hours minutes 3 (by simp [htail, hdigits])
            (by simp [htail, hdigits, hlast'])
      · split
        · rename_i hlength
          refine keepsBars_bind fun hours hhours => ?_
          rw [List.take_of_length_le hlength] at hhours
          exact hname hours 0 1 (by simp) (by simp [bar_ne_of_integer hhours])
        · exact keepsBars_error _

end

/-! ## The run over the tokens -/

/-- Tokens with two bars in a row, or with the second of them in front. -/
def Barred (ts : List String) : Prop := ["|", "|"] <:+: ts ∨ ts.head? = some "|"

theorem barred_drop {after : List String} {used : Nat}
    (h : ["|", "|"] <:+: after) (hkept : "|" ∉ after.take (used - 1)) :
    Barred (after.drop used) := by
  cases used with
  | zero => exact .inl h
  | succ used =>
    rw [Nat.add_sub_cancel] at hkept
    rw [← List.take_append_drop used after] at h
    have hdrop := infix_behind hkept h
    rw [← List.tail_drop]
    cases hcut : after.drop used with
    | nil =>
      rw [hcut] at hdrop
      cases List.infix_nil.1 hdrop
    | cons token rest =>
      rw [hcut] at hdrop
      rcases List.infix_cons_iff.1 hdrop with hfront | hrest
      · rw [List.cons_prefix_cons] at hfront
        obtain ⟨tail, rfl⟩ := hfront.2
        exact .inr rfl
      · exact .inl hrest

theorem readTokens_bar (pivot : Int) (fuel : Nat) (f : Findings)
    (before after : List String) :
    readTokens pivot (fuel + 1) f before ("|" :: after) =
      .error .unreadable := by
  have hnumeral : numeral? "|" = none := by decide
  have hnumber : isNumberWord "|" = false := by decide
  have hweekday : weekday? "|" = none := by decide
  have hmonth : month? "|" = none := by decide
  have hhalf : half? "|" = none := by decide
  have hzone : isZoneName "|" = false := by decide
  have hsign : isSign "|" = false := by decide
  have hfiller : isFiller "|" = false := by decide
  unfold readTokens
  simp [hnumeral, hnumber, hweekday, hmonth, hhalf, hzone, hsign, hfiller]

section

variable {pivot : Int} {fuel : Nat} {f g : Findings}
  {before after : List String} {token : String}

theorem readTokens_step (hbars : ["|", "|"] <:+: after)
    (h : readTokens pivot (fuel + 1) f before (token :: after) = .ok g) :
    ∃ f' before' rest, rest.length ≤ after.length ∧ Barred rest ∧
      readTokens pivot fuel f' before' rest = .ok g := by
  unfold readTokens at h
  extract_lets goOn readOn at h
  have hgo :
      ∀ f, goOn f after 0 = .ok g →
        ∃ f' before' rest, rest.length ≤ after.length ∧
      Barred rest ∧ readTokens pivot fuel f' before' rest = .ok g := by
    intro f hgo
    exact ⟨_, _, after, le_refl _, .inl hbars, hgo⟩
  have hread : ∀ r : Reading, KeepsBars after r → readOn r = .ok g →
      ∃ f' before' rest, rest.length ≤ after.length ∧ Barred rest ∧
        readTokens pivot fuel f' before' rest = .ok g := by
    intro r hkept hread
    obtain ⟨⟨f', used⟩, hr, hgo⟩ := bind_eq_ok.1 hread
    refine ⟨f', _, after.drop used, ?_, barred_drop hbars (hkept f' used hr), hgo⟩
    rw [List.length_drop]
    exact Nat.sub_le _ _
  split at h
  · exact hread _ (readNumber_keepsBars _ _ _ _ _) h
  · split at h
    · cases h
    · split at h
      · exact hgo _ h
      · exact hread _ (readMonth_keepsBars _ _ _ _) h
      · split at h
        · split at h
          · exact hgo _ h
          · cases h
        · cases h
      · split at h
        · split at h
          · rename_i next rest
            split at h
            · rename_i hsign
              -- a sign behind a zone is turned round, which touches no bar
              have hnext : next ≠ "|" :=
                (bar_ne (P := isSign) (by decide) hsign).symm
              exact ⟨_, _, flip next :: rest, le_refl _,
                .inl ((infix_tail hbars hnext).trans
                (List.infix_cons (List.infix_refl _))), h⟩
            · exact hgo _ h
          · exact hgo _ h
        · split at h
          · exact hread _ (readOffset_keepsBars _ _ _) h
          · split at h
            · exact hgo _ h
            · cases h

theorem readTokens_barred {ts : List String} (hfuel : ts.length ≤ fuel)
    (hbarred : Barred ts) :
    readTokens pivot fuel f before ts ≠ .ok g := by
  induction fuel generalizing f before ts with
  | zero =>
    cases List.length_eq_zero_iff.1 (Nat.le_zero.1 hfuel)
    simp [Barred] at hbarred
  | succ fuel ih =>
    cases ts with
    | nil => simp [Barred] at hbarred
    | cons token after =>
      rw [List.length_cons] at hfuel
      by_cases htoken : token = "|"
      · subst htoken
        rw [readTokens_bar]
        simp
      · have hbars : ["|", "|"] <:+: after := by
          rcases hbarred with hinfix | hhead
          · exact infix_tail hinfix htoken
          · cases hhead
            exact absurd rfl htoken
        intro hok
        obtain ⟨f', before', rest, hlength, hrest, hok'⟩ :=
          readTokens_step hbars hok
        exact ih (by omega) hrest hok'

end

theorem read_of_bars {text : String} (d : Defaults)
    (h : ['|', '|'] <:+: text.toList) :
    FreeForm.read text d = .ok none ∨
    FreeForm.read text d = .error .tooPrecise := by
  have hbarred : Barred (tokens text.toList) := .inl (tokens_bars h)
  unfold FreeForm.read
  extract_lets ts
  cases hread : readTokens d.pivotYear ts.length {} [] ts with
  | ok f => exact absurd hread (readTokens_barred (le_refl _) hbarred)
  | error e => cases e <;> simp

end TimeWindow.Proofs.Reading.Bars
