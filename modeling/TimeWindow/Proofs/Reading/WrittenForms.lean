import Mathlib.Data.List.TakeWhile
import TimeWindow.DateMath.Engine
import TimeWindow.Service.Field
import TimeWindow.Proofs.Occurrences
import TimeWindow.Proofs.Outcome
import TimeWindow.Proofs.Reading.Tokens

/-!
# The texts that a field takes for moments

A date, a date with a time and perhaps an offset, or a count.  None of them has
white space around it or speaks of now (`tidy_of_momentText`).
-/

namespace TimeWindow.Proofs.Reading.WrittenForms

open TimeWindow.Text Occurrences Outcome Tokens Trimming

/-! ## The forms -/

inductive DateText : Date → List Char → Prop where
  | mk {y m d : Int} {ys ms ds : List Char} (year : Digits 4 y ys)
      (month : Digits 2 m ms) (day : Digits 2 d ds) :
      DateText ⟨y, m, d⟩ (ys ++ '-' :: (ms ++ '-' :: ds))

inductive SecondsText : Int → Int → List Char → Prop where
  | whole {s : Int} {ss : List Char} (second : Digits 2 s ss) :
      SecondsText s 0 ss
  | pointed {s : Int} {ss fraction : List Char} {mark : Char}
      (second : Digits 2 s ss) (point : mark = '.' ∨ mark = ',')
      (filled : fraction ≠ []) (ascii : ∀ c ∈ fraction, isAsciiDigit c = true) :
      SecondsText s (digitsValue ((fraction ++ List.replicate 6 '0').take 6))
        (ss ++ mark :: fraction)

inductive ClockText : ClockTime → List Char → Prop where
  | minutes {h n : Int} {hs ns : List Char} (hour : Digits 2 h hs)
      (minute : Digits 2 n ns) :
      ClockText ⟨h, n, 0, 0⟩ (hs ++ ':' :: ns)
  | seconds {h n s micro : Int} {hs ns ss : List Char} (hour : Digits 2 h hs)
      (minute : Digits 2 n ns) (second : SecondsText s micro ss) :
      ClockText ⟨h, n, s, micro⟩ (hs ++ ':' :: (ns ++ ':' :: ss))

inductive OffsetText : Option Int → List Char → Prop where
  | missing : OffsetText none []
  | universal {c : Char} (zulu : c = 'Z' ∨ c = 'z') : OffsetText (some 0) [c]
  | signed {sign : Char} {h n : Int} {hs ns between : List Char}
      (known : sign = '+' ∨ sign = '-' ∨ sign = '\u2212')
      (hours : Digits 2 h hs) (minutes : Digits 2 n ns)
      (colon : between = [] ∨ between = [':']) :
      OffsetText
        (some (if sign = '+' then h * 3600 + n * 60 else -(h * 3600 + n * 60)))
        (sign :: (hs ++ (between ++ ns)))

theorem skip?_eq_some {c : Char} {cs rest : List Char}
    (h : Timestamp.skip? c cs = some rest) : cs = c :: rest := by
  cases cs with
  | nil => cases h
  | cons d cs =>
    unfold Timestamp.skip? at h
    rw [Option.ite_none_right_eq_some, Option.some_inj] at h
    rw [h.1, h.2]

theorem readDate?_eq_some {cs rest : List Char} {d : Date}
    (h : Timestamp.readDate? cs = some (d, rest)) :
    ∃ dt, cs = dt ++ rest ∧ DateText d dt := by
  obtain ⟨⟨y, cs₁⟩, hyear, h₁⟩ := Option.bind_eq_some_iff.1 h
  obtain ⟨cs₂, hfirst, h₂⟩ := Option.bind_eq_some_iff.1 h₁
  obtain ⟨⟨m, cs₃⟩, hmonth, h₃⟩ := Option.bind_eq_some_iff.1 h₂
  obtain ⟨cs₄, hsecond, h₄⟩ := Option.bind_eq_some_iff.1 h₃
  obtain ⟨⟨d, cs₅⟩, hday, h₅⟩ := Option.bind_eq_some_iff.1 h₄
  cases h₅
  obtain ⟨ys, rfl, hy⟩ := digits?_eq_some hyear
  obtain ⟨ms, rfl, hm⟩ := digits?_eq_some hmonth
  obtain ⟨ds, rfl, hd⟩ := digits?_eq_some hday
  rw [skip?_eq_some hfirst, skip?_eq_some hsecond]
  exact ⟨_, by simp, .mk hy hm hd⟩

theorem fraction?_eq_some {cs rest : List Char} {micro : Int}
    (h : Timestamp.fraction? cs = some (micro, rest)) :
    ∃ fraction, cs = fraction ++ rest ∧ fraction ≠ [] ∧
      (∀ c ∈ fraction, isAsciiDigit c = true) ∧
      micro = digitsValue ((fraction ++ List.replicate 6 '0').take 6) := by
  unfold Timestamp.fraction? at h
  dsimp only at h
  rw [Option.ite_none_left_eq_some, Option.some_inj] at h
  obtain ⟨hne, heq⟩ := h
  cases heq
  exact ⟨cs.takeWhile isAsciiDigit,
    (List.prefix_iff_eq_append.1 (List.takeWhile_prefix _)).symm, hne,
    fun c hc => List.mem_takeWhile_imp hc, rfl⟩

theorem secondsPart?_eq_some {cs rest : List Char} {s micro : Int}
    (h : Field.secondsPart? cs = some (s, micro, rest)) :
    ∃ ss, cs = ss ++ rest ∧ SecondsText s micro ss := by
  obtain ⟨⟨s, cs₁⟩, hsecond, h₁⟩ := Option.bind_eq_some_iff.1 h
  obtain ⟨ss, rfl, hs⟩ := digits?_eq_some hsecond
  -- with a point, with a comma, or without a fraction
  dsimp only at h₁
  split at h₁
  · obtain ⟨⟨micro, cs₂⟩, hmicro, h₂⟩ := Option.bind_eq_some_iff.1 h₁
    cases h₂
    obtain ⟨fraction, rfl, hne, hfraction, rfl⟩ := fraction?_eq_some hmicro
    exact ⟨_, by simp, .pointed hs (.inl rfl) hne hfraction⟩
  · obtain ⟨⟨micro, cs₂⟩, hmicro, h₂⟩ := Option.bind_eq_some_iff.1 h₁
    cases h₂
    obtain ⟨fraction, rfl, hne, hfraction, rfl⟩ := fraction?_eq_some hmicro
    exact ⟨_, by simp, .pointed hs (.inr rfl) hne hfraction⟩
  · cases h₁
    exact ⟨ss, rfl, .whole hs⟩

theorem timePart?_eq_some {cs rest : List Char} {c : ClockTime}
    (h : Field.timePart? cs = some (c, rest)) :
    ∃ ct, cs = ct ++ rest ∧ ClockText c ct := by
  obtain ⟨⟨hour, cs₁⟩, hhour, h₁⟩ := Option.bind_eq_some_iff.1 h
  obtain ⟨cs₂, hcolon, h₂⟩ := Option.bind_eq_some_iff.1 h₁
  obtain ⟨⟨minute, cs₃⟩, hminute, h₃⟩ := Option.bind_eq_some_iff.1 h₂
  obtain ⟨hs, rfl, hh⟩ := digits?_eq_some hhour
  obtain ⟨ns, rfl, hn⟩ := digits?_eq_some hminute
  rw [skip?_eq_some hcolon]
  dsimp only at h₃
  split at h₃
  · obtain ⟨⟨s, micro, cs₄⟩, hseconds, h₄⟩ := Option.bind_eq_some_iff.1 h₃
    cases h₄
    obtain ⟨ss, rfl, hs⟩ := secondsPart?_eq_some hseconds
    exact ⟨_, by simp, .seconds hh hn hs⟩
  · cases h₃
    exact ⟨_, by simp, .minutes hh hn⟩

theorem offsetPart?_eq_some {cs : List Char} {o : Option Int}
    (h : Field.offsetPart? cs = some o) :
    OffsetText o cs := by
  unfold Field.offsetPart? at h
  split at h
  · cases h
    exact .missing
  · cases h
    exact .universal (.inl rfl)
  · cases h
    exact .universal (.inr rfl)
  · rename_i sign cs _ _
    rw [Option.ite_none_right_eq_some] at h
    obtain ⟨hsign, h₁⟩ := h
    obtain ⟨⟨hours, cs₁⟩, hhours, h₂⟩ := Option.bind_eq_some_iff.1 h₁
    obtain ⟨⟨minutes, cs₂⟩, hminutes, h₃⟩ := Option.bind_eq_some_iff.1 h₂
    dsimp only at h₃
    split at h₃
    · cases h₃
    · rename_i hend
      cases h₃
      simp only [Bool.or_eq_true, decide_eq_true_eq, not_or, ne_eq,
        not_not] at hend
      obtain ⟨⟨rfl, -⟩, -⟩ := hend
      have hknown : sign = '+' ∨ sign = '-' ∨ sign = '\u2212' := by
        simpa [or_assoc] using hsign
      obtain ⟨hs, rfl, hh⟩ := digits?_eq_some hhours
      split at hminutes
      · rename_i hcolon
        obtain ⟨tail, rfl⟩ := List.head?_eq_some_iff.1 hcolon
        obtain ⟨ns, htail, hn⟩ := digits?_eq_some hminutes
        rw [List.drop_one, List.tail_cons, List.append_nil] at htail
        subst htail
        exact .signed hknown hh hn (.inr rfl)
      · obtain ⟨ns, rfl, hn⟩ := digits?_eq_some hminutes
        rw [List.append_nil]
        exact .signed hknown hh hn (.inl rfl)

theorem writtenMoment?_eq_some {cs : List Char} {d : Date} {c : ClockTime}
    {o : Option Int} (h : Field.writtenMoment? cs = some (d, c, o)) :
    ∃ dt sep ct ot, cs = dt ++ sep :: (ct ++ ot) ∧ DateText d dt ∧
      sep ∈ ['T', 't', ' ', '_'] ∧ ClockText c ct ∧
      OffsetText o ot := by
  obtain ⟨⟨date, cs₁⟩, hdate, h₁⟩ := Option.bind_eq_some_iff.1 h
  obtain ⟨dt, rfl, hd⟩ := readDate?_eq_some hdate
  dsimp only at h₁
  split at h₁
  · rename_i sep cs₂
    split at h₁
    · cases h₁
    · rename_i hsep
      simp only [Bool.not_eq_true', Bool.not_eq_false, Bool.or_eq_true,
        decide_eq_true_eq, or_assoc] at hsep
      obtain ⟨⟨time, cs₃⟩, htime, h₂⟩ := Option.bind_eq_some_iff.1 h₁
      obtain ⟨ct, rfl, hc⟩ := timePart?_eq_some htime
      dsimp only at h₂
      split at h₂
      · cases h₂
      · obtain ⟨offset, hoffset, h₃⟩ := Option.bind_eq_some_iff.1 h₂
        cases h₃
        exact ⟨dt, sep, ct, cs₃, rfl,
          hd, by simpa using hsep, hc, offsetPart?_eq_some hoffset⟩
  · cases h₁

/-! ## Characters -/

def isWrittenChar (c : Char) : Bool :=
  isAsciiDigit c || "-:.,TtZz+\u2212".toList.contains c

theorem isWrittenChar_of_isAsciiDigit {c : Char} (h : isAsciiDigit c = true) :
    isWrittenChar c = true := by
  unfold isWrittenChar
  rw [h]
  rfl

theorem written_digits {n : Nat} {v : Int} {ds : List Char}
    (h : Digits n v ds) : ds.all isWrittenChar = true :=
  List.all_eq_true.2 fun c hc => isWrittenChar_of_isAsciiDigit (h.ascii c hc)

theorem written_date {d : Date} {dt : List Char} (h : DateText d dt) :
    dt.all isWrittenChar = true := by
  obtain ⟨year, month, day⟩ := h
  simp only [List.all_append, List.all_cons, written_digits year,
    written_digits month, written_digits day]
  decide

theorem written_seconds {s micro : Int} {ss : List Char}
    (h : SecondsText s micro ss) :
    ss.all isWrittenChar = true := by
  cases h with
  | whole second => exact written_digits second
  | pointed second point filled ascii =>
    have hfraction :=
      List.all_eq_true.2 fun c hc => isWrittenChar_of_isAsciiDigit (ascii c hc)
    simp only [List.all_append, List.all_cons, written_digits second, hfraction]
    rcases point with rfl | rfl <;> decide

theorem written_clock {c : ClockTime} {ct : List Char} (h : ClockText c ct) :
    ct.all isWrittenChar = true := by
  cases h with
  | minutes hour minute =>
    simp only [List.all_append, List.all_cons, written_digits hour,
      written_digits minute]
    decide
  | seconds hour minute second =>
    simp only [List.all_append, List.all_cons, written_digits hour,
      written_digits minute, written_seconds second]
    decide

theorem written_offset {o : Option Int} {ot : List Char} (h : OffsetText o ot) :
    ot.all isWrittenChar = true := by
  cases h with
  | missing => rfl
  | universal zulu => rcases zulu with rfl | rfl <;> decide
  | signed known hours minutes colon =>
    simp only [List.all_append, List.all_cons, written_digits hours,
      written_digits minutes]
    rcases known with rfl | rfl | rfl <;> rcases colon with rfl | rfl <;> decide

structure Tidy (cs : List Char) : Prop where
  first : ∃ c, cs.head? = some c ∧ isWrittenChar c = true
  last : ∃ c, cs.getLast? = some c ∧ isWrittenChar c = true
  within : ∀ c ∈ cs, isWrittenChar c = true ∨ c = ' ' ∨ c = '_'

theorem tidy_of_written {cs : List Char} (hne : cs ≠ [])
    (h : cs.all isWrittenChar = true) : Tidy cs := by
  rw [List.all_eq_true] at h
  refine ⟨⟨_, List.head?_eq_some_head hne, h _ (List.head_mem hne)⟩,
    ⟨_, List.getLast?_eq_some_getLast hne, h _ (List.getLast_mem hne)⟩,
    fun c hc => .inl (h c hc)⟩

theorem of_isWrittenChar {c : Char} (h : isWrittenChar c = true) :
    isBlank c = false ∧ c.toNat < 0x100000 := by
  have hmarks : ("-:.,TtZz+\u2212".toList.all fun c =>
      !isBlank c && decide (c.toNat < 0x100000)) = true := by decide
  unfold isWrittenChar at h
  rw [Bool.or_eq_true] at h
  rcases h with h | h
  · have hcode := (toNat_of_isAsciiDigit h).2
    exact ⟨isBlank_of_isAsciiDigit h, by omega⟩
  · have hmark := List.all_eq_true.1 hmarks c (List.contains_iff_mem.1 h)
    rw [Bool.and_eq_true, Bool.not_eq_true', decide_eq_true_eq] at hmark
    exact hmark

theorem trim_of_tidy {cs : List Char} (h : Tidy cs) : trim cs = cs := by
  obtain ⟨⟨c, hfirst, hc⟩, ⟨d, hlast, hd⟩, -⟩ := h
  apply trimBy_of_ends
  · rintro e he
    cases hfirst.symm.trans he
    exact (of_isWrittenChar hc).1
  · rintro e he
    cases hlast.symm.trans he
    exact (of_isWrittenChar hd).1

theorem not_mem_of_tidy {cs : List Char} (h : Tidy cs) {c : Char}
    (hwritten : isWrittenChar c = false) (hblank : c ≠ ' ') (hline : c ≠ '_') :
    c ∉ cs := by
  intro hmem
  rcases h.within c hmem with hc | hc | hc
  · rw [hwritten] at hc
    cases hc
  · exact hblank hc
  · exact hline hc

theorem mentionsNow_of_tidy {s : String} (h : Tidy s.toList) :
    Engine.mentionsNow s = false := by
  rw [Bool.eq_false_iff]
  intro hnow
  have hoccurs : DateMath.nowWord <:+: s.toList := mentions_iff.1 hnow
  exact not_mem_of_tidy h (c := 'n') (by decide) (by decide) (by decide)
    (hoccurs.subset (by decide))

theorem hasHalf_of_tidy {s : String} (h : Tidy s.toList) :
    hasHalf s = false := by
  apply hasHalf_of_low
  intro c hmem
  rcases h.within c hmem with hc | rfl | rfl
  · exact (of_isWrittenChar hc).2
  · decide
  · decide

theorem tidy_of_moment {d : Date} {c : ClockTime} {o : Option Int}
    {dt ct ot : List Char} {sep : Char} (hd : DateText d dt)
    (hsep : sep ∈ ['T', 't', ' ', '_']) (hc : ClockText c ct)
    (ho : OffsetText o ot) :
    Tidy (dt ++ sep :: (ct ++ ot)) := by
  have hdate :=
    tidy_of_written (by obtain ⟨_, _, _⟩ := hd; simp) (written_date hd)
  have htime : Tidy (ct ++ ot) := by
    refine tidy_of_written ?_ ?_
    · cases hc <;> simp
    · rw [List.all_append, written_clock hc, written_offset ho]
      rfl
  refine ⟨?_, ?_, ?_⟩
  · obtain ⟨c, hc, hwritten⟩ := hdate.first
    exact ⟨c, by rw [List.head?_append, hc]; rfl, hwritten⟩
  · obtain ⟨c, hc, hwritten⟩ := htime.last
    exact ⟨c, by rw [List.getLast?_append, List.getLast?_cons, hc]; rfl, hwritten⟩
  · intro c hmem
    rcases List.mem_append.1 hmem with hmem | hmem
    · exact hdate.within c hmem
    · rcases List.mem_cons.1 hmem with rfl | hmem
      · simp only [List.mem_cons, List.not_mem_nil, or_false] at hsep
        rcases hsep with rfl | rfl | rfl | rfl <;> decide
      · exact htime.within c hmem

theorem sign_cases (cs : List Char) :
    cs = (Numeral.sign cs).2 ∨ ∃ c, (c = '-' ∨ c = '+') ∧
    cs = c :: (Numeral.sign cs).2 := by
  unfold Numeral.sign
  split
  · exact .inr ⟨'-', .inl rfl, rfl⟩
  · exact .inr ⟨'+', .inr rfl, rfl⟩
  · exact .inl rfl

theorem written_count {cs : List Char} {w : Wall}
    (h : Field.countedText? cs = some w) :
    cs ≠ [] ∧ cs.all isWrittenChar = true := by
  have hdigits :
      ∀ ds : List Char, (∀ c ∈ ds, isAsciiDigit c = true) →
        ds.all isWrittenChar = true :=
    fun ds hds => List.all_eq_true.2 fun c hc =>
      isWrittenChar_of_isAsciiDigit (hds c hc)
  have hunsigned :
      (Numeral.sign cs).2 ≠ [] ∧
      (Numeral.sign cs).2.all isWrittenChar = true := by
    unfold Field.countedText? at h
    generalize Numeral.sign cs = signed at h ⊢
    obtain ⟨negative, unsigned⟩ := signed
    dsimp only at h ⊢
    rw [Option.ite_none_left_eq_some] at h
    obtain ⟨hne, h⟩ := h
    have hsplit := (List.prefix_iff_eq_append.1
      (List.takeWhile_prefix isAsciiDigit (l := unsigned))).symm
    have hwhole := hdigits _ fun c hc =>
      List.mem_takeWhile_imp (p := isAsciiDigit) (l := unsigned) hc
    refine ⟨by rintro rfl; exact hne rfl, ?_⟩
    split at h
    · rename_i hrest
      rw [hrest, List.append_nil] at hsplit
      rw [hsplit]
      exact hwhole
    · rename_i fraction hrest
      rw [Option.ite_none_right_eq_some] at h
      rw [hrest] at hsplit
      rw [hsplit, List.all_append, List.all_cons, hwhole,
        hdigits _ (List.all_eq_true.1 h.1)]
      rfl
    · cases h
  rcases sign_cases cs with hsign | ⟨c, hc, hsign⟩
  · rw [hsign]
    exact hunsigned
  · rw [hsign]
    refine ⟨List.cons_ne_nil _ _, ?_⟩
    rw [List.all_cons, hunsigned.2]
    rcases hc with rfl | rfl <;> rfl

theorem countedText?_date {d : Date} {dt : List Char} (h : DateText d dt)
    (rest : List Char) :
    Field.countedText? (dt ++ rest) = none := by
  obtain ⟨year, -, -⟩ := h
  rename_i y m d ys ms ds
  match ys, year.length with
  | c :: ys, _ =>
    have hwhole :
        (c :: ys ++ '-' :: (ms ++ '-' :: ds ++ rest)).takeWhile isAsciiDigit =
          c :: ys := by
      apply takeWhile_append year.ascii
      rintro c ⟨⟩
      decide
    have htext : c :: ys ++ '-' :: (ms ++ '-' :: ds) ++ rest =
        c :: ys ++ '-' :: (ms ++ '-' :: ds ++ rest) := by simp
    unfold Field.countedText?
    rw [htext, List.cons_append,
      sign_of_isAsciiDigit (year.ascii c List.mem_cons_self), ← List.cons_append]
    dsimp only
    rw [hwhole, List.drop_left]
    rfl

theorem tidy_of_momentText {s : String} {m : Moment}
    (h : Field.momentText s = .ok m) : Tidy s.toList := by
  unfold Field.momentText at h
  dsimp only at h
  split at h
  · rename_i d c o hwritten
    obtain ⟨dt, sep, ct, ot, htext, hd, hsep, hc, ho⟩ :=
      writtenMoment?_eq_some hwritten
    rw [htext]
    exact tidy_of_moment hd hsep hc ho
  · split at h
    · rename_i hcount
      obtain ⟨hne, hall⟩ := written_count hcount
      exact tidy_of_written hne hall
    · split at h
      · rename_i hdate
        obtain ⟨dt, htext, hd⟩ := readDate?_eq_some hdate
        rw [htext, List.append_nil]
        exact tidy_of_written (by obtain ⟨_, _, _⟩ := hd; simp) (written_date hd)
      · cases h

theorem moment_of_text {s : String} {m : Moment}
    (h : Field.momentText s = .ok m) :
    Field.moment (.str s) = .ok m := by
  change Field.ofText Field.momentText s = .ok m
  unfold Field.ofText
  rw [hasHalf_of_tidy (tidy_of_momentText h)]
  exact h

end TimeWindow.Proofs.Reading.WrittenForms
