import Mathlib.Tactic.Linarith
import TimeWindow.Proofs.DateMath.Holding
import TimeWindow.Proofs.Reading.DefaultDate
import TimeWindow.Proofs.Reading.WrittenForms

/-!
# Written dates and times

Texts such as `2024-03-15` or `2024-03-15T12:00:00.5+01:00` are read by the
fields of a request, and most of them by the free-form reader as well.  Both
find the same moment (`read_of_written`, `read_of_date`).
-/

namespace TimeWindow.Proofs.Reading.WrittenMoments

open TimeWindow.Text FreeForm Outcome DateMath.Holding Tokens WrittenForms
  DefaultDate

/-! ## Going on from token to token -/

/-- What is found from the first of some tokens on, whatever bounds their number
and wherever the pivot lies. -/
def Reads (f : Findings) (before after : List String)
    (r : Except Failure Findings) : Prop :=
  ∀ pivot fuel, after.length ≤ fuel → readTokens pivot fuel f before after = r

def Means (f : Findings) (before : List String) (cs : List Char)
    (r : Except Failure Findings) : Prop :=
  ∃ ts, Scans cs ts ∧ Reads f before (ts.map String.ofList) r

structure Mute (token : String) : Prop where
  numeral : numeral? token = none
  word : isNumberWord token = false
  weekday : weekday? token = none
  month : month? token = none
  half : half? token = none

section

variable {f g : Findings} {before after : List String} {token : String}
  {r : Except Failure Findings}

theorem reads_nil : Reads f before [] (.ok f) := by
  intro pivot fuel _
  cases fuel <;> rfl

theorem reads_cons (h : ∀ pivot fuel, after.length ≤ fuel →
    readTokens pivot (fuel + 1) f before (token :: after) = r) :
    Reads f before (token :: after) r := by
  intro pivot fuel hfuel
  cases fuel with
  | zero => cases hfuel
  | succ fuel => exact h pivot fuel (Nat.le_of_succ_le_succ hfuel)

theorem reads_number {numeral : Numeral} {used : Nat}
    (hnumeral : numeral? token = some numeral)
    (hread : readNumber f before token numeral after = .ok (g, used))
    (h : Reads g ((after.take used).reverse ++ token :: before)
      (after.drop used) r) :
    Reads f before (token :: after) r := by
  refine reads_cons fun pivot fuel hfuel => ?_
  unfold readTokens
  simp only [hnumeral, hread]
  exact h pivot fuel (Nat.le_trans (by simp) hfuel)

variable (hmute : Mute token)

include hmute

theorem reads_filler (hhour : f.hour = none) (hfiller : isFiller token = true)
    (h : Reads f (token :: before) after r) :
    Reads f before (token :: after) r := by
  refine reads_cons fun pivot fuel hfuel => ?_
  unfold readTokens
  simp only [hmute.numeral, hmute.word, hmute.weekday, hmute.month, hmute.half,
    hhour, hfiller]
  exact h pivot fuel hfuel

theorem reads_strange (hzone : f.hour = none ∨ isZoneName token = false)
    (hsign : isSign token = false) (hfiller : isFiller token = false) :
    Reads f before (token :: after) (.error .unreadable) := by
  refine reads_cons fun pivot fuel _ => ?_
  unfold readTokens
  rcases hzone with hzone | hzone
  · simp [hmute.numeral, hmute.word, hmute.weekday, hmute.month, hmute.half,
      hzone, hfiller]
  · simp [hmute.numeral, hmute.word, hmute.weekday, hmute.month, hmute.half,
      hzone, hsign, hfiller]

variable (hhour : f.hour.isSome = true)

include hhour

theorem reads_zone (hname : f.zoneName = none) (hoffset : f.offset = none)
    (hzone : isZoneName token = true) :
    Reads f before [token] (.ok (noteZone f token false)) := by
  refine reads_cons fun pivot fuel _ => ?_
  unfold readTokens
  simp only [hmute.numeral, hmute.word, hmute.weekday, hmute.month, hmute.half,
    hhour, hname, hoffset, hzone]
  exact reads_nil pivot fuel (Nat.zero_le _)

theorem reads_sign (hzone : isZoneName token = false)
    (hsign : isSign token = true)
    (hread : readOffset f token after = .ok (g, after.length)) :
    Reads f before (token :: after) (.ok g) := by
  refine reads_cons fun pivot fuel _ => ?_
  unfold readTokens
  simp only [hmute.numeral, hmute.word, hmute.weekday, hmute.month,
    hmute.half, hhour, hzone, hsign, hread, Bool.and_false, Bool.and_self,
    Bool.false_eq_true, if_false, if_true]
  change readTokens pivot fuel g _ (after.drop after.length) = _
  rw [List.drop_length]
  exact reads_nil pivot fuel (Nat.zero_le _)

end

/-! ## Dates -/

def dateFound (d : Date) : Findings where
  dates :=
    { values := [d.year, d.month, d.day], yearPlace := some 0, century := true }

theorem addText?_year {y : Int} {ys : List Char} (year : Digits 4 y ys)
    (dates : DateValues) (h : dates.yearPlace = none) :
    dates.addText? (String.ofList ys) false =
      some { dates with
        values := dates.values ++ [y], yearPlace := some dates.values.length,
        century := true } := by
  unfold DateValues.addText?
  rw [String.toList_ofList, integer?_digits year (by decide),
    isDigits_digits year, String.length_ofList, year.length]
  simp [DateValues.addYear?, h]

theorem addText?_short {n : Int} {ns : List Char} (short : Digits 2 n ns)
    (dates : DateValues) :
    dates.addText? (String.ofList ns) false =
      some { dates with values := dates.values ++ [n] } := by
  unfold DateValues.addText?
  rw [String.toList_ofList, integer?_digits short (by decide),
    isDigits_digits short, String.length_ofList,
    short.length]
  rfl

section

variable {y m d : Int} {ys ms ds : List Char} (year : Digits 4 y ys)
  (month : Digits 2 m ms) (day : Digits 2 d ds)

include year month day

theorem readSeparated_date (after : List String) :
    readSeparated {} (String.ofList ys) "-"
      (String.ofList ms :: "-" :: String.ofList ds :: after) =
      .ok (dateFound ⟨y, m, d⟩, 4) := by
  have hfiller : isFiller (String.ofList ms) = false :=
    not_contains_digits month (by decide)
  have hmonth : month? (String.ofList ds) = none := by
    unfold month?
    rw [placeOf?_digits day (by decide)]
    rfl
  unfold readSeparated
  rw [addText?_year year _ rfl]
  refine bind_eq_ok.2 ⟨_, rfl, ?_⟩
  simp only [hfiller, isDigits_digits month, Bool.false_eq_true, if_false, if_true]
  rw [addText?_short month]
  refine bind_eq_ok.2 ⟨_, rfl, ?_⟩
  refine bind_eq_ok.2 ⟨_, rfl, ?_⟩
  rw [hmonth]
  dsimp only
  rw [addText?_short day]
  rfl

theorem readNumber_date (numeral : Numeral) (after : List String) :
    readNumber {} [] (String.ofList ys) numeral
      ("-" :: String.ofList ms :: "-" :: String.ofList ds :: after) =
      .ok (dateFound ⟨y, m, d⟩, 4) := by
  have hunit :
      unitAround? []
        ("-" :: String.ofList ms :: "-" :: String.ofList ds :: after) = none :=
    rfl
  unfold readNumber
  simp only [String.toList_ofList, year.length, hunit]
  exact readSeparated_date year month day after

end

theorem means_date {d : Date} {dt rest : List Char} (h : DateText d dt)
    (hrest : Ends rest) {r : Except Failure Findings}
    (hmeans : ∀ before, Means (dateFound d) before rest r) :
    Means {} [] (dt ++ rest) r := by
  obtain ⟨year, month, day⟩ := h
  rename_i y m d ys ms ds
  obtain ⟨ts, hscans, hreads⟩ :=
    hmeans (["-", String.ofList ms, "-", String.ofList ds].reverse ++
    [String.ofList ys])
  obtain ⟨numeral, hnumeral, -⟩ := numeral?_digits year
  have hdash : ∀ cs, Ends ('-' :: cs) :=
    fun cs => ends_cons cs (by decide) (by decide) (by decide)
  refine ⟨ys :: ['-'] :: ms :: ['-'] :: ds :: ts, ?_, ?_⟩
  · have hmark : ∀ {cs ts}, Scans cs ts → Scans ('-' :: cs) (['-'] :: ts) :=
      fun h => scans_mark (by decide) (by decide) h
    have := scans_digits year (hdash _) (hmark
      (scans_digits month (hdash _) (hmark (scans_digits day hrest hscans))))
    simpa using this
  · exact reads_number hnumeral (readNumber_date year month day numeral _) hreads

/-! ## Times of day -/

structure Timed (d : Date) (c : ClockTime) (f : Findings) : Prop where
  dates : f.dates = (dateFound d).dates
  time : timeOf f = c
  weekday : f.weekday = none
  hour : f.hour.isSome = true
  zoneName : f.zoneName = none
  offset : f.offset = none

theorem integer_digits {n : Nat} {v : Int} {ds : List Char}
    (h : Digits (n + 1) v ds) (hn : n < 4300) :
    integer ds = .ok v := by
  unfold integer
  rw [integer?_digits h hn]
  rfl

theorem seconds_token {s micro : Int} {ss : List Char}
    (h : SecondsText s micro ss) :
    ∃ token, secondsAndMicroseconds token = .ok (s, micro) ∧
      ∀ {rest ts}, Ends rest → Scans rest ts →
        Scans (ss ++ rest) (token :: ts) := by
  have hpoint :
      ∀ cs : List Char, (∀ c ∈ cs, isAsciiDigit c = true) → '.' ∉ cs :=
    fun cs hcs hmem => (ne_mark_of_isAsciiDigit (hcs _ hmem)).1 rfl
  cases h with
  | whole second =>
    refine ⟨ss, ?_, scans_digits second⟩
    unfold secondsAndMicroseconds
    rw [splitAt_eq_splitOn, List.splitOn_eq_singleton (hpoint _ second.ascii)]
    dsimp only
    rw [integer_digits second (by decide)]
    rfl
  | pointed second point filled ascii =>
    rename_i ss fraction mark
    refine ⟨ss ++ '.' :: fraction, ?_, ?_⟩
    · have hkept : (fraction ++ List.replicate (6 - fraction.length) '0').take 6 =
          (fraction ++ List.replicate 6 '0').take 6 := by
        rw [List.take_append, List.take_append, List.take_replicate,
          List.take_replicate]
        congr 2
        omega
      have hsix :
          Digits 6 (digitsValue ((fraction ++ List.replicate 6 '0').take 6))
          ((fraction ++ List.replicate 6 '0').take 6) := by
        refine ⟨by simp, fun c hc => ?_, rfl⟩
        rcases List.mem_append.1 (List.mem_of_mem_take hc) with hc | hc
        · exact ascii c hc
        · rw [List.eq_of_mem_replicate hc]
          rfl
      unfold secondsAndMicroseconds
      rw [splitAt_eq_splitOn, List.splitOn_append_cons_self_of_not_mem
        (hpoint _ second.ascii), List.splitOn_eq_singleton (hpoint _ ascii)]
      dsimp only
      rw [integer_digits second (by decide), hkept,
        integer_digits hsix (by decide)]
      rfl
    · intro rest ts hrest hscans
      have := scans_pointed point second filled ascii hrest hscans
      simpa using this

theorem minutesAndSeconds_whole {n : Int} (hhigh : n < 100) :
    minutesAndSeconds (n : Rat) = .ok (n, none) := by
  have hsmall : ¬ (10 : Rat) ^ precision ≤ (n : Rat) := by
    have hn : (n : Rat) < 100 := by exact_mod_cast hhigh
    have hten : (100 : Rat) ≤ (10 : Rat) ^ precision := by
      unfold precision
      norm_num
    linarith
  unfold minutesAndSeconds partBehindPoint
  rw [if_neg hsmall, Rat.floor_intCast, sub_self]
  rfl

def separators : List String := ["T", "t", " "]

section

variable {h n : Int} {hs ns : List Char} (hour : Digits 2 h hs)
  (minute : Digits 2 n ns) {d : Date} {sep : String}
  (hsep : sep ∈ separators) {numeral : Numeral} (hnumeral : valueOf numeral = h)

include hour hsep

theorem readNumber_clock (before after : List String) :
    readNumber (dateFound d) (sep :: before) (String.ofList hs) numeral
      (":" :: String.ofList ns :: after) =
      readClock (dateFound d) (valueOf numeral) (String.ofList ns) after := by
  have hunit :
      unitAround? (sep :: before) (":" :: String.ofList ns :: after) = none := by
    unfold separators at hsep
    simp only [List.mem_cons, List.not_mem_nil, or_false] at hsep
    rcases hsep with rfl | rfl | rfl <;> cases before <;> rfl
  unfold readNumber
  simp only [String.toList_ofList, hour.length, hunit]
  rfl

include minute hnumeral

theorem readNumber_minutes (before after : List String)
    (hafter : ":" ∉ after.head?) :
    readNumber (dateFound d) (sep :: before) (String.ofList hs) numeral
      (":" :: String.ofList ns :: after) =
      .ok ({ dateFound d with hour := some h, minute := some n }, 2) := by
  obtain ⟨numeral', hnumeral', hvalue⟩ := numeral?_digits minute
  rw [readNumber_clock hour hsep, hnumeral]
  unfold readClock
  rw [hnumeral']
  refine bind_eq_ok.2 ⟨_, rfl, ?_⟩
  rw [hvalue, minutesAndSeconds_whole (digits_bounds minute).2, Rat.floor_intCast]
  refine bind_eq_ok.2 ⟨_, rfl, ?_⟩
  dsimp only
  split
  · exact absurd (Option.mem_def.2 rfl) hafter
  · rfl

theorem readNumber_seconds {s micro : Int} {token : List Char}
    (hsecond : secondsAndMicroseconds token = .ok (s, micro))
    (before after : List String) :
    readNumber (dateFound d) (sep :: before) (String.ofList hs) numeral
        (":" :: String.ofList ns :: ":" :: String.ofList token :: after) =
      .ok ({ dateFound d with
        hour := some h, minute := some n, second := some s,
        microsecond := some micro }, 4) := by
  obtain ⟨numeral', hnumeral', hvalue⟩ := numeral?_digits minute
  rw [readNumber_clock hour hsep, hnumeral]
  unfold readClock
  rw [hnumeral']
  refine bind_eq_ok.2 ⟨_, rfl, ?_⟩
  rw [hvalue, minutesAndSeconds_whole (digits_bounds minute).2, Rat.floor_intCast]
  refine bind_eq_ok.2 ⟨_, rfl, bind_eq_ok.2 ⟨(s, micro), ?_, rfl⟩⟩
  rw [String.toList_ofList, hsecond]

end

theorem means_clock (d : Date) {c : ClockTime} {ct : List Char}
    (h : ClockText c ct) :
    ∃ f, Timed d c f ∧ ∀ {rest ts r}, Ends rest → Scans rest ts →
      ":" ∉ (ts.map String.ofList).head? →
      (∀ before, Reads f before (ts.map String.ofList) r) →
        ∀ sep ∈ separators, ∀ before,
          Means (dateFound d) (sep :: before) (ct ++ rest) r := by
  have hcolon : ∀ cs, Ends (':' :: cs) :=
    fun cs => ends_cons cs (by decide) (by decide) (by decide)
  have hmark : ∀ {cs ts}, Scans cs ts → Scans (':' :: cs) ([':'] :: ts) :=
    fun h => scans_mark (by decide) (by decide) h
  cases h with
  | minutes hour minute =>
    rename_i h n hs ns
    obtain ⟨numeral, hnumeral, hvalue⟩ := numeral?_digits hour
    refine ⟨{ dateFound d with hour := some h, minute := some n },
      ⟨rfl, rfl, rfl, rfl, rfl, rfl⟩, ?_⟩
    intro rest ts r hrest hscans hnext hreads sep hsep before
    refine ⟨hs :: [':'] :: ns :: ts, ?_, ?_⟩
    · have :=
        scans_digits hour (hcolon _) (hmark (scans_digits minute hrest hscans))
      simpa using this
    · exact reads_number hnumeral
        (readNumber_minutes hour minute hsep hvalue _ _ hnext) (hreads _)
  | seconds hour minute second =>
    rename_i h n s micro hs ns ss
    obtain ⟨numeral, hnumeral, hvalue⟩ := numeral?_digits hour
    obtain ⟨token, htoken, hsecond⟩ := seconds_token second
    refine ⟨{ dateFound d with
        hour := some h, minute := some n, second := some s,
        microsecond := some micro },
      ⟨rfl, rfl, rfl, rfl, rfl, rfl⟩, ?_⟩
    rintro rest ts r hrest hscans - hreads sep hsep before
    refine ⟨hs :: [':'] :: ns :: [':'] :: token :: ts, ?_, ?_⟩
    · have := scans_digits hour (hcolon _)
        (hmark (scans_digits minute (hcolon _) (hmark (hsecond hrest hscans))))
      simpa using this
    · exact reads_number hnumeral
        (readNumber_seconds hour minute hsep hvalue htoken _ _) (hreads _)

/-! ## Offsets -/

section

variable {h n : Int} {hs ns : List Char} (hours : Digits 2 h hs)
  (minutes : Digits 2 n ns) (f : Findings)
  (sign : String)

include hours minutes

theorem readOffset_joined : readOffset f sign [String.ofList (hs ++ ns)] =
    .ok ({ f with offset := some (if sign = "+" then h * 3600 + n * 60
      else -(h * 3600 + n * 60)) }, 1) := by
  have htake : (hs ++ ns).take 2 = hs := List.take_left' hours.length
  have hdrop : (hs ++ ns).drop 2 = ns := List.drop_left' hours.length
  have hlength : (hs ++ ns).length = 4 := by
    rw [List.length_append, hours.length, minutes.length]
  unfold readOffset
  refine bind_eq_ok.2 ⟨_, rfl, ?_⟩
  simp only [String.toList_ofList, hlength, htake, hdrop,
    integer_digits hours (by decide),
    integer_digits minutes (by decide)]
  rfl

theorem readOffset_apart :
    readOffset f sign [String.ofList hs, ":", String.ofList ns] =
    .ok ({ f with offset := some (if sign = "+" then h * 3600 + n * 60
      else -(h * 3600 + n * 60)) }, 3) := by
  unfold readOffset
  refine bind_eq_ok.2 ⟨_, rfl, ?_⟩
  simp only [String.toList_ofList, hours.length, integer_digits hours (by decide)]
  refine bind_eq_ok.2 ⟨h, rfl, bind_eq_ok.2 ⟨_, rfl, bind_eq_ok.2 ⟨n, ?_, rfl⟩⟩⟩
  rw [String.toList_ofList, integer_digits minutes (by decide)]

theorem scans_signed {between : List Char}
    (colon : between = [] ∨ between = [':']) :
    ∃ ts, Scans (hs ++ (between ++ ns)) ts ∧
      readOffset f sign (ts.map String.ofList) =
      .ok ({ f with offset := some (if sign = "+" then h * 3600 + n * 60
        else -(h * 3600 + n * 60)) }, (ts.map String.ofList).length) := by
  rcases colon with rfl | rfl
  · have hjoined : Digits 4 (digitsValue (hs ++ ns)) (hs ++ ns) :=
      ⟨by rw [List.length_append, hours.length, minutes.length],
        fun c hc =>
        (List.mem_append.1 hc).elim (hours.ascii c) (minutes.ascii c), rfl⟩
    refine ⟨[hs ++ ns], ?_, readOffset_joined hours minutes f sign⟩
    simpa using scans_digits hjoined ends_nil scans_nil
  · refine ⟨[hs, [':'], ns], ?_, readOffset_apart hours minutes f sign⟩
    have hlast : Scans ns [ns] := by
      simpa using scans_digits minutes ends_nil scans_nil
    exact scans_digits hours (ends_cons ns (by decide) (by decide) (by decide))
      (scans_mark (by decide) (by decide) hlast)

end

theorem mute_of_mem {token : String}
    (h : token ∈ ["T", "t", " ", "_", "Z", "z", "+", "-", "\u2212"]) :
    Mute token := by
  simp only [List.mem_cons, List.not_mem_nil, or_false] at h
  rcases h with rfl | rfl | rfl | rfl | rfl | rfl | rfl | rfl | rfl <;>
    exact ⟨by decide, by decide, by decide, by decide, by decide⟩

structure WithOffset (f : Findings) (o : Option Int) (g : Findings) : Prop where
  dates : g.dates = f.dates
  time : timeOf g = timeOf f
  weekday : g.weekday = f.weekday
  offset : g.offset? = o

/-- What is found of an offset behind a time of day: the offset, unless its sign
is one that is not known. -/
theorem reads_offset {d : Date} {c : ClockTime} {f : Findings}
    (hf : Timed d c f) {o : Option Int} {ot : List Char} (h : OffsetText o ot) :
    ∃ ts r, Ends ot ∧ Scans ot ts ∧ ":" ∉ (ts.map String.ofList).head? ∧
      (∀ before, Reads f before (ts.map String.ofList) r) ∧
      (r = .error .unreadable ∨ ∃ g, r = .ok g ∧ WithOffset f o g) := by
  obtain ⟨-, -, -, hhour, hname, hoffset⟩ := hf
  cases h with
  | missing =>
    refine ⟨[], .ok f, ends_nil, scans_nil, nofun, fun before =>
      reads_nil, .inr ⟨f, rfl, rfl, rfl, rfl, ?_⟩⟩
    unfold Findings.offset?
    rw [hname, hoffset]
    rfl
  | universal zulu =>
    rcases zulu with rfl | rfl
    · refine ⟨[['Z']], .ok (noteZone f "Z" false),
        ends_cons _ (by decide) (by decide) (by decide),
        scans_letter (by decide) nofun scans_nil, by decide,
        fun before =>
        reads_zone (mute_of_mem (by decide)) hhour hname hoffset (by decide),
        .inr ⟨_, rfl, rfl, rfl, rfl, rfl⟩⟩
    · refine ⟨[['z']], .ok (noteZone f "z" false),
        ends_cons _ (by decide) (by decide) (by decide),
        scans_letter (by decide) nofun scans_nil, by decide,
        fun before =>
        reads_zone (mute_of_mem (by decide)) hhour hname hoffset (by decide),
        .inr ⟨_, rfl, rfl, rfl, rfl, rfl⟩⟩
  | signed known hours minutes colon =>
    have hoffset? :
        ∀ t, ({ f with offset := some t } : Findings).offset? = some t := by
      intro t
      unfold Findings.offset?
      rw [hname]
      rfl
    rename_i sign h n hs ns between
    obtain ⟨ts, hscans, hread⟩ :=
      scans_signed hours minutes f (String.ofList [sign]) colon
    have hscan : Scans (sign :: (hs ++ (between ++ ns))) ([sign] :: ts) := by
      rcases known with rfl | rfl | rfl
        <;> exact scans_mark (by decide +kernel) (by decide) hscans
    have hends : Ends (sign :: (hs ++ (between ++ ns))) := by
      rcases known with rfl | rfl | rfl
        <;> exact ends_cons _ (by decide) (by decide) (by decide)
    have hnext : ":" ∉ (([sign] :: ts).map String.ofList).head? := by
      rcases known with rfl | rfl | rfl <;> exact fun hhead =>
        absurd (Option.some.inj hhead) (by decide)
    have hfound :
        ∃ r, (∀ before,
          Reads f before (String.ofList [sign] :: ts.map String.ofList) r) ∧
        (r = .error .unreadable ∨ ∃ g, r = .ok g ∧
          WithOffset f (some (if sign = '+' then h * 3600 + n * 60
            else -(h * 3600 + n * 60))) g) := by
      -- the minus sign beyond ASCII is a token that the free-form reader does
      -- not know
      rcases known with rfl | rfl | rfl
      · exact ⟨_, fun before => reads_sign (mute_of_mem (by decide)) hhour
          (by decide) (by decide) hread,
          .inr ⟨_, rfl, rfl, rfl, rfl, hoffset? _⟩⟩
      · exact ⟨_, fun before => reads_sign (mute_of_mem (by decide)) hhour
          (by decide) (by decide) hread,
          .inr ⟨_, rfl, rfl, rfl, rfl, hoffset? _⟩⟩
      · exact ⟨_, fun before => reads_strange (mute_of_mem (by decide))
          (.inr (by decide)) (by decide) (by decide),
          .inl rfl⟩
    obtain ⟨r, hreads, hr⟩ := hfound
    exact ⟨[sign] :: ts, r, hends, hscan, hnext, hreads, hr⟩

/-! ## The moments -/

theorem findings_of_means {s : String} {r : Except Failure Findings}
    (h : Means {} [] s.toList r) (hnull : '\x00' ∉ s.toList) (pivot : Int) :
    findings pivot s = r := by
  obtain ⟨ts, hscans, hreads⟩ := h
  have hkept : s.toList.filter (· ≠ '\x00') = s.toList :=
    List.filter_eq_self.2 fun c hc => decide_eq_true fun heq => hnull (heq ▸ hc)
  have htokens : tokens s.toList = ts.map String.ofList := by
    unfold tokens
    dsimp only
    rw [hkept, hscans _ (Nat.le_refl _)]
  unfold findings
  rw [htokens]
  exact hreads _ _ (Nat.le_refl _)

theorem moment?_found {f : Findings} {d : Date} {c : ClockTime} {w : Wall}
    (hdates : f.dates = (dateFound d).dates) (htime : timeOf f = c)
    (hweekday : f.weekday = none) (hw : Wall.of? d c = some w)
    (hoffset : ∀ s, f.offset? = some s → s.natAbs < 86400000)
    (default : Defaults) :
    moment? f default = some (tied f w) := by
  have hresolve :
      f.dates.resolve? = some ⟨some d.year, some d.month, some d.day⟩ := by
    rw [hdates]
    simp [dateFound, DateValues.resolve?, DateValues.resolveThree]
  have hfilled :
      filled f ⟨some d.year, some d.month, some d.day⟩ default = d := by
    simp [filled, fullYear, hdates, dateFound]
  have hforward : forward f ⟨some d.year, some d.month, some d.day⟩ w = 0 := by
    unfold forward
    rw [hweekday]
  have hstays : w.add (0 * Calendar.day) = w := by
    unfold Wall.add
    rw [Int.zero_mul, Int.add_zero]
  rw [moment?_eq, hresolve, Option.bind_some, hfilled]
  unfold placed tied
  rw [htime, hw]
  simp only [Option.isNone_some, Bool.false_and, Bool.false_eq_true, if_false,
    Option.bind_eq_bind, Option.bind_some, hforward, hstays, of?_inRange hw,
    Bool.not_true]
  cases hs : f.offset? with
  | none => rfl
  | some s =>
    have hbound := hoffset s hs
    have hwide :
        ¬ s / 86400 < -(widestOffset - 1) ∧ ¬ widestOffset ≤ s / 86400 := by
      unfold widestOffset
      omega
    simp only [hwide, decide_false, Bool.or_self, Bool.false_eq_true, if_false]
    rfl

theorem offsetText_bound {o : Option Int} {ot : List Char}
    (h : OffsetText o ot) :
    ∀ s, o = some s → s.natAbs < 86400000 := by
  rintro s rfl
  generalize ho : some s = o at h
  cases h with
  | missing => cases ho
  | universal zulu =>
    cases ho
    decide
  | signed known hours minutes colon =>
    have hh := digits_bounds hours
    have hn := digits_bounds minutes
    cases ho
    split <;> omega

def momentOf (w : Wall) : Option Int → Moment
  | none => .plain w
  | some seconds => .fixed ⟨w, .offset seconds⟩

section

variable {sep : Char} (h : sep ∈ ['T', 't', ' ', '_'])

include h

theorem separator_cases :
    sep = '_' ∨ String.ofList [sep] ∈ separators ∧
    isFiller (String.ofList [sep]) = true := by
  simp only [List.mem_cons, List.not_mem_nil, or_false] at h
  rcases h with rfl | rfl | rfl | rfl <;> decide

theorem mute_of_separator : Mute (String.ofList [sep]) := by
  refine mute_of_mem ?_
  simp only [List.mem_cons, List.not_mem_nil, or_false] at h
  rcases h with rfl | rfl | rfl | rfl <;> decide

theorem ends_of_separator (rest : List Char) : Ends (sep :: rest) := by
  simp only [List.mem_cons, List.not_mem_nil, or_false] at h
  rcases h with rfl | rfl | rfl | rfl
    <;> exact ends_cons _ (by decide) (by decide) (by decide)

theorem scans_separator {cs : List Char} {ts : List (List Char)}
    (hcs : ∀ d ∈ cs.head?, isAsciiDigit d = true) (hscans : Scans cs ts) :
    Scans (sep :: cs) ([sep] :: ts) := by
  simp only [List.mem_cons, List.not_mem_nil, or_false] at h
  rcases h with rfl | rfl | rfl | rfl
  · exact scans_letter (by decide) hcs hscans
  · exact scans_letter (by decide) hcs hscans
  · exact scans_mark (by decide) (by decide) hscans
  · exact scans_mark (by decide) (by decide) hscans

end

theorem head_digits {v : Int} {ds : List Char} (h : Digits 2 v ds)
    (rest : List Char) :
    ∀ c ∈ (ds ++ rest).head?, isAsciiDigit c = true := by
  cases ds with
  | nil => cases h.length
  | cons c ds =>
    rintro d ⟨⟩
    exact h.ascii c List.mem_cons_self

theorem head_clock {c : ClockTime} {ct : List Char} (h : ClockText c ct)
    (rest : List Char) :
    ∀ d ∈ (ct ++ rest).head?, isAsciiDigit d = true := by
  cases h with
  | minutes hour minute =>
    rw [List.append_assoc]
    exact head_digits hour _
  | seconds hour minute second =>
    rw [List.append_assoc]
    exact head_digits hour _

/-- Behind a date and a separator the time and the offset are found, or else
nothing makes sense. -/
theorem means_written {d : Date} {dt ct ot : List Char} {sep : Char}
    {c : ClockTime} {o : Option Int} (hd : DateText d dt)
    (hsep : sep ∈ ['T', 't', ' ', '_']) (hc : ClockText c ct)
    (ho : OffsetText o ot) :
    ∃ r, Means {} [] (dt ++ sep :: (ct ++ ot)) r ∧
      (r = .error .unreadable ∨ ∃ f, r = .ok f ∧ f.dates = (dateFound d).dates ∧
        timeOf f = c ∧ f.weekday = none ∧ f.offset? = o) := by
  obtain ⟨f, hf, hclock⟩ := means_clock d hc
  obtain ⟨ts, r, hends, hscans, hnext, hreads, hr⟩ := reads_offset hf ho
  have hmeans := hclock hends hscans hnext hreads
  have hfound :
      r = .error .unreadable ∨ ∃ g, r = .ok g ∧ g.dates = (dateFound d).dates ∧
      timeOf g = c ∧
      g.weekday = none ∧ g.offset? = o := by
    refine hr.imp_right ?_
    rintro ⟨g, rfl, hg⟩
    exact ⟨g, rfl, hg.dates.trans hf.dates, hg.time.trans hf.time,
      hg.weekday.trans hf.weekday, hg.offset⟩
  have hmute : Mute (String.ofList [sep]) := mute_of_separator hsep
  rcases separator_cases hsep with rfl | ⟨hseparator, hfiller⟩
  · refine ⟨_, means_date hd (ends_of_separator hsep _) fun before => ?_, .inl rfl⟩
    obtain ⟨ts, hscans, -⟩ := hmeans "T" (by decide) before
    exact ⟨['_'] :: ts, scans_separator hsep (head_clock hc ot) hscans,
      reads_strange hmute (.inl rfl) (by decide) (by decide)⟩
  · refine ⟨r, means_date hd (ends_of_separator hsep _) fun before => ?_, hfound⟩
    obtain ⟨ts, hscans, hreads⟩ := hmeans _ hseparator before
    exact ⟨[sep] :: ts, scans_separator hsep (head_clock hc ot) hscans,
      reads_filler hmute rfl hfiller hreads⟩

theorem read_of_written {s : String} {d : Date} {c : ClockTime}
    {o : Option Int} {w : Wall} {m : Moment} {default : Defaults}
    (h : Field.writtenMoment? s.toList = some (d, c, o))
    (hw : Wall.of? d c = some w)
    (hread : FreeForm.read s default = .ok (some m)) : m = momentOf w o := by
  obtain ⟨dt, sep, ct, ot, htext, hd, hsep, hc, ho⟩ := writtenMoment?_eq_some h
  obtain ⟨r, hmeans, hr⟩ := means_written hd hsep hc ho
  have hnull := not_mem_of_tidy (htext ▸ tidy_of_moment hd hsep hc ho)
    (c := '\x00') (by decide) (by decide) (by decide)
  have hfindings := findings_of_means (htext ▸ hmeans) hnull
  obtain ⟨f, hf, hm⟩ := findings_of_read hread
  rcases hr with rfl | ⟨g, rfl, hdates, htime, hweekday, hoffset⟩
  · rw [hfindings default.pivotYear] at hf
    cases hf
  · rw [hfindings default.pivotYear] at hf
    cases hf
    rw [moment?_found hdates htime hweekday hw
      (hoffset ▸ offsetText_bound ho)] at hm
    cases hm
    cases o with
    | none => simp only [tied, hoffset, momentOf]
    | some seconds => simp only [tied, hoffset, momentOf]

theorem read_of_date {s : String} {d : Date} {w : Wall}
    (h : Timestamp.readDate? s.toList = some (d, []))
    (hw : Wall.of? d .midnight = some w) (default : Defaults) :
    FreeForm.read s default = .ok (some (.plain w)) := by
  obtain ⟨dt, htext, hd⟩ := readDate?_eq_some h
  have hmeans : Means {} [] s.toList (.ok (dateFound d)) := by
    rw [htext]
    exact means_date hd ends_nil fun before => ⟨[], scans_nil, reads_nil⟩
  have htidy : Tidy s.toList := by
    rw [htext, List.append_nil]
    exact tidy_of_written (by obtain ⟨_, _, _⟩ := hd; simp) (written_date hd)
  have hfindings := findings_of_means hmeans
    (not_mem_of_tidy htidy (by decide) (by decide) (by decide))
  rw [read_of_findings (hfindings _), moment?_found rfl rfl rfl hw nofun]
  rfl

/-! ## Counts -/

/-- A field takes the text for a count of seconds or milliseconds since 1970. -/
structure Counted (s : String) (w : Wall) : Prop where
  count : Field.countedText? s.toList = some w
  inRange : w.inRange = true

theorem not_counted_of_written {s : String}
    {found : Date × ClockTime × Option Int}
    (h : Field.writtenMoment? s.toList = some found) (w : Wall) :
    ¬ Counted s w := by
  obtain ⟨d, c, o⟩ := found
  obtain ⟨dt, sep, ct, ot, htext, hd, -⟩ := writtenMoment?_eq_some h
  rintro ⟨hcount, -⟩
  rw [htext, countedText?_date hd] at hcount
  cases hcount

theorem momentText_of_counted {s : String} {w : Wall} (h : Counted s w) :
    Field.momentText s = .ok (.fixed (.ofUtc w)) := by
  have hunwritten : Field.writtenMoment? s.toList = none := by
    cases hwritten : Field.writtenMoment? s.toList with
    | none => rfl
    | some found => exact absurd h (not_counted_of_written hwritten w)
  unfold Field.momentText Field.countedMoment
  simp only [hunwritten, h.count, h.inRange]
  rfl

/-- What a field holds is a count, or else the moment that the free-form reader
finds in the same text, if it finds one. -/
theorem momentText_cases {s : String} {m : Moment}
    (h : Field.momentText s = .ok m) :
    (∃ w, Counted s w ∧ m = .fixed (.ofUtc w)) ∨
      (∀ w, ¬ Counted s w) ∧ ∀ default m',
        FreeForm.read s default = .ok (some m') → m' = m := by
  unfold Field.momentText at h
  dsimp only at h
  -- a date with a time, a count, or a date alone
  split at h
  · rename_i hwritten
    refine .inr ⟨not_counted_of_written hwritten, fun default m' hread => ?_⟩
    split at h
    · rename_i hw
      cases h
      exact read_of_written hwritten hw hread
    · rename_i hw
      cases h
      exact read_of_written hwritten hw hread
    · cases h
  · split at h
    · rename_i w hcount
      unfold Field.countedMoment at h
      split at h
      · rename_i hrange
        cases h
        exact .inl ⟨w, ⟨hcount, hrange⟩, rfl⟩
      · cases h
    · rename_i hcount
      refine .inr ⟨fun w hw => ?_, fun default m' hread => ?_⟩
      · rw [hw.count] at hcount
        cases hcount
      · split at h
        · rename_i hdate
          split at h
          · split at h
            · rename_i hw
              cases h
              rw [read_of_date hdate hw] at hread
              cases hread
              rfl
            · cases h
          · cases h
        · cases h

end TimeWindow.Proofs.Reading.WrittenMoments
