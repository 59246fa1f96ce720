import McpConsole.Proofs.Text.Blank
import McpConsole.Proofs.Time.Timestamp
import McpConsole.Time.Display

/-!
# Dates that are shown are read again

A date that is shown is read as the beginning of its day (`parse?_dateText`), by the form for a date
alone: a form with a time finds none behind it. A date with its time of day is read by no form
(`parse?_shown`): the strict form would need an offset where ` UTC` stands, and the others have to
read the text to its end. Both are shown again as they are, like every text that names no instant
(`display_display`). `display_settled` puts this together.
-/

namespace McpConsole.Time

open McpConsole.Text

/-- A time of day with colons between its parts. -/
def Clock.text (clock : Clock) : List Char :=
  Decimal.padded 2 clock.hour ++ ':' :: Decimal.padded 2 clock.minute ++
    ':' :: Decimal.padded 2 clock.second

theorem Timestamp.clockText_eq (t : Timestamp) : t.clockText = t.clock.text := rfl

/-! ### Numbers as they are shown -/

section Numbers

variable {n : Nat} {rest : List Char}

theorem trimStart_padded (width n : Nat) (rest : List Char) :
    trimStart (Decimal.padded width n ++ rest) = Decimal.padded width n ++ rest := by
  rw [trimStart_eq_self_iff]
  intro c hc
  exact isBlank_of_isDigit (Decimal.isDigit_of_head?_padded hc)

theorem isBlank_of_mem_padded {width : Nat} {c : Char} (h : c ∈ Decimal.padded width n) :
    isBlank c = false :=
  isBlank_of_isDigit (Decimal.isDigit_of_mem_padded h)

theorem read?_two (h : n < 100) :
    Decimal.read? 2 2 (Decimal.padded 2 n ++ rest) = some (n, rest) :=
  Decimal.read?_padded_of_lt (by decide) (by decide) h rest

theorem read?_four (h : n < 10000) :
    Decimal.read? 4 4 (Decimal.padded 4 n ++ rest) = some (n, rest) :=
  Decimal.read?_padded_of_lt (by decide) (by decide) h rest

theorem field?_two (h : n < 100) :
    Reader.field? (Decimal.padded 2 n ++ rest) = some (n, rest) := by
  rw [Reader.field?, trimStart_padded]
  exact Decimal.read?_padded_of_lt (by decide) (by decide) h rest

@[simp] theorem char?_cons (c : Char) (cs : List Char) : Reader.char? c (c :: cs) = some cs := by
  simp [Reader.char?]

end Numbers

/-! ### Years -/

/-- A year has four digits, or a sign and as many digits as it needs. -/
theorem yearText_cases (year : Int) :
    (∃ n : Nat, year = n ∧ n < 10000 ∧ yearText year = Decimal.padded 4 n) ∨
      ∃ n : Nat, (year = n ∧ yearText year = '+' :: Decimal.padded 4 n) ∨
        (year = -n ∧ yearText year = '-' :: Decimal.padded 4 n) := by
  unfold yearText
  split
  · exact .inl ⟨year.toNat, by omega, by omega, rfl⟩
  split
  · exact .inr ⟨year.toNat, .inl ⟨by omega, rfl⟩⟩
  · exact .inr ⟨(-year).toNat, .inr ⟨by omega, rfl⟩⟩

theorem isBlank_of_mem_yearText {year : Int} {c : Char} (h : c ∈ yearText year) :
    isBlank c = false := by
  rcases yearText_cases year with ⟨n, -, -, htext⟩ | ⟨n, ⟨-, htext⟩ | ⟨-, htext⟩⟩ <;>
    rw [htext] at h
  · exact isBlank_of_mem_padded h
  · rcases List.mem_cons.1 h with rfl | h
    · decide
    · exact isBlank_of_mem_padded h
  · rcases List.mem_cons.1 h with rfl | h
    · decide
    · exact isBlank_of_mem_padded h

/-- A year is read again, if no digit follows: after a sign all digits are read. -/
theorem year?_yearText (year : Int) {rest : List Char} (hrest : Decimal.EndsDigits rest) :
    Reader.year? (yearText year ++ rest) = some (year, rest) := by
  have hsigned : ∀ n, Decimal.read? 1 (Decimal.padded 4 n ++ rest).length
      (Decimal.padded 4 n ++ rest) = some (n, rest) := fun n =>
    Decimal.read?_padded (by decide) (by simp) (.inr hrest)
  rcases yearText_cases year with ⟨n, rfl, hlt, htext⟩ | ⟨n, ⟨rfl, htext⟩ | ⟨rfl, htext⟩⟩
  · have hread : Decimal.read? 1 4 (Decimal.padded 4 n ++ rest) = some (n, rest) :=
      Decimal.read?_padded_of_lt (by decide) (by decide) hlt rest
    have hhead : ∀ sign cs, sign.isDigit = false → Decimal.padded 4 n ++ rest ≠ sign :: cs := by
      intro sign cs hsign heq
      have hdigit : sign.isDigit = true :=
        Decimal.isDigit_of_head?_padded (congrArg List.head? heq)
      rw [hdigit] at hsign
      cases hsign
    rw [htext, Reader.year?, trimStart_padded]
    split
    · rename_i cs heq
      exact absurd heq (hhead _ cs (by decide))
    · rename_i cs heq
      exact absurd heq (hhead _ cs (by decide))
    · rw [hread]
      rfl
  · rw [htext, Reader.year?]
    show (Decimal.read? 1 (Decimal.padded 4 n ++ rest).length
      (Decimal.padded 4 n ++ rest)).map _ = _
    rw [hsigned]
    rfl
  · rw [htext, Reader.year?]
    show (Decimal.read? 1 (Decimal.padded 4 n ++ rest).length
      (Decimal.padded 4 n ++ rest)).map _ = _
    rw [hsigned]
    rfl

/-! ### Dates and times of day -/

section Parts

variable {date : Date} {clock : Clock} {rest : List Char}

theorem Date.text_ne_nil (date : Date) : date.text ≠ [] :=
  List.append_ne_nil_of_right_ne_nil _ (List.cons_ne_nil _ _)

theorem isBlank_of_mem_dateText {c : Char} (h : c ∈ date.text) : isBlank c = false := by
  have hfield : ∀ n, c ∈ '-' :: Decimal.padded 2 n → isBlank c = false := by
    intro n hc
    rcases List.mem_cons.1 hc with rfl | hc
    · decide
    · exact isBlank_of_mem_padded hc
  rw [Date.text, List.mem_append, List.mem_append] at h
  rcases h with (h | h) | h
  · exact isBlank_of_mem_yearText h
  · exact hfield _ h
  · exact hfield _ h

theorem date?_text (hmonth : date.month < 100) (hday : date.day < 100) (rest : List Char) :
    Reader.date? (date.text ++ rest) = some (date, rest) := by
  have hends : ∀ cs, Decimal.EndsDigits ('-' :: cs) := by
    rintro cs c ⟨⟩
    decide
  simp only [Date.text, List.append_assoc, List.cons_append, Reader.date?, Option.bind_eq_bind,
    year?_yearText _ (hends _), Option.bind_some, char?_cons, field?_two hmonth, field?_two hday]

theorem fraction?_of_ne (hrest : rest.head? ≠ some '.') :
    Reader.fraction? rest = some (0, rest) := by
  unfold Reader.fraction?
  split
  · exact absurd rfl hrest
  · rfl

theorem clock?_text (hhour : clock.hour < 100) (hminute : clock.minute < 100)
    (hsecond : clock.second < 100) (hrest : rest.head? ≠ some '.') :
    Reader.clock? (clock.text ++ rest) =
      some (⟨clock.hour, clock.minute, clock.second, 0⟩, rest) := by
  simp only [Clock.text, List.append_assoc, List.cons_append, Reader.clock?, Option.bind_eq_bind,
    field?_two hhour, field?_two hminute, field?_two hsecond, Option.bind_some, char?_cons,
    fraction?_of_ne hrest]

/-- The strict form reads a date as well, but none with a sign before its year. -/
theorem strictDate?_text (hmonth : date.month < 100) (hday : date.day < 100) (rest : List Char) :
    Reader.strictDate? (date.text ++ rest) = some (date, rest) ∨
      Reader.strictDate? (date.text ++ rest) = none := by
  have hsigned : ∀ (sign : Char) cs, sign.isDigit = false →
      Reader.strictDate? (sign :: cs) = none := by
    intro sign cs hsign
    have hread : Decimal.read? 4 4 (sign :: cs) = none := by
      simp [Decimal.read?, hsign]
    rw [Reader.strictDate?, hread]
    rfl
  obtain ⟨year, month, day⟩ := date
  rw [Date.text]
  rcases yearText_cases year with ⟨n, rfl, hlt, htext⟩ | ⟨n, ⟨-, htext⟩ | ⟨-, htext⟩⟩ <;>
    rw [htext]
  · left
    simp only [List.append_assoc, List.cons_append, Reader.strictDate?, Option.bind_eq_bind,
      read?_four hlt, Option.bind_some, char?_cons, read?_two hmonth, read?_two hday]
  · exact .inr (hsigned _ _ (by decide))
  · exact .inr (hsigned _ _ (by decide))

theorem strictClock?_text (hhour : clock.hour < 100) (hminute : clock.minute < 100)
    (hsecond : clock.second < 100) (hrest : rest.head? ≠ some '.') :
    Reader.strictClock? (' ' :: (clock.text ++ rest)) =
      some (⟨clock.hour, clock.minute, clock.second, 0⟩, rest) := by
  have hblank : ∀ cs, (Reader.char? 'T' (' ' :: cs)).or
      ((Reader.char? 't' (' ' :: cs)).or (Reader.char? ' ' (' ' :: cs))) = some cs := fun _ => rfl
  rw [Reader.strictClock?, hblank]
  simp only [Clock.text, List.append_assoc, List.cons_append, Option.bind_eq_bind,
    read?_two hhour, read?_two hminute, read?_two hsecond, Option.bind_some, char?_cons,
    fraction?_of_ne hrest]

/-- A date is not read with an offset, if none stands behind the time of day that follows. -/
theorem withOffset?_text (hmonth : date.month < 100) (hday : date.day < 100)
    (h : ∀ clock behind, Reader.strictClock? rest = some (clock, behind) →
      Reader.offset? behind = none) :
    Reader.withOffset? (date.text ++ rest) = none := by
  rw [Option.eq_none_iff_forall_ne_some]
  intro t ht
  obtain ⟨_, _, clock, behind, offset, hdate, hclock, hoffset, -⟩ :=
    Reader.exists_of_withOffset? ht
  rcases strictDate?_text hmonth hday rest with hread | hread <;> rw [hread] at hdate
  · cases hdate
    rw [h clock behind hclock] at hoffset
    cases hoffset
  · cases hdate

end Parts

/-! ### What is shown is read, or not -/

section Shown

variable {date : Date} {clock : Clock}

/-- The text of a date and a time of day. -/
def shownText (date : Date) (clock : Clock) : List Char :=
  date.text ++ ' ' :: clock.text ++ " UTC".toList

theorem isTrim_text : IsTrim date.text where
  first _ hc := isBlank_of_mem_dateText (List.mem_of_mem_head? hc)
  last _ hc := isBlank_of_mem_dateText (List.mem_of_mem_getLast? hc)

theorem isTrim_shownText : IsTrim (shownText date clock) where
  first c hc := by
    rw [shownText, List.append_assoc, List.head?_append_of_ne_nil _ date.text_ne_nil] at hc
    exact isTrim_text.first c hc
  last c hc := by
    rw [shownText, List.getLast?_append] at hc
    cases hc
    decide

theorem parse?_text (hmonth : date.month < 100) (hday : date.day < 100) :
    Timestamp.parse? date.text = instant date ⟨0, 0, 0, 0⟩ 0 := by
  have hdate : Reader.date? date.text = some (date, []) := by
    have h := date?_text hmonth hday []
    rwa [List.append_nil] at h
  have hoffset : Reader.withOffset? date.text = none := by
    rw [← List.append_nil date.text]
    exact withOffset?_text hmonth hday (by rintro _ _ ⟨⟩)
  have hletter : Reader.inUtc? (Reader.char? 'T') date.text = none := by
    rw [Reader.inUtc?, hdate]
    rfl
  have hblank : Reader.inUtc? (fun cs => some (trimStart cs)) date.text = none := by
    rw [Reader.inUtc?, hdate]
    rfl
  unfold Timestamp.parse?
  dsimp only
  rw [trim_eq_self_iff.2 isTrim_text, hoffset, hletter, hblank, Reader.dateAlone?, hdate]
  rfl

theorem parse?_shownText (hmonth : date.month < 100) (hday : date.day < 100)
    (hhour : clock.hour < 100) (hminute : clock.minute < 100) (hsecond : clock.second < 100) :
    Timestamp.parse? (shownText date clock) = none := by
  have hdate : Reader.date? (shownText date clock) =
      some (date, ' ' :: (clock.text ++ " UTC".toList)) := by
    rw [shownText, List.append_assoc, date?_text hmonth hday]
    rfl
  have hclock : Reader.clock? (clock.text ++ " UTC".toList) =
      some (⟨clock.hour, clock.minute, clock.second, 0⟩, " UTC".toList) :=
    clock?_text hhour hminute hsecond (by decide)
  -- the blank may stand between date and time here, but then ` UTC` is no offset
  have hoffset : Reader.withOffset? (shownText date clock) = none := by
    rw [shownText, List.append_assoc]
    refine withOffset?_text hmonth hday ?_
    intro _ behind hread
    rw [List.cons_append, strictClock?_text hhour hminute hsecond (by decide)] at hread
    cases hread
    rfl
  have hletter : Reader.inUtc? (Reader.char? 'T') (shownText date clock) = none := by
    rw [Reader.inUtc?, hdate]
    rfl
  -- date and time are read, and ` UTC` is left
  have hblank : Reader.inUtc? (fun cs => some (trimStart cs)) (shownText date clock) = none := by
    have hstart : trimStart (' ' :: (clock.text ++ " UTC".toList)) =
        clock.text ++ " UTC".toList := by
      show trimStart (clock.text ++ " UTC".toList) = _
      simp only [Clock.text, List.append_assoc]
      exact trimStart_padded 2 clock.hour _
    simp only [Reader.inUtc?, hdate, Option.bind_eq_bind, Option.bind_some, hstart, hclock]
    rfl
  have halone : Reader.dateAlone? (shownText date clock) = none := by
    rw [Reader.dateAlone?, hdate]
    rfl
  unfold Timestamp.parse?
  dsimp only
  rw [trim_eq_self_iff.2 isTrim_shownText, hoffset, hletter, hblank, halone]
  rfl

end Shown

section Instants

variable {t : Timestamp} {cs : List Char}

/-- The numbers of an instant that is read have two digits, the year aside. -/
theorem shown_lt (h : Timestamp.parse? cs = some t) :
    ((Date.ofDays t.day).month < 100 ∧ (Date.ofDays t.day).day < 100) ∧
      t.clock.hour < 100 ∧ t.clock.minute < 100 ∧ t.clock.second < 100 := by
  obtain ⟨hdate, ⟨hhour, hminute, hsecond⟩, -⟩ := instant_eq_some_iff.1 (instant_of_parse? h)
  obtain ⟨-, ⟨-, hmonth⟩, -, hday⟩ := (Date.isValid_iff _).1 hdate
  have hday := hday.trans (daysInMonth_le _ _)
  omega

/-- **A date that is shown** is read as the beginning of its day. -/
theorem parse?_dateText (h : Timestamp.parse? cs = some t) :
    Timestamp.parse? t.dateText = some t.midnight := by
  obtain ⟨⟨hmonth, hday⟩, -⟩ := shown_lt h
  have hvalid := (instant_eq_some_iff.1 (instant_of_parse? h)).1
  rw [Timestamp.dateText, parse?_text hmonth hday, instant_eq_some_iff, Date.toDays_ofDays]
  refine ⟨hvalid, by decide, ?_, rfl⟩
  simp [Timestamp.midnight, Timestamp.daySeconds]

/-- **A date and a time that are shown** are not read. -/
theorem parse?_shown (h : Timestamp.parse? cs = some t) :
    Timestamp.parse? (t.dateText ++ ' ' :: t.clockText ++ " UTC".toList) = none := by
  obtain ⟨⟨hmonth, hday⟩, hhour, hminute, hsecond⟩ := shown_lt h
  rw [Timestamp.clockText_eq]
  exact parse?_shownText hmonth hday hhour hminute hsecond

end Instants

/-! ### What is shown for a text -/

section Texts

variable {form : Timestamp → List Char} {s : String}

theorem parse?_trim (cs : List Char) : Timestamp.parse? (trim cs) = Timestamp.parse? cs := by
  unfold Timestamp.parse?
  rw [trim_trim]

theorem display_some (form : Timestamp → List Char) (s : String) :
    display form (some s) =
      if isBlankText s then "N/A"
      else match Timestamp.parse? s.toList with
        | none => trimmed s
        | some t => String.ofList (form t) := by
  unfold display
  rw [Option.map_some]
  split
  · rename_i h
    cases h
  · rename_i h
    rw [if_pos (isBlankText_iff.2 (Option.some.inj h))]
    rfl
  · rename_i text hne h
    obtain rfl := Option.some.inj h
    rw [if_neg fun h => hne (isBlankText_iff.1 h), parse?_trim]
    rfl

theorem display_of_parse?_some {t : Timestamp} (h : Timestamp.parse? s.toList = some t) :
    display form (some s) = String.ofList (form t) := by
  have hblank : ¬ isBlankText s = true := by
    intro hblank
    have hnil : Timestamp.parse? [] = none := by decide
    rw [← parse?_trim, isBlankText_iff.1 hblank, hnil] at h
    cases h
  rw [display_some, if_neg hblank, h]

theorem display_of_parse?_none (hblank : isBlankText s = false)
    (h : Timestamp.parse? s.toList = none) : display form (some s) = trimmed s := by
  rw [display_some, if_neg (ne_true_of_eq_false hblank), h]

/-- A text that names no instant is shown as it is, if no blanks are around it. -/
theorem display_ofList {cs : List Char} (hne : cs ≠ []) (htrim : IsTrim cs)
    (h : Timestamp.parse? cs = none) :
    display form (some (String.ofList cs)) = String.ofList cs := by
  have hself : trimmed (String.ofList cs) = String.ofList cs := by
    rw [trimmed, String.toList_ofList, trim_eq_self_iff.2 htrim]
  have hblank : isBlankText (String.ofList cs) = false := by
    rw [← isEmpty_trimmed, hself, Bool.eq_false_iff]
    simpa [String.isEmpty_iff] using hne
  rw [← String.toList_ofList (l := cs)] at h
  rw [display_of_parse?_none hblank h, hself]

/-- **What is shown is shown again as it is**, if that holds of what is shown for an instant. -/
theorem display_display (hform : ∀ cs t, Timestamp.parse? cs = some t →
      display form (some (String.ofList (form t))) = String.ofList (form t))
    (raw : Option String) : display form (some (display form raw)) = display form raw := by
  have hmissing : display form (some "N/A") = "N/A" :=
    display_of_parse?_none (by decide) (by decide)
  cases raw with
  | none => exact hmissing
  | some s =>
    cases hblank : isBlankText s with
    | true =>
      rw [display_some form s, if_pos hblank]
      exact hmissing
    | false =>
      cases h : Timestamp.parse? s.toList with
      | some t =>
        rw [display_of_parse?_some h]
        exact hform _ t h
      | none =>
        rw [display_of_parse?_none hblank h]
        exact display_ofList (trim_ne_nil hblank) (isTrim_trim _) ((parse?_trim _).trans h)

end Texts

/-! ### The characters of a date that is shown -/

theorem isBlank_of_mem_missing {c : Char} (h : c ∈ missing) : isBlank c = false := by
  have hall : (missing.all fun c => !isBlank c) = true := by decide
  have hvisible := List.all_eq_true.1 hall c h
  rwa [Bool.not_eq_true'] at hvisible

/-- A date is shown by the text for none, by what was sent without the blanks around it, or by its
day. -/
theorem formatDate_cases (raw : Option String) :
    (formatDate raw).toList = missing ∨
      (∃ s, raw = some s ∧ isBlankText s = false ∧ (formatDate raw).toList = trim s.toList) ∨
      ∃ t : Timestamp, (formatDate raw).toList = t.dateText := by
  cases raw with
  | none => exact .inl String.toList_ofList
  | some s =>
    rw [formatDate, display_some]
    split
    · exact .inl rfl
    · rename_i hblank
      split
      · exact .inr (.inl ⟨s, rfl, Bool.eq_false_iff.2 hblank, String.toList_ofList⟩)
      · exact .inr (.inr ⟨_, String.toList_ofList⟩)

theorem mem_formatDate {raw : Option String} {c : Char} (h : c ∈ (formatDate raw).toList) :
    (∃ s, raw = some s ∧ c ∈ s.toList) ∨ isBlank c = false := by
  rcases formatDate_cases raw with htext | ⟨s, hs, -, htext⟩ | ⟨t, htext⟩ <;> rw [htext] at h
  · exact .inr (isBlank_of_mem_missing h)
  · exact .inl ⟨s, hs, mem_of_mem_trim h⟩
  · exact .inr (isBlank_of_mem_dateText h)

/-- A date is never blank, whatever was sent. -/
theorem exists_visible_formatDate (raw : Option String) :
    ∃ c ∈ (formatDate raw).toList, isBlank c = false := by
  rcases formatDate_cases raw with htext | ⟨s, -, hblank, htext⟩ | ⟨t, htext⟩ <;> rw [htext]
  · exact ⟨'N', by decide, by decide⟩
  · have hne := trim_ne_nil hblank
    exact ⟨_, List.head_mem hne, (isTrim_trim _).first _ (List.head?_eq_some_head hne)⟩
  · have hne := (Date.ofDays t.day).text_ne_nil
    exact ⟨_, List.head_mem hne, isBlank_of_mem_dateText (List.head_mem hne)⟩

/-! ### Dates, and dates with times -/

@[simp] theorem Timestamp.day_midnight (t : Timestamp) : t.midnight.day = t.day :=
  Int.mul_ediv_cancel _ (by decide)

theorem formatDate_formatDate (raw : Option String) :
    formatDate (some (formatDate raw)) = formatDate raw := by
  refine display_display ?_ raw
  intro cs t h
  have hagain := parse?_dateText h
  rw [← String.toList_ofList (l := t.dateText)] at hagain
  rw [display_of_parse?_some hagain, Timestamp.dateText, Timestamp.day_midnight]
  rfl

theorem formatDateTime_formatDateTime (raw : Option String) :
    formatDateTime (some (formatDateTime raw)) = formatDateTime raw := by
  refine display_display ?_ raw
  intro cs t h
  have hnone := parse?_shown h
  rw [Timestamp.clockText_eq] at hnone ⊢
  exact display_ofList (List.append_ne_nil_of_right_ne_nil _ (by decide)) isTrim_shownText hnone

theorem formatDateTime_eq {s : String} {t : Timestamp} (h : Timestamp.parse? s.toList = some t) :
    formatDateTime (some s) =
      formatDate (some s) ++ " " ++ String.ofList t.clock.text ++ " UTC" := by
  rw [formatDateTime, formatDate, display_of_parse?_some h, display_of_parse?_some h,
    Timestamp.clockText_eq, ← String.toList_inj]
  simp

/-- **Dates that are shown are consistent and settled.** For a text that names an instant, the date
that is shown names the beginning of its day in UTC, and the date with the time is that date and
the time of day in UTC at which the instant is. A text that names none is shown without the blanks
around it. What is shown is shown again as it is. -/
theorem display_settled :
    (∀ s t, Timestamp.parse? s.toList = some t →
      Timestamp.parse? (formatDate (some s)).toList = some t.midnight ∧
        instant (Date.ofDays t.day) t.clock 0 = some t ∧
        formatDate (some s) = String.ofList (Date.ofDays t.day).text ∧
        formatDateTime (some s) =
          formatDate (some s) ++ " " ++ String.ofList t.clock.text ++ " UTC") ∧
      (∀ s, isBlankText s = false → Timestamp.parse? s.toList = none →
        formatDate (some s) = trimmed s ∧ formatDateTime (some s) = trimmed s) ∧
      ∀ raw, formatDate (some (formatDate raw)) = formatDate raw ∧
        formatDateTime (some (formatDateTime raw)) = formatDateTime raw := by
  refine ⟨?_, ?_, ?_⟩
  · intro s t h
    have hdate : formatDate (some s) = String.ofList (Date.ofDays t.day).text :=
      display_of_parse?_some h
    refine ⟨?_, instant_of_parse? h, hdate, formatDateTime_eq h⟩
    rw [hdate, String.toList_ofList]
    exact parse?_dateText h
  · intro s hblank h
    exact ⟨display_of_parse?_none hblank h, display_of_parse?_none hblank h⟩
  · intro raw
    exact ⟨formatDate_formatDate raw, formatDateTime_formatDateTime raw⟩

/-- The first hour of the year 0 at an offset of one hour is in the year before. -/
theorem display_settled_before :
    Timestamp.parse? "0000-01-01T00:00:00+01:00".toList = some ⟨-62167222800, 0⟩ ∧
      formatDate (some "0000-01-01T00:00:00+01:00") = "-0001-12-31" ∧
      formatDateTime (some "0000-01-01T00:00:00+01:00") = "-0001-12-31 23:00:00 UTC" ∧
      Timestamp.parse? "-0001-12-31".toList = some ⟨-62167305600, 0⟩ ∧
      formatDate (some " yesterday ") = "yesterday" := by
  have hread : Timestamp.parse? "0000-01-01T00:00:00+01:00".toList = some ⟨-62167222800, 0⟩ := by
    decide
  obtain ⟨hagain, -, hdate, htime⟩ := display_settled.1 _ _ hread
  have hshown : formatDate (some "0000-01-01T00:00:00+01:00") = "-0001-12-31" := by
    rw [hdate]
    decide
  rw [hshown] at hagain htime
  refine ⟨hread, hshown, ?_, hagain, ?_⟩
  · rw [htime]
    decide
  · rw [(display_settled.2.1 " yesterday " (by decide) (by decide)).1]
    decide

end McpConsole.Time
