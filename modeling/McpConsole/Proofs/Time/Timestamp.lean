import McpConsole.Proofs.Text.Decimal
import McpConsole.Proofs.Time.Civil
import McpConsole.Time.Timestamp

/-!
# Instants in UTC

An instant that is read names a date and a time of day, perhaps at an offset (`IsWritten`). Seen from
UTC it has a date and a time of day too, which name it without an offset (`instant_utc`): the offset
may move it to another day, and to the year before 0, but never out of the calendar.
-/

namespace McpConsole.Time

open McpConsole.Text

/-- The time of day in UTC. -/
def Timestamp.clock (t : Timestamp) : Clock :=
  let leap := if 1000000000 ≤ t.nanos then 1 else 0
  ⟨t.secondOfDay / 3600, t.secondOfDay / 60 % 60, t.secondOfDay % 60 + leap,
    t.nanos - 1000000000 * leap⟩

/-- A date and a time of day of the calendar, as they are written: an offset is less than a day and of
whole minutes, and stands only behind a year of four digits. -/
structure IsWritten (date : Date) (clock : Clock) (offset : Int) : Prop where
  nanos_lt : clock.nanos < 1000000000
  offset_eq : offset = 0 ∨ (0 ≤ date.year ∧ date.year ≤ 9999) ∧
    (-86400 < offset ∧ offset < 86400) ∧ offset % 60 = 0

theorem instant_eq_some_iff {date : Date} {clock : Clock} {offset : Int} {t : Timestamp} :
    instant date clock offset = some t ↔
      date.isValid = true ∧ (clock.hour < 24 ∧ clock.minute < 60 ∧ clock.second ≤ 60) ∧
        t.seconds = date.toDays * 86400 + (clock.hour * 3600 + clock.minute * 60 +
          (if clock.second = 60 then 59 else clock.second) : Nat) - offset ∧
        t.nanos = clock.nanos + if clock.second = 60 then 1000000000 else 0 := by
  obtain ⟨seconds, nanos⟩ := t
  unfold instant
  simp only [Bool.and_eq_true, decide_eq_true_eq, beq_iff_eq, Timestamp.daySeconds]
  split
  · rename_i h
    obtain ⟨⟨⟨hdate, hhour⟩, hminute⟩, hsecond⟩ := h
    simp [hdate, hhour, hminute, hsecond, eq_comm]
  · rename_i h
    simp only [reduceCtorEq, false_iff]
    rintro ⟨hdate, ⟨hhour, hminute, hsecond⟩, -⟩
    exact h ⟨⟨⟨hdate, hhour⟩, hminute⟩, hsecond⟩

/-! ### Where the calendar ends -/

theorem daysInMonth_le (year : Int) (month : Nat) : daysInMonth year month ≤ 31 := by
  unfold daysInMonth
  split_ifs <;> omega

theorem toDays_bounds {date : Date} (h : date.isValid = true)
    (hyear : 0 ≤ date.year ∧ date.year ≤ 9999) :
    -1000000 < date.toDays ∧ date.toDays < 4000000 := by
  obtain ⟨-, hmonth, -, hday⟩ := (Date.isValid_iff date).1 h
  have hday := hday.trans (daysInMonth_le date.year date.month)
  obtain ⟨march, hmarch⟩ : ∃ march, march = if date.month ≤ 2 then date.year - 1 else date.year :=
    ⟨_, rfl⟩
  have hbounds : -1 ≤ march ∧ march ≤ 9999 := by
    split at hmarch <;> omega
  unfold Date.toDays
  simp only [← hmarch]
  omega

theorem yearInRange_ofDays {days : Int} (h : -2000000 < days ∧ days < 5000000) :
    yearInRange (Date.ofDays days).year = true := by
  obtain ⟨era, yearOfEra, dayOfYear, hyear, hday, rfl⟩ := Date.exists_march days
  have hlt := daysBefore_add_lt hyear hday
  have hera : -10 < era ∧ era < 50 := by omega
  obtain ⟨hlow, hhigh⟩ := Date.year_ofMarch_bounds era hyear (monthOfDay dayOfYear)
    (dayOfMonth dayOfYear)
  rw [Date.ofDays_march era hyear hday]
  simp only [yearInRange, Bool.and_eq_true, decide_eq_true_eq]
  omega

/-- The day in UTC is one of the calendar. -/
theorem isValid_ofDays_day {date : Date} {clock : Clock} {offset : Int} {t : Timestamp}
    (hwritten : IsWritten date clock offset) (h : instant date clock offset = some t) :
    (Date.ofDays t.day).isValid = true := by
  obtain ⟨hdate, ⟨hhour, hminute, hsecond⟩, hseconds, -⟩ := instant_eq_some_iff.1 h
  have hclock : clock.hour * 3600 + clock.minute * 60 +
      (if clock.second = 60 then 59 else clock.second) < 86400 := by
    split <;> omega
  rcases hwritten.offset_eq with rfl | ⟨hyear, hoffset, -⟩
  · have hday : t.day = date.toDays := by
      rw [Timestamp.day, Timestamp.daySeconds, hseconds]
      omega
    rw [hday, Date.ofDays_toDays hdate, hdate]
  · have hbounds := toDays_bounds hdate hyear
    rw [Date.isValid_ofDays_iff]
    apply yearInRange_ofDays
    rw [Timestamp.day, Timestamp.daySeconds, hseconds]
    omega

/-- **An instant that is read is named in UTC**, too. -/
theorem instant_utc {date : Date} {clock : Clock} {offset : Int} {t : Timestamp}
    (hwritten : IsWritten date clock offset) (h : instant date clock offset = some t) :
    instant (Date.ofDays t.day) t.clock 0 = some t := by
  have hvalid := isValid_ofDays_day hwritten h
  obtain ⟨-, -, hseconds, hnanos⟩ := instant_eq_some_iff.1 h
  have hsmall := hwritten.nanos_lt
  have hminutes : offset % 60 = 0 := by
    rcases hwritten.offset_eq with rfl | ⟨-, -, hoffset⟩
    · rfl
    · exact hoffset
  have hday : t.seconds = t.day * 86400 + t.secondOfDay := by
    unfold Timestamp.secondOfDay Timestamp.day Timestamp.daySeconds
    omega
  have hlt : t.secondOfDay < 86400 := by
    unfold Timestamp.secondOfDay Timestamp.daySeconds
    omega
  rw [instant_eq_some_iff, Date.toDays_ofDays]
  refine ⟨hvalid, ?_⟩
  by_cases h60 : clock.second = 60
  · rw [if_pos h60] at hseconds hnanos
    have hleap : 1000000000 ≤ t.nanos := by omega
    -- a leap second stands for the last second of a minute, also at the offset
    have hlast : t.secondOfDay % 60 = 59 := by omega
    simp only [Timestamp.clock, hleap, hlast, if_true]
    omega
  · rw [if_neg h60] at hnanos
    have hleap : ¬ 1000000000 ≤ t.nanos := by omega
    have hlast : t.secondOfDay % 60 ≠ 60 := by omega
    simp only [Timestamp.clock, hleap, if_false, Nat.add_zero, hlast]
    omega

/-! ### What is read -/

/-- An instant that a date and a time of day name, perhaps at an offset. -/
def Timestamp.IsNamed (t : Timestamp) : Prop :=
  ∃ date clock offset, IsWritten date clock offset ∧ instant date clock offset = some t

namespace Reader

theorem fraction?_lt {cs rest : List Char} {nanos : Nat} (h : fraction? cs = some (nanos, rest)) :
    nanos < 1000000000 := by
  unfold fraction? at h
  split at h
  · rename_i cs
    dsimp only at h
    split at h
    · cases h
    · obtain ⟨rfl, -⟩ := Prod.mk.inj (Option.some.inj h)
      have hdigits : ∀ c ∈ (cs.takeWhile Char.isDigit).take 9, c.isDigit = true :=
        fun c hc => List.all_eq_true.1 List.all_takeWhile c (List.mem_of_mem_take hc)
      have hlength : ((cs.takeWhile Char.isDigit).take 9).length ≤ 9 := List.length_take_le 9 _
      generalize (cs.takeWhile Char.isDigit).take 9 = counted at hdigits hlength
      calc Decimal.value counted * Nat.pow 10 (9 - counted.length)
          < 10 ^ counted.length * 10 ^ (9 - counted.length) :=
            Nat.mul_lt_mul_of_pos_right (Decimal.value_lt hdigits) (Nat.pow_pos (by decide))
        _ = 1000000000 := by rw [← Nat.pow_add, Nat.add_sub_cancel' hlength]
  · obtain ⟨rfl, -⟩ := Prod.mk.inj (Option.some.inj h)
    decide

theorem offset?_bounds {cs rest : List Char} {offset : Int} (h : offset? cs = some (offset, rest)) :
    (-86400 < offset ∧ offset < 86400) ∧ offset % 60 = 0 := by
  unfold offset? at h
  split at h
  · obtain ⟨rfl, -⟩ := Prod.mk.inj (Option.some.inj h)
    decide
  · obtain ⟨rfl, -⟩ := Prod.mk.inj (Option.some.inj h)
    decide
  · cases h
  · split at h
    · simp only [Option.bind_eq_bind, Option.bind_eq_some_iff] at h
      obtain ⟨⟨hours, _⟩, -, _, -, ⟨minutes, _⟩, -, h⟩ := h
      split at h
      · obtain ⟨rfl, -⟩ := Prod.mk.inj (Option.some.inj h)
        split <;> omega
      · cases h
    · cases h

theorem clock?_nanos_lt {cs rest : List Char} {clock : Clock} (h : clock? cs = some (clock, rest)) :
    clock.nanos < 1000000000 := by
  simp only [clock?, Option.bind_eq_bind, Option.bind_eq_some_iff] at h
  obtain ⟨⟨hour, _⟩, -, _, -, ⟨minute, _⟩, -, _, -, ⟨second, _⟩, -, ⟨nanos, _⟩, hfraction, h⟩ := h
  cases h
  exact fraction?_lt hfraction

theorem isNamed_of_inUtc? {between : List Char → Option (List Char)} {cs : List Char}
    {t : Timestamp} (h : inUtc? between cs = some t) : t.IsNamed := by
  simp only [inUtc?, Option.bind_eq_bind, Option.bind_eq_some_iff] at h
  obtain ⟨⟨date, _⟩, -, _, -, ⟨clock, _⟩, hclock, h⟩ := h
  split at h
  · exact ⟨date, clock, 0, ⟨clock?_nanos_lt hclock, .inl rfl⟩, h⟩
  · cases h

theorem isNamed_of_dateAlone? {cs : List Char} {t : Timestamp} (h : dateAlone? cs = some t) :
    t.IsNamed := by
  simp only [dateAlone?, Option.bind_eq_bind, Option.bind_eq_some_iff] at h
  obtain ⟨⟨date, _⟩, -, h⟩ := h
  split at h
  · exact ⟨date, ⟨0, 0, 0, 0⟩, 0, ⟨by decide, .inl rfl⟩, h⟩
  · cases h

/-- The date of an instant with its offset, which has all its digits. -/
def strictDate? (cs : List Char) : Option (Date × List Char) := do
  let (year, cs) ← Decimal.read? 4 4 cs
  let cs ← char? '-' cs
  let (month, cs) ← Decimal.read? 2 2 cs
  let cs ← char? '-' cs
  let (day, cs) ← Decimal.read? 2 2 cs
  some (⟨year, month, day⟩, cs)

/-- The time of day of an instant with its offset, behind what separates it from the date. -/
def strictClock? (cs : List Char) : Option (Clock × List Char) := do
  let cs ← (char? 'T' cs).or ((char? 't' cs).or (char? ' ' cs))
  let (hour, cs) ← Decimal.read? 2 2 cs
  let cs ← char? ':' cs
  let (minute, cs) ← Decimal.read? 2 2 cs
  let cs ← char? ':' cs
  let (second, cs) ← Decimal.read? 2 2 cs
  let (nanos, cs) ← fraction? cs
  some (⟨hour, minute, second, nanos⟩, cs)

/-- The parts of an instant with its offset. -/
theorem exists_of_withOffset? {cs : List Char} {t : Timestamp} (h : withOffset? cs = some t) :
    ∃ date rest clock rest' offset, strictDate? cs = some (date, rest) ∧
      strictClock? rest = some (clock, rest') ∧ offset? rest' = some (offset, []) ∧
      instant date clock offset = some t := by
  unfold withOffset? at h
  obtain ⟨⟨year, _⟩, hyear, h⟩ := Option.bind_eq_some_iff.1 h
  obtain ⟨_, hdash, h⟩ := Option.bind_eq_some_iff.1 h
  obtain ⟨⟨month, _⟩, hmonth, h⟩ := Option.bind_eq_some_iff.1 h
  obtain ⟨_, hdash', h⟩ := Option.bind_eq_some_iff.1 h
  obtain ⟨⟨day, behind⟩, hday, h⟩ := Option.bind_eq_some_iff.1 h
  obtain ⟨_, hblank, h⟩ := Option.bind_eq_some_iff.1 h
  obtain ⟨⟨hour, _⟩, hhour, h⟩ := Option.bind_eq_some_iff.1 h
  obtain ⟨_, hcolon, h⟩ := Option.bind_eq_some_iff.1 h
  obtain ⟨⟨minute, _⟩, hminute, h⟩ := Option.bind_eq_some_iff.1 h
  obtain ⟨_, hcolon', h⟩ := Option.bind_eq_some_iff.1 h
  obtain ⟨⟨second, _⟩, hsecond, h⟩ := Option.bind_eq_some_iff.1 h
  obtain ⟨⟨nanos, _⟩, hnanos, h⟩ := Option.bind_eq_some_iff.1 h
  obtain ⟨⟨offset, cs⟩, hoffset, h⟩ := Option.bind_eq_some_iff.1 h
  dsimp only at h
  split at h
  · rename_i hempty
    rw [List.isEmpty_iff.1 hempty] at hoffset
    refine ⟨_, behind, _, _, offset, ?_, ?_, hoffset, h⟩
    · simp only [strictDate?, hyear, hdash, hmonth, hdash', hday, Option.bind_eq_bind,
        Option.bind_some]
    · simp only [strictClock?, hblank, hhour, hcolon, hminute, hcolon', hsecond, hnanos,
        Option.bind_eq_bind, Option.bind_some]
  · cases h

theorem strictDate?_year {cs rest : List Char} {date : Date}
    (h : strictDate? cs = some (date, rest)) : 0 ≤ date.year ∧ date.year ≤ 9999 := by
  simp only [strictDate?, Option.bind_eq_bind, Option.bind_eq_some_iff] at h
  obtain ⟨⟨year, _⟩, hyear, _, -, ⟨month, _⟩, -, _, -, ⟨day, _⟩, -, h⟩ := h
  cases h
  have hlt := Decimal.lt_of_read? hyear
  dsimp only
  omega

theorem strictClock?_nanos_lt {cs rest : List Char} {clock : Clock}
    (h : strictClock? cs = some (clock, rest)) : clock.nanos < 1000000000 := by
  simp only [strictClock?, Option.bind_eq_bind, Option.bind_eq_some_iff] at h
  obtain ⟨_, -, ⟨hour, _⟩, -, _, -, ⟨minute, _⟩, -, _, -, ⟨second, _⟩, -, ⟨nanos, _⟩, hnanos, h⟩ := h
  cases h
  exact fraction?_lt hnanos

theorem isNamed_of_withOffset? {cs : List Char} {t : Timestamp} (h : withOffset? cs = some t) :
    t.IsNamed := by
  obtain ⟨date, _, clock, _, offset, hdate, hclock, hoffset, h⟩ := exists_of_withOffset? h
  have hbounds := offset?_bounds hoffset
  exact ⟨date, clock, offset,
    ⟨strictClock?_nanos_lt hclock, .inr ⟨strictDate?_year hdate, hbounds⟩⟩, h⟩

end Reader

/-- **An instant that is read** is a date and a time of day in UTC. -/
theorem instant_of_parse? {cs : List Char} {t : Timestamp} (h : Timestamp.parse? cs = some t) :
    instant (Date.ofDays t.day) t.clock 0 = some t := by
  have hnamed : t.IsNamed := by
    unfold Timestamp.parse? at h
    dsimp only at h
    rw [Option.or_eq_some_iff] at h
    rcases h with h | ⟨-, h⟩
    · exact Reader.isNamed_of_withOffset? h
    rw [Option.or_eq_some_iff] at h
    rcases h with h | ⟨-, h⟩
    · exact Reader.isNamed_of_inUtc? h
    rw [Option.or_eq_some_iff] at h
    rcases h with h | ⟨-, h⟩
    · exact Reader.isNamed_of_inUtc? h
    · exact Reader.isNamed_of_dateAlone? h
  obtain ⟨date, clock, offset, hwritten, hinstant⟩ := hnamed
  exact instant_utc hwritten hinstant

end McpConsole.Time
