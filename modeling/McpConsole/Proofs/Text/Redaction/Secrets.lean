import McpConsole.Proofs.Text.Redaction.Reach

/-!
# Where the value of a secret shows

A text `cs` is followed by the key `TOKEN=` and a word. Does the redacted text tell which word it
was? The passes are followed one by one. Before the key each of the first two either comes to the
key and leaves it (`KeyStays`) or has hidden it by a hit that began before it, with as much of the
word as this hit reached (`KeyGoes`). Where the key stays, the third pass hides the word. Where it
has gone, what is left of the word shows, unless the third pass hides that, too, because an earlier
assignment goes on there (`assignment_mark`).

`Hides cs` puts this as a question about `cs` alone, and `redacted_eq_iff` answers it: the word does
not show if and only if the text before the key hides it. A text that introduces no header and no
bearer token does (`hides_of_afterWord`); the text `Bearer` and a blank does not (`secret_shows`).
-/

namespace McpConsole.Text.Redaction

variable {f : Pattern} {cs : List Char}

/-- What is left when header values and bearer tokens are hidden. -/
def cleared (cs : List Char) : List Char :=
  replaceAll bearer (replaceAll authorization cs)

/-- The text hides the value of a key that follows it: the key is still there when assignments are
looked for, or whatever stands in its place is part of the value of an earlier assignment. -/
def Hides (cs : List Char) : Prop :=
  key <:+ cleared (cs ++ key) ∨
    replaceAll assignment (cleared (cs ++ key) ++ ['x']) =
      replaceAll assignment (cleared (cs ++ key))

instance (cs : List Char) : Decidable (Hides cs) :=
  inferInstanceAs (Decidable (_ ∨ _))

/-! ### Texts without blanks -/

theorem IsDense.drop (h : IsDense cs) (n : Nat) : IsDense (cs.drop n) :=
  fun c hc => h c ((List.drop_suffix n cs).subset hc)

theorem IsDense.replaceAll (h : IsDense cs) (hf : Sound f) : IsDense (replaceAll f cs) := by
  intro c hc
  rcases (rewrites_replaceAll hf cs).mem hc with hin | hin
  · exact h c hin
  · exact isDense_mark c hin

theorem isWord_replaceAll (hf : Sound f) (h : IsWord cs) : IsWord (replaceAll f cs) where
  ne_nil := (rewrites_replaceAll hf cs).ne_nil h.ne_nil
  not_blank := IsDense.replaceAll h.not_blank hf

theorem IsDense.runLength_isSolid (h : IsDense cs) : runLength isSolid cs = cs.length := by
  have hsolid : ∀ c ∈ cs, isSolid c = true := by
    intro c hc
    rw [isSolid, h c hc]
    rfl
  have hrun := runLength_append_stop hsolid (starts_nil isSolid)
  rwa [List.append_nil] at hrun

/-! ### The first two passes -/

theorem replaceAll_mark (r : Reading f) (value : List Char) :
    replaceAll f (mark ++ value) = mark ++ replaceAll f value :=
  replaceAll_append_of_none value fun j hj => r.mark_drop j hj value

/-- A pattern that reads a word hits nothing in the key. -/
theorem Heads.replaceAll_key {word : List Char} {gap : Nat} {opens : Char → Bool}
    {size : List Char → Nat} (h : Heads f word gap opens size)
    (hclash : ∀ j < key.length, clashes word (key.drop j) = true) (value : List Char) :
    replaceAll f (key ++ value) = key ++ replaceAll f value :=
  replaceAll_append_of_none value fun j hj =>
    h.of_none (afterWord_of_clashes (hclash j hj) value)

theorem tokenLength_key (value : List Char) :
    tokenLength (key ++ value) = key.length + runLength (· == '=') value := by
  have hname : "TOKEN".toList.all isTokenChar = true := by decide
  have hstop : starts isTokenChar ('=' :: value) = false := rfl
  have hrun : runLength isTokenChar (key ++ value) = 5 :=
    runLength_append_stop (List.all_eq_true.1 hname) hstop
  have hdrop : (key ++ value).drop 5 = ['='] ++ value := rfl
  have hpads : runLength (· == '=') (['='] ++ value) = 1 + runLength (· == '=') value :=
    runLength_append (List.all_eq_true.1 (by decide)) value
  have hlength : key.length = 5 + 1 := rfl
  rw [tokenLength, hrun, hdrop, hpads, hlength, Nat.add_assoc]

/-- How a pass goes on before a key and its value: the key stays, or a hit that began before it
hides it and the beginning of the value. -/
theorem leads_key {reach more : List Char → Nat}
    (hcases : Leads f (Behind key) cs (replaceAll f) ∨ Leads f (Behind key) cs (covered f reach))
    (hkey : ∀ value, replaceAll f (key ++ value) = key ++ replaceAll f value)
    (hreach : ∀ value, reach (key ++ value) = key.length + more value) :
    (∃ begun, ∀ value, IsDense value →
      replaceAll f (cs ++ (key ++ value)) = begun ++ (key ++ replaceAll f value)) ∨
    (∃ begun, ∀ value, IsDense value → replaceAll f (cs ++ (key ++ value)) =
      begun ++ (mark ++ replaceAll f (value.drop (more value)))) := by
  rcases hcases with ⟨begun, hgo⟩ | ⟨begun, hgo⟩
  · refine .inl ⟨begun, fun value hvalue => ?_⟩
    rw [hgo _ ⟨value, rfl, hvalue⟩, hkey]
  · refine .inr ⟨begun, fun value hvalue => ?_⟩
    rw [hgo _ ⟨value, rfl, hvalue⟩, covered, hreach, ← List.drop_drop, List.drop_left]

/-- How a pass goes on before a mark that it does not reach into. -/
theorem leads_mark {reach : List Char → Nat}
    (hcases : Leads f (Behind mark) cs (replaceAll f) ∨ Leads f (Behind mark) cs (covered f reach))
    (hmark : ∀ value, replaceAll f (mark ++ value) = mark ++ replaceAll f value)
    (hreach : ∀ value, reach (mark ++ value) = 0) :
    ∃ begun, ∀ value, IsDense value →
      replaceAll f (cs ++ (mark ++ value)) = begun ++ (mark ++ replaceAll f value) := by
  rcases hcases with ⟨begun, hgo⟩ | ⟨begun, hgo⟩
  · refine ⟨begun, fun value hvalue => ?_⟩
    rw [hgo _ ⟨value, rfl, hvalue⟩, hmark]
  · refine ⟨begun ++ mark, fun value hvalue => ?_⟩
    rw [hgo _ ⟨value, rfl, hvalue⟩, covered, hreach, List.drop_zero, hmark, List.append_assoc]

theorem bearer_mark (cs : List Char) : ∃ begun, ∀ value, IsDense value →
    replaceAll bearer (cs ++ (mark ++ value)) = begun ++ (mark ++ replaceAll bearer value) := by
  have hfate := fate_bearer mark (by decide) (by decide) (by decide)
  exact leads_mark (leads_cases cs fun us _ _ => hfate us) (replaceAll_mark bearerReading)
    fun value => rfl

/-- The first two passes leave the key, and `left` says what they leave of its value. -/
structure KeyStays (cs begun : List Char) (left : List Char → List Char) : Prop where
  nil : left [] = []
  word : ∀ value, IsWord value → IsWord (left value)
  eq : ∀ value, IsDense value → cleared (cs ++ (key ++ value)) = begun ++ (key ++ left value)

/-- One of the first two passes hides the key, and `left` says what they leave of its value. -/
structure KeyGoes (cs begun : List Char) (left : List Char → List Char) : Prop where
  nil : left [] = []
  dense : ∀ value, IsDense value → IsDense (left value)
  shows : replaceAll bareKey (replaceAll assignment (left ['x'])) ≠
    replaceAll bareKey (replaceAll assignment (left ['x', ',', 'y']))
  eq : ∀ value, IsDense value → cleared (cs ++ (key ++ value)) = begun ++ (mark ++ left value)

theorem keyStays_or_keyGoes (cs : List Char) :
    (∃ begun left, KeyStays cs begun left) ∨ ∃ begun left, KeyGoes cs begun left := by
  have hheader : ∀ value, runLength isHeaderValue (key ++ value) =
      key.length + runLength isHeaderValue value :=
    runLength_append (List.all_eq_true.1 (by decide))
  have hbearer := fate_bearer key (by decide) (by decide) (by decide)
  rcases leads_key (leads_cases cs fun us _ _ => fate_authorization us)
    (heads_authorization.replaceAll_key (by decide)) hheader with
    ⟨begun, hfirst⟩ | ⟨begun, hfirst⟩
  · rcases leads_key (leads_cases begun fun us _ _ => hbearer us)
      (heads_bearer.replaceAll_key (by decide)) tokenLength_key with
      ⟨front, hsecond⟩ | ⟨front, hsecond⟩
    · left
      refine ⟨front, fun value => replaceAll bearer (replaceAll authorization value),
        by decide +kernel, ?_, ?_⟩
      · intro value hvalue
        exact isWord_replaceAll bearerReading.sound
          (isWord_replaceAll authorizationReading.sound hvalue)
      · intro value hvalue
        have hdense := hvalue.replaceAll authorizationReading.sound
        rw [cleared, hfirst value hvalue, hsecond _ hdense]
    · right
      refine ⟨front, fun value => replaceAll bearer ((replaceAll authorization value).drop
        (runLength (· == '=') (replaceAll authorization value))),
        by decide +kernel, ?_, by decide +kernel, ?_⟩
      · intro value hvalue
        exact ((hvalue.replaceAll authorizationReading.sound).drop _).replaceAll bearerReading.sound
      · intro value hvalue
        have hdense := hvalue.replaceAll authorizationReading.sound
        rw [cleared, hfirst value hvalue, hsecond _ hdense]
  · right
    obtain ⟨front, hsecond⟩ := bearer_mark begun
    refine ⟨front, fun value => replaceAll bearer
      (replaceAll authorization (value.drop (runLength isHeaderValue value))),
      by decide +kernel, ?_, by decide +kernel, ?_⟩
    · intro value hvalue
      exact ((hvalue.drop _).replaceAll authorizationReading.sound).replaceAll bearerReading.sound
    · intro value hvalue
      have hdense := (hvalue.drop (runLength isHeaderValue value)).replaceAll
        authorizationReading.sound
      rw [cleared, hfirst value hvalue, hsecond _ hdense]

/-! ### The last two passes -/

/-- A key and a word are an assignment, whatever the name begins with. -/
theorem isHit_key {name value : List Char} (hname : ∀ c ∈ name, isNameChar c = true)
    (hvalue : IsWord value) : IsHit assignment (name ++ key) value [] := by
  have hall : ∀ c ∈ name ++ "TOKEN".toList, isNameChar c = true := by
    intro c hc
    rcases List.mem_append.1 hc with hc | hc
    · exact hname c hc
    · have htoken : "TOKEN".toList.all isNameChar = true := by decide
      exact List.all_eq_true.1 htoken c hc
  have hsecret : namesSecret (name ++ "TOKEN".toList) = true := by
    rw [namesSecret, List.reverse_append, List.map_append]
    rfl
  have hstarts : starts isSolid value = true := by
    obtain ⟨c, value, rfl⟩ := List.exists_cons_of_ne_nil hvalue.ne_nil
    rw [starts_cons, isSolid, hvalue.not_blank c List.mem_cons_self]
    rfl
  rw [assignmentReading.isHit_iff, List.append_nil]
  refine ⟨⟨name ++ "TOKEN".toList, ?_, hall, hsecret⟩, hstarts, ?_⟩
  · rw [List.append_assoc]
    rfl
  · exact (IsDense.runLength_isSolid hvalue.not_blank).symm

/-- Of a text without blanks an assignment that reaches into it leaves nothing. -/
theorem covered_of_isDense (h : IsDense cs) : covered assignment (runLength isSolid) cs = mark := by
  rw [covered, h.runLength_isSolid, List.drop_length, replaceAll, List.append_nil]

theorem isDense_append {piece value : List Char} (hpiece : IsDense piece) (hvalue : IsDense value) :
    IsDense (piece ++ value) := by
  intro c hc
  rcases List.mem_append.1 hc with hc | hc
  · exact hpiece c hc
  · exact hvalue c hc

/-- A key and its value. -/
def Assigns (b : List Char) : Prop :=
  ∃ value, b = key ++ value ∧ IsWord value

theorem Assigns.isDense {b : List Char} (h : Assigns b) : IsDense b := by
  obtain ⟨value, rfl, hvalue⟩ := h
  have hkey : IsDense key := isDense_of_all (by decide)
  exact isDense_append hkey hvalue.not_blank

theorem assignment_name_key (name : List Char) (hname : ∀ c ∈ name, isNameChar c = true)
    {value : List Char} (hvalue : IsWord value) :
    replaceAll assignment (name ++ (key ++ value)) = name ++ key ++ mark := by
  have hhit := replaceAll_of_isHit (isHit_key hname hvalue)
  rwa [List.append_nil, replaceAll, List.append_nil, List.append_assoc name] at hhit

/-- Assignments, where the key is still there: nothing of the value stays. -/
theorem assignment_key (cs : List Char) : ∃ begun, ∀ value, IsWord value →
    replaceAll assignment (cs ++ (key ++ value)) = begun ++ mark := by
  have hsome : ∃ b, Assigns b := ⟨_, ['x'], rfl, by simp, isDense_of_all (by decide)⟩
  have hsolid : ∀ b, Assigns b → starts isSolid b = true := by
    rintro b ⟨value, rfl, -⟩
    rfl
  have hfate : ∀ us, Fate assignment Assigns (runLength isSolid) us := by
    intro us
    obtain ⟨name, rest, rfl, hname, hrest⟩ := exists_run isNameChar us
    cases rest with
    | nil =>
      refine .across ⟨name ++ key, fun b hb => ?_⟩
      rw [covered_of_isDense hb.isDense]
      obtain ⟨value, rfl, hvalue⟩ := hb
      rw [List.append_nil, assignment_name_key name hname hvalue]
    | cons c rest => exact fate_assignment_of_stop hsome hsolid hname hrest
  rcases leads_cases cs fun us _ _ => hfate us with ⟨begun, hgo⟩ | ⟨begun, hgo⟩
  · refine ⟨begun ++ key, fun value hvalue => ?_⟩
    have hkey : replaceAll assignment (key ++ value) = key ++ mark :=
      assignment_name_key [] (by simp) hvalue
    rw [hgo _ ⟨value, rfl, hvalue⟩, hkey, List.append_assoc]
  · refine ⟨begun, fun value hvalue => ?_⟩
    have hb : Assigns (key ++ value) := ⟨value, rfl, hvalue⟩
    rw [hgo _ hb, covered_of_isDense hb.isDense]

/-- Assignments, where a mark has taken the place of the key: an assignment that began before it
hides what follows, or all that follows stays to the next pass. -/
theorem assignment_mark (cs : List Char) :
    (∃ begun, ∀ value, IsDense value →
      replaceAll assignment (cs ++ (mark ++ value)) = begun ++ mark) ∨
    (∃ begun, ∀ value, IsDense value →
      replaceAll assignment (cs ++ (mark ++ value)) =
        begun ++ (mark ++ replaceAll assignment value)) := by
  have hsolid : ∀ b, Behind mark b → starts isSolid b = true := by
    rintro b ⟨value, rfl, -⟩
    rfl
  have hfate : ∀ us, Fate assignment (Behind mark) (runLength isSolid) us := by
    intro us
    obtain ⟨name, rest, rfl, hname, hrest⟩ := exists_run isNameChar us
    cases rest with
    | nil =>
      refine .skip ?_
      rintro b ⟨value, rfl, -⟩
      have hne : (mark ++ value).head? ≠ some '=' := by
        intro h
        cases h
      rw [List.append_nil]
      exact assignment_of_ne hname rfl hne
    | cons c rest => exact fate_assignment_of_stop (exists_behind mark) hsolid hname hrest
  rcases leads_cases cs fun us _ _ => hfate us with ⟨begun, hgo⟩ | ⟨begun, hgo⟩
  · refine .inr ⟨begun, fun value hvalue => ?_⟩
    rw [hgo _ ⟨value, rfl, hvalue⟩, replaceAll_mark assignmentReading]
  · refine .inl ⟨begun, fun value hvalue => ?_⟩
    rw [hgo _ ⟨value, rfl, hvalue⟩, covered_of_isDense (isDense_append isDense_mark hvalue)]

theorem bareKey_mark (cs : List Char) : ∃ begun, ∀ value, IsDense value →
    replaceAll bareKey (cs ++ (mark ++ value)) = begun ++ (mark ++ replaceAll bareKey value) := by
  have hmark : ∀ value, replaceAll bareKey (mark ++ value) = mark ++ replaceAll bareKey value :=
    fun value => replaceAll_append_of_none value fun j hj => bareKey_mark_drop j hj value
  exact leads_mark (leads_cases cs fun us _ _ => fate_bareKey us) hmark fun _ => rfl

/-! ### All passes -/

theorem redact_eq (cs : List Char) :
    redact cs = replaceAll bareKey (replaceAll assignment (cleared cs)) := rfl

theorem KeyStays.hides {begun : List Char} {left : List Char → List Char}
    (h : KeyStays cs begun left) : Hides cs := by
  have hbare := h.eq [] isDense_nil
  simp only [h.nil, List.append_nil] at hbare
  left
  rw [hbare]
  exact List.suffix_append begun key

/-- Where the key stays, the redacted text is the same for all values. -/
theorem KeyStays.redact_eq {begun : List Char} {left : List Char → List Char}
    (h : KeyStays cs begun left) {v w : List Char} (hv : IsWord v) (hw : IsWord w) :
    redact (cs ++ (key ++ v)) = redact (cs ++ (key ++ w)) := by
  obtain ⟨front, hpass⟩ := assignment_key begun
  have hall : ∀ value, IsWord value →
      redact (cs ++ (key ++ value)) = replaceAll bareKey (front ++ mark) := by
    intro value hvalue
    rw [Redaction.redact_eq, h.eq value hvalue.not_blank, hpass _ (h.word value hvalue)]
  rw [hall v hv, hall w hw]

/-- Where the key goes, the redacted text is the same for all values just when an earlier
assignment hides what is left of them. -/
theorem KeyGoes.redact_eq_iff {begun : List Char} {left : List Char → List Char}
    (h : KeyGoes cs begun left) :
    (∀ v w, IsWord v → IsWord w → redact (cs ++ (key ++ v)) = redact (cs ++ (key ++ w))) ↔
      Hides cs := by
  have hx : IsWord ['x'] := ⟨by simp, isDense_of_all (by decide)⟩
  have hxy : IsWord ['x', ',', 'y'] := ⟨by simp, isDense_of_all (by decide)⟩
  have hbare := h.eq [] isDense_nil
  simp only [h.nil, List.append_nil] at hbare
  have hno : ¬ key <:+ begun ++ mark := by
    intro hkey
    have heq : ['='] <:+ begun ++ mark := (List.suffix_append "TOKEN".toList ['=']).trans hkey
    have hbracket : [']'] <:+ begun ++ mark :=
      (List.suffix_append "[REDACTED".toList [']']).trans (List.suffix_append begun mark)
    exact absurd (List.suffix_of_suffix_length_le heq hbracket le_rfl) (by decide)
  rw [Hides, hbare, or_iff_right hno, List.append_assoc]
  rcases assignment_mark begun with ⟨front, hpass⟩ | ⟨front, hpass⟩
  · have hnil : replaceAll assignment (begun ++ mark) = front ++ mark := by
      simpa using hpass [] isDense_nil
    have hall : ∀ value, IsWord value →
        redact (cs ++ (key ++ value)) = replaceAll bareKey (front ++ mark) := by
      intro value hvalue
      rw [redact_eq, h.eq value hvalue.not_blank, hpass _ (h.dense value hvalue.not_blank)]
    refine iff_of_true (fun v w hv hw => ?_) ?_
    · rw [hall v hv, hall w hw]
    · rw [hpass ['x'] hx.not_blank, hnil]
  · have hnil : replaceAll assignment (begun ++ mark) =
        front ++ (mark ++ replaceAll assignment []) := by
      simpa using hpass [] isDense_nil
    refine iff_of_false (fun hsame => ?_) (fun hsame => ?_)
    · obtain ⟨final, hlast⟩ := bareKey_mark front
      have hall : ∀ value, IsWord value → redact (cs ++ (key ++ value)) =
          final ++ (mark ++ replaceAll bareKey (replaceAll assignment (left value))) := by
        intro value hvalue
        have hdense := h.dense value hvalue.not_blank
        rw [redact_eq, h.eq value hvalue.not_blank, hpass _ hdense,
          hlast _ (hdense.replaceAll assignmentReading.sound)]
      have hshown := hsame ['x'] ['x', ',', 'y'] hx hxy
      rw [hall _ hx, hall _ hxy] at hshown
      exact h.shows (List.append_cancel_left (List.append_cancel_left hshown))
    · rw [hpass ['x'] hx.not_blank, hnil] at hsame
      have hx : replaceAll assignment ['x'] = replaceAll assignment [] :=
        List.append_cancel_left (List.append_cancel_left hsame)
      exact absurd hx (by decide +kernel)

/-- A text in which no header and no bearer token is introduced hides the value of the key. -/
theorem hides_of_afterWord
    (hheader : ∀ j < cs.length, afterWord "authorization:".toList (cs.drop j) = none)
    (hbearer : ∀ j < cs.length, afterWord "bearer".toList (cs.drop j) = none) : Hides cs := by
  have hkey : Behind key key := ⟨[], rfl, isDense_nil⟩
  have hfirst : replaceAll authorization (cs ++ key) = cs ++ replaceAll authorization key :=
    replaceAll_append_of_none key fun j hj =>
      authorization_of_none (afterWord_behind hkey (by decide) (hheader j hj))
  have hsecond : replaceAll bearer (cs ++ key) = cs ++ replaceAll bearer key :=
    replaceAll_append_of_none key fun j hj =>
      bearer_of_none (afterWord_behind hkey (by decide) (hbearer j hj))
  have hsame : replaceAll authorization key = key ∧ replaceAll bearer key = key := by
    decide +kernel
  left
  rw [cleared, hfirst, hsame.1, hsecond, hsame.2]
  exact List.suffix_append cs key

/-- The redacted text is the same for all values of a key just when the text before the key hides
them. -/
theorem redact_eq_iff (cs : List Char) :
    (∀ v w, IsWord v → IsWord w → redact (cs ++ (key ++ v)) = redact (cs ++ (key ++ w))) ↔
      Hides cs := by
  rcases keyStays_or_keyGoes cs with ⟨begun, left, h⟩ | ⟨begun, left, h⟩
  · exact iff_of_true (fun v w hv hw => h.redact_eq hv hw) h.hides
  · exact h.redact_eq_iff

end McpConsole.Text.Redaction

namespace McpConsole.Text

open Redaction in
/-- **The value of a secret does not show** in the redacted text, whatever it is, just when the
text before it hides it. -/
theorem redacted_eq_iff (p : String) :
    (∀ v w : String, IsWord v.toList → IsWord w.toList →
      redacted (p ++ "TOKEN=" ++ v) = redacted (p ++ "TOKEN=" ++ w)) ↔ Hides p.toList := by
  rw [← redact_eq_iff]
  have htext : ∀ v : String,
      redacted (p ++ "TOKEN=" ++ v) = String.ofList (redact (p.toList ++ (key ++ v.toList))) := by
    intro v
    rw [redacted, String.toList_append, String.toList_append, List.append_assoc]
    rfl
  constructor
  · intro h v w hv hw
    have hsame := h (String.ofList v) (String.ofList w) (by simpa using hv) (by simpa using hw)
    rw [htext, htext, String.toList_ofList, String.toList_ofList] at hsame
    exact String.ofList_injective hsame
  · intro h v w hv hw
    rw [htext v, htext w, h v.toList w.toList hv hw]

open Redaction in
example : ¬ Hides "Bearer ".toList := by decide +kernel

open Redaction in
/-- A bearer token reaches over the name of the setting and ends with its equals sign. What stands
behind it is in no assignment any more. -/
theorem secret_shows : IsWord "hunter2".toList ∧ IsWord "=".toList ∧
    redacted ("Bearer " ++ "TOKEN=" ++ "hunter2") = "Bearer [REDACTED]hunter2" ∧
      redacted ("Bearer " ++ "TOKEN=" ++ "=") = "Bearer [REDACTED]" :=
  ⟨⟨by decide, isDense_of_all (by decide)⟩, ⟨by decide, isDense_of_all (by decide)⟩,
    by decide +kernel, by decide +kernel⟩

end McpConsole.Text
