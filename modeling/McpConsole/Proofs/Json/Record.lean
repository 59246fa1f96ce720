import Mathlib.Data.List.Nodup
import McpConsole.Json.Decode
import McpConsole.Json.Printer

/-!
# Records as text and back

A record is an object whose members are strings or null, which is all that the program writes of a
server, of its details and of a profile. A record is read back from both of its texts
(`read?_compact_record`, `read?_indented_record`): they are the same members with different blanks
between the parts (`laidOut`), and the reader passes over blanks. A record whose keys are distinct
has the fields that it was made of (`fields?_record`), also if those that are null are left out
(`fields?_present`).
-/

namespace McpConsole.Json

/-! ### Records -/

/-- A string or nothing, as a part of a text. -/
def Node.ofOption : Option String → Node
  | none => .null
  | some s => .string (some s)

/-- The object with these strings for its members, and null where there is none. -/
def Value.record (fields : List (String × Option String)) : Value :=
  .object (fields.map fun field => (field.1, .ofOption field.2))

/-- The text of a record, read. -/
def Node.record (fields : List (String × Option String)) : Node :=
  .object (fields.map fun field => (some field.1, .ofOption field.2))

namespace Reader

theorem run_cons (state : State) (c : Char) (cs : List Char) :
    run state (c :: cs) = (step state c).bind fun next => run next cs := rfl

/-! ### Blanks -/

/-- The reader stays as it is at blanks. -/
def State.Skips (state : State) : Prop :=
  ∀ c, isSpace c = true → step state c = some state

theorem State.Skips.run {state : State} (h : state.Skips) {gap : List Char}
    (hgap : ∀ c ∈ gap, isSpace c = true) (rest : List Char) :
    Reader.run state (gap ++ rest) = Reader.run state rest := by
  induction gap with
  | nil => rfl
  | cons c gap ih =>
    have hc : step state c = some state := h c (hgap c List.mem_cons_self)
    rw [List.cons_append, run_cons, hc, Option.bind_some,
      ih fun d hd => hgap d (List.mem_cons_of_mem c hd)]

theorem skips_value (frames : List Frame) : State.Skips ⟨.value, frames⟩ := by
  intro c hc
  simp only [step, beginValue, hc, if_true]

theorem skips_member (frames : List Frame) : State.Skips ⟨.member, frames⟩ := by
  intro c hc
  simp only [step, hc, if_true]

theorem skips_key (frames : List Frame) : State.Skips ⟨.key, frames⟩ := by
  intro c hc
  simp only [step, hc, if_true]

theorem skips_after (node : Node) (frames : List Frame) : State.Skips ⟨.after node, frames⟩ := by
  intro c hc
  simp only [step, stepAfter, hc, if_true]

theorem isSpace_indent (depth : Nat) : ∀ c ∈ indent depth, isSpace c = true := by
  intro c hc
  rcases List.mem_cons.1 hc with rfl | hc
  · decide
  · rw [(List.mem_replicate.1 hc).2]
    decide

/-! ### Strings -/

theorem hexValue?_hexDigit : ∀ n < 16, hexValue? (hexDigit n) = some n := by decide

/-- The code unit of a control character is below the surrogates, so that it stands for the
character itself. -/
theorem unit_of_lt {c : Char} (h : c.toNat < 0x20) (text : Text) :
    text.unit none c.toNat = (text.push c, .none) := by
  have hhigh : isHigh c.toNat = false := by
    simp only [isHigh, Bool.and_eq_false_iff, decide_eq_false_iff_not]
    omega
  have hlow : isLow c.toNat = false := by
    simp only [isLow, Bool.and_eq_false_iff, decide_eq_false_iff_not]
    omega
  simp [Text.unit, hhigh, hlow, Char.ofNat_toNat]

/-- **A character is read back from the way it is written.** -/
theorem run_escapeChar (c : Char) (isKey : Bool) (before : List Char) (frames : List Frame)
    (rest : List Char) :
    run ⟨.string isKey ⟨before, false⟩ .none, frames⟩ (escapeChar c ++ rest) =
      run ⟨.string isKey ⟨c :: before, false⟩ .none, frames⟩ rest := by
  unfold escapeChar
  split_ifs with hquote hslash hb hf hn hr ht hcontrol
  · subst hquote; rfl
  · subst hslash; rfl
  · subst hb; rfl
  · subst hf; rfl
  · subst hn; rfl
  · subst hr; rfl
  · subst ht; rfl
  · have hhigh := hexValue?_hexDigit (c.toNat / 16) (by omega)
    have hlow := hexValue?_hexDigit (c.toNat % 16) (by omega)
    have hzero : hexValue? '0' = some 0 := by decide
    have hvalue : 16 * (c.toNat / 16) + c.toNat % 16 = c.toNat := Nat.div_add_mod ..
    simp [run_cons, step, stepString, hhigh, hlow, hzero, hvalue, unit_of_lt hcontrol, Text.push]
  · simp [run_cons, step, stepString, hquote, hslash, hcontrol, Text.push]

theorem run_escaped (cs : List Char) (isKey : Bool) (before : List Char) (frames : List Frame)
    (rest : List Char) :
    run ⟨.string isKey ⟨before, false⟩ .none, frames⟩ (cs.flatMap escapeChar ++ rest) =
      run ⟨.string isKey ⟨cs.reverse ++ before, false⟩ .none, frames⟩ rest := by
  induction cs generalizing before with
  | nil => rfl
  | cons c cs ih =>
    rw [List.flatMap_cons, List.append_assoc, run_escapeChar, ih, List.reverse_cons,
      List.append_assoc, List.singleton_append]

/-- The rest of a string with its quote. -/
theorem run_string (s : String) (isKey : Bool) (frames : List Frame) (rest : List Char) :
    run ⟨.string isKey ⟨[], false⟩ .none, frames⟩ (s.toList.flatMap escapeChar ++ '"' :: rest) =
      run (closeString isKey ⟨s.toList.reverse, false⟩ frames) rest := by
  rw [run_escaped, List.append_nil]
  rfl

theorem content_reverse (s : String) : Text.content ⟨s.toList.reverse, false⟩ = some s := by
  simp [Text.content]

/-! ### Members -/

/-- **A string or null is read back.** -/
theorem run_ofOption (value : Option String) (frames : List Frame) (rest : List Char) :
    run ⟨.value, frames⟩ ((Value.ofOption value).compact ++ rest) =
      run (deliver (.ofOption value) frames) rest := by
  cases value with
  | none => rfl
  | some s =>
    have hquote : (Value.ofOption (some s)).compact ++ rest =
        '"' :: (s.toList.flatMap escapeChar ++ '"' :: rest) := by
      simp [Value.ofOption, Value.compact, quoted]
    have hbegin : step ⟨.value, frames⟩ '"' = some ⟨.string false ⟨[], false⟩ .none, frames⟩ := rfl
    rw [hquote, run_cons, hbegin, Option.bind_some, run_string, closeString, content_reverse]
    rfl

/-- A member with blanks before it and behind its colon. -/
def member (gap space : List Char) (field : String × Option String) : List Char :=
  gap ++ (quoted field.1 ++ ':' :: (space ++ (Value.ofOption field.2).compact))

/-- Members with commas between them, each with the same blanks. -/
def laidOut (gap space : List Char) : List (String × Option String) → List Char
  | [] => []
  | [field] => member gap space field
  | field :: fields => member gap space field ++ ',' :: laidOut gap space fields

/-- A state in which a key can begin. -/
def AwaitsKey (state : State) (frames : List Frame) : Prop :=
  state = ⟨.member, frames⟩ ∨ state = ⟨.key, frames⟩

theorem AwaitsKey.skips {state : State} {frames : List Frame} (h : AwaitsKey state frames) :
    state.Skips := by
  rcases h with rfl | rfl
  · exact skips_member frames
  · exact skips_key frames

theorem AwaitsKey.step_quote {state : State} {frames : List Frame} (h : AwaitsKey state frames) :
    step state '"' = some ⟨.string true ⟨[], false⟩ .none, frames⟩ := by
  rcases h with rfl | rfl
  · rfl
  · rfl

section Members

variable {gap space : List Char} (hgap : ∀ c ∈ gap, isSpace c = true)
  (hspace : ∀ c ∈ space, isSpace c = true)

include hgap hspace

theorem run_member {state : State} {before : List (Option String × Node)} {key : Option String}
    {frames : List Frame} (h : AwaitsKey state (.object before key :: frames))
    (field : String × Option String) (rest : List Char) :
    run state (member gap space field ++ rest) =
      run ⟨.after (.ofOption field.2),
        .object ((some field.1, .ofOption field.2) :: before) (some field.1) :: frames⟩ rest := by
  have htext : member gap space field ++ rest = gap ++ '"' ::
      (field.1.toList.flatMap escapeChar ++ '"' :: ':' ::
        (space ++ ((Value.ofOption field.2).compact ++ rest))) := by
    simp [member, quoted]
  have hcolon : ∀ text, run ⟨.colon (some field.1), .object before key :: frames⟩ (':' :: text) =
      run ⟨.value, .object before (some field.1) :: frames⟩ text := fun _ => rfl
  rw [htext, h.skips.run hgap, run_cons, h.step_quote, Option.bind_some, run_string, closeString,
    content_reverse, if_pos rfl, hcolon, (skips_value _).run hspace, run_ofOption]
  rfl

/-- **Members are read back**, and the object ends behind them. -/
theorem run_laidOut {state : State} {before : List (Option String × Node)} {key : Option String}
    {frames : List Frame} (h : AwaitsKey state (.object before key :: frames))
    (fields : List (String × Option String)) (hne : fields ≠ []) {last : List Char}
    (hlast : ∀ c ∈ last, isSpace c = true) (rest : List Char) :
    run state (laidOut gap space fields ++ (last ++ '}' :: rest)) =
      run (deliver (.object (before.reverse ++
        fields.map fun field => (some field.1, .ofOption field.2))) frames) rest := by
  induction fields generalizing state before key with
  | nil => exact absurd rfl hne
  | cons field fields ih =>
    cases fields with
    | nil =>
      have hclose : ∀ before : List (Option String × Node), ∀ node key,
          run ⟨.after node, .object before key :: frames⟩ ('}' :: rest) =
            run (deliver (.object before.reverse) frames) rest := fun _ _ _ => rfl
      rw [laidOut, run_member hgap hspace h, (skips_after _ _).run hlast, hclose]
      simp
    | cons next fields =>
      have hcomma : ∀ before : List (Option String × Node), ∀ node key text,
          run ⟨.after node, .object before key :: frames⟩ (',' :: text) =
            run ⟨.key, .object before key :: frames⟩ text := fun _ _ _ _ => rfl
      rw [laidOut, List.append_assoc, run_member hgap hspace h, List.cons_append, hcomma,
        ih (.inr rfl) (List.cons_ne_nil _ _)]
      · simp
      · exact fun h => nomatch h

end Members

end Reader

/-! ### Texts -/

theorem compactMembers_eq (fields : List (String × Option String)) :
    compactMembers (fields.map fun field => (field.1, .ofOption field.2)) =
      Reader.laidOut [] [] fields := by
  induction fields with
  | nil => rfl
  | cons field fields ih =>
    cases fields with
    | nil => rfl
    | cons next fields =>
      rw [List.map_cons] at ih
      simp only [List.map_cons, compactMembers, ih, Reader.laidOut, Reader.member, List.nil_append,
        List.append_assoc, List.cons_append]

theorem indented_ofOption (depth : Nat) (value : Option String) :
    (Value.ofOption value).indented depth = (Value.ofOption value).compact := by
  cases value with
  | none => rw [Value.ofOption, Value.indented, Value.compact]
  | some s => rw [Value.ofOption, Value.indented, Value.compact]

theorem indentedMembers_eq (depth : Nat) (fields : List (String × Option String)) :
    indentedMembers depth (fields.map fun field => (field.1, .ofOption field.2)) =
      Reader.laidOut (indent depth) [' '] fields := by
  induction fields with
  | nil => rfl
  | cons field fields ih =>
    cases fields with
    | nil =>
      simp only [List.map_cons, List.map_nil, indentedMembers, indented_ofOption, Reader.laidOut,
        Reader.member, List.nil_append, List.append_assoc, List.cons_append]
    | cons next fields =>
      rw [List.map_cons] at ih
      simp only [List.map_cons, indentedMembers, ih, indented_ofOption, Reader.laidOut,
        Reader.member, List.nil_append, List.append_assoc, List.cons_append]

theorem read?_laidOut {gap space last : List Char} (hgap : ∀ c ∈ gap, Reader.isSpace c = true)
    (hspace : ∀ c ∈ space, Reader.isSpace c = true) (hlast : ∀ c ∈ last, Reader.isSpace c = true)
    {fields : List (String × Option String)} (hne : fields ≠ []) :
    read? ('{' :: (Reader.laidOut gap space fields ++ (last ++ ['}']))) =
      some (.record fields) := by
  have hbegin : ∀ text, Reader.run ⟨.value, []⟩ ('{' :: text) =
      Reader.run ⟨.member, [.object [] none]⟩ text := fun _ => rfl
  rw [read?, hbegin, Reader.run_laidOut hgap hspace (.inl rfl) fields hne hlast]
  rfl

/-- **A record is read back from its compact text.** -/
theorem read?_compact_record (fields : List (String × Option String)) :
    read? (Value.record fields).compact = some (.record fields) := by
  by_cases hne : fields = []
  · subst hne
    rfl
  · have hnil : ∀ c ∈ ([] : List Char), Reader.isSpace c = true := List.forall_mem_nil _
    rw [Value.record, Value.compact, compactMembers_eq]
    exact read?_laidOut hnil hnil hnil hne

/-- **A record is read back from its indented text.** -/
theorem read?_indented_record (depth : Nat) (fields : List (String × Option String)) :
    read? ((Value.record fields).indented depth) = some (.record fields) := by
  cases fields with
  | nil => rfl
  | cons field fields =>
    have hspace : ∀ c ∈ [' '], Reader.isSpace c = true := List.forall_mem_singleton.2 rfl
    have hread := read?_laidOut (Reader.isSpace_indent (depth + 1)) hspace
      (Reader.isSpace_indent depth) (List.cons_ne_nil field fields)
    rw [← indentedMembers_eq, List.map_cons] at hread
    rw [Value.record, List.map_cons, Value.indented, List.cons_append, List.cons_append,
      List.append_assoc]
    · exact hread
    · exact fun h => nomatch h

/-! ### Fields -/

/-- A key that is there once is found once. -/
theorem filter_key {α : Type} {members : List (String × α)} (h : (members.map Prod.fst).Nodup)
    (name : String) :
    members.filter (fun member => member.1 == name) =
      ((members.lookup name).map fun value => (name, value)).toList := by
  induction members with
  | nil => rfl
  | cons member members ih =>
    obtain ⟨key, value⟩ := member
    obtain ⟨hkey, hrest⟩ := List.nodup_cons.1 h
    by_cases he : key = name
    · subst he
      have hnone : members.filter (fun member => member.1 == key) = [] := by
        rw [List.filter_eq_nil_iff]
        intro member hm heq
        exact hkey (List.mem_map.2 ⟨member, hm, by simpa using heq⟩)
      simp [hnone]
    · have he' : (name == key) = false := by simpa using fun h => he h.symm
      simp [List.lookup_cons, he, he', ih hrest]

theorem lookup_ofOption (fields : List (String × Option String)) (name : String) :
    (fields.map fun field => (field.1, Node.ofOption field.2)).lookup name =
      (fields.lookup name).map Node.ofOption := by
  induction fields with
  | nil => rfl
  | cons field fields ih =>
    rw [List.map_cons, List.lookup_cons, List.lookup_cons, ih]
    cases name == field.1 with
    | true => rfl
    | false => rfl

/-- **The fields of a record with distinct keys** are those that it was made of. -/
theorem fields?_record {fields : List (String × Option String)}
    (h : (fields.map Prod.fst).Nodup) (names : List String) :
    (Node.record fields).fields? names =
      some (names.map fun name => (fields.lookup name).map Node.ofOption) := by
  have hmembers : ((fields.map fun field => (some field.1, Node.ofOption field.2)).mapM
      fun member => member.1.map fun key => (key, member.2)) =
        some (fields.map fun field => (field.1, Node.ofOption field.2)) := by
    rw [List.mapM_map]
    exact List.mapM_pure
  have hkeys : ((fields.map fun field => (field.1, Node.ofOption field.2)).map Prod.fst).Nodup := by
    rw [List.map_map]
    exact h
  rw [Node.record, Node.fields?, memberFields?, hmembers, Option.bind_eq_bind, Option.bind_some]
  refine Eq.trans (congrArg (fun field => names.mapM field) (funext fun name => ?_)) List.mapM_pure
  rw [filter_key hkeys, lookup_ofOption]
  cases fields.lookup name with
  | none => rfl
  | some value => rfl

/-! ### Records without what is missing -/

/-- The fields that have a value. -/
def present (fields : List (String × Option String)) : List (String × Option String) :=
  fields.filter fun field => field.2.isSome

theorem nodup_present {fields : List (String × Option String)} (h : (fields.map Prod.fst).Nodup) :
    ((present fields).map Prod.fst).Nodup :=
  h.sublist (List.filter_sublist.map Prod.fst)

theorem lookup_present {fields : List (String × Option String)} (h : (fields.map Prod.fst).Nodup)
    (name : String) : (present fields).lookup name = (fields.lookup name).join.map some := by
  induction fields with
  | nil => rfl
  | cons field fields ih =>
    obtain ⟨key, value⟩ := field
    obtain ⟨hkey, hrest⟩ := List.nodup_cons.1 h
    have hlookup := ih hrest
    unfold present at hlookup ⊢
    cases value with
    | some text =>
      rw [List.filter_cons_of_pos rfl, List.lookup_cons, List.lookup_cons, hlookup]
      cases name == key with
      | true => rfl
      | false => rfl
    | none =>
      rw [List.filter_cons_of_neg (by simp), List.lookup_cons, hlookup]
      by_cases he : name = key
      · have hnone : fields.lookup name = none := by
          rw [List.lookup_eq_none_iff]
          intro member hm
          have hne : name ≠ member.1 := fun h => hkey (List.mem_map.2 ⟨member, hm, h ▸ he⟩)
          simpa using hne
        simp [he ▸ hnone, he]
      · have he' : (name == key) = false := by simpa using he
        rw [he']

/-- **A field is missing or a string** in a record that leaves out what is missing. -/
theorem fields?_present {fields : List (String × Option String)} (h : (fields.map Prod.fst).Nodup)
    (names : List String) :
    (Node.record (present fields)).fields? names =
      some (names.map fun name => (fields.lookup name).join.map fun s => Node.string (some s)) := by
  rw [fields?_record (nodup_present h)]
  refine congrArg some (List.map_congr_left fun name _ => ?_)
  rw [lookup_present h, Option.map_map]
  rfl

/-- A string that may be missing is read back, whether it was left out or written as null. -/
theorem optionalString?_ofOption (value : Option String) :
    optionalString? (some (.ofOption value)) = some value := by
  cases value with
  | none => rfl
  | some s => rfl

theorem optionalString?_string (value : Option String) :
    optionalString? (value.map fun s => Node.string (some s)) = some value := by
  cases value with
  | none => rfl
  | some s => rfl

end McpConsole.Json
