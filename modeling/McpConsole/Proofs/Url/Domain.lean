import McpConsole.Proofs.Url.Percent
import McpConsole.Url.Host

/-!
# Blanks in domain names

A text that ends with a blank or a control character names no host (`specialHost_of_low`). Nothing
that happens to a domain name takes such a character away. It is not replaced
(`Idna.replacement?_of_low`), no other character is composed with it (`Normal.mem_compose`), and a
label that is written in Punycode keeps its ASCII characters (`Punycode.mem_encode`), so that it is
found in the end and the name is refused (`Idna.toAscii?_of_low`).
-/

namespace McpConsole

/-- Blanks and control characters, up to the blank in ASCII. -/
def Url.IsLow (c : Char) : Prop :=
  c.toNat ≤ 0x20

instance (c : Char) : Decidable (Url.IsLow c) :=
  inferInstanceAs (Decidable (_ ≤ _))

namespace Text.Normal

variable {c d x : Char} {cs : List Char}

open Url (IsLow)

/-! ### The composed form -/

/-- No character is composed with a low one. -/
theorem lt_of_mem_pairs : ∀ entry ∈ pairs, 0x20 < entry.2.1 ∧ 0x20 < entry.2.2 := by
  decide +kernel

theorem join?_of_low (h : IsLow c ∨ IsLow d) : join? c d = none := by
  have hn : c.toNat ≤ 0x20 ∨ d.toNat ≤ 0x20 := h
  have hlead : ¬(leadBase ≤ c.toNat ∧ c.toNat < leadBase + 19 ∧ vowelBase ≤ d.toNat ∧
      d.toNat < vowelBase + 21) := by
    simp only [leadBase, vowelBase]
    omega
  have hsyllable : ¬(isSyllable c.toNat ∧ (c.toNat - syllableBase) % 28 = 0 ∧
      trailBase < d.toNat ∧ d.toNat < trailBase + 28) := by
    simp only [trailBase]
    rintro ⟨hs, -, ht, -⟩
    have hc : 0xAC00 ≤ c.toNat := by
      rw [isSyllable, Bool.and_eq_true, decide_eq_true_eq] at hs
      exact hs.1
    omega
  unfold join?
  dsimp only
  rw [if_neg hlead, if_neg hsyllable, Option.map_eq_none_iff, List.find?_eq_none]
  intro entry hm
  have he := lt_of_mem_pairs entry hm
  simp only [Bool.and_eq_true, beq_iff_eq]
  omega

theorem parts_of_low (h : IsLow c) (depth : Nat) : parts depth c = [c] := by
  have hn : c.toNat < 0xC0 := Nat.lt_of_le_of_lt h (by decide)
  cases depth with
  | zero => rfl
  | succ depth =>
    rw [parts]
    exact if_pos hn

theorem mem_place : x ∈ place c cs ↔ x = c ∨ x ∈ cs := by
  induction cs with
  | nil => simp [place]
  | cons d ds ih =>
    rw [place]
    split
    · rw [List.mem_cons, ih, List.mem_cons]
      exact or_left_comm
    · simp

theorem mem_decompose (h : IsLow c) (hm : c ∈ cs) : c ∈ decompose cs := by
  have placed (later done : List Char) (hl : c ∈ later ∨ c ∈ done) :
      c ∈ later.foldl (fun done c => place c done) done := by
    induction later generalizing done with
    | nil => simpa using hl
    | cons d later ih =>
      apply ih
      rw [mem_place]
      simpa [or_assoc, or_left_comm] using hl
  rw [decompose, List.mem_reverse]
  apply placed
  have hp : c ∈ parts 4 c := by simp [parts_of_low h]
  exact .inl (List.mem_flatMap.2 ⟨c, hm, hp⟩)

/-- All the characters of a draft. -/
def Draft.chars (draft : Draft) : List Char :=
  draft.marks ++ draft.base.toList ++ draft.done

theorem Draft.mem_chars {draft : Draft} :
    x ∈ draft.chars ↔ x ∈ draft.marks ∨ draft.base = some x ∨ x ∈ draft.done := by
  simp [Draft.chars]

/-- A low character goes into a draft, and does not leave it. -/
theorem mem_push {draft : Draft} (h : IsLow x) (hx : x ∈ draft.chars ∨ x = c) :
    x ∈ (draft.push c).chars := by
  obtain ⟨done, base, marks⟩ := draft
  rw [Draft.mem_chars] at hx ⊢
  cases base with
  | none =>
    simp only [Draft.push]
    split <;> grind
  | some base =>
    simp only [Draft.push]
    split
    · -- what takes something up, and what is taken up, is not low
      rename_i joined hj
      have hfree : join? base c = some joined := (Option.ite_none_right_eq_some.1 hj).2
      have hbase : x ≠ base := by
        rintro rfl
        simp [join?_of_low (.inl h)] at hfree
      have hc : x ≠ c := by
        rintro rfl
        simp [join?_of_low (.inr h)] at hfree
      grind
    · split <;> grind

theorem mem_foldl_push (h : IsLow x) {draft : Draft} (hx : x ∈ draft.chars ∨ x ∈ cs) :
    x ∈ (cs.foldl Draft.push draft).chars := by
  induction cs generalizing draft with
  | nil => simpa using hx
  | cons c cs ih =>
    apply ih
    rw [List.mem_cons] at hx
    rcases hx with hx | rfl | hx
    · exact .inl (mem_push h (.inl hx))
    · exact .inl (mem_push h (.inr rfl))
    · exact .inr hx

/-- **Composing a text leaves its low characters.** -/
theorem mem_compose (h : IsLow c) (hm : c ∈ cs) : c ∈ compose cs := by
  unfold compose
  split
  · exact hm
  · have hd : c ∈ ((decompose cs).foldl Draft.push ⟨[], none, []⟩).chars := by
      apply mem_foldl_push h
      exact .inr (mem_decompose h hm)
    rw [List.mem_reverse]
    exact hd

end Text.Normal

namespace Url

variable {c d : Char} {cs : List Char}

theorem IsLow.ne (h : IsLow c) (hd : 0x20 < d.toNat) : c ≠ d := by
  rintro rfl
  exact absurd h (Nat.not_le_of_lt hd)

theorem IsLow.lt (h : IsLow c) : c.toNat < 0x80 :=
  Nat.lt_of_le_of_lt h (by decide)

/-- What each of the low characters has, a low character has. -/
theorem IsLow.of_forall {p : Char → Prop} (h : IsLow c) (hp : ∀ n < 0x21, p (Char.ofNat n)) :
    p c := by
  have hc := hp c.toNat (Nat.lt_succ_of_le h)
  rwa [Char.ofNat_toNat] at hc

/-! ### Domain names -/

/-- **A label in Punycode keeps its ASCII characters.** -/
theorem Punycode.mem_encode (hm : c ∈ cs) (h : c.toNat < firstCode) : c ∈ encode cs := by
  have hf : c ∈ cs.filter fun c => c.toNat < firstCode := List.mem_filter.2 ⟨hm, by simpa using h⟩
  unfold encode
  exact List.mem_append_left _ (List.mem_append_left _ hf)

namespace Idna

/-- No low character is replaced. -/
theorem lt_of_mem_runs : ∀ run ∈ runs, 0x20 < run.1 := by
  decide +kernel

theorem replacement?_of_low (h : IsLow c) : replacement? c = some [c] := by
  have hn : c.toNat ≤ 0x20 := h
  have hr : (runs.find? fun run => run.1 ≤ c.toNat && c.toNat ≤ run.2.1 &&
      (c.toNat - run.1) % run.2.2.1 == 0) = none := by
    rw [List.find?_eq_none]
    intro run hm
    have hlt := lt_of_mem_runs run hm
    simp only [Bool.and_eq_true, decide_eq_true_eq]
    omega
  unfold replacement?
  dsimp only
  rw [hr]
  exact if_pos h.lt

/-- What is done with a part of a list is found in the result. -/
theorem exists_of_mapM {α β : Type} {f : α → Option β} {a : α} {as : List α} {bs : List β}
    (h : as.mapM f = some bs) (ha : a ∈ as) : ∃ b ∈ bs, f a = some b := by
  induction as generalizing bs with
  | nil => cases ha
  | cons x as ih =>
    rw [List.mapM_cons] at h
    obtain ⟨b, hb, h⟩ := Option.bind_eq_some_iff.1 h
    obtain ⟨rest, hrest, h⟩ := Option.bind_eq_some_iff.1 h
    cases h
    rcases List.mem_cons.1 ha with rfl | ha
    · exact ⟨b, List.mem_cons_self, hb⟩
    · obtain ⟨b', hm, hb'⟩ := ih hrest ha
      exact ⟨b', List.mem_cons_of_mem b hm, hb'⟩

theorem mem_mapped {name : List Char} (h : IsLow c) (hm : c ∈ cs) (hn : mapped? cs = some name) :
    c ∈ name := by
  obtain ⟨pieces, hp, rfl⟩ := Option.map_eq_some_iff.1 hn
  obtain ⟨piece, hmem, hc⟩ := exists_of_mapM hp hm
  rw [replacement?_of_low h] at hc
  cases hc
  exact Text.Normal.mem_compose h (List.mem_flatten.2 ⟨[c], hmem, List.mem_singleton_self c⟩)

/-- Every character of a name but the points is in a label. -/
theorem exists_mem_labelsFrom (hp : c ≠ '.') {label : List Char} (hm : c ∈ label ∨ c ∈ cs) :
    ∃ part ∈ labelsFrom label cs, c ∈ part := by
  induction cs generalizing label with
  | nil => exact ⟨label, List.mem_singleton_self label, by simpa using hm⟩
  | cons d cs ih =>
    rw [List.mem_cons] at hm
    rw [labelsFrom]
    split
    · rename_i hd
      rcases hm with hm | rfl | hm
      · exact ⟨label, List.mem_cons_self, hm⟩
      · exact absurd hd hp
      · obtain ⟨part, hpart, hc⟩ : ∃ part ∈ labelsFrom [] cs, c ∈ part := ih (.inr hm)
        exact ⟨part, List.mem_cons_of_mem label hpart, hc⟩
    · apply ih
      rcases hm with hm | rfl | hm
      · exact .inl (List.mem_append_left _ hm)
      · exact .inl (List.mem_append_right _ (List.mem_singleton_self c))
      · exact .inr hm

/-- However a label is written, its low characters stay. -/
theorem Label.mem_ascii {label : List Char} {known : Label} (h : IsLow c) (hm : c ∈ label)
    (hl : Label.of? label = some known) : c ∈ known.ascii := by
  unfold Label.of? at hl
  split at hl
  · split at hl
    · cases hl
    · split at hl
      · cases hl
      · cases hl
        exact hm
  · split at hl
    · cases hl
      exact hm
    · split at hl
      · cases hl
        exact List.mem_append_right _ (Punycode.mem_encode hm h.lt)
      · cases hl

theorem mem_intercalate {sep : List Char} {parts : List (List Char)} {part : List Char}
    (hp : part ∈ parts) (hm : c ∈ part) : c ∈ List.intercalate sep parts := by
  have hpart : part ∈ List.intersperse sep parts := by
    induction parts using List.intersperse.induct with
    | case1 => cases hp
    | case2 => simpa using hp
    | case3 first rest hne ih =>
      cases rest with
      | nil => exact absurd rfl hne
      | cons second rest =>
        rw [List.intersperse_cons_cons]
        rcases List.mem_cons.1 hp with rfl | hp
        · exact List.mem_cons_self
        · exact List.mem_cons_of_mem _ (List.mem_cons_of_mem _ (ih hp))
  exact List.mem_flatten.2 ⟨part, hpart, hm⟩

/-- **A name with a blank has no ASCII form.** -/
theorem toAscii?_of_low (h : IsLow c) (hm : c ∈ cs) : toAscii? cs = none := by
  cases hn : mapped? cs with
  | none => simp [toAscii?, hn]
  | some name =>
    cases ha : (labels name).mapM Label.of? with
    | none => simp [toAscii?, hn, ha]
    | some all =>
      have hpoint : c ≠ '.' := h.ne (by decide)
      obtain ⟨part, hpart, hc⟩ := exists_mem_labelsFrom hpoint (.inr (mem_mapped h hm hn))
      obtain ⟨known, hk, hl⟩ := exists_of_mapM ha hpart
      have hmem : c ∈ List.intercalate ['.'] (all.map (·.ascii)) :=
        mem_intercalate (List.mem_map_of_mem hk) (Label.mem_ascii h hc hl)
      have hforbidden : (List.intercalate ['.'] (all.map (·.ascii))).any isForbidden = true := by
        refine List.any_eq_true.2 ⟨c, hmem, ?_⟩
        have hn : c.toNat ≤ 0x20 := h
        simp [isForbidden, hn]
      simp only [toAscii?, hn, ha, bind, Option.bind, hforbidden, Bool.true_or, if_true]

end Idna

/-! ### Hosts -/

/-- An octet below `0x80` is a character by itself. -/
theorem eq_of_mem_utf8EncodeChar (hd : d.toNat < 0x80)
    (h : UInt8.ofNat d.toNat ∈ String.utf8EncodeChar c) : c = d := by
  have octet {n : Nat} (hn : 0x80 ≤ n % 256) : UInt8.ofNat d.toNat ≠ UInt8.ofNat n := by
    intro he
    have ht := congrArg UInt8.toNat he
    simp only [UInt8.toNat_ofNat'] at ht
    omega
  unfold String.utf8EncodeChar at h
  dsimp only at h
  split at h
  · rename_i hc
    have ht := congrArg UInt8.toNat (List.mem_singleton.1 h)
    simp only [UInt8.toNat_ofNat'] at ht
    have hn : c.toNat = d.toNat := by
      have hv : c.val.toNat = c.toNat := rfl
      omega
    rw [← Char.ofNat_toNat c, hn, Char.ofNat_toNat]
  · -- the first octet of several is at least `0xC0`, and the others are at least `0x80`
    have hmem := h
    repeat' split at hmem
    all_goals
      simp only [List.mem_cons, List.not_mem_nil, or_false] at hmem
      grind

/-- A low character is one octet, and not a digit. -/
theorem octet_of_low (h : IsLow c) :
    hexValue? c = none ∧ String.utf8EncodeChar c = [UInt8.ofNat c.toNat] := by
  apply h.of_forall
  decide

/-- A text with a low character at its end is decoded to a text with it. -/
theorem mem_of_textOfOctets? {front : List Char} {name : String} (h : IsLow d)
    (hn : textOfOctets? (decode (front ++ [d])) = some name) : d ∈ name.toList := by
  have hp : d ≠ '%' := h.ne (by decide)
  obtain ⟨hx, hd⟩ := octet_of_low h
  have ho := eq_utf8_of_textOfOctets? hn
  rw [decode_append_cons hp hx, hd] at ho
  have hm : UInt8.ofNat d.toNat ∈ name.toList.flatMap String.utf8EncodeChar := by simp [← ho]
  obtain ⟨c, hc, hoctet⟩ := List.mem_flatMap.1 hm
  rwa [← eq_of_mem_utf8EncodeChar h.lt hoctet]

theorem bracketed?_of_low (front : List Char) (h : IsLow d) :
    bracketed? (front ++ [d]) = none ∨ bracketed? (front ++ [d]) = some (.error .invalidIpv6) := by
  have hd : d ≠ ']' := h.ne (by decide)
  unfold bracketed?
  split
  · right
    simp [hd]
  · exact .inl rfl

/-- **A text with a blank or a control character at its end names no host.** -/
theorem specialHost_of_low (front : List Char) (h : IsLow d) :
    ∃ cause, specialHost (front ++ [d]) = .error cause := by
  unfold specialHost
  rcases bracketed?_of_low front h with hb | hb
  · rw [hb, Option.getD_none]
    have hnone : ((textOfOctets? (decode (front ++ [d]))).bind fun name =>
        Idna.toAscii? name.toList) = none := by
      rw [Option.bind_eq_none_iff]
      intro name hn
      exact Idna.toAscii?_of_low h (mem_of_textOfOctets? h hn)
    rw [hnone]
    exact ⟨.invalidDomain, rfl⟩
  · rw [hb]
    exact ⟨.invalidIpv6, rfl⟩

end Url

end McpConsole
