import McpConsole.Url.Percent

/-!
# Percent encoding and decoding

Decoding undoes encoding, for every class of characters that holds the percent sign:
`textOfOctets?_decode_encode`. What is encoded is written in ASCII, and an encoded text that is
encoded for a smaller class stays as it is (`encode_eq_self`).

A character that is neither a percent sign nor a hexadecimal digit parts a text for decoding
(`decode_append_cons`).
-/

namespace McpConsole.Url

/-! ### Octets -/

theorem hexValue?_hexDigit : ∀ n < 16, hexValue? (hexDigit n) = some n := by decide

/-- An octet as it is written stands for itself. -/
theorem decode_encodeOctet (octet : UInt8) (cs : List Char) :
    decode (encodeOctet octet ++ cs) = octet :: decode cs := by
  have hlt : octet.toNat < 256 := octet.toNat_lt
  rw [encodeOctet, List.cons_append, List.cons_append, List.cons_append, List.nil_append, decode,
    hexValue?_hexDigit _ (by omega), hexValue?_hexDigit _ (by omega)]
  dsimp only
  rw [Nat.div_add_mod, UInt8.ofNat_toNat]

theorem decode_flatMap_encodeOctet (octets : List UInt8) (cs : List Char) :
    decode (octets.flatMap encodeOctet ++ cs) = octets ++ decode cs := by
  induction octets with
  | nil => rfl
  | cons octet octets ih =>
    rw [List.flatMap_cons, List.append_assoc, decode_encodeOctet, ih, List.cons_append]

/-! ### Decoding -/

theorem decode_cons {c : Char} (h : c ≠ '%') (cs : List Char) :
    decode (c :: cs) = String.utf8EncodeChar c ++ decode cs := by
  rw [decode]
  intro a b rest he
  cases he
  exact absurd rfl h

/-- A percent sign without two digits after it stands for itself. -/
theorem decode_percent {cs : List Char}
    (h : ∀ a b rest high low, cs = a :: b :: rest → hexValue? a = some high →
      hexValue? b ≠ some low) :
    decode ('%' :: cs) = String.utf8EncodeChar '%' ++ decode cs := by
  match cs, h with
  | [], _ => simp [decode]
  | [_], _ =>
    rw [decode]
    rintro a b rest - ⟨⟩
  | a :: b :: rest, h =>
    rw [decode]
    split
    · rename_i high low ha hb
      exact absurd hb (h a b rest high low rfl ha)
    · rfl

/-- **A character that no escape can have parts a text.** -/
theorem decode_append_cons {c : Char} (hc : c ≠ '%') (hx : hexValue? c = none)
    (before after : List Char) :
    decode (before ++ c :: after) =
      decode before ++ String.utf8EncodeChar c ++ decode after := by
  induction before using decode.induct with
  | case1 => rw [List.nil_append, decode_cons hc, decode, List.nil_append]
  | case2 a b cs high low ha hb ih =>
    rw [List.cons_append, List.cons_append, List.cons_append, decode, ha, hb, decode, ha, hb]
    dsimp only
    rw [ih, List.cons_append, List.cons_append]
  | case3 a b cs hn ih =>
    have hd (rest : List Char) : ∀ x y zs high low, a :: b :: rest = x :: y :: zs →
        hexValue? x = some high → hexValue? y ≠ some low := by
      rintro x y zs high low ⟨⟩ hx hy
      exact hn high low hx hy
    rw [decode_percent (hd cs), List.cons_append, List.cons_append, List.cons_append,
      decode_percent (hd _), ← List.cons_append, ← List.cons_append, ih]
    simp only [List.append_assoc]
  | case4 a cs hn ih =>
    by_cases ha : a = '%'
    · -- fewer than two characters are left before `c`, so that there is no escape
      subst ha
      have hd (rest : List Char) : ∀ x y zs high low, cs ++ c :: rest = x :: y :: zs →
          hexValue? x = some high → hexValue? y ≠ some low := by
        intro x y zs high low he hx' hy
        match cs, hn with
        | [], _ =>
          cases he
          rw [hx] at hx'
          cases hx'
        | [_], _ =>
          cases he
          rw [hx] at hy
          cases hy
        | x :: y :: zs, hn => exact hn x y zs rfl rfl
      have hd' : ∀ x y zs high low, cs = x :: y :: zs →
          hexValue? x = some high → hexValue? y ≠ some low :=
        fun x y zs _ _ he => (hn x y zs rfl he).elim
      rw [decode_percent hd', List.cons_append, decode_percent (hd after), ih]
      simp only [List.append_assoc]
    · rw [decode_cons ha, List.cons_append, decode_cons ha, ih]
      simp only [List.append_assoc]

/-! ### Encoding -/

/-- An encoded character stands for its octets. -/
theorem decode_encodeChar {isEncoded : Char → Bool} (hp : isEncoded '%' = true) (c : Char)
    (cs : List Char) :
    decode (encodeChar isEncoded c ++ cs) = String.utf8EncodeChar c ++ decode cs := by
  unfold encodeChar
  split
  · rename_i h
    have hc : c ≠ '%' := by
      rintro rfl
      simp [hp] at h
    exact decode_cons hc cs
  · exact decode_flatMap_encodeOctet _ _

/-- **Decoding undoes encoding.** -/
theorem decode_encode {isEncoded : Char → Bool} (hp : isEncoded '%' = true) (cs : List Char) :
    decode (encode isEncoded cs) = cs.flatMap String.utf8EncodeChar := by
  unfold encode
  induction cs with
  | nil => rw [List.flatMap_nil, decode, List.flatMap_nil]
  | cons c cs ih => rw [List.flatMap_cons, decode_encodeChar hp, ih, List.flatMap_cons]

theorem textOfOctets?_utf8 (s : String) :
    textOfOctets? (s.toList.flatMap String.utf8EncodeChar) = some s := by
  have h : (s.toList.flatMap String.utf8EncodeChar).toByteArray = s.toByteArray :=
    String.utf8Encode_toList
  rw [textOfOctets?, h, String.fromUTF8?, dif_pos s.isValidUTF8]
  rfl

/-- **The text that was encoded is read back.** -/
theorem textOfOctets?_decode_encode {isEncoded : Char → Bool} (hp : isEncoded '%' = true)
    (s : String) : textOfOctets? (decode (encode isEncoded s.toList)) = some s := by
  rw [decode_encode hp, textOfOctets?_utf8]

/-- Octets that are the text of a string are those of its characters. -/
theorem eq_utf8_of_textOfOctets? {octets : List UInt8} {s : String}
    (h : textOfOctets? octets = some s) : octets = s.toList.flatMap String.utf8EncodeChar := by
  unfold textOfOctets? String.fromUTF8? at h
  split at h
  · rename_i hv
    have hs : octets.toByteArray = s.toByteArray := by
      rw [← Option.some.inj h]
      rfl
    rw [← String.utf8Encode_toList] at hs
    exact List.toByteArray_inj.1 hs
  · cases h

/-! ### What encoded text is written with -/

/-- A character of an encoded text is a character that stands for itself, or part of an escape. -/
theorem mem_encode {isEncoded : Char → Bool} {cs : List Char} {x : Char}
    (h : x ∈ encode isEncoded cs) :
    (x ∈ cs ∧ x.toNat < 0x80 ∧ isEncoded x = false) ∨ x = '%' ∨ ∃ n < 16, x = hexDigit n := by
  obtain ⟨c, hc, hx⟩ := List.mem_flatMap.1 h
  unfold encodeChar at hx
  split at hx
  · rename_i hs
    rw [Bool.and_eq_true, decide_eq_true_eq, Bool.not_eq_true'] at hs
    cases List.mem_singleton.1 hx
    exact .inl ⟨hc, hs⟩
  · obtain ⟨octet, -, hx⟩ := List.mem_flatMap.1 hx
    have hlt : octet.toNat < 256 := octet.toNat_lt
    simp only [encodeOctet, List.mem_cons, List.not_mem_nil, or_false] at hx
    rcases hx with rfl | rfl | rfl
    · exact .inr (.inl rfl)
    · exact .inr (.inr ⟨_, by omega, rfl⟩)
    · exact .inr (.inr ⟨_, by omega, rfl⟩)

/-- A text that holds nothing to be encoded stays as it is. -/
theorem encode_eq_self {isEncoded : Char → Bool} {cs : List Char}
    (h : ∀ c ∈ cs, c.toNat < 0x80 ∧ isEncoded c = false) : encode isEncoded cs = cs := by
  unfold encode
  induction cs with
  | nil => rfl
  | cons c cs ih =>
    obtain ⟨hc, he⟩ := h c List.mem_cons_self
    rw [List.flatMap_cons, ih fun x hx => h x (List.mem_cons_of_mem c hx), encodeChar, he]
    simp [hc]

/-- What a path does not encode is no blank and no control character. -/
theorem lt_toNat_of_isEncodedInPath {c : Char} (h : isEncodedInPath c = false) :
    0x20 < c.toNat := by
  simp only [isEncodedInPath, isEncodedInFragment, isControl, Bool.or_eq_false_iff,
    decide_eq_false_iff_not, List.contains_cons, beq_eq_false_iff_ne] at h
  obtain ⟨⟨⟨hc, -⟩, hs, -⟩, -⟩ := h
  have hn : c.toNat ≠ 0x20 := fun he => hs (by rw [← Char.ofNat_toNat c, he])
  omega

end McpConsole.Url
