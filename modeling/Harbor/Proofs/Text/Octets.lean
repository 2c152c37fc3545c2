import Harbor.Text.Utf8

/-!
# Characters and their octets

The octets of a text are the octets of its characters, one after another. The
octets below 128 are exactly the ASCII characters, so a text that has none of some
ASCII character has none of its octet either.

Main results:

* `encode_eq_flatMap`: a text is encoded character by character.
* `exists_char_of_mem_encode`: an ASCII octet comes from that ASCII character.
* `forall_ascii_iff`: a text is ASCII exactly when its octets are.
* `exists_encode_eq_of_ascii`: octets below 128 are those of a text.
* `size_ofList`: the size of a text is the number of octets of its characters.
* `exists_of_prefix_encode`: what ASCII octets begin with are ASCII characters.
-/

namespace Harbor.Text

theorem encode_eq_flatMap (s : String) : encode s = s.toList.flatMap String.utf8EncodeChar := by
  rw [encode, ← String.utf8Encode_toList]
  simp [List.utf8Encode]

theorem encode_ofList (cs : List Char) :
    encode (String.ofList cs) = cs.flatMap String.utf8EncodeChar := by
  rw [encode_eq_flatMap, String.toList_ofList]

theorem encode_replicate {c : Char} {b : UInt8} (h : String.utf8EncodeChar c = [b]) (n : Nat) :
    encode (String.ofList (List.replicate n c)) = List.replicate n b := by
  rw [encode_ofList, List.flatMap_replicate, h, List.flatten_replicate_singleton]

/-- An octet of a character is the character itself or has its high bit set. -/
theorem toNat_of_mem_utf8EncodeChar {c : Char} {b : UInt8} (hb : b ∈ String.utf8EncodeChar c) :
    b.toNat = c.toNat ∨ 128 ≤ b.toNat := by
  unfold String.utf8EncodeChar at hb
  dsimp only at hb
  split at hb
  · rw [List.mem_singleton] at hb
    rw [hb, UInt8.toNat_ofNat']
    exact .inl (Nat.mod_eq_of_lt (by omega))
  -- the lead octet and the octets after it have fixed high bits
  right
  split at hb
  · simp only [List.mem_cons, List.not_mem_nil, or_false] at hb
    rcases hb with rfl | rfl <;> rw [UInt8.toNat_ofNat'] <;> omega
  split at hb
  · simp only [List.mem_cons, List.not_mem_nil, or_false] at hb
    rcases hb with rfl | rfl | rfl <;> rw [UInt8.toNat_ofNat'] <;> omega
  · simp only [List.mem_cons, List.not_mem_nil, or_false] at hb
    rcases hb with rfl | rfl | rfl | rfl <;> rw [UInt8.toNat_ofNat'] <;> omega

theorem exists_char_of_mem_encode {s : String} {b : UInt8} (hb : b ∈ encode s)
    (h : b.toNat < 128) : ∃ c ∈ s.toList, c.toNat = b.toNat := by
  rw [encode_eq_flatMap, List.mem_flatMap] at hb
  obtain ⟨c, hc, hbc⟩ := hb
  have := toNat_of_mem_utf8EncodeChar hbc
  exact ⟨c, hc, by omega⟩

theorem encode_inj {s t : String} : encode s = encode t ↔ s = t := by
  rw [← decode?_eq_some_iff, decode?_encode, Option.some_inj]

theorem mem_encode {s : String} {c : Char} {b : UInt8} (hc : c ∈ s.toList)
    (hb : b ∈ String.utf8EncodeChar c) : b ∈ encode s := by
  rw [encode_eq_flatMap]
  exact List.mem_flatMap.2 ⟨c, hc, hb⟩

/-! ## ASCII -/

theorem utf8EncodeChar_of_ascii {c : Char} (h : c.toNat < 128) :
    String.utf8EncodeChar c = [UInt8.ofNat c.toNat] := by
  unfold String.utf8EncodeChar
  exact if_pos (Nat.le_of_lt_succ h)

/-- A text is ASCII exactly when its octets are. -/
theorem forall_ascii_iff {s : String} :
    (∀ c ∈ s.toList, c.toNat < 128) ↔ ∀ b ∈ encode s, b < 128 := by
  constructor
  · intro h b hb
    rw [encode_eq_flatMap, List.mem_flatMap] at hb
    obtain ⟨c, hc, hbc⟩ := hb
    rw [utf8EncodeChar_of_ascii (h c hc), List.mem_singleton] at hbc
    rw [hbc, UInt8.lt_iff_toNat_lt, UInt8.toNat_ofNat']
    exact Nat.lt_of_le_of_lt (Nat.mod_le ..) (h c hc)
  · intro h c hc
    -- the first octet of a character that is not ASCII is none of ASCII either
    obtain ⟨b, hb⟩ : ∃ b, b ∈ String.utf8EncodeChar c := by
      apply List.exists_mem_of_length_pos
      rw [String.length_utf8EncodeChar]
      exact c.utf8Size_pos
    have hlt : b.toNat < 128 := UInt8.lt_iff_toNat_lt.1 (h b (mem_encode hc hb))
    have := toNat_of_mem_utf8EncodeChar hb
    omega

/-- Octets below 128 are those of a text. -/
theorem exists_encode_eq_of_ascii {bs : Octets} (h : ∀ b ∈ bs, b < 128) :
    ∃ s, encode s = bs := by
  refine ⟨String.ofList (bs.map Char.ofUInt8), ?_⟩
  rw [encode_ofList]
  induction bs with
  | nil => rfl
  | cons b bs ih =>
    rw [List.forall_mem_cons, UInt8.lt_iff_toNat_lt] at h
    have hlt : b.toNat < 128 := h.1
    have hchar : (Char.ofUInt8 b).toNat = b.toNat := UInt8.toNat_toUInt32 b
    rw [List.map_cons, List.flatMap_cons, ih h.2, utf8EncodeChar_of_ascii (hchar.symm ▸ hlt), hchar,
      UInt8.ofNat_toNat, List.singleton_append]

/-! ## Sizes -/

theorem size_append (s t : String) : size (s ++ t) = size s + size t := by
  rw [← length_encode, encode_append, List.length_append, length_encode, length_encode]

theorem size_ofList (cs : List Char) :
    size (String.ofList cs) = (cs.flatMap String.utf8EncodeChar).length := by
  rw [← length_encode, encode_ofList]

theorem length_flatMap_encode_cons (c : Char) (cs : List Char) :
    ((c :: cs).flatMap String.utf8EncodeChar).length =
      c.utf8Size + (cs.flatMap String.utf8EncodeChar).length := by
  rw [List.flatMap_cons, List.length_append, String.length_utf8EncodeChar]

/-- A text of ASCII characters has an octet for each of them. -/
theorem size_ofList_of_ascii {cs : List Char} (h : ∀ c ∈ cs, c.utf8Size = 1) :
    size (String.ofList cs) = cs.length := by
  rw [size_ofList]
  induction cs with
  | nil => rfl
  | cons c cs ih =>
    rw [List.forall_mem_cons] at h
    rw [length_flatMap_encode_cons, h.1, ih h.2, List.length_cons, Nat.add_comm]

/-- A change of characters that keeps the size of each keeps the size of the text. -/
theorem size_map {f : Char → Char} (h : ∀ c, (f c).utf8Size = c.utf8Size) (s : String) :
    size (s.map f) = size s := by
  have hmap : s.map f = String.ofList (s.toList.map f) := by
    rw [← String.toList_inj, String.toList_map, String.toList_ofList]
  have hlength : ∀ cs : List Char, ((cs.map f).flatMap String.utf8EncodeChar).length =
      (cs.flatMap String.utf8EncodeChar).length := by
    intro cs
    induction cs with
    | nil => rfl
    | cons c cs ih =>
      rw [List.map_cons, length_flatMap_encode_cons, length_flatMap_encode_cons, h, ih]
  rw [hmap, size_ofList, hlength, ← encode_eq_flatMap, length_encode]

/-! ## Beginnings -/

/-- The octets that a text of ASCII characters begins with are those of some first characters. -/
theorem exists_of_prefix_encode {cs : List Char} (h : ∀ c ∈ cs, c.utf8Size = 1) {piece : Octets}
    (hpiece : piece <+: encode (String.ofList cs)) :
    ∃ front, front <+: cs ∧ piece = encode (String.ofList front) := by
  rw [encode_ofList] at hpiece
  induction cs generalizing piece with
  | nil => exact ⟨[], List.prefix_rfl, List.prefix_nil.1 hpiece⟩
  | cons c cs ih =>
    rw [List.forall_mem_cons] at h
    obtain ⟨b, hb⟩ : ∃ b, String.utf8EncodeChar c = [b] := by
      rw [← List.length_eq_one_iff, String.length_utf8EncodeChar, h.1]
    cases piece with
    | nil => exact ⟨[], List.nil_prefix, rfl⟩
    | cons b' piece =>
      rw [List.flatMap_cons, hb, List.singleton_append, List.cons_prefix_cons] at hpiece
      obtain ⟨front, hfront, rfl⟩ := ih h.2 hpiece.2
      refine ⟨c :: front, List.cons_prefix_cons.2 ⟨rfl, hfront⟩, ?_⟩
      rw [encode_ofList, encode_ofList, List.flatMap_cons, hb, hpiece.1, List.singleton_append]

end Harbor.Text
