import Harbor.Proofs.Frame.Refusals

/-!
# What is cut short

A stream may end inside a message. What has arrived by then has no line feed at its end,
and the reader takes the last line as it stands: a field may come out shorter than it
was written, and a number with fewer digits is a number too. Counted content is not like
that, for its length says how much is missing.

Main results:

* `CutShort.append`: messages are cut within the first part or within the second.
* `CutShort.field`: a field cut short is one of fewer octets, or cannot be read.
* `CutShort.sessionId`: a session id cut short is a session id, or cannot be read.
* `CutShort.body`: content cut short cannot be read, except that nothing may be missing.
-/

namespace Harbor

namespace Reader

variable {α β : Type} {r : Reader α} {k : α → Reader β} {bs bs' : Octets} {a : α}

/-- The reader fails when the octets are all that there is. -/
def Fails (r : Reader α) (bs : Octets) : Prop := ∃ e rest, r bs = (.error e, rest)

theorem Fails.bind (h : r.Fails bs) (k : α → Reader β) : (r >>= k).Fails bs := by
  obtain ⟨e, rest, h⟩ := h
  exact ⟨e, rest, bind_error h⟩

/-- What fails after something that was read fails. -/
theorem Fails.after (h : (k a).Fails bs') (hr : r.Reads bs a) : (r >>= k).Fails (bs ++ bs') := by
  obtain ⟨e, rest, h⟩ := h
  exact ⟨e, rest, by rw [bind_ok (hr bs'), h]⟩

/-- As `Fails.after`, when nothing is left to read. -/
theorem Fails.at_end (h : (k a).Fails []) (hr : r bs = (.ok a, [])) : (r >>= k).Fails bs := by
  obtain ⟨e, rest, h⟩ := h
  exact ⟨e, rest, by rw [bind_ok hr, h]⟩

theorem Refuses.fails {e : Frame.Error} (h : r.Refuses bs e) (rest : Octets) :
    r.Fails (bs ++ rest) := by
  obtain ⟨rest', h⟩ := h rest
  exact ⟨e, rest', h⟩

end Reader

namespace Frame

variable {piece : Octets}

/-- The octets that have arrived of a message when the stream ends inside it. -/
structure CutShort (piece whole : Octets) : Prop where
  front : piece <+: whole
  ne_whole : piece ≠ whole

theorem CutShort.length_lt {whole : Octets} (h : CutShort piece whole) :
    piece.length < whole.length :=
  Nat.lt_of_le_of_ne h.front.length_le fun heq => h.ne_whole (h.front.eq_of_length heq)

/-- The stream ends within the first of two parts or within the second. -/
theorem CutShort.append {first second : Octets} (h : CutShort piece (first ++ second)) :
    CutShort piece first ∨ ∃ piece', piece = first ++ piece' ∧ CutShort piece' second := by
  by_cases hlength : piece.length < first.length
  · refine .inl ⟨?_, ?_⟩
    · exact List.prefix_of_prefix_length_le h.front (List.prefix_append ..) (Nat.le_of_lt hlength)
    · rintro rfl
      exact Nat.lt_irrefl _ hlength
  · obtain ⟨piece', rfl⟩ := List.prefix_of_prefix_length_le (List.prefix_append ..) h.front
      (Nat.not_lt.1 hlength)
    refine .inr ⟨piece', rfl, (List.prefix_append_right_inj _).1 h.front, ?_⟩
    rintro rfl
    exact h.ne_whole rfl

/-! ## Lines -/

/-- A line that the end of the stream ends is taken as it stands. -/
theorem readLine_unterminated (hne : piece ≠ []) (hfeed : lineFeed ∉ piece)
    (hlength : piece.length ≤ maxLine) : readLine piece = ((textOf piece).map some, []) := by
  have hle : piece.length ≤ maxLine + 1 := Nat.le_succ_of_le hlength
  rw [readLine, splitLine_of_not_mem fun hmem => hfeed (List.mem_of_mem_take hmem),
    List.take_of_length_le hle, List.drop_of_length_le hle]
  split
  · next heq =>
    cases heq
    exact absurd rfl hne
  · next heq =>
    cases heq
    rw [lineText, unterminated?_eq_none hfeed]
    dsimp only
    rw [if_neg (Nat.not_lt.2 hlength)]

theorem fails_readField_nil : Reader.Fails readField [] := ⟨_, _, rfl⟩

theorem fails_readBody_nil : Reader.Fails readBody [] := (fails_readField_nil.bind _).bind _

theorem readField_encode {s : String} (hne : Text.encode s ≠ []) (hfeed : lineFeed ∉ Text.encode s)
    (hsize : Text.size s ≤ maxLine) : readField (Text.encode s) = (.ok s, []) := by
  have hline : readLine (Text.encode s) = (.ok (some s), []) := by
    rw [readLine_unterminated hne hfeed hsize, textOf, Text.decode?_encode]
    rfl
  exact Reader.bind_ok hline

/-- A line without its line feed is a piece of its text. -/
theorem CutShort.front_line {s : String} (h : CutShort piece (writeLine s)) :
    piece <+: Text.encode (singleLine s) := by
  have hfront := h.front
  rw [writeLine, List.prefix_concat_iff] at hfront
  exact hfront.resolve_left h.ne_whole

theorem CutShort.lineFeed_not_mem {s : String} (h : CutShort piece (writeLine s)) :
    lineFeed ∉ piece :=
  fun hmem => (not_mem_encode_singleLine s).1 (h.front_line.subset hmem)

theorem CutShort.line {s : String} (h : CutShort piece (writeLine s))
    (hsize : Text.size s ≤ maxLine) :
    piece = [] ∨ Reader.Fails readLine piece ∨
      ∃ t, piece = Text.encode t ∧ readLine piece = (.ok (some t), []) := by
  by_cases hne : piece = []
  · exact .inl hne
  · right
    have hlength : piece.length ≤ maxLine := by
      refine Nat.le_trans h.front_line.length_le ?_
      rwa [Text.length_encode, size_singleLine]
    have hread := readLine_unterminated hne h.lineFeed_not_mem hlength
    rw [textOf] at hread
    cases htext : Text.decode? piece with
    | none =>
      rw [htext] at hread
      exact .inl ⟨_, _, hread⟩
    | some t =>
      rw [htext] at hread
      exact .inr ⟨t, Text.decode?_eq_some_iff.1 htext, hread⟩

theorem CutShort.field {s : String} (h : CutShort piece (writeLine s))
    (hsize : Text.size s ≤ maxLine) :
    Reader.Fails readField piece ∨
      ∃ t, piece = Text.encode t ∧ readField piece = (.ok t, []) := by
  rcases h.line hsize with rfl | hfails | ⟨t, ht, hread⟩
  · exact .inl fails_readField_nil
  · exact .inl (hfails.bind _)
  · exact .inr ⟨t, ht, Reader.bind_ok hread⟩

/-! ## Numbers -/

theorem lineFeed_not_mem_encode {s : String} (h : IsLine s) : lineFeed ∉ Text.encode s := by
  have hnot := (not_mem_encode_singleLine s).1
  rwa [h.singleLine_eq] at hnot

theorem readParsed_number {ε α : Type} {n : Nat} (hn : n < UInt64.size) (field : String)
    {parse : String → Except ε α} {a : α} (hparse : parse (toString n) = .ok a) :
    readParsed field parse (Text.encode (toString n)) = (.ok a, []) := by
  have hne : Text.encode (toString n) ≠ [] := by
    rw [← List.length_pos_iff, Text.length_encode, Text.size_toString]
    exact List.length_pos_iff.2 Nat.toDigits_ne_nil
  have hsize : Text.size (toString n) ≤ maxLine := Nat.le_trans (size_number_le hn) (by decide)
  have hread := readField_encode hne (lineFeed_not_mem_encode (isLine_toString n)) hsize
  rw [readParsed, Reader.bind_ok hread, Text.trim_toString, hparse]
  rfl

theorem readSessionId_unterminated (id : SessionId) :
    readSessionId (Text.encode id.text) = (.ok id, []) :=
  readParsed_number id.number.toNat_lt_size "session id" id.ofText?_text

/-- The first digits of a number are a number. -/
theorem CutShort.number {n : Nat} (h : CutShort piece (writeLine (toString n))) (hne : piece ≠ []) :
    ∃ m, piece = Text.encode (toString m) ∧ m ≤ n ∧ (m = 0 → n = 0) := by
  have hfront := h.front_line
  rw [(isLine_toString n).singleLine_eq] at hfront
  exact Text.exists_toString_of_prefix hfront hne

theorem CutShort.sessionId {id : SessionId} (h : CutShort piece (writeLine id.text)) :
    Reader.Fails readSessionId piece ∨ ∃ other : SessionId, piece = Text.encode other.text := by
  by_cases hne : piece = []
  · subst hne
    exact .inl (fails_readField_nil.bind _)
  · obtain ⟨m, rfl, hle, -⟩ := h.number hne
    refine .inr ⟨⟨UInt64.ofNat m⟩, ?_⟩
    rw [SessionId.text,
      UInt64.toNat_ofNat_of_lt' (Nat.lt_of_le_of_lt hle id.number.toNat_lt_size)]

/-! ## Counted content -/

theorem CutShort.body {s : String} (h : CutShort piece (writeBody s))
    (hs : Text.size s ≤ maxBody) :
    Reader.Fails readBody piece ∨ s = "" ∧ readBody piece = (.ok "", []) := by
  have hlt : Text.size s < UInt64.size := Nat.lt_of_le_of_lt hs (by decide)
  rcases h.append with hcount | ⟨body, rfl, hbody⟩
  · by_cases hne : piece = []
    · subst hne
      exact .inl fails_readBody_nil
    · obtain ⟨m, rfl, hle, hzero⟩ := hcount.number hne
      have hm : m < UInt64.size := Nat.lt_of_le_of_lt hle hlt
      have hcount := readParsed_number hm "length" (Text.parse64_toString hm)
      by_cases hm0 : m = 0
      · subst hm0
        have hempty : s = "" := String.utf8ByteSize_eq_zero_iff.1 (hzero rfl)
        exact .inr ⟨hempty, Reader.bind_ok hcount⟩
      · refine .inl (Reader.Fails.at_end ⟨.unexpectedEnd, [], ?_⟩ hcount)
        rw [UInt64.toNat_ofNat_of_lt' hm, readExactly_eq,
          if_neg (Nat.not_lt.2 (Nat.le_trans hle hs)), List.length_nil,
          if_pos (Nat.pos_of_ne_zero hm0)]
  · have hcount : Reader.Reads (readParsed "length" Text.parse64)
        (writeLine (toString (Text.size s))) (UInt64.ofNat (Text.size s)) := reads_count hlt
    have hlength := hbody.length_lt
    rw [Text.length_encode] at hlength
    rw [← UInt64.toNat_ofNat_of_lt' hlt] at hs hlength
    exact .inl ⟨_, _, readBody_short hcount hs hlength⟩

end Frame

end Harbor
