import Harbor.Frame.Line
import Harbor.Proofs.Text.Decimal

/-!
# What is written is read back

A reader reads some octets as `a` if it finds `a` and leaves what follows them,
whatever follows. Readers that do so can be put in sequence, so a message is read
back field by field.

A line loses its line breaks on the way and nothing else, and content loses nothing.

Main results:

* `Reader.Reads.bind`: octets one after another are read one after another.
* `Terminated.reads`: a line is read whichever of the two terminators it has.
* `reads_field`, `reads_sessionId`, `reads_body`: each field is read back.
-/

namespace Harbor

namespace Reader

variable {α β : Type}

/-- The reader finds `a` in the octets and leaves all that follows them. -/
def Reads (r : Reader α) (bs : Octets) (a : α) : Prop := ∀ rest, r (bs ++ rest) = (.ok a, rest)

theorem Reads.pure (a : α) : Reads (pure a) [] a := fun _ => rfl

theorem Reads.bind {r : Reader α} {k : α → Reader β} {bs bs' : Octets} {a : α} {b : β}
    (hr : r.Reads bs a) (hk : (k a).Reads bs' b) : (r >>= k).Reads (bs ++ bs') b := by
  intro rest
  rw [List.append_assoc, bind_ok (hr (bs' ++ rest))]
  exact hk rest

/-- A reader whose finding is only looked at reads the same octets. -/
theorem Reads.map {r : Reader α} {k : α → Reader β} {bs : Octets} {a : α} {b : β}
    (hr : r.Reads bs a) (hk : (k a).Reads [] b) : (r >>= k).Reads bs b := by
  have := hr.bind hk
  rwa [List.append_nil] at this

/-- Octets that are all that there is. -/
theorem Reads.apply {r : Reader α} {bs : Octets} {a : α} (h : r.Reads bs a) :
    r bs = (.ok a, []) := by
  have := h []
  rwa [List.append_nil] at this

end Reader

namespace Frame

/-! ## Single lines -/

/-- The text has no line break. -/
def IsLine (s : String) : Prop := ∀ c ∈ s.toList, c ≠ '\n' ∧ c ≠ '\r'

instance (s : String) : Decidable (IsLine s) :=
  inferInstanceAs (Decidable (∀ c ∈ s.toList, c ≠ '\n' ∧ c ≠ '\r'))

theorem toList_singleLine (s : String) : (singleLine s).toList =
    s.toList.map fun c => if c = '\n' ∨ c = '\r' then ' ' else c := String.toList_map

@[simp] theorem size_singleLine (s : String) : Text.size (singleLine s) = Text.size s := by
  apply Text.size_map
  intro c
  split
  · next h => rcases h with rfl | rfl <;> rfl
  · rfl

theorem isLine_singleLine (s : String) : IsLine (singleLine s) := by
  intro c hc
  rw [toList_singleLine, List.mem_map] at hc
  obtain ⟨d, -, rfl⟩ := hc
  split
  · decide
  · next hne => exact not_or.1 hne

theorem IsLine.singleLine_eq {s : String} (h : IsLine s) : singleLine s = s := by
  rw [← String.toList_inj, toList_singleLine]
  refine (List.map_congr_left fun c hc => ?_).trans (List.map_id _)
  rw [if_neg (not_or.2 (h c hc))]
  rfl

theorem IsLine.append {s t : String} (hs : IsLine s) (ht : IsLine t) : IsLine (s ++ t) := by
  intro c hc
  rw [String.toList_append, List.mem_append] at hc
  exact hc.elim (hs c) (ht c)

/-- No word without a blank in it comes out of a line break. -/
theorem singleLine_not_mem {words : List String} (hwords : ∀ w ∈ words, ' ' ∉ w.toList)
    {s : String} (h : s ∉ words) : singleLine s ∉ words := by
  intro hmem
  -- without a blank in it the line is the text itself
  have hself : singleLine s = s := by
    apply IsLine.singleLine_eq
    intro c hc
    rw [← not_or]
    intro hbreak
    apply hwords _ hmem
    rw [toList_singleLine, List.mem_map]
    exact ⟨c, hc, if_pos hbreak⟩
  exact h (hself ▸ hmem)

theorem isLine_toString (n : Nat) : IsLine (toString n) := by
  intro c hc
  rw [Nat.toString_eq_ofList_toDigits, String.toList_ofList] at hc
  have hdigit := Text.isDigit_of_mem_toDigits hc
  constructor <;> rintro rfl <;> exact absurd hdigit (by decide)

/-- The octets of a line have no terminator among them. -/
theorem not_mem_encode_singleLine (s : String) :
    lineFeed ∉ Text.encode (singleLine s) ∧ carriageReturn ∉ Text.encode (singleLine s) := by
  constructor <;> intro h <;> obtain ⟨c, hc, hnat⟩ := Text.exists_char_of_mem_encode h (by decide)
  · exact (isLine_singleLine s c hc).1 (Char.toNat_inj.1 hnat)
  · exact (isLine_singleLine s c hc).2 (Char.toNat_inj.1 hnat)

/-! ## Lines -/

/-- There is no line only where there are no octets. -/
theorem readLine_eq_none_iff {bs rest : Octets} :
    readLine bs = (.ok none, rest) ↔ bs = [] ∧ rest = [] := by
  constructor
  · intro h
    unfold readLine at h
    split at h
    · next rest' heq =>
      cases bs with
      | nil =>
        cases heq
        cases h
        exact ⟨rfl, rfl⟩
      | cons b bs =>
        unfold splitLine at heq
        split at heq <;> simp at heq
    · next line _ _ _ =>
      cases htext : lineText line <;> rw [htext] at h <;> cases h
  · rintro ⟨rfl, rfl⟩
    rfl

theorem splitLine_terminated {content : Octets} {n : Nat} (h : lineFeed ∉ content)
    (hn : content.length < n) (rest : Octets) :
    splitLine n (content ++ lineFeed :: rest) = (content ++ [lineFeed], rest) := by
  induction content generalizing n with
  | nil =>
    obtain ⟨n, rfl⟩ := Nat.exists_eq_succ_of_ne_zero (Nat.ne_of_gt hn)
    rw [List.nil_append, splitLine, if_pos rfl, List.nil_append]
  | cons b content ih =>
    obtain ⟨n, rfl⟩ := Nat.exists_eq_succ_of_ne_zero (Nat.ne_of_gt (Nat.zero_lt_of_lt hn))
    rw [List.mem_cons, not_or] at h
    rw [List.length_cons] at hn
    rw [List.cons_append, splitLine, if_neg (Ne.symm h.1), ih h.2 (by omega)]
    rfl

theorem unterminated?_concat (front : Octets) : unterminated? (front ++ [lineFeed]) =
    some (if front.getLast? = some carriageReturn then front.dropLast else front) := by
  unfold unterminated?
  rw [List.reverse_append, List.reverse_singleton, List.singleton_append]
  dsimp only
  rw [if_pos rfl]
  rcases List.eq_nil_or_concat front with rfl | ⟨front', c, rfl⟩
  · rfl
  · rw [List.concat_eq_append, List.getLast?_concat, List.dropLast_concat, List.reverse_append,
      List.reverse_singleton, List.singleton_append]
    dsimp only
    by_cases hc : c = carriageReturn
    · rw [if_pos hc, if_pos (congrArg some hc), List.reverse_reverse]
    · rw [if_neg hc, if_neg fun h => hc (Option.some.inj h), List.reverse_cons,
        List.reverse_reverse]

/-- The octets are a line with its terminator, and the content is what stands before it. -/
structure Terminated (content line : Octets) : Prop where
  lineFeed_not_mem : lineFeed ∉ content
  line_eq : line = content ++ [carriageReturn, lineFeed] ∨
    line = content ++ [lineFeed] ∧ content.getLast? ≠ some carriageReturn

/-- A line feed ends the line, and the octets before it say what the content is. -/
theorem Terminated.exists_front {content line : Octets} (h : Terminated content line) :
    ∃ front, line = front ++ [lineFeed] ∧ lineFeed ∉ front ∧
      unterminated? line = some content := by
  rcases h.line_eq with rfl | ⟨rfl, hlast⟩
  · refine ⟨content ++ [carriageReturn], (List.append_cons ..), ?_, ?_⟩
    · rw [List.mem_append, List.mem_singleton, not_or]
      exact ⟨h.lineFeed_not_mem, by decide⟩
    · rw [List.append_cons, unterminated?_concat, List.getLast?_concat, if_pos rfl,
        List.dropLast_concat]
  · exact ⟨content, rfl, h.lineFeed_not_mem, by rw [unterminated?_concat, if_neg hlast]⟩

theorem terminated_writeLine (s : String) :
    Terminated (Text.encode (singleLine s)) (writeLine s) := by
  obtain ⟨hfeed, hreturn⟩ := not_mem_encode_singleLine s
  exact ⟨hfeed, .inr ⟨rfl, fun hlast => hreturn (List.mem_of_getLast? hlast)⟩⟩

/-- A line is taken whole if its line feed is among the octets looked at. -/
theorem Terminated.readLine_append {content line : Octets} (h : Terminated content line)
    (hlength : line.length ≤ maxLine + 1) (rest : Octets) :
    readLine (line ++ rest) = ((textOf content).map some, rest) := by
  obtain ⟨front, rfl, hfront, hcontent⟩ := h.exists_front
  rw [List.length_append, List.length_singleton] at hlength
  have htext : lineText (front ++ [lineFeed]) = textOf content := by rw [lineText, hcontent]
  rw [List.append_assoc, List.singleton_append, readLine,
    splitLine_terminated hfront (by omega)]
  split
  · next heq => simp at heq
  · next heq =>
    cases heq
    rw [htext]

/-- A line is read if its line feed is among the octets looked at and it is text. -/
theorem Terminated.reads {s : String} {line : Octets} (h : Terminated (Text.encode s) line)
    (hlength : line.length ≤ maxLine + 1) : Reader.Reads readLine line (some s) := by
  intro rest
  rw [h.readLine_append hlength, textOf, Text.decode?_encode]
  rfl

/-- A short line is read whichever of the two terminators it has. -/
theorem Terminated.reads_short {s : String} {line : Octets} (h : Terminated (Text.encode s) line)
    (hsize : Text.size s < maxLine) : Reader.Reads readLine line (some s) := by
  apply h.reads
  rcases h.line_eq with rfl | ⟨rfl, -⟩
  · simp only [List.length_append, List.length_cons, List.length_nil, Text.length_encode]
    omega
  · simp only [List.length_append, List.length_cons, List.length_nil, Text.length_encode]
    omega

theorem reads_line {s : String} (h : Text.size s ≤ maxLine) :
    Reader.Reads readLine (writeLine s) (some (singleLine s)) := by
  apply (terminated_writeLine s).reads
  rw [writeLine, List.length_append, Text.length_encode, size_singleLine, List.length_singleton]
  omega

theorem reads_field {s : String} (h : Text.size s ≤ maxLine) :
    Reader.Reads readField (writeLine s) (singleLine s) :=
  (reads_line h).map (.pure _)

theorem IsLine.reads_line {s : String} (h : IsLine s) (hsize : Text.size s ≤ maxLine) :
    Reader.Reads readLine (writeLine s) (some s) := by
  have hread := Frame.reads_line hsize
  rwa [h.singleLine_eq] at hread

theorem IsLine.reads_field {s : String} (h : IsLine s) (hsize : Text.size s ≤ maxLine) :
    Reader.Reads readField (writeLine s) s :=
  (h.reads_line hsize).map (.pure _)

theorem reads_parsed {ε α : Type} {field s : String} {parse : String → Except ε α} {a : α}
    (h : Text.size s ≤ maxLine) (hparse : parse (Text.trim (singleLine s)) = .ok a) :
    Reader.Reads (readParsed field parse) (writeLine s) a := by
  refine (reads_field h).map ?_
  rw [hparse]
  exact .pure a

theorem size_number_le {n : Nat} (h : n < UInt64.size) : Text.size (toString n) ≤ 20 := by
  rw [Text.size_toString, Nat.length_toDigits_le_iff (by omega) (by omega)]
  exact Nat.lt_trans h (by decide)

theorem reads_sessionId (id : SessionId) :
    Reader.Reads readSessionId (writeLine id.text) id := by
  have hsize := size_number_le id.number.toNat_lt_size
  refine reads_parsed (Nat.le_trans hsize (by decide)) ?_
  rw [SessionId.text, (isLine_toString _).singleLine_eq, Text.trim_toString]
  exact id.ofText?_text

/-! ## Counted content -/

/-- A given number of octets is taken, if it is not too large and there are so many. -/
theorem readExactly_eq (n : Nat) (bs : Octets) : readExactly n bs =
    if maxBody < n then (.error (.bodyTooLarge n), bs)
    else if bs.length < n then (.error .unexpectedEnd, [])
    else (textOf (bs.take n), bs.drop n) := by
  unfold readExactly
  split
  · rfl
  split
  · next hshort =>
    have htake : takeExactly n bs = (.error .unexpectedEnd, []) := by
      rw [takeExactly, List.take_of_length_le (Nat.le_of_lt hshort)]
      exact if_neg (Nat.ne_of_lt hshort)
    exact Reader.bind_error htake
  · next hlong =>
    have htake : takeExactly n bs = (.ok (bs.take n), bs.drop n) := by
      rw [takeExactly]
      exact if_pos (List.length_take_of_le (Nat.not_lt.1 hlong))
    rw [Reader.bind_ok htake]
    cases textOf (bs.take n) <;> rfl

theorem reads_exactly {s : String} (h : Text.size s ≤ maxBody) :
    Reader.Reads (readExactly (Text.size s)) (Text.encode s) s := by
  intro rest
  rw [readExactly_eq, if_neg (Nat.not_lt.2 h), if_neg (by simp), ← Text.length_encode,
    List.take_left, List.drop_left, textOf, Text.decode?_encode]

theorem reads_count {n : Nat} (h : n < UInt64.size) :
    Reader.Reads (readParsed "length" Text.parse64) (writeLine (toString n)) (UInt64.ofNat n) := by
  refine reads_parsed (Nat.le_trans (size_number_le h) (by decide)) ?_
  rw [(isLine_toString _).singleLine_eq, Text.trim_toString, Text.parse64_toString h]

theorem reads_body {s : String} (h : Text.size s ≤ maxBody) :
    Reader.Reads readBody (writeBody s) s := by
  have hlt : Text.size s < UInt64.size := Nat.lt_of_le_of_lt h (by decide)
  refine (reads_count hlt).bind ?_
  rw [UInt64.toNat_ofNat_of_lt' hlt]
  exact reads_exactly h

end Frame

end Harbor
