import Harbor.Proofs.Frame.Lines

/-!
# What is refused

A reader refuses some octets if it fails on them whatever follows. The fault is then
decided by these octets alone, and nothing that a peer sends later has a part in it.

A line with its terminator is either read or refused, and if it is refused the peer
has done what the protocol does not allow. Only an end of the stream inside a message
is no such violation.

Main results:

* `Reader.Refuses.bind`, `Reader.Refuses.after`: where a sequence of readers fails.
* `Terminated.reads_or_refuses`: a line is read or refused.
* `refuses_parsed`, `refuses_body`: a line that does not say what is asked for.
* `refuses_writeLine`, `refuses_writeBody`: what is written and is beyond the limits.
* `readBody_short`: content that is cut off.
-/

namespace Harbor

namespace Reader

variable {α β : Type}

/-- The reader fails on the octets whatever follows them. -/
def Refuses (r : Reader α) (bs : Octets) (e : Frame.Error) : Prop :=
  ∀ rest, ∃ rest', r (bs ++ rest) = (.error e, rest')

theorem refuses_fail (e : Frame.Error) : Refuses (fail e : Reader α) [] e := fun rest => ⟨rest, rfl⟩

theorem Refuses.append {r : Reader α} {bs : Octets} {e : Frame.Error} (h : r.Refuses bs e)
    (bs' : Octets) : r.Refuses (bs ++ bs') e := by
  intro rest
  rw [List.append_assoc]
  exact h _

/-- What is refused at first is refused. -/
theorem Refuses.bind {r : Reader α} {bs : Octets} {e : Frame.Error} (h : r.Refuses bs e)
    (k : α → Reader β) : (r >>= k).Refuses bs e := by
  intro rest
  obtain ⟨rest', hrest⟩ := h rest
  exact ⟨rest', bind_error hrest⟩

/-- What is refused after something that was read is refused. -/
theorem Refuses.after {r : Reader α} {k : α → Reader β} {bs bs' : Octets} {a : α}
    {e : Frame.Error} (h : (k a).Refuses bs' e) (hr : r.Reads bs a) :
    (r >>= k).Refuses (bs ++ bs') e := by
  intro rest
  rw [List.append_assoc, bind_ok (hr _)]
  exact h rest

/-- As `Refuses.after`, for a reader that does not read further. -/
theorem Refuses.at_once {r : Reader α} {k : α → Reader β} {bs : Octets} {a : α} {e : Frame.Error}
    (h : (k a).Refuses [] e) (hr : r.Reads bs a) : (r >>= k).Refuses bs e := by
  have := h.after hr
  rwa [List.append_nil] at this

end Reader

namespace Frame

variable {content line : Octets}

/-! ## Lines -/

/-- Without a line feed among the octets looked at, all of them are taken. -/
theorem splitLine_of_not_mem {n : Nat} {bs : Octets} (h : lineFeed ∉ bs.take n) :
    splitLine n bs = (bs.take n, bs.drop n) := by
  induction n generalizing bs with
  | zero => rfl
  | succ n ih =>
    cases bs with
    | nil => rfl
    | cons b bs =>
      rw [List.take_succ_cons, List.mem_cons, not_or] at h
      rw [splitLine, if_neg (Ne.symm h.1), ih h.2]
      rfl

theorem unterminated?_eq_none (h : lineFeed ∉ line) : unterminated? line = none := by
  unfold unterminated?
  split
  · rfl
  · next b front hreverse =>
    have hmem : b ∈ line := by
      rw [← List.mem_reverse, hreverse]
      exact List.mem_cons_self
    exact if_neg fun heq : b = lineFeed => h (heq ▸ hmem)

/-- A line that is too long is given up behind the octets looked at. -/
theorem readLine_long {front : Octets} (h : lineFeed ∉ front) (hlength : maxLine < front.length)
    (rest : Octets) : readLine (front ++ rest) =
      (.error .lineTooLong, (front ++ rest).drop (maxLine + 1)) := by
  have htake : (front ++ rest).take (maxLine + 1) = front.take (maxLine + 1) :=
    List.take_append_of_le_length hlength
  have hfeed : lineFeed ∉ front.take (maxLine + 1) := fun hmem => h (List.mem_of_mem_take hmem)
  have hfault : lineText (front.take (maxLine + 1)) = .error .lineTooLong := by
    have hlong : maxLine < (front.take (maxLine + 1)).length := by
      rw [List.length_take]
      omega
    rw [lineText, unterminated?_eq_none hfeed]
    exact if_pos hlong
  rw [readLine, splitLine_of_not_mem (by rwa [htake]), htake]
  split
  · next heq =>
    have hnil := congrArg (List.length ∘ Prod.fst) heq
    simp only [Function.comp_apply, List.length_take, List.length_nil] at hnil
    omega
  · next heq =>
    cases heq
    rw [hfault]
    rfl

theorem refuses_long {front : Octets} (h : lineFeed ∉ front) (hlength : maxLine < front.length) :
    Reader.Refuses readLine front .lineTooLong := fun rest => ⟨_, readLine_long h hlength rest⟩

theorem Terminated.refuses_notText (h : Terminated content line)
    (hlength : line.length ≤ maxLine + 1) (htext : Text.decode? content = none) :
    Reader.Refuses readLine line .notText := by
  intro rest
  refine ⟨rest, ?_⟩
  rw [h.readLine_append hlength, textOf, htext]
  rfl

/-- Every line with its terminator is read or refused. -/
theorem Terminated.reads_or_refuses (h : Terminated content line) :
    (∃ s, content = Text.encode s ∧ Reader.Reads readLine line (some s)) ∨
      ∃ e, e.isViolation ∧ Reader.Refuses readLine line e := by
  by_cases hlength : line.length ≤ maxLine + 1
  · cases htext : Text.decode? content with
    | some s =>
      obtain rfl := Text.decode?_eq_some_iff.1 htext
      exact .inl ⟨s, rfl, h.reads hlength⟩
    | none => exact .inr ⟨.notText, rfl, h.refuses_notText hlength htext⟩
  · obtain ⟨front, rfl, hfront, -⟩ := h.exists_front
    rw [List.length_append, List.length_singleton] at hlength
    exact .inr ⟨.lineTooLong, rfl, (refuses_long hfront (by omega)).append _⟩

theorem Terminated.field_reads_or_refuses (h : Terminated content line) :
    (∃ s, content = Text.encode s ∧ Reader.Reads readField line s) ∨
      ∃ e, e.isViolation ∧ Reader.Refuses readField line e := by
  rcases h.reads_or_refuses with ⟨s, hs, hread⟩ | ⟨e, he, hrefuse⟩
  · exact .inl ⟨s, hs, hread.map (.pure _)⟩
  · exact .inr ⟨e, he, hrefuse.bind _⟩

/-! ## Lines that say something -/

section Parsed

variable {ε α : Type} {parse : String → Except ε α}

/-- The text of a line says `a`, blanks around it not counted. -/
def Says (parse : String → Except ε α) (content : Octets) (a : α) : Prop :=
  ∃ s, content = Text.encode s ∧ parse (Text.trim s) = .ok a

theorem parsed_reads_or_refuses (field : String) (parse : String → Except ε α)
    (h : Terminated content line) :
    (∃ a, Says parse content a ∧ Reader.Reads (readParsed field parse) line a) ∨
      ∃ e, e.isViolation ∧ Reader.Refuses (readParsed field parse) line e := by
  rcases h.field_reads_or_refuses with ⟨s, rfl, hread⟩ | ⟨e, he, hrefuse⟩
  · cases hparse : parse (Text.trim s) with
    | ok a =>
      refine .inl ⟨a, ⟨s, rfl, hparse⟩, hread.map ?_⟩
      rw [hparse]
      exact .pure a
    | error e =>
      refine .inr ⟨.malformed field s, rfl, Reader.Refuses.at_once (a := s) ?_ hread⟩
      rw [hparse]
      exact Reader.refuses_fail _
  · exact .inr ⟨e, he, hrefuse.bind _⟩

/-- A line that does not say what is asked for is refused. -/
theorem refuses_parsed (field : String) (h : Terminated content line)
    (hvalue : ∀ a, ¬ Says parse content a) :
    ∃ e, e.isViolation ∧ Reader.Refuses (readParsed field parse) line e := by
  rcases parsed_reads_or_refuses field parse h with ⟨a, ha, -⟩ | hrefuse
  · exact absurd ha (hvalue a)
  · exact hrefuse

/-- A line that is not too long and says `a` is read as `a`. -/
theorem Terminated.reads_parsed {s : String} {a : α} (h : Terminated (Text.encode s) line)
    (hlength : line.length ≤ maxLine + 1) (field : String)
    (hparse : parse (Text.trim s) = .ok a) : Reader.Reads (readParsed field parse) line a := by
  have hfield : Reader.Reads readField line s := (h.reads hlength).map (.pure _)
  refine hfield.map ?_
  rw [hparse]
  exact .pure a

end Parsed

/-! ## Counted content -/

/-- A length that is none, or that is larger than content may be, is refused. -/
theorem refuses_body (h : Terminated content line)
    (hvalue : ∀ n, Says Text.parse64 content n → maxBody < n.toNat) :
    ∃ e, e.isViolation ∧ Reader.Refuses readBody line e := by
  rcases parsed_reads_or_refuses "length" Text.parse64 h with ⟨n, hn, hread⟩ | ⟨e, he, hrefuse⟩
  · have hlarge : Reader.Refuses (readExactly n.toNat) [] (.bodyTooLarge n.toNat) := by
      rw [readExactly, if_pos (hvalue n hn)]
      exact Reader.refuses_fail _
    exact ⟨_, rfl, Reader.Refuses.at_once (a := n) hlarge hread⟩
  · exact ⟨e, he, hrefuse.bind _⟩

/-- Content that is too large is refused by its length. -/
theorem refuses_writeBody {s : String} (h : maxBody < Text.size s) :
    ∃ e, e.isViolation ∧ Reader.Refuses readBody (writeLine (toString (Text.size s))) e := by
  refine refuses_body (terminated_writeLine _) fun n hn => ?_
  obtain ⟨t, ht, hparse⟩ := hn
  rw [Text.encode_inj, (isLine_toString _).singleLine_eq] at ht
  rw [← ht, Text.trim_toString, Text.parse64_eq_ok_iff] at hparse
  rwa [← (Text.isNumeral_toString _).unique hparse]

/-- A field that is too long is refused. -/
theorem refuses_writeLine {s : String} (h : maxLine < Text.size s) :
    Reader.Refuses readField (writeLine s) .lineTooLong := by
  have hlength : maxLine < (Text.encode (singleLine s)).length := by
    rwa [Text.length_encode, size_singleLine]
  exact ((refuses_long (not_mem_encode_singleLine s).1 hlength).append [lineFeed]).bind _

/-- Content that ends before its length is reached is taken to the end of the stream. -/
theorem readBody_short {n : UInt64} {body : Octets}
    (h : Reader.Reads (readParsed "length" Text.parse64) line n) (hn : n.toNat ≤ maxBody)
    (hbody : body.length < n.toNat) : readBody (line ++ body) = (.error .unexpectedEnd, []) := by
  rw [readBody, Reader.bind_ok (h body), readExactly_eq, if_neg (Nat.not_lt.2 hn), if_pos hbody]

end Frame

end Harbor
