import Harbor.Proofs.Frame.Lines

/-!
# Which octets are content

Content is a line with a numeral on it, blanks around the numeral not counted, and then as
many octets as the numeral says, which are text. Reading either finds the content and leaves
what follows it, or fails in one of six ways. What a failed read has taken depends on the
fault: nothing, the line alone, the line and the octets that were announced, or all there is.

Main results:

* `readBody_eq_iff`: content is found exactly where it stands, and every fault arises
  exactly where it should.
-/

namespace Harbor.Frame

open Text (IsNumeral)

section

variable {bs rest : Octets} {line : String}

theorem readBody_nil : readBody [] = (.error .unexpectedEnd, []) := rfl

theorem readBody_unreadable {e : Error} (h : readLine bs = (.error e, rest)) :
    readBody bs = (.error e, rest) :=
  Reader.bind_error (Reader.bind_error (Reader.bind_error h))

/-- After a numeral that octets can count, as many octets as it says are taken. -/
theorem readBody_counted {n : Nat} (h : readLine bs = (.ok (some line), rest))
    (hline : IsNumeral (Text.trim line) n) (hn : n < UInt64.size) :
    readBody bs = readExactly n rest := by
  have hfield : readField bs = (.ok line, rest) := Reader.bind_ok h
  have hparse : Text.parse64 (Text.trim line) = .ok (UInt64.ofNat n) := by
    rw [Text.parse64_eq_ok_iff, UInt64.toNat_ofNat_of_lt' hn]
    exact hline
  have hcount : readParsed "length" Text.parse64 bs = (.ok (UInt64.ofNat n), rest) := by
    rw [readParsed, Reader.bind_ok hfield, hparse]
    rfl
  rw [readBody, Reader.bind_ok hcount, UInt64.toNat_ofNat_of_lt' hn]

/-- After any other line nothing more is taken. -/
theorem readBody_malformed (h : readLine bs = (.ok (some line), rest))
    (hline : ∀ n, IsNumeral (Text.trim line) n → UInt64.size ≤ n) :
    readBody bs = (.error (.malformed "length" line), rest) := by
  have hfield : readField bs = (.ok line, rest) := Reader.bind_ok h
  have hcount : readParsed "length" Text.parse64 bs =
      (.error (.malformed "length" line), rest) := by
    rw [readParsed, Reader.bind_ok hfield]
    cases hparse : Text.parse64 (Text.trim line) with
    | ok n =>
      exact absurd (hline _ (Text.parse64_eq_ok_iff.1 hparse)) (Nat.not_le.2 n.toNat_lt_size)
    | error e => rfl
  exact Reader.bind_error hcount

end

/-- What reading content finds in some octets, and what it leaves of them. -/
inductive ReadsBody (bs : Octets) : Except Error String → Octets → Prop
  /-- There is no line at all. -/
  | ended : bs = [] → ReadsBody bs (.error .unexpectedEnd) []
  /-- The line itself cannot be read. -/
  | unreadable {e : Error} {rest : Octets} : readLine bs = (.error e, rest) →
      ReadsBody bs (.error e) rest
  /-- The line is no numeral, or that of a number of more than 64 bits. -/
  | malformed {line : String} {rest : Octets} : readLine bs = (.ok (some line), rest) →
      (∀ n, IsNumeral (Text.trim line) n → UInt64.size ≤ n) →
      ReadsBody bs (.error (.malformed "length" line)) rest
  /-- More is announced than content may have. -/
  | tooLarge {line : String} {n : Nat} {rest : Octets} : readLine bs = (.ok (some line), rest) →
      IsNumeral (Text.trim line) n → n < UInt64.size → maxBody < n →
      ReadsBody bs (.error (.bodyTooLarge n)) rest
  /-- Less is there than was announced. -/
  | cutOff {line : String} {n : Nat} {rest : Octets} : readLine bs = (.ok (some line), rest) →
      IsNumeral (Text.trim line) n → n ≤ maxBody → rest.length < n →
      ReadsBody bs (.error .unexpectedEnd) []
  /-- The octets that were announced are not text. -/
  | notText {line : String} {octets rest : Octets} :
      readLine bs = (.ok (some line), octets ++ rest) →
      IsNumeral (Text.trim line) octets.length → octets.length ≤ maxBody →
      (∀ s, octets ≠ Text.encode s) → ReadsBody bs (.error .notText) rest
  /-- The octets that were announced are a text. -/
  | content {line s : String} {rest : Octets} :
      readLine bs = (.ok (some line), Text.encode s ++ rest) →
      IsNumeral (Text.trim line) (Text.size s) → Text.size s ≤ maxBody →
      ReadsBody bs (.ok s) rest

theorem lt_of_le_maxBody {n : Nat} (h : n ≤ maxBody) : n < UInt64.size :=
  Nat.lt_of_le_of_lt h (by decide)

theorem textOf_eq_error {octets : Octets} (h : ∀ s, octets ≠ Text.encode s) :
    textOf octets = .error .notText := by
  have hdecode : Text.decode? octets = none := by
    rw [Option.eq_none_iff_forall_ne_some]
    exact fun s hs => h s (Text.decode?_eq_some_iff.1 hs)
  rw [textOf, hdecode]

theorem ReadsBody.readBody_eq {bs rest : Octets} {found : Except Error String}
    (h : ReadsBody bs found rest) : readBody bs = (found, rest) := by
  cases h with
  | ended hnil => rw [hnil, readBody_nil]
  | unreadable hline => exact readBody_unreadable hline
  | malformed hline hnot => exact readBody_malformed hline hnot
  | tooLarge hline hnumeral hn hlarge =>
    rw [readBody_counted hline hnumeral hn, readExactly_eq, if_pos hlarge]
  | cutOff hline hnumeral hn hshort =>
    rw [readBody_counted hline hnumeral (lt_of_le_maxBody hn), readExactly_eq,
      if_neg (Nat.not_lt.2 hn), if_pos hshort]
  | notText hline hnumeral hn hnot =>
    rw [readBody_counted hline hnumeral (lt_of_le_maxBody hn), readExactly_eq,
      if_neg (Nat.not_lt.2 hn), if_neg (by simp), List.take_left, List.drop_left,
      textOf_eq_error hnot]
  | content hline hnumeral hn =>
    rw [readBody_counted hline hnumeral (lt_of_le_maxBody hn), readExactly_eq,
      if_neg (Nat.not_lt.2 hn), if_neg (by simp), ← Text.length_encode, List.take_left,
      List.drop_left, textOf, Text.decode?_encode]

/-- Some way of reading content fits any octets. -/
theorem exists_readsBody (bs : Octets) : ∃ found rest, ReadsBody bs found rest := by
  obtain ⟨found, rest, hline⟩ : ∃ found rest, readLine bs = (found, rest) := ⟨_, _, rfl⟩
  match found with
  | .error e => exact ⟨_, _, .unreadable hline⟩
  | .ok none => exact ⟨_, _, .ended (readLine_eq_none_iff.1 hline).1⟩
  | .ok (some line) =>
    by_cases hnumeral : ∃ n, IsNumeral (Text.trim line) n ∧ n < UInt64.size
    case neg =>
      exact ⟨_, _, .malformed hline fun n hn => Nat.not_lt.1 fun hlt => hnumeral ⟨n, hn, hlt⟩⟩
    obtain ⟨n, hn, hlt⟩ := hnumeral
    by_cases hlarge : maxBody < n
    · exact ⟨_, _, .tooLarge hline hn hlt hlarge⟩
    by_cases hshort : rest.length < n
    · exact ⟨_, _, .cutOff hline hn (Nat.not_lt.1 hlarge) hshort⟩
    -- the octets that the numeral counts, and what follows them
    have hlength : (rest.take n).length = n := List.length_take_of_le (Nat.not_lt.1 hshort)
    rw [← List.take_append_drop n rest] at hline
    rw [← hlength] at hn hlarge
    by_cases htext : ∃ s, rest.take n = Text.encode s
    · obtain ⟨s, hs⟩ := htext
      rw [hs] at hline hn hlarge
      exact ⟨_, _, .content hline hn (Nat.not_lt.1 hlarge)⟩
    · exact ⟨_, _, .notText hline hn (Nat.not_lt.1 hlarge) fun s hs => htext ⟨s, hs⟩⟩

/-- Reading content finds and leaves what `ReadsBody` says, and nothing else. -/
theorem readBody_eq_iff (bs rest : Octets) (found : Except Error String) :
    readBody bs = (found, rest) ↔ ReadsBody bs found rest := by
  constructor
  · intro h
    obtain ⟨found', rest', hreads⟩ := exists_readsBody bs
    rw [hreads.readBody_eq] at h
    cases h
    exact hreads
  · exact ReadsBody.readBody_eq

/-- A sign, zeros in front and blanks around do not count. -/
example : readBody (Text.encode " +003 \nabcd") = (.ok "abc", Text.encode "d") := by
  cbv

end Harbor.Frame
