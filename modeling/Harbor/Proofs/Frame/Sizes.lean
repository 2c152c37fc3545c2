import Harbor.Proofs.Frame.Lines

/-!
# What is read fits

A reader ensures a property if it finds nothing that does not have it, on any octets. The
limits of lines and of content are ensured in this sense: whoever reads a field need not
look at its size again, nor for a line feed in it.

Main results:

* `Reader.Ensures.bind`: what a sequence of readers ensures.
* `ensures_readField`, `ensures_readBody`: fields and content are within the limits.
* `ensures_readLine_unbroken`: no line that is read has a line feed in it.
-/

namespace Harbor

namespace Reader

variable {α β : Type} {r : Reader α} {k : α → Reader β} {P : α → Prop} {Q : β → Prop}

/-- Whatever the reader finds has the property. -/
def Ensures (r : Reader α) (P : α → Prop) : Prop := ∀ bs a, (r bs).1 = .ok a → P a

theorem Ensures.pure {a : α} (h : P a) : Ensures (pure a) P := by
  rintro bs a' heq
  cases heq
  exact h

theorem ensures_fail (e : Frame.Error) : Ensures (fail e) P := fun _ _ heq => nomatch heq

theorem Ensures.bind (hr : r.Ensures P) (hk : ∀ a, P a → (k a).Ensures Q) :
    (r >>= k).Ensures Q := by
  intro bs b hb
  rw [bind_apply] at hb
  split at hb
  · next a rest heq => exact hk a (hr bs a (congrArg Prod.fst heq)) rest b hb
  · cases hb

/-- A finding that nothing is asked of. -/
theorem Ensures.after (hk : ∀ a, (k a).Ensures Q) : (r >>= k).Ensures Q :=
  Ensures.bind (fun _ _ _ => trivial) fun a _ => hk a

theorem Ensures.and {P' : α → Prop} (h : r.Ensures P) (h' : r.Ensures P') :
    r.Ensures fun a => P a ∧ P' a := fun bs a heq => ⟨h bs a heq, h' bs a heq⟩

end Reader

namespace Frame

theorem length_splitLine_le (n : Nat) (bs : Octets) : (splitLine n bs).1.length ≤ n := by
  induction n generalizing bs with
  | zero => exact Nat.le_refl 0
  | succ n ih =>
    cases bs with
    | nil => exact Nat.zero_le _
    | cons b bs =>
      rw [splitLine]
      split
      · exact Nat.succ_le_succ (Nat.zero_le n)
      · exact Nat.succ_le_succ (ih bs)

theorem length_unterminated?_lt {line content : Octets} (h : unterminated? line = some content) :
    content.length < line.length := by
  have hlength : line.reverse.length = line.length := List.length_reverse
  rw [← hlength]
  unfold unterminated? at h
  generalize line.reverse = reversed at h
  split at h
  · cases h
  · split at h
    · split at h
      · next c front =>
        split at h <;> cases h <;> simp only [List.length_reverse, List.length_cons] <;> omega
      · cases h
        exact Nat.zero_lt_succ _
    · cases h

theorem length_of_textOf {octets : Octets} {s : String} (h : textOf octets = .ok s) :
    Text.size s = octets.length := by
  unfold textOf at h
  split at h
  · next hdecode =>
    cases h
    rw [← Text.length_encode, Text.encode_of_decode? hdecode]
  · cases h

/-- A raw line that is text is not too long, its terminator not counted. -/
theorem size_le_of_lineText {line : Octets} {s : String} (h : lineText line = .ok s)
    (hlength : line.length ≤ maxLine + 1) : Text.size s ≤ maxLine := by
  unfold lineText at h
  split at h
  · next content hcontent =>
    have hlt := length_unterminated?_lt hcontent
    rw [length_of_textOf h]
    omega
  · split at h
    · cases h
    · rw [length_of_textOf h]
      omega

/-- A line that is read is the text of a raw line. -/
theorem ensures_readLine_of {P : String → Prop}
    (h : ∀ bs s, lineText (splitLine (maxLine + 1) bs).1 = .ok s → P s) :
    Reader.Ensures readLine fun line => ∀ s ∈ line, P s := by
  intro bs found hfound s hs
  have hraw := h bs
  unfold readLine at hfound
  split at hfound
  · cases hfound
    cases hs
  · next line rest _ heq =>
    rw [heq] at hraw
    cases hline : lineText line with
    | error e =>
      rw [hline] at hfound
      cases hfound
    | ok s' =>
      rw [hline] at hfound
      cases hfound
      cases hs
      exact hraw s hline

theorem ensures_readField_of {P : String → Prop}
    (h : Reader.Ensures readLine fun line => ∀ s ∈ line, P s) : Reader.Ensures readField P := by
  refine h.bind fun line hline => ?_
  cases line with
  | none => exact Reader.ensures_fail _
  | some s => exact .pure (hline s rfl)

theorem ensures_readLine : Reader.Ensures readLine fun line => ∀ s ∈ line, Text.size s ≤ maxLine :=
  ensures_readLine_of fun bs _ h => size_le_of_lineText h (length_splitLine_le (maxLine + 1) bs)

theorem ensures_readField : Reader.Ensures readField fun s => Text.size s ≤ maxLine :=
  ensures_readField_of ensures_readLine

/-! ## No line feed in a line -/

theorem lineFeed_not_mem_dropLast_splitLine (n : Nat) (bs : Octets) :
    lineFeed ∉ (splitLine n bs).1.dropLast := by
  induction n generalizing bs with
  | zero => exact List.not_mem_nil
  | succ n ih =>
    cases bs with
    | nil => exact List.not_mem_nil
    | cons b bs =>
      rw [splitLine]
      split
      · exact List.not_mem_nil
      · next hb =>
        have hrest := ih bs
        generalize splitLine n bs = split at hrest ⊢
        obtain ⟨_ | ⟨c, line⟩, rest⟩ := split
        · exact List.not_mem_nil
        · rw [List.dropLast_cons_cons, List.mem_cons, not_or]
          exact ⟨Ne.symm hb, hrest⟩

theorem unterminated?_concat_of_ne {front : Octets} {b : UInt8} (h : b ≠ lineFeed) :
    unterminated? (front ++ [b]) = none := by
  unfold unterminated?
  rw [List.reverse_append, List.reverse_singleton, List.singleton_append]
  exact if_neg h

theorem lineFeed_not_mem_of_textOf {octets : Octets} {s : String} (h : textOf octets = .ok s)
    (hoctets : lineFeed ∉ octets) : '\n' ∉ s.toList := by
  unfold textOf at h
  split at h
  · next hdecode =>
    cases h
    intro hmem
    apply hoctets
    rw [← Text.encode_of_decode? hdecode]
    exact Text.mem_encode hmem (by decide)
  · cases h

/-- A raw line has one line feed at most, at its end, and its text has none. -/
theorem lineFeed_not_mem_of_lineText {line : Octets} {s : String} (h : lineText line = .ok s)
    (hfront : lineFeed ∉ line.dropLast) : '\n' ∉ s.toList := by
  unfold lineText at h
  rcases List.eq_nil_or_concat line with rfl | ⟨front, b, rfl⟩
  · cases h
    exact List.not_mem_nil
  · rw [List.concat_eq_append, List.dropLast_concat] at hfront
    rw [List.concat_eq_append] at h
    by_cases hb : b = lineFeed
    · rw [hb, unterminated?_concat] at h
      refine lineFeed_not_mem_of_textOf h ?_
      split
      · exact fun hmem => hfront (List.dropLast_subset _ hmem)
      · exact hfront
    · rw [unterminated?_concat_of_ne hb] at h
      dsimp only at h
      split at h
      · cases h
      · refine lineFeed_not_mem_of_textOf h ?_
        rw [List.mem_append, List.mem_singleton, not_or]
        exact ⟨hfront, Ne.symm hb⟩

/-- A line feed ends the line that it is in. -/
theorem ensures_readLine_unbroken :
    Reader.Ensures readLine fun line => ∀ s ∈ line, '\n' ∉ s.toList :=
  ensures_readLine_of fun bs _ h =>
    lineFeed_not_mem_of_lineText h (lineFeed_not_mem_dropLast_splitLine (maxLine + 1) bs)

/-! ## Content -/

theorem ensures_readExactly (n : Nat) :
    Reader.Ensures (readExactly n) fun s => Text.size s ≤ maxBody := by
  unfold readExactly
  split
  · exact Reader.ensures_fail _
  · next hle =>
    have htake : Reader.Ensures (takeExactly n) fun octets => octets.length = n := by
      intro bs octets h
      unfold takeExactly at h
      dsimp only at h
      split at h <;> cases h
      assumption
    refine htake.bind fun octets hlength => ?_
    split
    · next s htext =>
      refine .pure ?_
      rw [length_of_textOf htext, hlength]
      exact Nat.not_lt.1 hle
    · exact Reader.ensures_fail _

theorem ensures_readBody : Reader.Ensures readBody fun s => Text.size s ≤ maxBody :=
  .after fun count => ensures_readExactly count.toNat

end Frame

end Harbor
