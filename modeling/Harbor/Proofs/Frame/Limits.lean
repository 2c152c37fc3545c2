import Harbor.Proofs.Frame.Refusals

/-!
# How long a line may be

A line may have 8192 octets, its terminator not counted. Of the line and its terminator
8193 octets are looked at, which leaves room for a line feed but not for a carriage return
before it.

Main results:

* `Terminated.readLine_eq`: a line is taken whole exactly if its line feed is looked at.
* `readLine_limit`: how long a line may be, by its terminator.

**Deviation from the limit (stricter).** A line of exactly 8192 octets is read if a line feed
ends it, and refused as too long if a carriage return and a line feed do
(`full_line_refused`). Shorter and longer lines are treated alike, whichever terminator they
have.
-/

namespace Harbor.Frame

/-- A line of text is taken whole if its line feed is among the octets looked at, and is given
    up behind these octets if it is not. -/
theorem Terminated.readLine_eq {content : String} {line : Octets}
    (h : Terminated (Text.encode content) line) (rest : Octets) :
    readLine (line ++ rest) =
      if line.length ≤ maxLine + 1 then (.ok (some content), rest)
      else (.error .lineTooLong, (line ++ rest).drop (maxLine + 1)) := by
  split
  · next hshort => exact h.reads hshort rest
  · next hlong =>
    obtain ⟨front, rfl, hfront, -⟩ := h.exists_front
    have hlength : maxLine < front.length := by
      simp only [List.length_append, List.length_singleton] at hlong
      omega
    rw [List.append_assoc]
    exact readLine_long hfront hlength ([lineFeed] ++ rest)

/-- A line that a line feed ends may have as many octets as the limit says, and a line that a
    carriage return and a line feed end may have one less. What is longer is refused. -/
theorem readLine_limit (content : String) (hfeed : lineFeed ∉ Text.encode content)
    (hreturn : (Text.encode content).getLast? ≠ some carriageReturn) (rest : Octets) :
    let line := Text.encode content ++ [lineFeed]
    let line' := Text.encode content ++ [carriageReturn, lineFeed]
    readLine (line ++ rest) =
      (if Text.size content ≤ maxLine then (.ok (some content), rest)
      else (.error .lineTooLong, (line ++ rest).drop (maxLine + 1))) ∧
    readLine (line' ++ rest) =
      (if Text.size content < maxLine then (.ok (some content), rest)
      else (.error .lineTooLong, (line' ++ rest).drop (maxLine + 1))) := by
  intro line line'
  have hline : Terminated (Text.encode content) line := ⟨hfeed, .inr ⟨rfl, hreturn⟩⟩
  have hline' : Terminated (Text.encode content) line' := ⟨hfeed, .inl rfl⟩
  have hlength : line.length ≤ maxLine + 1 ↔ Text.size content ≤ maxLine := by
    simp only [line, List.length_append, Text.length_encode, List.length_singleton]
    omega
  have hlength' : line'.length ≤ maxLine + 1 ↔ Text.size content < maxLine := by
    simp only [line', List.length_append, Text.length_encode, List.length_cons, List.length_nil]
    omega
  constructor
  · rw [hline.readLine_eq]
    simp only [hlength]
  · rw [hline'.readLine_eq]
    simp only [hlength']

/-! ## A full line -/

/-- A line of so many octets. -/
def filled (n : Nat) : String := String.ofList (List.replicate n 'x')

theorem encode_filled (n : Nat) : Text.encode (filled n) = List.replicate n 120 :=
  Text.encode_replicate (by decide) n

theorem size_filled (n : Nat) : Text.size (filled n) = n := by
  rw [← Text.length_encode, encode_filled, List.length_replicate]

theorem terminator_not_in_filled (n : Nat) : lineFeed ∉ Text.encode (filled n) ∧
    (Text.encode (filled n)).getLast? ≠ some carriageReturn := by
  rw [encode_filled]
  constructor
  · intro hmem
    exact absurd (List.eq_of_mem_replicate hmem) (by decide)
  · intro hlast
    exact absurd (List.eq_of_mem_replicate (List.mem_of_getLast? hlast)) (by decide)

/-- The longest line that may have either terminator, before another line. -/
theorem readLine_limit_either :
    let content := filled 8191
    let rest := Text.encode "get\n"
    lineFeed ∉ Text.encode content ∧
      (Text.encode content).getLast? ≠ some carriageReturn ∧
      readLine (Text.encode content ++ [lineFeed] ++ rest) = (.ok (some content), rest) ∧
      readLine (Text.encode content ++ [carriageReturn, lineFeed] ++ rest) =
        (.ok (some content), rest) := by
  intro content rest
  obtain ⟨hfeed, hreturn⟩ := terminator_not_in_filled 8191
  obtain ⟨hread, hread'⟩ := readLine_limit content hfeed hreturn rest
  have hsize : Text.size content < maxLine := by
    rw [size_filled]
    decide
  rw [if_pos (Nat.le_of_lt hsize)] at hread
  rw [if_pos hsize] at hread'
  exact ⟨hfeed, hreturn, hread, hread'⟩

/-- A line of as many octets as a line may have, which a carriage return and a line feed end.
    Its line feed is left on the stream. -/
theorem full_line_refused :
    let content := filled 8192
    Text.size content ≤ maxLine ∧ lineFeed ∉ Text.encode content ∧
      (Text.encode content).getLast? ≠ some carriageReturn ∧
      readLine (Text.encode content ++ [lineFeed]) = (.ok (some content), []) ∧
      readLine (Text.encode content ++ [carriageReturn, lineFeed]) =
        (.error .lineTooLong, [lineFeed]) := by
  intro content
  obtain ⟨hfeed, hreturn⟩ := terminator_not_in_filled 8192
  have hsize : Text.size content = maxLine := size_filled 8192
  refine ⟨Nat.le_of_eq hsize, hfeed, hreturn, ?_, ?_⟩
  · have hline : Terminated (Text.encode content) (Text.encode content ++ [lineFeed]) :=
      ⟨hfeed, .inr ⟨rfl, hreturn⟩⟩
    have hlength : (Text.encode content ++ [lineFeed]).length = maxLine + 1 := by
      rw [List.length_append, Text.length_encode, hsize, List.length_singleton]
    exact (hline.reads (Nat.le_of_eq hlength)).apply
  · have hfront : lineFeed ∉ Text.encode content ++ [carriageReturn] := by
      rw [List.mem_append, List.mem_singleton, not_or]
      exact ⟨hfeed, by decide⟩
    have hlength : (Text.encode content ++ [carriageReturn]).length = maxLine + 1 := by
      rw [List.length_append, Text.length_encode, hsize, List.length_singleton]
    have hread := readLine_long hfront (by omega) [lineFeed]
    rwa [← hlength, List.drop_left, List.append_assoc] at hread

end Harbor.Frame
