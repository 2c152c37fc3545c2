import Harbor.Frame.Reader
import Harbor.SessionId

/-!
# Lines and counted content

A message is a sequence of fields, each on a line of its own. A line ends at a
line feed; a carriage return just before it belongs to the terminator. A stream
that ends after an unterminated line still delivers that line. Content is a
decimal count on a line of its own followed by that many octets and nothing
else, so it may hold line feeds.

Writing flattens: a carriage return or line feed inside a field would end it, so
each becomes a space.

Main results:

* `readLine_consumes`, `readBody_consumes`: reading only takes from the front.
* `readLine_shorter`: a line that was read makes the unread octets fewer.
-/

namespace Harbor.Frame

/-- The octet that ends a line. -/
def lineFeed : UInt8 := 10

/-- The octet that belongs to the terminator when it stands before a line feed. -/
def carriageReturn : UInt8 := 13

/-! ## Lines -/

/-- Up to `n` octets, ending early after a line feed, and the octets after them. -/
def splitLine : Nat → Octets → Octets × Octets
  | 0, bs => ([], bs)
  | _ + 1, [] => ([], [])
  | n + 1, b :: bs =>
    if b = lineFeed then ([b], bs)
    else
      let (line, rest) := splitLine n bs
      (b :: line, rest)

/-- The content of a line that ends in a terminator. -/
def unterminated? (line : Octets) : Option Octets :=
  match line.reverse with
  | [] => none
  | b :: front =>
    if b = lineFeed then
      match front with
      | c :: front' => if c = carriageReturn then some front'.reverse else some front.reverse
      | [] => some []
    else none

/-- The text that octets encode, or the fault. -/
def textOf (octets : Octets) : Except Error String :=
  match Text.decode? octets with
  | some s => .ok s
  | none => .error .notText

/-- The text of a raw line, or the fault. Only a line that has no terminator among
    the octets looked at can be too long. -/
def lineText (line : Octets) : Except Error String :=
  match unterminated? line with
  | some content => textOf content
  | none => if maxLine < line.length then .error .lineTooLong else textOf line

/-- Reads one line without its terminator, or finds that the stream has ended (`read_line`). At most
    one octet more than a line may have is looked at. -/
def readLine : Reader (Option String) := fun bs =>
  match splitLine (maxLine + 1) bs with
  | ([], rest) => (.ok none, rest)
  | (line, rest) => ((lineText line).map some, rest)

/-- Reads a line that the message needs (`read_field`). -/
def readField : Reader String := do
  match ← readLine with
  | some line => return line
  | none => Reader.fail .unexpectedEnd

/-- Reads a line and what it says, blanks around it not counted (`read_parsed`). -/
def readParsed {ε α : Type} (field : String) (parse : String → Except ε α) : Reader α := do
  let line ← readField
  match parse (Text.trim line) with
  | .ok a => return a
  | .error _ => Reader.fail (.malformed field line)

/-- Reads a session id on a line of its own. -/
def readSessionId : Reader SessionId := readParsed "session id" SessionId.ofText?

/-! ## Counted content -/

/-- Takes exactly `n` octets; all that is left when there are fewer. -/
def takeExactly (n : Nat) : Reader Octets := fun bs =>
  let front := bs.take n
  if front.length = n then (.ok front, bs.drop n) else (.error .unexpectedEnd, [])

/-- Reads a text of exactly `n` octets (`read_exact_body`). -/
def readExactly (n : Nat) : Reader String := do
  if maxBody < n then Reader.fail (.bodyTooLarge n)
  else
    match textOf (← takeExactly n) with
    | .ok s => return s
    | .error e => Reader.fail e

/-- Reads a count line and that much content (`read_body`). -/
def readBody : Reader String := do
  let count ← readParsed "length" Text.parse64
  readExactly count.toNat

/-! ## Writing -/

/-- A text with every line break character replaced by a space (`single_line`). -/
def singleLine (s : String) : String :=
  s.map fun c => if c = '\n' ∨ c = '\r' then ' ' else c

/-- One field on a line of its own (`write_line`). -/
def writeLine (s : String) : Octets := Text.encode (singleLine s) ++ [lineFeed]

/-- A count line and the content (`write_body`). -/
def writeBody (s : String) : Octets := writeLine (toString (Text.size s)) ++ Text.encode s

/-! ## Reading takes from the front -/

theorem splitLine_append (n : Nat) (bs : Octets) :
    (splitLine n bs).1 ++ (splitLine n bs).2 = bs := by
  induction n generalizing bs with
  | zero => rfl
  | succ n ih =>
    cases bs with
    | nil => rfl
    | cons b bs =>
      unfold splitLine
      split
      · rfl
      · simp [ih bs]

theorem readLine_consumes : Reader.Consumes readLine := by
  intro bs
  have h := splitLine_append (maxLine + 1) bs
  unfold readLine
  split
  · next rest heq => rw [heq] at h; exact ⟨[], h⟩
  · next line rest _ heq => rw [heq] at h; exact ⟨line, h⟩

theorem readLine_shorter {bs : Octets} {line : String}
    (h : (readLine bs).1 = .ok (some line)) : (readLine bs).2.length < bs.length := by
  have happ := splitLine_append (maxLine + 1) bs
  unfold readLine at h ⊢
  split at h
  · cases h
  · next raw rest hraw heq =>
    rw [heq] at happ
    cases raw with
    | nil => exact absurd rfl hraw
    | cons b raw =>
      simp only at happ ⊢
      rw [← happ]
      simp only [List.cons_append, List.length_cons, List.length_append]
      omega

/-- What cannot be found without a line makes the unread octets fewer too. -/
theorem readLine_bind_shorter {β : Type} {k : Option String → Reader β} {bs : Octets} {b : β}
    (h : ((readLine >>= k) bs).1 = .ok b) (hnone : ∀ rest, (k none rest).1 ≠ .ok b)
    (hk : ∀ line?, Reader.Consumes (k line?)) : ((readLine >>= k) bs).2.length < bs.length := by
  refine Reader.bind_shorter h (fun line? hline => ?_) hk
  cases line? with
  | none => exact .inr (hnone _)
  | some line => exact .inl (readLine_shorter hline)

theorem readField_consumes : Reader.Consumes readField :=
  readLine_consumes.bind fun
    | some line => .found line
    | none => .fail .unexpectedEnd

theorem readField_shorter {bs : Octets} {line : String}
    (h : (readField bs).1 = .ok line) : (readField bs).2.length < bs.length := by
  refine readLine_bind_shorter h (fun _ => nofun) fun line? => ?_
  cases line? with
  | none => exact .fail .unexpectedEnd
  | some line => exact .found line

theorem readParsed_consumes {ε α : Type} (field : String) (parse : String → Except ε α) :
    Reader.Consumes (readParsed field parse) :=
  readField_consumes.bind fun line => by
    split
    · exact .found _
    · exact .fail _

theorem takeExactly_consumes (n : Nat) : Reader.Consumes (takeExactly n) := by
  intro bs
  unfold takeExactly
  dsimp only
  split
  · exact List.drop_suffix n bs
  · exact List.nil_suffix

theorem readExactly_consumes (n : Nat) : Reader.Consumes (readExactly n) := by
  unfold readExactly
  split
  · exact .fail _
  · exact (takeExactly_consumes n).bind fun octets => by
      split
      · exact .found _
      · exact .fail _

theorem readBody_consumes : Reader.Consumes readBody :=
  (readParsed_consumes _ _).bind fun count => readExactly_consumes count.toNat

end Harbor.Frame
