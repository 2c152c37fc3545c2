import Harbor.Text.Utf8
import Harbor.Text.Quoted

/-!
# Readers over unread octets

A reader takes what it needs from the front of the octets a peer has sent and
leaves the rest, also when it fails: what a failed read has consumed is part of
its meaning, since later reads go on from there. A stream that has ended is an
octet string with nothing after it.

Main results:

* `Reader.Consumes.bind`: readers that only ever consume from the front can be
  put in sequence.
* `Reader.bind_shorter`: where the first of two readers has taken octets, fewer are left.
-/

namespace Harbor

namespace Frame

/-- Why a framed message cannot be read (`FrameError`). -/
inductive Error where
  /-- The stream ends inside a message. -/
  | unexpectedEnd
  /-- A line has more octets than a line may have. -/
  | lineTooLong
  /-- A line does not hold what the message asks for at this place. -/
  | malformed (field value : String)
  /-- The announced content is larger than content may be. -/
  | bodyTooLarge (size : Nat)
  /-- The octets are not text. -/
  | notText
  deriving Repr, DecidableEq

/-- Most octets of a line, its terminator not counted (`MAX_LINE_LEN`). -/
def maxLine : Nat := 8192

/-- Most octets of one content (`MAX_BODY_LEN`). -/
def maxBody : Nat := 16777216

/-- The fault in words. -/
def Error.message : Error → String
  | unexpectedEnd => "connection closed in the middle of a message"
  | lineTooLong => s!"line too long (max: {maxLine} bytes)"
  | malformed field value => s!"malformed {field}: {Text.quote value}"
  | bodyTooLarge size => s!"content too large: {size} bytes (max: {maxBody})"
  | notText => "content is not valid UTF-8"

/-- Did the peer send something that the protocol does not allow, as opposed to going away
    (`is_protocol_violation`)? -/
def Error.isViolation : Error → Bool
  | unexpectedEnd => false
  | _ => true

end Frame

/-- A reader: its finding and the octets it leaves unread. -/
def Reader (α : Type) := Octets → Except Frame.Error α × Octets

namespace Reader

variable {α β : Type}

/-- Finds `a` without reading. -/
def found (a : α) : Reader α := fun bs => (.ok a, bs)

/-- Fails without reading further. -/
def fail (e : Frame.Error) : Reader α := fun bs => (.error e, bs)

/-- Reads with `r` and goes on as its finding says. -/
def andThen (r : Reader α) (k : α → Reader β) : Reader β := fun bs =>
  match r bs with
  | (.ok a, rest) => k a rest
  | (.error e, rest) => (.error e, rest)

instance : Monad Reader where
  pure := found
  bind := andThen

@[simp] theorem pure_apply (a : α) (bs : Octets) : (pure a : Reader α) bs = (.ok a, bs) := rfl

@[simp] theorem fail_apply (e : Frame.Error) (bs : Octets) :
    (fail e : Reader α) bs = (.error e, bs) := rfl

theorem bind_apply (r : Reader α) (k : α → Reader β) (bs : Octets) :
    (r >>= k) bs = match r bs with
      | (.ok a, rest) => k a rest
      | (.error e, rest) => (.error e, rest) := rfl

theorem bind_ok {r : Reader α} {k : α → Reader β} {bs rest : Octets} {a : α}
    (h : r bs = (.ok a, rest)) : (r >>= k) bs = k a rest := by rw [bind_apply, h]

theorem bind_error {r : Reader α} {k : α → Reader β} {bs rest : Octets} {e : Frame.Error}
    (h : r bs = (.error e, rest)) : (r >>= k) bs = (.error e, rest) := by rw [bind_apply, h]

/-- The reader leaves a tail of what it was given, whatever it finds. -/
def Consumes (r : Reader α) : Prop := ∀ bs, (r bs).2 <:+ bs

theorem Consumes.found (a : α) : Consumes (found a) := fun _ => List.suffix_rfl

theorem Consumes.fail (e : Frame.Error) : Consumes (fail e : Reader α) := fun _ => List.suffix_rfl

theorem Consumes.bind {r : Reader α} {k : α → Reader β} (hr : Consumes r)
    (hk : ∀ a, Consumes (k a)) : Consumes (r >>= k) := by
  intro bs
  have h := hr bs
  rw [bind_apply]
  split
  · next a rest heq => rw [heq] at h; exact (hk a rest).trans h
  · next e rest heq => rw [heq] at h; exact h

/-- A finding that took octets leaves fewer of them, whatever is read next. -/
theorem bind_shorter {r : Reader α} {k : α → Reader β} {bs : Octets} {b : β}
    (h : ((r >>= k) bs).1 = .ok b)
    (hr : ∀ a, (r bs).1 = .ok a → (r bs).2.length < bs.length ∨ (k a (r bs).2).1 ≠ .ok b)
    (hk : ∀ a, Consumes (k a)) : ((r >>= k) bs).2.length < bs.length := by
  rw [bind_apply] at h ⊢
  generalize r bs = p at h hr ⊢
  rcases p with ⟨_ | a, rest⟩
  · cases h
  · rcases hr a rfl with hlt | hne
    · exact Nat.lt_of_le_of_lt (hk a rest).length_le hlt
    · exact absurd h hne

/-- Reads to the end of the stream or the first fault. Gives what was found, how the
    reading ended and what is left unread. -/
def readAll (r : Reader (Option α)) (bs : Octets) : List α × Except Frame.Error Unit × Octets :=
  match r bs with
  | (.ok none, rest) => ([], .ok (), rest)
  | (.error e, rest) => ([], .error e, rest)
  | (.ok (some a), rest) =>
    if rest.length < bs.length then
      let (found, ending, rest') := readAll r rest
      (a :: found, ending, rest')
    else ([a], .ok (), rest)
termination_by bs.length

/-- Reads with one reader after another, going on after faults. -/
def readEach : List (Reader α) → Octets → List (Except Frame.Error α) × Octets
  | [], bs => ([], bs)
  | r :: rs, bs =>
    let (found, rest) := r bs
    let (later, rest') := readEach rs rest
    (found :: later, rest')

/-- What a reader finds and leaves when more octets may still arrive: nothing
    yet, unless the octet after those at hand would stay unread. -/
def settled? (r : Reader α) (bs : Octets) : Option (Except Frame.Error α × Octets) :=
  match r (bs ++ [0]) with
  | (_, []) => none
  | (result, rest) => some (result, rest.dropLast)

end Reader

end Harbor
