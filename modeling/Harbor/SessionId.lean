import Harbor.Text.Blank
import Harbor.Text.Decimal
import Harbor.Text.Quoted

/-!
# Session ids

Sessions are numbered from one in 64 bits. After the largest number there is no
next one.
-/

namespace Harbor

/-- The number of a session. -/
structure SessionId where
  number : UInt64
  deriving Repr, DecidableEq

namespace SessionId

/-- The first number given out (`SessionId.FIRST`). -/
def first : SessionId := ⟨1⟩

instance : Inhabited SessionId := ⟨first⟩

/-- The number after this one, none after the largest (`SessionId.next`). -/
def next? (id : SessionId) : Option SessionId :=
  if id.number.toNat < Text.limit64 then some ⟨id.number + 1⟩ else none

/-- A session id in decimal. -/
def text (id : SessionId) : String := toString id.number.toNat

/-- The text is not a session id (`DomainError`). -/
structure Error where
  given : String
  reason : Text.NumberError
  deriving Repr, DecidableEq

/-- The fault in words, with the text as it was given. -/
def Error.message (e : Error) : String :=
  s!"Failed to parse session id: {Text.quote e.given}: {e.reason.message}"

/-- Reads a session id; blanks around it do not count (`SessionId.from_str`). -/
def ofText? (s : String) : Except Error SessionId :=
  match Text.parse64 (Text.trim s) with
  | .ok n => .ok ⟨n⟩
  | .error reason => .error ⟨s, reason⟩

theorem number_of_next? {id n : SessionId} (h : id.next? = some n) :
    n.number.toNat = id.number.toNat + 1 := by
  unfold next? at h
  split at h
  · next hlt =>
    cases h
    have : id.number.toNat < 2 ^ 64 - 1 := hlt
    simp only [UInt64.toNat_add, UInt64.toNat_one]
    omega
  · cases h

end SessionId

end Harbor
