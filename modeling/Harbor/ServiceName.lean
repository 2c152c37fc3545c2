import Harbor.Text.Utf8
import Harbor.Text.Quoted

/-!
# Service names

A service advertises itself under a name of at most 50 ASCII characters, none of
them NUL, so that it fits a fixed field padded with NULs. The empty name is a
name; it is the one that stop requests carry.

Main results:

* `ofText?_text`: every name is accepted again from its own text.
-/

namespace Harbor

/-- Octets that the longest service name takes (`MAX_SERVICE_NAME_LEN`). -/
def ServiceName.maxSize : Nat := 50

/-- A service name. -/
structure ServiceName where
  text : String
  fits : Text.size text ≤ ServiceName.maxSize
  ascii : ∀ c ∈ text.toList, c.toNat < 128
  noNul : ∀ c ∈ text.toList, c ≠ '\x00'

namespace ServiceName

/-- Why a text is not a service name (`DomainError`). -/
inductive Error where
  /-- The text takes more octets than a name may. -/
  | tooLong (size : Nat)
  /-- The text has a character outside ASCII. -/
  | notAscii (text : String)
  /-- The text has a NUL, which would end the name on the wire. -/
  | hasNul (text : String)
  deriving Repr, DecidableEq

/-- The fault in words. -/
def Error.message : Error → String
  | tooLong size => s!"Service name too long: {size} bytes (max: {maxSize})"
  | notAscii text => s!"Invalid service name {Text.quote text}: must be ASCII"
  | hasNul text => s!"Invalid service name {Text.quote text}: must not contain NUL"

/-- Accepts a text as a name (`ServiceName.new`). Length is judged first, then the character set. -/
def ofText? (text : String) : Except Error ServiceName :=
  if fits : Text.size text ≤ maxSize then
    if ascii : ∀ c ∈ text.toList, c.toNat < 128 then
      if noNul : ∀ c ∈ text.toList, c ≠ '\x00' then .ok ⟨text, fits, ascii, noNul⟩
      else .error (.hasNul text)
    else .error (.notAscii text)
  else .error (.tooLong (Text.size text))

/-- The empty name (`ServiceName.empty`). -/
def empty : ServiceName := ⟨"", by decide, by simp, by simp⟩

instance : Inhabited ServiceName := ⟨empty⟩

@[ext] theorem ext {a b : ServiceName} (h : a.text = b.text) : a = b := by
  cases a; cases b; cases h; rfl

instance : DecidableEq ServiceName := fun a b =>
  if h : a.text = b.text then .isTrue (ext h) else .isFalse fun e => h (e ▸ rfl)

/-- Is this the empty name? -/
def isEmpty (name : ServiceName) : Bool := name.text.isEmpty

/-- A name as diagnostics show it. -/
def debugText (name : ServiceName) : String := s!"ServiceName({Text.quote name.text})"

@[simp] theorem ofText?_text (name : ServiceName) : ofText? name.text = .ok name := by
  rw [ofText?, dif_pos name.fits, dif_pos name.ascii, dif_pos name.noNul]

end ServiceName

end Harbor
