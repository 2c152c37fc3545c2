/-!
# Unsigned decimal numbers

The grammar is an optional `+` followed by one or more ASCII digits, leading
zeros allowed, with a value up to a limit. Digits are read from the left and the
first fault met is the one reported, so a digit that takes the value over the
limit hides a stray character after it and not one before it.
-/

namespace Harbor.Text

/-- Why a text is not an unsigned number. -/
inductive NumberError where
  | empty
  | invalidDigit
  | tooLarge
  deriving Repr, DecidableEq

namespace NumberError

/-- The fault in words. -/
def message : NumberError → String
  | empty => "cannot parse integer from empty string"
  | invalidDigit => "invalid digit found in string"
  | tooLarge => "number too large to fit in target type"

end NumberError

/-- The value of an ASCII digit. -/
def digit? (c : Char) : Option Nat :=
  if '0' ≤ c ∧ c ≤ '9' then some (c.toNat - '0'.toNat) else none

/-- Reads digits from the left onto the value so far. -/
def readDigits (limit : Nat) : Nat → List Char → Except NumberError Nat
  | value, [] => .ok value
  | value, c :: cs =>
    match digit? c with
    | none => .error .invalidDigit
    | some d => if 10 * value + d ≤ limit then readDigits limit (10 * value + d) cs
      else .error .tooLarge

/-- Reads an unsigned number of at most `limit`. -/
def readUnsigned (limit : Nat) (cs : List Char) : Except NumberError Nat :=
  match cs with
  | [] => .error .empty
  | ['+'] => .error .invalidDigit
  | '+' :: ds => readDigits limit 0 ds
  | ds => readDigits limit 0 ds

/-- Largest number of 16 bits. -/
def limit16 : Nat := UInt16.size - 1

/-- Largest number of 64 bits. -/
def limit64 : Nat := UInt64.size - 1

/-- A 16-bit number in decimal. -/
def parse16 (s : String) : Except NumberError UInt16 :=
  (readUnsigned limit16 s.toList).map UInt16.ofNat

/-- A 64-bit number in decimal. -/
def parse64 (s : String) : Except NumberError UInt64 :=
  (readUnsigned limit64 s.toList).map UInt64.ofNat

end Harbor.Text
