import Harbor.Command.Arguments
import Harbor.Net.Address
import Harbor.SessionId
import Harbor.Text.Decimal

/-!
# Values of arguments

How texts on a command line are read as what a command needs, and the reading of
whole arguments as what a command is to do.
-/

namespace Harbor.Command

/-- The version of the commands. -/
def versionText : String := "0.3.0"

/-- What an `Except` holds if it is not a fault. -/
def accepted? {ε α : Type} : Except ε α → Option α
  | .ok a => some a
  | .error _ => none

/-- A port on a command line. Zero may have a minus sign. -/
def portValue? (s : String) : Option Port :=
  match s.toList with
  | '-' :: digits => if !digits.isEmpty && digits.all (· == '0') then some 0 else none
  | _ => accepted? (Text.parse16 s)

/-- A 64-bit number on a command line. -/
def numberValue? (s : String) : Option UInt64 := accepted? (Text.parse64 s)

/-- A session id on a command line. -/
def sessionValue? (s : String) : Option SessionId := accepted? (SessionId.ofText? s)

/-- A path on a command line. The empty path is none. -/
def pathValue? (s : String) : Option String := if s = "" then none else some s

/-- An option whose values are read by a function. -/
def option {α : Type} (name : String) (letter? : Option Char) (read : String → Option α) :
    Parameter := ⟨name, letter?, some fun s => (read s).isSome⟩

/-- A flag. -/
def flag (name : String) : Parameter := ⟨name, none, none⟩

/-- Accepts values that a function reads. -/
def readable {α : Type} (read : String → Option α) (s : String) : Bool := (read s).isSome

/-- A level with nothing but parameters. -/
def levelOf (parameters : List Parameter) : Level := ⟨parameters, [], [], []⟩

namespace Reading

/-- The value of an option, read by a function. -/
def get? {α : Type} (r : Reading) (name : String) (read : String → Option α) : Option α :=
  (r.value? name).bind read

/-- The value of a positional argument, read by a function. -/
def positional? {α : Type} (r : Reading) (i : Nat) (read : String → Option α) : Option α :=
  r.positionals[i]?.bind read

end Reading

end Harbor.Command
