import Harbor.Client.Error
import Harbor.Settings.Basic

/-!
# Reports of failure

A command that fails reports what failed and, outermost first, what lies beneath.
A single cause is indented; several are numbered from zero. The further lines of
a cause are indented to where its text begins.
-/

namespace Harbor.Command

/-- A failure and what lies beneath it, outermost first. -/
structure Report where
  message : String
  causes : List String
  deriving Repr, DecidableEq

namespace Report

/-- The lines of a cause, the first after a label and the others below its text. -/
def causeText (label : String) (cause : String) : String :=
  label ++ ("\n" ++ label.map fun _ => ' ').intercalate (cause.splitOn "\n")

/-- The label of a numbered cause. -/
def number (n : Nat) : String :=
  let digits := toString n
  String.ofList (List.replicate (5 - digits.length) ' ') ++ digits ++ ": "

/-- The causes, each on lines of its own. -/
def causesText : List String → String
  | [] => ""
  | [cause] => "\n\nCaused by:\n" ++ causeText "    " cause
  | causes =>
    "\n\nCaused by:" ++ "".intercalate (causes.mapIdx fun n cause => "\n" ++ causeText (number n) cause)

/-- The report as it is printed. -/
def text (r : Report) : String := "Error: " ++ r.message ++ causesText r.causes ++ "\n"

/-- Says what a failure means on the whole. -/
def within (context : String) (r : Report) : Report := ⟨context, r.message :: r.causes⟩

/-- The report of a client's failure. -/
def ofClient (e : Client.Error) : Report := ⟨e.message, e.causes⟩

/-- The report of a fault in the settings. -/
def ofSettings (e : Settings.Error) : Report := ⟨e.message, e.causes⟩

/-- The report of a text that is not a service name. -/
def ofName (e : ServiceName.Error) : Report := ⟨e.message, []⟩

end Report

end Harbor.Command
