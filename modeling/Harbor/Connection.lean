import Harbor.Frame.Reader

/-!
# How a connection ends

A connection that a peer closes between requests has ended well. Every other end
has one of these causes.
-/

namespace Harbor.Connection

/-- Why a connection ends, other than the peer closing it between requests (`ConnectionError`). -/
inductive Failure where
  /-- The peer sent something that the protocol does not allow, and has been told. -/
  | violation (reason : String)
  /-- The peer went away inside a request. -/
  | unexpectedEnd
  /-- The session table cannot be reached. -/
  | tableUnavailable
  deriving Repr, DecidableEq

/-- The cause in words. -/
def Failure.message : Failure → String
  | violation reason => s!"protocol violation: {reason}"
  | unexpectedEnd => "connection closed in the middle of a request"
  | tableUnavailable => "session table unavailable"

/-- The end that an unreadable request brings about. -/
def Failure.ofFrame : Frame.Error → Failure
  | .unexpectedEnd => unexpectedEnd
  | e => violation e.message

theorem Failure.ofFrame_of_isViolation {e : Frame.Error} (h : e.isViolation) :
    ofFrame e = violation e.message := by
  cases e with
  | unexpectedEnd => cases h
  | _ => rfl

/-- The end that a verb outside the protocol brings about. -/
def Failure.unknownVerb (verb : String) : Failure := violation s!"unknown verb {Text.quote verb}"

end Harbor.Connection
