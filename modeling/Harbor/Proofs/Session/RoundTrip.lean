import Harbor.Proofs.Frame.Lines
import Harbor.Session.Wire

/-!
# Messages of the session protocol, there and back

A message that fits the limits of its fields is read back from its octets, whatever
follows them. Its texts have become single lines on the way; its body is what it was.

Main results:

* `Request.reads`: every request is read back.
* `Reply.reads`: every reply is read back with a shape that suits it.
-/

namespace Harbor.Session

open Harbor.Frame

namespace Request

/-- The request as it arrives: its texts are single lines. -/
def received : Request → Request
  | get name => get (singleLine name)
  | post name body => post (singleLine name) body
  | unknown verb => unknown (singleLine verb)
  | r => r

/-- The verbs that the protocol has. -/
def verbs : List String := ["open", "resume", "close", "get", "post"]

/-- The texts fit on a line and the body is not too large. -/
def Fits : Request → Prop
  | get name => Text.size name ≤ maxLine
  | post name body => Text.size name ≤ maxLine ∧ Text.size body ≤ maxBody
  | unknown verb => Text.size verb ≤ maxLine ∧ verb ∉ verbs
  | _ => True

instance : (r : Request) → Decidable r.Fits
  | .get _ => inferInstanceAs (Decidable (_ ≤ _))
  | .post _ _ | .unknown _ => inferInstanceAs (Decidable (_ ∧ _))
  | .openSession | .resume _ | .close _ => .isTrue trivial

theorem write_ne_nil (r : Request) : r.write ≠ [] := by
  unfold write writeLine
  simp

/-- No verb comes out of a line break. -/
theorem singleLine_not_mem_verbs {s : String} (h : s ∉ verbs) : singleLine s ∉ verbs :=
  singleLine_not_mem (by decide) h

theorem singleLine_of_mem_verbs {s : String} (h : s ∈ verbs) : singleLine s = s := by
  have hlines : ∀ v ∈ verbs, IsLine v := by decide
  exact (hlines s h).singleLine_eq

/-- The arguments are read after the verb. -/
theorem reads_of_arguments (verb : String) {bs : Octets} {r : Request}
    (hverb : Text.size verb ≤ maxLine)
    (h : Reader.Reads (readArguments (singleLine verb)) bs r) :
    Reader.Reads read (writeLine verb ++ bs) (some r) :=
  (reads_line hverb).bind (h.map (.pure _))

theorem reads_of_verb (verb : String) {bs : Octets} {r : Request} (hmem : verb ∈ verbs)
    (h : Reader.Reads (readArguments verb) bs r) :
    Reader.Reads read (writeLine verb ++ bs) (some r) := by
  have hsize : ∀ v ∈ verbs, Text.size v ≤ maxLine := by decide
  refine reads_of_arguments verb (hsize verb hmem) ?_
  rwa [singleLine_of_mem_verbs hmem]

theorem reads {r : Request} (h : r.Fits) : Reader.Reads read r.write (some r.received) := by
  cases r with
  | openSession =>
    refine reads_of_verb "open" (by decide) ?_
    exact .pure _
  | resume id =>
    refine reads_of_verb "resume" (by decide) ?_
    rw [readArguments, if_neg (by decide), if_pos rfl]
    exact (reads_sessionId id).map (.pure _)
  | close id =>
    refine reads_of_verb "close" (by decide) ?_
    rw [readArguments, if_neg (by decide), if_neg (by decide), if_pos rfl]
    exact (reads_sessionId id).map (.pure _)
  | get name =>
    refine reads_of_verb "get" (by decide) ?_
    rw [readArguments, if_neg (by decide), if_neg (by decide), if_neg (by decide), if_pos rfl]
    exact (reads_field h).map (.pure _)
  | post name body =>
    refine reads_of_verb "post" (by decide) ?_
    rw [readArguments, if_neg (by decide), if_neg (by decide), if_neg (by decide),
      if_neg (by decide), if_pos rfl]
    exact (reads_field h.1).bind ((reads_body h.2).map (.pure _))
  | unknown verb =>
    refine reads_of_arguments verb h.1 ?_
    have hnot := singleLine_not_mem_verbs h.2
    simp only [verbs, List.mem_cons, List.not_mem_nil, or_false, not_or] at hnot
    obtain ⟨h₁, h₂, h₃, h₄, h₅⟩ := hnot
    rw [readArguments, if_neg h₁, if_neg h₂, if_neg h₃, if_neg h₄, if_neg h₅]
    exact .pure _

end Request

namespace Reply

/-- The reply as it arrives: its texts are single lines. -/
def received : Reply → Reply
  | rejected reason => rejected (singleLine reason)
  | document name body => document (singleLine name) body
  | error message => error (singleLine message)
  | r => r

/-- The texts fit on a line and the body is not too large. -/
def Fits : Reply → Prop
  | rejected reason => Text.size reason ≤ maxLine
  | document name body => Text.size name ≤ maxLine ∧ Text.size body ≤ maxBody
  | error message => Text.size message ≤ maxLine
  | _ => True

/-- The shape in which a reply is read: a success has a document in it or has none. -/
def Suits : Reply → ReplyShape → Prop
  | document _ _, shape => shape = .document
  | success, shape => shape ≠ .document
  | _, _ => True

instance : (r : Reply) → Decidable r.Fits
  | .rejected _ | .error _ => inferInstanceAs (Decidable (_ ≤ _))
  | .document _ _ => inferInstanceAs (Decidable (_ ∧ _))
  | .accepted _ | .closed _ | .success => .isTrue trivial

instance : (r : Reply) → (shape : ReplyShape) → Decidable (r.Suits shape)
  | .document _ _, shape => inferInstanceAs (Decidable (shape = .document))
  | .success, shape => inferInstanceAs (Decidable (shape ≠ .document))
  | .accepted _, _ | .closed _, _ | .rejected _, _ | .error _, _ => .isTrue trivial

theorem reads_of_word {word : String} {bs : Octets} {r : Reply} {shape : ReplyShape}
    (hmem : word ∈ ["accepted", "closed", "rejected", "error", "success"])
    (h : Reader.Reads (readRest shape word) bs r) :
    Reader.Reads (read shape) (writeLine word ++ bs) r := by
  have hwords : ∀ w ∈ ["accepted", "closed", "rejected", "error", "success"],
      Text.size w ≤ maxLine ∧ IsLine w := by decide
  obtain ⟨hsize, hline⟩ := hwords word hmem
  exact (hline.reads_field hsize).bind h

theorem reads {r : Reply} {shape : ReplyShape} (h : r.Fits) (hshape : r.Suits shape) :
    Reader.Reads (read shape) r.write r.received := by
  cases r with
  | accepted id =>
    refine reads_of_word (by decide) ?_
    exact (reads_sessionId id).map (.pure _)
  | closed id =>
    refine reads_of_word (by decide) ?_
    unfold readRest
    rw [if_neg (by decide), if_pos rfl]
    exact (reads_sessionId id).map (.pure _)
  | rejected reason =>
    refine reads_of_word (by decide) ?_
    unfold readRest
    rw [if_neg (by decide), if_neg (by decide), if_pos rfl]
    exact (reads_field h).map (.pure _)
  | error message =>
    refine reads_of_word (by decide) ?_
    unfold readRest
    rw [if_neg (by decide), if_neg (by decide), if_neg (by decide), if_pos rfl]
    exact (reads_field h).map (.pure _)
  | document name body =>
    rw [write, List.append_assoc]
    refine reads_of_word (by decide) ?_
    unfold readRest
    rw [if_neg (by decide), if_neg (by decide), if_neg (by decide), if_neg (by decide),
      if_pos rfl, show shape = .document from hshape]
    exact (reads_field h.1).bind ((reads_body h.2).map (.pure _))
  | success =>
    rw [write, ← List.append_nil (writeLine _)]
    refine reads_of_word (by decide) ?_
    unfold readRest
    rw [if_neg (by decide), if_neg (by decide), if_neg (by decide), if_neg (by decide),
      if_pos rfl]
    cases shape with
    | document => exact absurd rfl hshape
    | session => exact .pure _
    | acknowledgement => exact .pure _

end Reply

end Harbor.Session
