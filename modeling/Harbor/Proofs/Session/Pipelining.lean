import Harbor.Proofs.Frame.Streams
import Harbor.Proofs.Session.RoundTrip

/-!
# Pipelined messages of the session protocol

A client may send any number of requests before it reads a reply, and the daemon any
number of replies. Each side gets exactly the messages that the other one wrote: a
text cannot end its own field, since its line breaks have become blanks, and a body
is counted, so it may hold anything.

Main results:

* `read_pipelined`: requests and replies are read back, one after another.
-/

namespace Harbor.Session

open Harbor.Frame

/-- Requests and replies that fit the limits of their fields are read back from their
    octets in order, and nothing is left. What follows a message stays unread. -/
theorem read_pipelined (requests : List Request) (replies : List (Reply × ReplyShape))
    (hrequests : ∀ r ∈ requests, r.Fits) (hreplies : ∀ p ∈ replies, p.1.Fits ∧ p.1.Suits p.2) :
    Reader.readAll Request.read (requests.flatMap Request.write) =
        (requests.map Request.received, .ok (), []) ∧
      (∀ r ∈ requests, ∀ rest, Request.read (r.write ++ rest) = (.ok (some r.received), rest)) ∧
      Reader.readEach (replies.map fun p => Reply.read p.2) (replies.flatMap fun p => p.1.write) =
        (replies.map fun p => .ok p.1.received, []) ∧
      (∀ shape, Reply.read shape [] = (.error .unexpectedEnd, [])) ∧
      ∀ p ∈ replies, ∀ rest, Reply.read p.2 (p.1.write ++ rest) = (.ok p.1.received, rest) := by
  have hrequest : ∀ r ∈ requests, Reader.Reads Request.read r.write (some r.received) :=
    fun r hr => Request.reads (hrequests r hr)
  have hreply : ∀ p ∈ replies, Reader.Reads (Reply.read p.2) p.1.write p.1.received :=
    fun p hp => Reply.reads (hreplies p hp).1 (hreplies p hp).2
  refine ⟨?_, hrequest, ?_, fun _ => rfl, hreply⟩
  · exact Reader.readAll_flatMap hrequest Request.write_ne_nil rfl
  · have heach := Reader.readEach_flatMap hreply []
    rwa [List.append_nil] at heach

/-- Texts with line breaks in them, and bodies that look like messages. -/
theorem read_pipelined_line_breaks :
    let requests : List Request :=
      [.post "k\r\nclose" "1\nopen\n", .unknown "open\n", .unknown "", .get "", .close ⟨1⟩]
    let replies : List (Reply × ReplyShape) :=
      [(.document "k\n" "error\n\n", .document), (.success, .acknowledgement),
        (.error "no\nsuccess", .document), (.accepted ⟨7⟩, .session)]
    (∀ r ∈ requests, r.Fits) ∧ (∀ p ∈ replies, p.1.Fits ∧ p.1.Suits p.2) ∧
    Reader.readAll Request.read (requests.flatMap Request.write) =
      ([.post "k  close" "1\nopen\n", .unknown "open ", .unknown "", .get "", .close ⟨1⟩],
        .ok (), []) ∧
    Reader.readEach (replies.map fun p => Reply.read p.2) (replies.flatMap fun p => p.1.write) =
      ([.ok (.document "k " "error\n\n"), .ok .success, .ok (.error "no success"),
        .ok (.accepted ⟨7⟩)], []) := by
  intro requests replies
  have hrequests : ∀ r ∈ requests, r.Fits := by decide
  have hreplies : ∀ p ∈ replies, p.1.Fits ∧ p.1.Suits p.2 := by decide
  have hrequest : requests.map Request.received =
      [.post "k  close" "1\nopen\n", .unknown "open ", .unknown "", .get "", .close ⟨1⟩] := by
    decide +kernel
  have hreply : (replies.map fun p => p.1.received) =
      [.document "k " "error\n\n", .success, .error "no success", .accepted ⟨7⟩] := by
    decide +kernel
  obtain ⟨hall, -, heach, -⟩ := read_pipelined requests replies hrequests hreplies
  refine ⟨hrequests, hreplies, ?_, ?_⟩
  · rw [hall, hrequest]
  · rw [heach]
    exact congrArg (fun rs : List Reply => (rs.map Except.ok, [])) hreply

end Harbor.Session
