import Harbor.Proofs.Frame.Streams
import Harbor.Proofs.Transfer.RoundTrip

/-!
# Pipelined messages of the file transfer protocol

Requests may be sent without waiting for replies, and a reply is itself a stream of
elements. Nothing in front of a file says that it is one: its first line is its name, and
only the two words `done` and `error` are something else. A file of another name is
therefore told from them by this line, also when there were line breaks in the name, and
the count of its contents says where the next element begins.

Main results:

* `wire_pipelined`: requests and elements of replies are read back, one after another.
-/

namespace Harbor.Transfer

open Harbor.Frame

/-- Requests and elements of replies that fit the limits of their fields are read back from
    their octets in order, and nothing is left. What follows a message stays unread. -/
theorem wire_pipelined (requests : List Request) (replies : List Reply)
    (hrequests : ∀ r ∈ requests, r.Fits) (hreplies : ∀ r ∈ replies, r.Fits) :
    Reader.readAll Request.read (requests.flatMap Request.write) =
        (requests.map Request.received, .ok (), []) ∧
      (∀ r ∈ requests, ∀ rest, Request.read (r.write ++ rest) = (.ok (some r.received), rest)) ∧
      Reader.readEach (replies.map fun _ => Reply.read) (replies.flatMap Reply.write) =
        (replies.map fun r => .ok r.received, []) ∧
      Reply.read [] = (.error .unexpectedEnd, []) ∧
      ∀ r ∈ replies, ∀ rest, Reply.read (r.write ++ rest) = (.ok r.received, rest) := by
  have hrequest : ∀ r ∈ requests, Reader.Reads Request.read r.write (some r.received) :=
    fun r hr => Request.reads (hrequests r hr)
  have hreply : ∀ r ∈ replies, Reader.Reads Reply.read r.write r.received :=
    fun r hr => Reply.reads (hreplies r hr)
  refine ⟨?_, hrequest, ?_, rfl, hreply⟩
  · exact Reader.readAll_flatMap hrequest Request.write_ne_nil rfl
  · have heach : Reader.readEach (replies.map fun _ => Reply.read)
        (replies.flatMap Reply.write ++ []) = (replies.map fun r => .ok r.received, []) :=
      Reader.readEach_flatMap hreply []
    rwa [List.append_nil] at heach

/-- Line breaks in a verb and in a name that are words of the protocol around them, and
    contents that look like the end of a reply. -/
theorem wire_pipelined_line_breaks :
    let requests : List Request := [.get "a\r\nexit", .unknown "exit\n", .exit, .unknown "", .get ""]
    let replies : List Reply :=
      [.file "done\n" "done\n", .file "" "", .error "no\ndone", .file "Done" "error\n", .done]
    (∀ r ∈ requests, r.Fits) ∧ (∀ r ∈ replies, r.Fits) ∧
    Reader.readAll Request.read (requests.flatMap Request.write) =
      ([.get "a  exit", .unknown "exit ", .exit, .unknown "", .get ""], .ok (), []) ∧
    Reader.readEach (replies.map fun _ => Reply.read) (replies.flatMap Reply.write) =
      ([.ok (.file "done " "done\n"), .ok (.file "" ""), .ok (.error "no done"),
        .ok (.file "Done" "error\n"), .ok .done], []) := by
  intro requests replies
  have hrequests : ∀ r ∈ requests, r.Fits := by decide
  have hreplies : ∀ r ∈ replies, r.Fits := by decide
  have hrequest : requests.map Request.received =
      [.get "a  exit", .unknown "exit ", .exit, .unknown "", .get ""] := by
    decide +kernel
  have hreply : replies.map Reply.received =
      [.file "done " "done\n", .file "" "", .error "no done", .file "Done" "error\n", .done] := by
    decide +kernel
  obtain ⟨hall, -, heach, -⟩ := wire_pipelined requests replies hrequests hreplies
  refine ⟨hrequests, hreplies, ?_, ?_⟩
  · rw [hall, hrequest]
  · rw [heach]
    exact congrArg (fun rs : List Reply => (rs.map Except.ok, [])) hreply

end Harbor.Transfer
