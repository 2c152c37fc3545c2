import Harbor.Proofs.Frame.Refusals
import Harbor.Proofs.Transfer.Truncation

/-!
# Conversations with the file server

The server keeps nothing from one request for the next. A get is answered as it would be on
a connection of its own, whatever was asked for before it, and whether or not that could be
had. The first request that is no get ends the conversation, and the server reads no further.

Main results:

* `serve_flatMap_get`: the replies to some gets come before all that is written after them.
* `serve_exit`, `serve_foreign`: how a conversation ends at a line that is no get.
* `serve_gets`: a conversation on the octets of some gets and what follows them.
-/

namespace Harbor.Transfer

open Files (DocumentRoot)
open Harbor.Frame (IsLine Terminated maxLine)

variable {docs : DocumentRoot}

/-! ## Turns -/

theorem serve_of_ending {input : Octets} {result : Except Connection.Failure Unit}
    (h : (turn docs input).ending? = some result) :
    serve docs input = ⟨(turn docs input).output, result⟩ := by
  rw [serve]
  split
  · next hsome =>
    rw [h] at hsome
    cases hsome
    rfl
  · next hnone =>
    rw [h] at hnone
    cases hnone

/-- The conversation after a turn that does not end it. -/
theorem serve_of_turn {input rest output : Octets} (h : turn docs input = ⟨output, rest, none⟩) :
    serve docs input =
      { serve docs rest with output := output ++ (serve docs rest).output } := by
  rw [serve]
  split
  · next hsome =>
    rw [h] at hsome
    cases hsome
  · rw [h]

/-! ## Gets -/

/-- The elements are some files and the end of them, or one error. -/
def IsReply (reply : List Reply) : Prop :=
  (∃ files : List FetchedFile, reply = files.map FetchedFile.element ++ [.done]) ∨
    ∃ message, reply = [.error message]

theorem isReply_elements (docs : DocumentRoot) (name : String) : IsReply (elements docs name) := by
  unfold elements
  cases docs.textFiles name with
  | error e => exact .inr ⟨e.message, rfl⟩
  | ok found =>
    obtain ⟨place, files⟩ := found
    refine .inl ⟨files.filterMap (fetchedFile? docs place), ?_⟩
    rw [List.map_filterMap, ← funext (fileElement?_eq docs place)]

theorem serve_nil : serve docs [] = ⟨[], .ok ()⟩ := serve_of_ending rfl

/-- The reply to a get comes first, and the rest is served as if there had been no get. -/
theorem serve_get {name : String} (hsize : Text.size name ≤ maxLine) (rest : Octets) :
    serve docs ((Request.get name).write ++ rest) = { serve docs rest with
      output := replyStream docs (Frame.singleLine name) ++ (serve docs rest).output } :=
  serve_of_turn (turn_get hsize rest)

theorem serve_flatMap_get {names : List String} (h : ∀ name ∈ names, Text.size name ≤ maxLine)
    (tail : Octets) :
    serve docs (names.flatMap (fun name => (Request.get name).write) ++ tail) =
      { serve docs tail with
        output := names.flatMap (fun name => replyStream docs (Frame.singleLine name)) ++
          (serve docs tail).output } := by
  induction names with
  | nil => rfl
  | cons name names ih =>
    rw [List.forall_mem_cons] at h
    rw [List.flatMap_cons, List.append_assoc, serve_get h.1, ih h.2, List.flatMap_cons,
      List.append_assoc]

theorem serve_get_alone {name : String} (hline : IsLine name) (hsize : Text.size name ≤ maxLine) :
    serve docs (Request.get name).write = ⟨replyStream docs name, .ok ()⟩ := by
  have h : serve docs ((Request.get name).write ++ []) = _ := serve_get hsize []
  rw [List.append_nil, serve_nil, hline.singleLine_eq] at h
  dsimp only at h
  rwa [List.append_nil] at h

/-! ## The end -/

/-- At the line `exit` the server stops without a word, whatever comes behind it. -/
theorem serve_exit {line : Octets} (h : Terminated (Text.encode "exit") line) (rest : Octets) :
    serve docs (line ++ rest) = ⟨[], .ok ()⟩ := by
  have hread : Reader.Reads Request.read line (some .exit) :=
    (h.reads_short (by decide)).map (.pure _)
  have hturn : turn docs (line ++ rest) = ⟨[], rest, some (.ok ())⟩ := by
    rw [turn, hread rest]
  rw [serve_of_ending (congrArg Turn.ending? hturn), hturn]

/-- The line needs no terminator at the end of the stream. -/
theorem serve_exit_unterminated : serve docs (Text.encode "exit") = ⟨[], .ok ()⟩ := by
  have hread : Request.read (Text.encode "exit") = (.ok (some .exit), []) := rfl
  have hturn : turn docs (Text.encode "exit") = ⟨[], [], some (.ok ())⟩ := by
    rw [turn, hread]
  rw [serve_of_ending (congrArg Turn.ending? hturn), hturn]

/-- At a line that is no verb of the protocol the server writes one error and stops, whatever
    comes behind it. -/
theorem serve_foreign {content line : Octets} (h : Terminated content line)
    (hverb : ∀ verb ∈ Request.verbs, content ≠ Text.encode verb) : ∃ message reason,
    ∀ docs rest, serve docs (line ++ rest) =
      ⟨(Reply.error message).write, .error (.violation reason)⟩ := by
  rcases h.reads_or_refuses with ⟨verb, rfl, hread⟩ | ⟨e, he, hrefuse⟩
  · have hnot : verb ∉ Request.verbs := fun hmem => hverb verb hmem rfl
    simp only [Request.verbs, List.mem_cons, List.not_mem_nil, or_false, not_or] at hnot
    refine ⟨s!"Invalid message {verb}", s!"unknown verb {Text.quote verb}", fun docs rest => ?_⟩
    have hrequest : Reader.Reads Request.read line (some (.unknown verb)) := by
      refine hread.map ?_
      dsimp only
      rw [Request.readArguments, if_neg hnot.1, if_neg hnot.2]
      exact .pure _
    have hturn : turn docs (line ++ rest) = ⟨(Reply.error s!"Invalid message {verb}").write, rest,
        some (.error (.unknownVerb verb))⟩ := by
      rw [turn, hrequest rest]
    rw [serve_of_ending (congrArg Turn.ending? hturn), hturn]
    rfl
  · refine ⟨e.message, e.message, fun docs rest => ?_⟩
    obtain ⟨rest', hrest⟩ := hrefuse.bind _ rest
    have hturn : turn docs (line ++ rest) = ⟨(Reply.error e.message).write, rest',
        some (.error (.violation e.message))⟩ := by
      rw [turn, Request.read, hrest]
      dsimp only
      rw [if_pos he, Connection.Failure.ofFrame_of_isViolation he]
    rw [serve_of_ending (congrArg Turn.ending? hturn), hturn]

/-- A conversation on the octets of some gets and what follows them. Each get is answered as
    on a connection of its own, by files and the end of them or by one error. Whatever follows
    is served behind these replies as if there had been no gets. So the server writes nothing
    more if the client has closed its side or goes on with the line `exit`, and one error if it
    goes on with any other line that is not `get`; nothing that comes behind such a line
    matters. The server changes nothing on its machine. -/
theorem serve_gets (docs : DocumentRoot) (names : List String)
    (hnames : ∀ name ∈ names, IsLine name ∧ Text.size name ≤ maxLine) :
    let gets := names.flatMap fun name => (Request.get name).write
    let replies := names.flatMap fun name => (serve docs (Request.get name).write).output
    (∀ name ∈ names, IsReply (elements docs name) ∧
      serve docs (Request.get name).write = ⟨(elements docs name).flatMap Reply.write, .ok ()⟩) ∧
    (∀ tail, serve docs (gets ++ tail) =
      { serve docs tail with output := replies ++ (serve docs tail).output }) ∧
    serve docs gets = ⟨replies, .ok ()⟩ ∧
    serve docs (gets ++ Text.encode "exit") = ⟨replies, .ok ()⟩ ∧
    (∀ line rest, Terminated (Text.encode "exit") line →
      serve docs (gets ++ (line ++ rest)) = ⟨replies, .ok ()⟩) ∧
    (∀ content line, Terminated content line →
      (∀ verb ∈ Request.verbs, content ≠ Text.encode verb) →
      ∃ message reason, ∀ rest, serve docs (gets ++ (line ++ rest)) =
        ⟨replies ++ (Reply.error message).write, .error (.violation reason)⟩) ∧
    ∀ (s : Site) address key input, s.files = docs.files →
      Site.taker? s.servers address = some (key, .transfer docs.root) →
      s.serveRaw address input = ((serve docs input).output, s) := by
  intro gets replies
  have halone : ∀ name ∈ names,
      serve docs (Request.get name).write = ⟨replyStream docs name, .ok ()⟩ :=
    fun name hname => serve_get_alone (hnames name hname).1 (hnames name hname).2
  have hreplies : names.flatMap (fun name => replyStream docs (Frame.singleLine name)) = replies :=
    List.flatMap_congr fun name hname => by
      rw [halone name hname, (hnames name hname).1.singleLine_eq]
  have hserve (tail : Octets) : serve docs (gets ++ tail) =
      { serve docs tail with output := replies ++ (serve docs tail).output } := by
    rw [serve_flatMap_get fun name hname => (hnames name hname).2, hreplies]
  have hquiet {tail : Octets} (htail : serve docs tail = ⟨[], .ok ()⟩) :
      serve docs (gets ++ tail) = ⟨replies, .ok ()⟩ := by
    rw [hserve, htail]
    dsimp only
    rw [List.append_nil]
  refine ⟨fun name hname => ⟨isReply_elements docs name, halone name hname⟩, hserve, ?_,
    hquiet serve_exit_unterminated, fun line rest hline => hquiet (serve_exit hline rest),
    fun content line hline hverb => ?_, ?_⟩
  · rw [← List.append_nil gets]
    exact hquiet serve_nil
  · obtain ⟨message, reason, hforeign⟩ := serve_foreign hline hverb
    exact ⟨message, reason, fun rest => by rw [hserve, hforeign]⟩
  · intro s address key input hfiles hserver
    rw [Site.serveRaw, hserver, hfiles]

/-- A directory, one that lies outside of the root, and the directory once more, before a line
    that is not text. -/
theorem serve_gets_not_text :
    let docs := Site.Drawer.docs
    let names := ["d", "..", "d"]
    let gets := names.flatMap fun name => (Request.get name).write
    let listing := Text.encode "a.txt\n1\nxdone.txt\n1\nydone\n"
    let told := listing ++ ((serve docs (Request.get "..").write).output ++ listing)
    (∀ name ∈ names, IsLine name ∧ Text.size name ≤ maxLine) ∧
    serve docs gets = ⟨told, .ok ()⟩ ∧
    (∀ rest, serve docs (gets ++ (Text.encode "exit\r\n" ++ rest)) = ⟨told, .ok ()⟩) ∧
    ∃ message reason, ∀ rest, serve docs (gets ++ ([255, 10] ++ rest)) =
      ⟨told ++ (Reply.error message).write, .error (.violation reason)⟩ := by
  intro docs names gets listing told
  have hnames : ∀ name ∈ names, IsLine name ∧ Text.size name ≤ maxLine := by decide
  obtain ⟨halone, -, hend, -, hexit, hforeign, -⟩ := serve_gets docs names hnames
  have hlisting : (serve docs (Request.get "d").write).output = listing := by
    rw [(halone "d" (by decide)).2]
    exact Site.Drawer.replyStream_docs
  have htold : names.flatMap (fun name => (serve docs (Request.get name).write).output) = told := by
    simp only [names, List.flatMap_cons, List.flatMap_nil, List.append_nil, hlisting, told]
  rw [htold] at hend hexit hforeign
  refine ⟨hnames, hend, fun rest => hexit _ rest ⟨by decide, by decide⟩, ?_⟩
  exact hforeign [255] [255, 10] ⟨by decide, by decide⟩ (by decide)

end Harbor.Transfer
