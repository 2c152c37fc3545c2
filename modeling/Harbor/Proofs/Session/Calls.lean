import Harbor.Proofs.Session.Conversation
import Harbor.Proofs.Session.Replies
import Harbor.Session.Client

/-!
# Calls without a wire

Clients on connections of their own call the session daemon one after another. What
each of them is told is what the matching operation on the table gives, or what the
document root holds, under what the connection is bound to: `Call.direct` says which,
and no octets occur in it. A `Ledger` is what a network comes to then: the table and
the binding of each connection.

`Network.Shows` relates a network to a ledger. It says that nothing is on the way on
any connection, which is why a call finds the reply to its own request and no other.

Main results:

* `answered`: the daemon answers a call with a reply that the client can read and that
  says what the call gives directly.
* `attend_request`: one request is one turn, and nothing of it is left.
* `Network.Shows.step`: one event on the network is the same event on the ledger.
* `Network.run_eq_direct`: every run of calls is the run without a wire.
-/

namespace Harbor.Session

open Harbor.Frame (singleLine maxLine maxBody)
open Files (DocumentRoot DocumentError)

/-! ## Calls directly -/

/-- Most octets of a name if every reply about it is to fit on a line. -/
def maxNameSize : Nat := 8000

/-- What a call gives for what its operation on the table answers. -/
def outcomeOf : Except Error Table.Answer → Except Client.Error Outcome
  | .ok (.opened id) => .ok (.opened id)
  | .ok (.isOpen true) => .ok .done
  | .ok (.isOpen false) => .error (.rejected "Invalid session id")
  | .ok .done => .ok .done
  | .ok (.value text) => .ok (.body text)
  | .error e => .error (.server e.message)

/-- What a connection is bound to after an operation on the table. -/
def Binding.after (b : Binding) : Table.Command → Except Error Table.Answer → Binding
  | .openSession, .ok (.opened id) => .bound id
  | .resume id, .ok (.isOpen true) => .bound id
  | .close id, .ok _ => if b = .bound id then .unbound else b
  | _, _ => b

namespace Call

/-- The call as the daemon takes it: the name is a single line. -/
def received : Call → Call
  | get name => get (singleLine name)
  | post name body => post (singleLine name) body
  | c => c

/-- The name is not too long for a reply about it, and the body not too large. -/
def Fits : Call → Prop
  | get name => Text.size name ≤ maxNameSize
  | post name body => Text.size name ≤ maxNameSize ∧ Text.size body ≤ maxBody
  | _ => True

instance : (c : Call) → Decidable c.Fits
  | .get _ => inferInstanceAs (Decidable (_ ≤ _))
  | .post _ _ => inferInstanceAs (Decidable (_ ∧ _))
  | .openSession | .resume _ | .close _ => .isTrue trivial

/-- The operation on the table that a call comes to, if it comes to one. -/
def command? : Call → Binding → Option Table.Command
  | openSession, .unbound => some .openSession
  | resume id, .unbound => some (.resume id)
  | close id, _ => some (.close id)
  | get name, .bound id =>
    if name = "" ∨ isDocumentName name then none else some (.get id name)
  | post name body, .bound id =>
    if name = "" ∨ isDocumentName name then none else some (.put id name body)
  | _, _ => none

/-- What a call gives that comes to no operation on the table: a document, or the reason
    why it is refused. -/
def aside (docs : DocumentRoot) : Call → Binding → Except Client.Error Outcome
  | get name, .bound _ =>
    match docs.read name with
    | .ok text => .ok (.body text)
    | .error e => .error (.server e.message)
  | post name _, .bound _ =>
    .error (.server (if name = "" then DocumentError.emptyName.message
      else "Cannot post to file path " ++ name))
  | openSession, _ => .error (.server "Session already open!")
  | resume _, _ => .error (.server "Session already open, cannot resume!")
  | _, _ => .error (.server "No open session")

/-- The table and the binding after a call, and what the call gives. -/
def direct (docs : DocumentRoot) (t : Table) (b : Binding) (c : Call) :
    Table × Binding × Except Client.Error Outcome :=
  match c.received.command? b with
  | none => (t, b, c.received.aside docs b)
  | some command =>
    let (t', answer) := t.perform command
    (t', b.after command answer, outcomeOf answer)

/-- The call does not ask for a new session when there is no id left. -/
def FindsId (c : Call) (t : Table) (b : Binding) : Prop :=
  c = openSession → b = .unbound → t.next?.isSome

end Call

/-! ## One call -/

/-- A reply that the client of a call reads, and that says what the call gives. -/
structure Tells (c : Call) (r : Reply) (outcome : Except Client.Error Outcome) : Prop where
  fits : r.Fits
  suits : r.Suits c.request.replyShape
  conclude_eq : c.conclude r.received = outcome

theorem tells_error {message : String} (h : ShortLine maxLine message) (c : Call) :
    Tells c (.error message) (.error (.server message)) := by
  refine ⟨h.2, trivial, ?_⟩
  rw [Reply.received, h.1.singleLine_eq]
  cases c <;> rfl

section

variable {docs : DocumentRoot} {t : Table} {b : Binding} {c : Call} {id : SessionId} {name : String}

theorem shortLine_of_size_le (h : Text.size name ≤ maxNameSize) :
    ShortLine maxNameSize (singleLine name) := by
  refine ⟨Frame.isLine_singleLine name, ?_⟩
  rwa [Frame.size_singleLine]

/-- The daemon's reply to the call says what the call gives directly, and the sessions and
    the binding are then those that it comes to directly. -/
def Answered (docs : DocumentRoot) (t : Table) (b : Binding) (c : Call) : Prop :=
  ∃ r, handle docs (.live t) b c.request.received =
      (.live (c.direct docs t b).1, (c.direct docs t b).2.1, .ok r) ∧
    Tells c r (c.direct docs t b).2.2

theorem answered_openSession (hid : Call.openSession.FindsId t b) :
    Answered docs t b .openSession := by
  cases b with
  | bound id => exact ⟨_, rfl, tells_error (by decide) _⟩
  | unbound =>
    obtain ⟨id, hnext⟩ := Option.isSome_iff_exists.1 (hid rfl rfl)
    have hopen : t.openSession = (⟨t.sessions.insert id .empty, id.next?⟩, .ok id) := by
      rw [Table.openSession, hnext]
    dsimp only [Answered, Call.request, Request.received, handle, Call.direct, Call.received,
      Call.command?, Table.perform, Store.openSession]
    rw [hopen]
    exact ⟨_, rfl, trivial, trivial, rfl⟩

theorem answered_resume (id : SessionId) : Answered docs t b (.resume id) := by
  cases b with
  | bound id' => exact ⟨_, rfl, tells_error (by decide) _⟩
  | unbound =>
    dsimp only [Answered, Call.request, Request.received, handle, Call.direct, Call.received,
      Call.command?, Table.perform, Store.resume]
    cases t.isOpen id with
    | true => exact ⟨_, rfl, trivial, trivial, if_pos rfl⟩
    | false =>
      have hline : ShortLine maxLine "Invalid session id" := by decide
      refine ⟨_, rfl, hline.2, trivial, ?_⟩
      rw [Reply.received, hline.1.singleLine_eq]
      rfl

theorem answered_close (id : SessionId) : Answered docs t b (.close id) := by
  dsimp only [Answered, Call.request, Request.received, handle, Call.direct, Call.received,
    Call.command?, Table.perform, Store.close, Table.close]
  by_cases hopen : t.isOpen id
  · rw [if_pos hopen]
    exact ⟨_, rfl, trivial, trivial, if_pos rfl⟩
  · have hmessage := (shortLine_message_notFound id).mono (n := maxLine) (by decide)
    rw [if_neg hopen]
    exact ⟨_, rfl, tells_error hmessage _⟩

theorem answered_get (hdocs : FilesFit docs) (ht : t.Fits) (hname : Text.size name ≤ maxNameSize) :
    Answered docs t b (.get name) := by
  cases b with
  | unbound => exact ⟨_, rfl, tells_error (by decide) _⟩
  | bound id =>
    have hline := shortLine_of_size_le hname
    have hlimit : Text.size (singleLine name) ≤ maxLine := Nat.le_trans hline.2 (by decide)
    have hdocument : ∀ body, Text.size body ≤ maxBody →
        Tells (.get name) (.document (singleLine name) body) (.ok (.body body)) := by
      exact fun body hbody => ⟨⟨hlimit, hbody⟩, rfl, rfl⟩
    dsimp only [Answered, Call.request, Request.received, handle, handleGet, Call.direct,
      Call.received, Call.command?]
    by_cases hplace : singleLine name = "" ∨ isDocumentName (singleLine name)
    · rw [if_pos hplace, if_pos hplace]
      dsimp only [Call.aside]
      cases hread : docs.read (singleLine name) with
      | ok body => exact ⟨_, rfl, hdocument body (size_le_of_read hdocs hread)⟩
      | error e =>
        have hmessage := (mentions_message_of_read hread).shortLine hline
        exact ⟨_, rfl, tells_error (hmessage.mono (by decide)) _⟩
    · rw [if_neg hplace, if_neg hplace]
      dsimp only [Table.perform, Store.get]
      cases hget : t.get id (singleLine name) with
      | ok body => exact ⟨_, rfl, hdocument body (ht.of_get hget)⟩
      | error e =>
        obtain ⟨hreply, hmentions⟩ := replyToFailure_of_get hget
        refine ⟨_, ?_, tells_error ((hmentions.shortLine hline).mono (by decide)) _⟩
        dsimp only
        rw [hreply]
        rfl

theorem answered_post {body : String} (hname : Text.size name ≤ maxNameSize) :
    Answered docs t b (.post name body) := by
  cases b with
  | unbound => exact ⟨_, rfl, tells_error (by decide) _⟩
  | bound id =>
    have hline := shortLine_of_size_le hname
    dsimp only [Answered, Call.request, Request.received, handle, handlePost, Call.direct,
      Call.received, Call.command?]
    by_cases hempty : singleLine name = ""
    · rw [if_pos hempty, if_pos (.inl hempty)]
      dsimp only [Call.aside]
      rw [if_pos hempty]
      exact ⟨_, rfl, tells_error (by decide) _⟩
    by_cases hplace : isDocumentName (singleLine name)
    · have hrefusal : ShortLine 25 "Cannot post to file path " := by decide
      rw [if_neg hempty, if_pos hplace, if_pos (.inr hplace)]
      dsimp only [Call.aside]
      rw [if_neg hempty]
      exact ⟨_, rfl, tells_error ((hrefusal.append hline).mono (by decide)) _⟩
    · rw [if_neg hempty, if_neg hplace, if_neg (not_or.2 ⟨hempty, hplace⟩)]
      dsimp only [Table.perform, Store.put, Table.put]
      cases t.session? id with
      | some values => exact ⟨_, rfl, trivial, nofun, rfl⟩
      | none =>
        have hmessage := (shortLine_message_notFound id).mono (n := maxLine) (by decide)
        exact ⟨_, rfl, tells_error hmessage _⟩

theorem answered (hdocs : FilesFit docs) (ht : t.Fits) (hc : c.Fits) (hid : c.FindsId t b) :
    Answered docs t b c := by
  cases c with
  | openSession => exact answered_openSession hid
  | resume id => exact answered_resume id
  | close id => exact answered_close id
  | get name => exact answered_get hdocs ht hc
  | post name body => exact answered_post hc.1

/-! ## One call on the wire -/

theorem fits_request (hc : c.Fits) : c.request.Fits := by
  have hle : maxNameSize ≤ maxLine := by decide
  cases c with
  | get name => exact Nat.le_trans hc hle
  | post name body => exact ⟨Nat.le_trans hc.1 hle, hc.2⟩
  | _ => trivial

/-- One request is one turn of the conversation, and the daemon reads all of it. -/
theorem turn_request {t' : Table} {b' : Binding} {r : Reply} (hc : c.Fits)
    (h : handle docs (.live t) b c.request.received = (.live t', b', .ok r)) :
    turn docs (.live t) b c.request.write = ⟨.live t', b', r.write, [], none⟩ := by
  have hverb (verb : String) : c.request.received ≠ .unknown verb := by cases c <;> nofun
  exact turn_of_read (Request.reads (fits_request hc)).apply hverb h

theorem attend_request {t' : Table} {b' : Binding} {r : Reply} (hc : c.Fits)
    (h : handle docs (.live t) b c.request.received = (.live t', b', .ok r)) :
    attend docs (.live t) b c.request.write = ⟨.live t', b', r.write, false⟩ := by
  rw [attend, if_neg (Request.write_ne_nil _)]
  dsimp only
  split
  · next hending =>
    rw [turn_request hc h] at hending
    cases hending
  · rw [turn_request hc h, attend, if_pos rfl, List.append_nil]

/-- The client takes the whole reply and nothing else. -/
theorem receive_reply {r : Reply} {outcome : Except Client.Error Outcome}
    (h : Tells c r outcome) : c.receive r.write = (outcome, []) := by
  rw [Call.receive, (Reply.reads h.fits h.suits).apply, ← h.conclude_eq]

theorem rest_turn_request (hc : c.Fits) (store : Store) (b : Binding) :
    (turn docs store b c.request.write).rest = [] := by
  rw [turn, (Request.reads (fits_request hc)).apply]
  dsimp only
  split <;> rfl

end

/-! ## Runs -/

/-- What happens between the clients and the daemon. -/
inductive Network.Event where
  | connect (client : String)
  | disconnect (client : String)
  | call (client : String) (c : Call)

/-- The table, and what each connection is bound to. -/
structure Ledger where
  table : Table
  bindings : Dictionary String Binding

namespace Ledger

open Network (Event)

/-- A new table without connections. -/
def new : Ledger := ⟨.new, .empty⟩

/-- One event without a wire, and what the client is told if it made a call. -/
def step (docs : DocumentRoot) (l : Ledger) :
    Event → Ledger × Option (Except Client.Error Outcome)
  | .connect client => ({ l with bindings := l.bindings.insert client .unbound }, none)
  | .disconnect client => ({ l with bindings := l.bindings.erase client }, none)
  | .call client c =>
    match l.bindings.get? client with
    | none => (l, none)
    | some b =>
      let (t, b', outcome) := c.direct docs l.table b
      (⟨t, l.bindings.insert client b'⟩, some outcome)

/-- Events one after another, and what the clients are told. -/
def run (docs : DocumentRoot) (l : Ledger) :
    List Event → Ledger × List (Option (Except Client.Error Outcome))
  | [] => (l, [])
  | e :: es =>
    let (l', told) := l.step docs e
    let (l'', later) := l'.run docs es
    (l'', told :: later)

end Ledger

namespace Network

/-- One event, and what the client is told if it made a call. -/
def step (n : Network) : Event → Network × Option (Except Client.Error Outcome)
  | .connect client => (n.connect client, none)
  | .disconnect client => (n.disconnect client, none)
  | .call client c => n.call client c

/-- Events one after another, and what the clients are told. -/
def run (n : Network) : List Event → Network × List (Option (Except Client.Error Outcome))
  | [] => (n, [])
  | e :: es =>
    let (n', told) := n.step e
    let (n'', later) := n'.run es
    (n'', told :: later)

/-- A call of the event fits. -/
def Event.Fits : Event → Prop
  | call _ c => c.Fits
  | _ => True

instance : (e : Event) → Decidable e.Fits
  | .call _ c => inferInstanceAs (Decidable c.Fits)
  | .connect _ | .disconnect _ => .isTrue trivial

/-- A call of the event does not ask for a new session when there is no id left. -/
def Event.FindsId (l : Ledger) : Event → Prop
  | call client c => ∀ b, l.bindings.get? client = some b → c.FindsId l.table b
  | _ => True

/-- No call of the events asks for a new session when there is no id left. -/
def IdsSuffice (docs : DocumentRoot) : Ledger → List Event → Prop
  | _, [] => True
  | l, e :: es => e.FindsId l ∧ IdsSuffice docs (l.step docs e).1 es

/-- The network is what the ledger says, and nothing is on the way on any connection. -/
structure Shows (n : Network) (docs : DocumentRoot) (l : Ledger) : Prop where
  docs_eq : n.docs = docs
  store_eq : n.store = .live l.table
  link?_eq : ∀ client, n.links.get? client = (l.bindings.get? client).map fun b => ⟨b, true, []⟩

theorem shows_new (docs : DocumentRoot) : (new docs).Shows docs .new := ⟨rfl, rfl, fun _ => rfl⟩

section

variable {n : Network} {docs : DocumentRoot} {l : Ledger} {client : String} {b : Binding}

theorem Shows.insert (h : n.Shows docs l) (t : Table) (client : String) (b : Binding) :
    Shows ⟨n.docs, .live t, n.links.insert client ⟨b, true, []⟩⟩ docs
      ⟨t, l.bindings.insert client b⟩ := by
  refine ⟨h.docs_eq, rfl, fun client' => ?_⟩
  rw [Dictionary.get?_insert, Dictionary.get?_insert, h.link?_eq]
  split <;> rfl

theorem fits_of_command? {c : Call} {command : Table.Command} (hc : c.Fits)
    (h : c.received.command? b = some command) : command.Fits := by
  unfold Call.command? at h
  split at h
  case h_5 hreceived =>
    -- only a post stores something, and its body is as it was
    split at h <;> cases h
    cases c <;> cases hreceived
    exact hc.2
  case h_4 =>
    split at h <;> cases h
    trivial
  case h_1 | h_2 | h_3 =>
    cases h
    trivial
  case h_6 => cases h

theorem fits_direct {t : Table} {c : Call} (ht : t.Fits) (hc : c.Fits) (b : Binding) :
    (c.direct docs t b).1.Fits := by
  unfold Call.direct
  split
  · exact ht
  · next command hcommand => exact ht.perform (fits_of_command? hc hcommand)

theorem fits_step {e : Event} (ht : l.table.Fits) (he : e.Fits) :
    (l.step docs e).1.table.Fits := by
  cases e with
  | connect client => exact ht
  | disconnect client => exact ht
  | call client c =>
    rw [Ledger.step]
    split
    · exact ht
    · exact fits_direct ht he _

/-- A call on a connection with nothing on the way. -/
theorem Shows.call (h : n.Shows docs l) (hdocs : FilesFit docs) (ht : l.table.Fits) {c : Call}
    (hc : c.Fits) (hid : (Event.call client c).FindsId l) :
    (n.call client c).2 = (l.step docs (.call client c)).2 ∧
      (n.call client c).1.Shows docs (l.step docs (.call client c)).1 := by
  obtain rfl := h.docs_eq
  rw [Network.call, h.link?_eq, Ledger.step]
  cases hbinding : l.bindings.get? client with
  | none => exact ⟨rfl, h⟩
  | some b =>
    obtain ⟨r, hhandle, htells⟩ := answered hdocs ht hc (hid b hbinding)
    dsimp only [Option.map_some]
    rw [if_pos rfl, h.store_eq, attend_request hc hhandle, List.nil_append, receive_reply htells]
    exact ⟨rfl, h.insert _ _ _⟩

/-- One event on the network is the same event on the ledger. -/
theorem Shows.step (h : n.Shows docs l) (hdocs : FilesFit docs) (ht : l.table.Fits) {e : Event}
    (he : e.Fits) (hid : e.FindsId l) :
    (n.step e).2 = (l.step docs e).2 ∧ (n.step e).1.Shows docs (l.step docs e).1 := by
  cases e with
  | connect client =>
    refine ⟨rfl, h.docs_eq, h.store_eq, fun client' => ?_⟩
    show (n.links.insert client .new).get? client' =
      ((l.bindings.insert client .unbound).get? client').map _
    rw [Dictionary.get?_insert, Dictionary.get?_insert, h.link?_eq]
    split <;> rfl
  | disconnect client =>
    refine ⟨rfl, h.docs_eq, h.store_eq, fun client' => ?_⟩
    show (n.links.erase client).get? client' = ((l.bindings.erase client).get? client').map _
    rw [Dictionary.get?_erase, Dictionary.get?_erase, h.link?_eq]
    split <;> rfl
  | call client c => exact h.call hdocs ht he hid

theorem Shows.run (h : n.Shows docs l) (hdocs : FilesFit docs) (ht : l.table.Fits)
    {es : List Event} (hes : ∀ e ∈ es, e.Fits) (hids : IdsSuffice docs l es) :
    (n.run es).2 = (l.run docs es).2 ∧ (n.run es).1.Shows docs (l.run docs es).1 := by
  induction es generalizing n l with
  | nil => exact ⟨rfl, h⟩
  | cons e es ih =>
    rw [List.forall_mem_cons] at hes
    obtain ⟨htold, hshows⟩ := h.step hdocs ht hes.1 hids.1
    obtain ⟨hlater, hend⟩ := ih hshows (fits_step ht hes.1) hes.2 hids.2
    refine ⟨?_, hend⟩
    show (n.step e).2 :: ((n.step e).1.run es).2 =
      (l.step docs e).2 :: ((l.step docs e).1.run docs es).2
    rw [htold, hlater]

/-- The failures that a call can run into. -/
theorem error_of_direct {t : Table} {c : Call} {e : Client.Error}
    (h : (c.direct docs t b).2.2 = .error e) :
    (∃ text, e = .server text) ∨ e = .rejected "Invalid session id" := by
  unfold Call.direct at h
  split at h
  · unfold Call.aside at h
    split at h
    case h_1 =>
      split at h <;> cases h
      exact .inl ⟨_, rfl⟩
    all_goals
      cases h
      exact .inl ⟨_, rfl⟩
  · dsimp only at h
    unfold outcomeOf at h
    split at h <;> cases h
    · exact .inr rfl
    · exact .inl ⟨_, rfl⟩

theorem error_of_run {es : List Event} {e : Client.Error}
    (h : some (.error e) ∈ (l.run docs es).2) :
    (∃ text, e = .server text) ∨ e = .rejected "Invalid session id" := by
  induction es generalizing l with
  | nil => cases h
  | cons event es ih =>
    have hmem : some (.error e) ∈ (l.step docs event).2 :: ((l.step docs event).1.run docs es).2 :=
      h
    rcases List.mem_cons.1 hmem with htold | hlater
    · cases event with
      | call client c =>
        rw [Ledger.step] at htold
        split at htold
        · cases htold
        · exact error_of_direct (Option.some.inj htold).symm
      | _ => cases htold
    · exact ih hlater

end

/-- Every run of calls is the run without a wire. No call meets a reply that it cannot
    read or that is none to it, and after every run nothing is on the way on any
    connection: the daemon reads all of a request and the client all of a reply. -/
theorem run_eq_direct (docs : DocumentRoot) (es : List Event) (hdocs : FilesFit docs)
    (hes : ∀ e ∈ es, e.Fits) (hids : IdsSuffice docs .new es) :
    ((new docs).run es).2 = (Ledger.new.run docs es).2 ∧
    (∀ e, some (.error e) ∈ ((new docs).run es).2 →
      (∃ text, e = .server text) ∨ e = .rejected "Invalid session id") ∧
    ((new docs).run es).1.Shows docs (Ledger.new.run docs es).1 ∧
    ∀ (b : Binding) (c : Call), c.Fits →
      (turn docs ((new docs).run es).1.store b c.request.write).rest = [] := by
  obtain ⟨htold, hshows⟩ := (shows_new docs).run hdocs Table.all_new hes hids
  refine ⟨htold, fun e he => ?_, hshows, fun b c hc => rest_turn_request hc _ b⟩
  rw [htold] at he
  exact error_of_run he

/-- Two clients of a daemon that serves one file. -/
theorem run_eq_direct_two_clients :
    let docs : DocumentRoot := ⟨⟨⟨[([[102]], .file [104, 105])]⟩, []⟩, []⟩
    let es : List Event := [.connect "a", .call "a" .openSession, .call "a" (.post "k\n" "v"),
      .call "a" (.get "/"), .call "a" (.get "k "), .connect "b", .call "b" (.resume ⟨7⟩)]
    FilesFit docs ∧ (∀ e ∈ es, e.Fits) ∧ IdsSuffice docs .new es ∧
    ((new docs).run es).2.map (Option.map Except.toOption) =
      [none, some (some (.opened ⟨1⟩)), some (some .done), some none,
        some (some (.body "v")), none, some none] := by
  intro docs es
  have hdocs : FilesFit docs := by
    apply filesFit_of_entries
    intro path contents hmem
    cases List.mem_singleton.1 hmem
    decide
  have hes : ∀ e ∈ es, e.Fits := by decide
  have hids : IdsSuffice docs .new es := by
    refine ⟨trivial, fun _ _ _ _ => rfl, ?_⟩
    exact ⟨nofun, nofun, nofun, trivial, nofun, trivial⟩
  have hrun := (run_eq_direct docs es hdocs hes hids).1
  refine ⟨hdocs, hes, hids, ?_⟩
  rw [hrun]
  decide +kernel

end Network

end Harbor.Session
