import Harbor.Proofs.Frame.Refusals
import Harbor.Proofs.Session.Requests
import Harbor.Proofs.Session.RoundTrip

/-!
# Conversations over octets

A conversation on the octets of some requests is these requests handled one after
another: the daemon writes the octets of the replies and is then where the requests
have left it. A refused request is no exception, for it has been read to its end.

What follows the requests ends the conversation. At a fatal piece, one that cannot be
the beginning of a request, the daemon writes one error and stops, whatever comes
behind it; at the end of the stream it stops without a word.

Main results:

* `handle_live`: while there are ids, every request is answered.
* `serveFrom_write`: a request at the front is handled, and the conversation goes on.
* `serveFrom_fatal`, `serveFrom_cutOff`: how a conversation ends.
* `serve_pipelined`: the whole conversation.
-/

namespace Harbor.Session

open Harbor.Frame (IsLine Terminated Says maxLine maxBody)
open Files (DocumentRoot)

/-! ## Requests one after another -/

/-- The request is one that clients send: the protocol has its verb, its name is a single
    line, and its texts are not too long. -/
def Request.WellFormed : Request → Prop
  | .get name => IsLine name ∧ Text.size name ≤ maxLine
  | .post name body => IsLine name ∧ Text.size name ≤ maxLine ∧ Text.size body ≤ maxBody
  | .unknown _ => False
  | _ => True

instance : (r : Request) → Decidable r.WellFormed
  | .get _ | .post _ _ => inferInstanceAs (Decidable (_ ∧ _))
  | .openSession | .resume _ | .close _ => .isTrue trivial
  | .unknown _ => .isFalse nofun

/-- Handles requests one after another on one connection, and collects the answers. -/
def handleAll (docs : DocumentRoot) (store : Store) (b : Binding) :
    List Request → Store × Binding × List (Except Connection.Failure Reply)
  | [] => (store, b, [])
  | r :: rs =>
    let (store', b', answer) := handle docs store b r
    let (store'', b'', answers) := handleAll docs store' b' rs
    (store'', b'', answer :: answers)

/-- The table is there and has an id for the next session. -/
def Store.HasId : Store → Prop
  | live t => t.next?.isSome
  | gone => False

/-- No request asks for a new session when there is no id left. -/
def IdsLast (docs : DocumentRoot) : Store → Binding → List Request → Prop
  | _, _, [] => True
  | store, b, r :: rs =>
    (r = .openSession → b = .unbound → store.HasId) ∧
      IdsLast docs (handle docs store b r).1 (handle docs store b r).2.1 rs

section

variable {docs : DocumentRoot} {store : Store} {t : Table} {b : Binding} {r : Request}

theorem Request.WellFormed.fits (h : r.WellFormed) : r.Fits := by
  cases r with
  | get name => exact h.2
  | post name body => exact h.2
  | unknown verb => exact h.elim
  | _ => trivial

theorem Request.WellFormed.received_eq (h : r.WellFormed) : r.received = r := by
  cases r with
  | get name => rw [received, h.1.singleLine_eq]
  | post name body => rw [received, h.1.singleLine_eq]
  | unknown verb => exact h.elim
  | _ => rfl

theorem Request.WellFormed.reads (h : r.WellFormed) :
    Reader.Reads Request.read r.write (some r) := by
  have := Request.reads h.fits
  rwa [h.received_eq] at this

/-! ## Answers -/

/-- While there are ids, every request is answered. -/
theorem handle_live (docs : DocumentRoot)
    (hid : r = .openSession → b = .unbound → (Store.live t).HasId) :
    ∃ t' b' reply, handle docs (.live t) b r = (.live t', b', .ok reply) := by
  obtain ⟨t', d, b', answer, hhandle, -, -, heffect⟩ := handled docs t b r
  cases heffect with
  | exhausted hnext =>
    have hsome : t.next?.isSome := hid rfl rfl
    rw [hnext] at hsome
    cases hsome
  | _ => exact ⟨t', _, _, hhandle⟩

/-! ## Turns -/

/-- A request that was read and answered is a turn, after which the conversation goes on. -/
theorem turn_of_read {input rest : Octets} {store' : Store} {b' : Binding} {reply : Reply}
    (hread : Request.read input = (.ok (some r), rest)) (hverb : ∀ verb, r ≠ .unknown verb)
    (h : handle docs store b r = (store', b', .ok reply)) :
    turn docs store b input = ⟨store', b', reply.write, rest, none⟩ := by
  rw [turn, hread]
  dsimp only
  rw [h]
  cases r with
  | unknown verb => exact absurd rfl (hverb verb)
  | _ => rfl

theorem serveFrom_of_ending {input : Octets} {result : Except Connection.Failure Unit}
    (h : (turn docs store b input).ending? = some result) :
    serveFrom docs store b input =
      ⟨(turn docs store b input).store, (turn docs store b input).output, result⟩ := by
  rw [serveFrom]
  split
  · next hsome =>
    rw [h] at hsome
    cases hsome
    rfl
  · next hnone =>
    rw [h] at hnone
    cases hnone

/-- The conversation after a turn that does not end it. -/
theorem serveFrom_of_turn {input rest output : Octets} {store' : Store} {b' : Binding}
    (h : turn docs store b input = ⟨store', b', output, rest, none⟩) :
    serveFrom docs store b input =
      { serveFrom docs store' b' rest with
        output := output ++ (serveFrom docs store' b' rest).output } := by
  rw [serveFrom]
  split
  · next hsome =>
    rw [h] at hsome
    cases hsome
  · rw [h]

/-- What holds of a conversation that its first turn ends, and of any other if it holds of
    what comes after the first turn, holds of every conversation. -/
theorem turns_induction (docs : DocumentRoot) {motive : Store → Binding → Octets → Prop}
    (ends : ∀ store b input result, (turn docs store b input).ending? = some result →
      motive store b input)
    (goes_on : ∀ store b input store' b' output rest,
      turn docs store b input = ⟨store', b', output, rest, none⟩ → motive store' b' rest →
        motive store b input)
    (store : Store) (b : Binding) (input : Octets) : motive store b input := by
  induction hn : input.length using Nat.strongRecOn generalizing store b input with
  | _ n ih =>
    have hshorter := @turn_shorter docs store b input
    cases ht : turn docs store b input with
    | mk store' b' output rest ending? =>
      rw [ht] at hshorter
      cases ending? with
      | some result => exact ends store b input result (congrArg Turn.ending? ht)
      | none =>
        have hrest := ih rest.length (hn ▸ hshorter rfl) store' b' rest rfl
        exact goes_on store b input store' b' output rest ht hrest

/-- A request at the front is handled, and the conversation goes on from there. -/
theorem serveFrom_write {store' : Store} {b' : Binding} {reply : Reply} (hr : r.WellFormed)
    (h : handle docs store b r = (store', b', .ok reply)) (rest : Octets) :
    serveFrom docs store b (r.write ++ rest) =
      { serveFrom docs store' b' rest with
        output := reply.write ++ (serveFrom docs store' b' rest).output } := by
  refine serveFrom_of_turn (turn_of_read (hr.reads rest) ?_ h)
  rintro verb rfl
  exact hr

/-- Requests at the front are handled one after another. -/
theorem serveFrom_flatMap_write {rs : List Request} (hrs : ∀ r ∈ rs, r.WellFormed)
    (hids : IdsLast docs (.live t) b rs) : ∃ (t' : Table) (b' : Binding) (replies : List Reply),
      handleAll docs (.live t) b rs = (.live t', b', replies.map .ok) ∧
      ∀ tail, serveFrom docs (.live t) b (rs.flatMap Request.write ++ tail) =
        { serveFrom docs (.live t') b' tail with
          output := replies.flatMap Reply.write ++ (serveFrom docs (.live t') b' tail).output } := by
  induction rs generalizing t b with
  | nil => exact ⟨t, b, [], rfl, fun tail => rfl⟩
  | cons r rs ih =>
    rw [List.forall_mem_cons] at hrs
    obtain ⟨hid, hrest⟩ := hids
    obtain ⟨t₁, b₁, reply, hfirst⟩ := handle_live docs hid
    rw [hfirst] at hrest
    obtain ⟨t', b', replies, hlater, hserve⟩ := ih hrs.2 hrest
    refine ⟨t', b', reply :: replies, ?_, fun tail => ?_⟩
    · rw [handleAll, hfirst]
      dsimp only
      rw [hlater, List.map_cons]
    · rw [List.flatMap_cons, List.append_assoc, serveFrom_write hrs.1 hfirst, hserve tail,
        List.flatMap_cons, List.append_assoc]

/-! ## How a conversation ends -/

/-- Octets with which no request of the protocol begins: a verb that it does not have, an
    id that is none, or a length that is none or too large. Each is a whole line with its
    terminator, behind the lines that belong before it. -/
inductive Fatal : Octets → Prop
  | verb {content line : Octets} : Terminated content line →
      (∀ v ∈ Request.verbs, content ≠ Text.encode v) → Fatal line
  | id {v : String} {content verbLine line : Octets} : v = "resume" ∨ v = "close" →
      Terminated (Text.encode v) verbLine → Terminated content line →
      (∀ id, ¬ Says SessionId.ofText? content id) → Fatal (verbLine ++ line)
  | length {name content verbLine nameLine line : Octets} :
      Terminated (Text.encode "post") verbLine → Terminated name nameLine →
      Terminated content line → (∀ n, Says Text.parse64 content n → maxBody < n.toNat) →
      Fatal (verbLine ++ (nameLine ++ line))

/-- The octets of a post up to some place inside its body. -/
inductive CutOff : Octets → Prop
  | body {name count : String} {n : UInt64} {verbLine nameLine countLine octets : Octets} :
      Terminated (Text.encode "post") verbLine →
      Terminated (Text.encode name) nameLine → nameLine.length ≤ maxLine + 1 →
      Terminated (Text.encode count) countLine → countLine.length ≤ maxLine + 1 →
      Text.parse64 (Text.trim count) = .ok n → n.toNat ≤ maxBody → octets.length < n.toNat →
      CutOff (verbLine ++ (nameLine ++ (countLine ++ octets)))

theorem reads_verb {v : String} {line : Octets} (hmem : v ∈ Request.verbs)
    (h : Terminated (Text.encode v) line) : Reader.Reads Frame.readLine line (some v) := by
  have hsize : ∀ v ∈ Request.verbs, Text.size v < maxLine := by decide
  exact h.reads_short (hsize v hmem)

/-- Arguments that are refused after their verb. -/
theorem refuses_arguments {v : String} {verbLine bs : Octets} {e : Frame.Error}
    (hmem : v ∈ Request.verbs) (hverb : Terminated (Text.encode v) verbLine)
    (h : Reader.Refuses (Request.readArguments v) bs e) :
    Reader.Refuses Request.read (verbLine ++ bs) e :=
  Reader.Refuses.after (h.bind _) (reads_verb hmem hverb)

theorem readArguments_of_id {v : String} (hv : v = "resume" ∨ v = "close") :
    ∃ make : SessionId → Request,
      Request.readArguments v = Frame.readSessionId >>= fun id => pure (make id) := by
  rcases hv with rfl | rfl
  · exact ⟨.resume, rfl⟩
  · exact ⟨.close, rfl⟩

/-- A fatal piece is read as a verb that the protocol does not have, or not at all. -/
theorem Fatal.reads_or_refuses {tail : Octets} (h : Fatal tail) :
    (∃ verb, Reader.Reads Request.read tail (some (.unknown verb))) ∨
      ∃ e, e.isViolation ∧ Reader.Refuses Request.read tail e := by
  cases h with
  | verb hline hverb =>
    rcases hline.reads_or_refuses with ⟨s, rfl, hread⟩ | ⟨e, he, hrefuse⟩
    · have hs : s ∉ Request.verbs := fun hmem => hverb s hmem rfl
      simp only [Request.verbs, List.mem_cons, List.not_mem_nil, or_false, not_or] at hs
      obtain ⟨h₁, h₂, h₃, h₄, h₅⟩ := hs
      refine .inl ⟨s, hread.map ?_⟩
      dsimp only
      rw [Request.readArguments, if_neg h₁, if_neg h₂, if_neg h₃, if_neg h₄, if_neg h₅]
      exact .pure _
    · exact .inr ⟨e, he, hrefuse.bind _⟩
  | id hv hverb hline hvalue =>
    obtain ⟨make, hmake⟩ := readArguments_of_id hv
    obtain ⟨e, he, hrefuse⟩ := Frame.refuses_parsed "session id" hline hvalue
    refine .inr ⟨e, he, refuses_arguments ?_ hverb ?_⟩
    · rcases hv with rfl | rfl <;> decide
    · rw [hmake]
      exact hrefuse.bind _
  | length hverb hname hline hvalue =>
    right
    rcases hname.field_reads_or_refuses with ⟨name, -, hread⟩ | ⟨e, he, hrefuse⟩
    · obtain ⟨e, he, hrefuse⟩ := Frame.refuses_body hline hvalue
      refine ⟨e, he, refuses_arguments (by decide) hverb ?_⟩
      exact Reader.Refuses.after (hrefuse.bind _) hread
    · refine ⟨e, he, refuses_arguments (by decide) hverb ?_⟩
      exact (hrefuse.bind _).append _

theorem CutOff.read_eq {tail : Octets} (h : CutOff tail) :
    Request.read tail = (.error .unexpectedEnd, []) := by
  cases h with
  | body hverb hname hnameLength hcount hcountLength hparse hn hoctets =>
    have hfield : Reader.Reads Frame.readField _ _ := (hname.reads hnameLength).map (.pure _)
    have hread := hcount.reads_parsed hcountLength "length" hparse
    have hbody := Frame.readBody_short hread hn hoctets
    rw [Request.read, Reader.bind_ok (reads_verb (by decide) hverb _)]
    apply Reader.bind_error
    show (Frame.readField >>= _) _ = _
    rw [Reader.bind_ok (hfield _)]
    exact Reader.bind_error hbody

/-- At a fatal piece the daemon writes one error and stops, whatever comes behind it. -/
theorem serveFrom_fatal {tail : Octets} (h : Fatal tail) : ∃ message reason,
    ∀ store b rest, serveFrom docs store b (tail ++ rest) =
      ⟨store, (Reply.error message).write, .error (.violation reason)⟩ := by
  rcases h.reads_or_refuses with ⟨verb, hread⟩ | ⟨e, he, hrefuse⟩
  · refine ⟨s!"Invalid message {verb}", s!"unknown verb {Text.quote verb}", ?_⟩
    intro store b rest
    have hturn : turn docs store b (tail ++ rest) =
        ⟨store, b, (Reply.error s!"Invalid message {verb}").write, rest,
          some (.error (.unknownVerb verb))⟩ := by
      rw [turn, hread rest]
      rfl
    rw [serveFrom_of_ending (congrArg Turn.ending? hturn), hturn]
    rfl
  · refine ⟨e.message, e.message, fun store b rest => ?_⟩
    obtain ⟨rest', hrest⟩ := hrefuse rest
    have hturn : turn docs store b (tail ++ rest) = ⟨store, b, (Reply.error e.message).write,
        rest', some (.error (.violation e.message))⟩ := by
      rw [turn, hrest]
      dsimp only
      rw [if_pos he, Connection.Failure.ofFrame_of_isViolation he]
    rw [serveFrom_of_ending (congrArg Turn.ending? hturn), hturn]

/-- When the stream ends inside a body, the daemon stops without a word. -/
theorem serveFrom_cutOff {tail : Octets} (h : CutOff tail) (store : Store) (b : Binding) :
    serveFrom docs store b tail = ⟨store, [], .error .unexpectedEnd⟩ := by
  have hturn : turn docs store b tail = ⟨store, b, [], [], some (.error .unexpectedEnd)⟩ := by
    rw [turn, h.read_eq]
    rfl
  rw [serveFrom_of_ending (congrArg Turn.ending? hturn), hturn]

theorem serveFrom_nil (store : Store) (b : Binding) :
    serveFrom docs store b [] = ⟨store, [], .ok ()⟩ := serveFrom_of_ending rfl

end

/-- The daemon's side of a conversation on the octets of some requests and what follows
    them. The replies are those of the requests handled one after another, and the
    sessions are in the end what these have made of them. The last octets that matter are
    those of the fatal piece. -/
theorem serve_pipelined (docs : DocumentRoot) (t : Table) (rs : List Request)
    (hrs : ∀ r ∈ rs, r.WellFormed) (hids : IdsLast docs (.live t) .unbound rs) :
    ∃ (t' : Table) (b' : Binding) (replies : List Reply),
      handleAll docs (.live t) .unbound rs = (.live t', b', replies.map .ok) ∧
      serve docs (.live t) (rs.flatMap Request.write) =
        ⟨.live t', replies.flatMap Reply.write, .ok ()⟩ ∧
      (∀ tail, Fatal tail → ∃ message reason, ∀ rest,
        serve docs (.live t) (rs.flatMap Request.write ++ (tail ++ rest)) =
          ⟨.live t', replies.flatMap Reply.write ++ (Reply.error message).write,
            .error (.violation reason)⟩) ∧
      ∀ tail, CutOff tail → serve docs (.live t) (rs.flatMap Request.write ++ tail) =
        ⟨.live t', replies.flatMap Reply.write, .error .unexpectedEnd⟩ := by
  obtain ⟨t', b', replies, hall, hserve⟩ := serveFrom_flatMap_write hrs hids
  refine ⟨t', b', replies, hall, ?_, fun tail htail => ?_, fun tail htail => ?_⟩
  · have hend := hserve []
    rw [List.append_nil, serveFrom_nil] at hend
    dsimp only at hend
    rwa [List.append_nil] at hend
  · obtain ⟨message, reason, hfatal⟩ := @serveFrom_fatal docs _ htail
    refine ⟨message, reason, fun rest => ?_⟩
    rw [serve, hserve, hfatal]
  · rw [serve, hserve, serveFrom_cutOff htail]
    dsimp only
    rw [List.append_nil]

/-- A refused post whose body looks like a request, and three ways to end. -/
theorem serve_pipelined_refused_post :
    let docs : DocumentRoot := ⟨.empty, []⟩
    let rs : List Request :=
      [.post "k" "close\n1\n", .openSession, .post "/k" "open\n", .post "k" "v", .get "k"]
    let replies : List Reply := [.error "No open session", .accepted ⟨1⟩,
      .error "Cannot post to file path /k", .success, .document "k" "v"]
    let told := replies.flatMap Reply.write
    (∀ r ∈ rs, r.WellFormed) ∧ IdsLast docs .new .unbound rs ∧
    (serve docs .new (rs.flatMap Request.write)).output = told ∧
    (∃ message, ∀ rest, (serve docs .new (rs.flatMap Request.write ++
      (Text.encode "post\nk\r\n-1\n" ++ rest))).output = told ++ (Reply.error message).write) ∧
    (serve docs .new (rs.flatMap Request.write ++ Text.encode "post\nk\n 07\nclose\n")).output =
      told := by
  intro docs rs replies told
  have hrs : ∀ r ∈ rs, r.WellFormed := by decide
  have hids : IdsLast docs .new .unbound rs :=
    ⟨nofun, fun _ _ => rfl, nofun, nofun, nofun, trivial⟩
  obtain ⟨t', b', replies', hall, hend, hfatal, hcut⟩ := serve_pipelined docs .new rs hrs hids
  have hreplies : replies' = replies := by
    have hanswers : (handleAll docs .new .unbound rs).2.2.map Except.toOption =
        replies.map some := by decide +kernel
    have hlist : (handleAll docs .new .unbound rs).2.2 = replies'.map .ok :=
      congrArg (fun p : Store × Binding × List _ => p.2.2) hall
    rw [hlist, List.map_map] at hanswers
    exact (List.map_inj_right fun _ _ => Option.some.inj).1 hanswers
  subst hreplies
  refine ⟨hrs, hids, congrArg Served.output hend, ?_, ?_⟩
  · have htail : Fatal (Text.encode "post\nk\r\n-1\n") := by
      refine @Fatal.length (Text.encode "k") (Text.encode "-1") (Text.encode "post\n")
        (Text.encode "k\r\n") (Text.encode "-1\n") ⟨by decide, by decide⟩ ⟨by decide, by decide⟩
        ⟨by decide, by decide⟩ ?_
      rintro n ⟨s, hs, hparse⟩
      have hs' : Text.decode? (Text.encode "-1") = some s := Text.decode?_eq_some_iff.2 hs
      rw [Text.decode?_encode] at hs'
      obtain rfl := Option.some.inj hs'
      have : (Text.parse64 (Text.trim "-1")).toOption = none := by decide +kernel
      rw [hparse] at this
      cases this
    obtain ⟨message, reason, hserve⟩ := hfatal _ htail
    exact ⟨message, fun rest => congrArg Served.output (hserve rest)⟩
  · have htail : CutOff (Text.encode "post\nk\n 07\nclose\n") := by
      have hparse : Text.parse64 (Text.trim " 07") = .ok 7 := by cbv
      exact @CutOff.body "k" " 07" 7 (Text.encode "post\n") (Text.encode "k\n")
        (Text.encode " 07\n") (Text.encode "close\n") ⟨by decide, by decide⟩
        ⟨by decide, by decide⟩ (by decide) ⟨by decide, by decide⟩ (by decide) hparse
        (by decide) (by decide)
    exact congrArg Served.output (hcut _ htail)

end Harbor.Session
