import Harbor.Proofs.Frame.Truncation
import Harbor.Proofs.Session.Conversation

/-!
# Requests that are cut short

A connection may end inside a request. The sessions are then as the requests before have
left them, or as the whole request leaves them, when nothing of it is missing that
matters. Only a request to close a session can do something else: its id is a number on a
line, the end of the stream ends that line, and the digits that have arrived are a number
too. So `close` for session 10, cut short behind the first digit, closes session 1.

Main results:

* `Request.read_cut`: what a request that is cut short is read as.
* `serveFrom_requests`: a conversation on requests goes on in the same way whatever follows.
* `serve_cut`: the sessions after a connection that ended inside a request.
* `serve_cut_close_ten`: one session closed in the place of another.
-/

namespace Harbor.Session

open Harbor.Frame (CutShort maxLine maxBody writeLine)
open Files (DocumentRoot)

variable {docs : DocumentRoot} {store : Store} {b : Binding} {r : Request} {rs : List Request}
  {piece : Octets}

/-! ## Reading -/

/-- No request can be read from the octets. -/
def Request.Nothing (piece : Octets) : Prop :=
  Reader.Fails Request.read piece ∨ Request.read piece = (.ok none, [])

/-- The request leaves the sessions as they are. -/
def Request.Harmless (r : Request) : Prop := ∀ docs store b, (handle docs store b r).1 = store

theorem harmless_resume (id : SessionId) : (Request.resume id).Harmless := by
  intro docs store b
  cases b with
  | bound id' => rfl
  | unbound =>
    rw [handle]
    rcases store.resume id with _ | _ | _ <;> rfl

theorem harmless_get (name : String) : (Request.get name).Harmless := by
  intro docs store b
  cases b <;> rfl

theorem harmless_unknown (verb : String) : (Request.unknown verb).Harmless := fun _ _ _ => rfl

/-- What a request can be read as, if the stream ends inside it. -/
inductive Request.CutAs (r : Request) (piece : Octets) : Request → Prop
  | whole : CutAs r piece r.received
  | harmless {r' : Request} : r'.Harmless → CutAs r piece r'
  | close {id other : SessionId} : r = .close id →
      piece = writeLine "close" ++ Text.encode other.text → CutAs r piece (.close other)

/-- Without the verb there is no request but the one that is nothing more than its verb. -/
theorem readArguments_nil {word : String} (h : word ≠ "open") :
    Reader.Fails (Request.readArguments word) [] ∨
      Request.readArguments word [] = (.ok (.unknown word), []) := by
  rw [Request.readArguments, if_neg h]
  split
  · exact .inl ((Frame.fails_readField_nil.bind _).bind _)
  split
  · exact .inl ((Frame.fails_readField_nil.bind _).bind _)
  split
  · exact .inl (Frame.fails_readField_nil.bind _)
  split
  · exact .inl (Frame.fails_readField_nil.bind _)
  · exact .inr rfl

theorem Request.verb_mem_verbs (h : ∀ verb, r ≠ .unknown verb) : r.verb ∈ verbs := by
  cases r with
  | unknown verb => exact absurd rfl (h verb)
  | _ => exact List.mem_of_elem_eq_true rfl

theorem eq_openSession_of_verb (hknown : ∀ verb, r ≠ .unknown verb)
    (h : Text.encode "open" <+: Text.encode r.verb) : r = .openSession := by
  have hverbs : ∀ v ∈ Request.verbs, Text.encode "open" <+: Text.encode v → v = "open" := by decide
  have hopen := hverbs r.verb (Request.verb_mem_verbs hknown) h
  cases r with
  | openSession => rfl
  | unknown verb => exact absurd rfl (hknown verb)
  | _ => exact absurd hopen (by simp [Request.verb])

/-- The stream ends within the verb. -/
theorem read_cut_verb (hknown : ∀ verb, r ≠ .unknown verb)
    (hcut : CutShort piece (writeLine r.verb)) :
    Request.Nothing piece ∨
      ∃ r', Request.CutAs r piece r' ∧ Request.read piece = (.ok (some r'), []) := by
  have hsize : ∀ v ∈ Request.verbs, Text.size v ≤ maxLine := by decide
  have hverb := Request.verb_mem_verbs hknown
  rcases hcut.line (hsize _ hverb) with rfl | hfails | ⟨word, rfl, hread⟩
  · exact .inl (.inr rfl)
  · exact .inl (.inl (hfails.bind _))
  · by_cases hopen : word = "open"
    · subst hopen
      have hfront := hcut.front_line
      rw [Request.singleLine_of_mem_verbs hverb] at hfront
      obtain rfl := eq_openSession_of_verb hknown hfront
      exact .inr ⟨_, .whole, Reader.bind_ok hread⟩
    · rcases readArguments_nil hopen with hfails | hunknown
      · exact .inl (.inl (Reader.Fails.at_end (hfails.bind _) hread))
      · refine .inr ⟨_, .harmless (harmless_unknown word), ?_⟩
        rw [Request.read, Reader.bind_ok hread]
        exact Reader.bind_ok hunknown

theorem read_writeLine {verb : String} (h : verb ∈ Request.verbs) (bs : Octets) :
    Request.read (writeLine verb ++ bs) =
      (Request.readArguments verb >>= fun r => pure (some r)) bs := by
  have hline := Frame.terminated_writeLine verb
  rw [Request.singleLine_of_mem_verbs h] at hline
  exact Reader.bind_ok (reads_verb h hline bs)

/-- The digits that have arrived are taken for the session id. -/
theorem read_close_unterminated (other : SessionId) :
    Request.read (writeLine "close" ++ Text.encode other.text) =
      (.ok (some (.close other)), []) := by
  rw [read_writeLine (by decide)]
  exact Reader.bind_ok (Reader.bind_ok (Frame.readSessionId_unterminated other))

/-- What a request is read as when the stream ends inside it. -/
theorem Request.read_cut (hr : r.Fits) (hknown : ∀ verb, r ≠ .unknown verb)
    (hcut : CutShort piece r.write) : Request.Nothing piece ∨
      ∃ r', Request.CutAs r piece r' ∧ Request.read piece = (.ok (some r'), []) := by
  rcases hcut.append with hverb | ⟨args, rfl, hargs⟩
  · exact read_cut_verb hknown hverb
  rw [Nothing, Reader.Fails, read_writeLine (verb_mem_verbs hknown)]
  cases r with
  | openSession => exact absurd (List.prefix_nil.1 hargs.front) hargs.ne_whole
  | resume id =>
    rcases hargs.sessionId with hfails | ⟨other, rfl⟩
    · exact .inl (.inl ((hfails.bind _).bind _))
    · refine .inr ⟨_, .harmless (harmless_resume other), ?_⟩
      exact Reader.bind_ok (Reader.bind_ok (Frame.readSessionId_unterminated other))
  | close id =>
    rcases hargs.sessionId with hfails | ⟨other, rfl⟩
    · exact .inl (.inl ((hfails.bind _).bind _))
    · refine .inr ⟨_, .close rfl rfl, ?_⟩
      rw [← read_writeLine (verb_mem_verbs hknown)]
      exact read_close_unterminated other
  | get name =>
    rcases hargs.field hr with hfails | ⟨name', rfl, hread⟩
    · exact .inl (.inl ((hfails.bind _).bind _))
    · refine .inr ⟨_, .harmless (harmless_get name'), ?_⟩
      exact Reader.bind_ok (Reader.bind_ok hread)
  | post name body =>
    rcases hargs.append with hname | ⟨body', rfl, hbody⟩
    · rcases hname.field hr.1 with hfails | ⟨name', rfl, hread⟩
      · exact .inl (.inl ((hfails.bind _).bind _))
      · have hargs : Reader.Fails (readArguments "post") (Text.encode name') :=
          Reader.Fails.at_end (Frame.fails_readBody_nil.bind _) hread
        exact .inl (.inl (hargs.bind _))
    · have hread := Frame.reads_field hr.1
      rcases hbody.body hr.2 with hfails | ⟨rfl, hempty⟩
      · have hargs : Reader.Fails (readArguments "post") (writeLine name ++ body') :=
          Reader.Fails.after (hfails.bind _) hread
        exact .inl (.inl (hargs.bind _))
      · refine .inr ⟨_, .whole, ?_⟩
        apply Reader.bind_ok
        exact (Reader.bind_ok (hread body')).trans (Reader.bind_ok hempty)
  | unknown verb => exact absurd rfl (hknown verb)

/-! ## Serving -/

/-- The conversation goes on after the request: it has a verb of the protocol and an answer. -/
def GoesOn (docs : DocumentRoot) (store : Store) (b : Binding) (r : Request) : Prop :=
  (∀ verb, r ≠ .unknown verb) ∧ ∃ reply, (handle docs store b r).2.2 = .ok reply

theorem store_serveFrom_of_nothing (h : Request.Nothing piece) :
    (serveFrom docs store b piece).store = store := by
  rcases h with ⟨e, rest, h⟩ | h
  · have hturn : (turn docs store b piece).ending? = some (.error (.ofFrame e)) := by
      rw [turn, h]
    rw [serveFrom_of_ending hturn, turn, h]
  · have hturn : (turn docs store b piece).ending? = some (.ok ()) := by rw [turn, h]
    rw [serveFrom_of_ending hturn, turn, h]

theorem store_serveFrom_of_goesOn {input rest : Octets} (hgo : GoesOn docs store b r)
    (hread : Request.read input = (.ok (some r), rest)) :
    (serveFrom docs store b input).store =
      (serveFrom docs (handle docs store b r).1 (handle docs store b r).2.1 rest).store := by
  obtain ⟨hverb, reply, hreply⟩ := hgo
  have hhandle : handle docs store b r =
      ((handle docs store b r).1, (handle docs store b r).2.1, .ok reply) := by rw [← hreply]
  rw [serveFrom_of_turn (turn_of_read hread hverb hhandle)]

theorem store_serveFrom_of_not_goesOn {input rest : Octets} (hstop : ¬ GoesOn docs store b r)
    (hread : Request.read input = (.ok (some r), rest)) :
    (serveFrom docs store b input).store = (handle docs store b r).1 := by
  have hturn : (turn docs store b input).store = (handle docs store b r).1 ∧
      (turn docs store b input).ending?.isSome := by
    rw [turn, hread]
    rcases hhandle : handle docs store b r with ⟨store', b', e | reply⟩
    · dsimp only
      rw [hhandle]
      exact ⟨rfl, rfl⟩
    · dsimp only
      rw [hhandle]
      cases r with
      | unknown verb => exact ⟨rfl, rfl⟩
      | _ =>
        refine absurd ⟨fun verb hverb => ?_, reply, congrArg (·.2.2) hhandle⟩ hstop
        cases hverb
  obtain ⟨result, hresult⟩ := Option.isSome_iff_exists.1 hturn.2
  rw [serveFrom_of_ending hresult, hturn.1]

/-- The last request that a client sends leaves the sessions as it is handled. -/
theorem store_serveFrom_of_read (h : Request.read piece = (.ok (some r), [])) :
    (serveFrom docs store b piece).store = (handle docs store b r).1 := by
  by_cases hgo : GoesOn docs store b r
  · rw [store_serveFrom_of_goesOn hgo h, serveFrom_nil]
  · exact store_serveFrom_of_not_goesOn hgo h

/-- After some requests a conversation has ended, or it goes on in the same way whatever
    follows them. -/
theorem serveFrom_requests (docs : DocumentRoot) (hrs : ∀ r ∈ rs, r.Fits) (store : Store)
    (b : Binding) :
    (∃ store', ∀ tail,
      (serveFrom docs store b (rs.flatMap Request.write ++ tail)).store = store') ∨
    ∃ store' b', ∀ tail, (serveFrom docs store b (rs.flatMap Request.write ++ tail)).store =
      (serveFrom docs store' b' tail).store := by
  induction rs generalizing store b with
  | nil => exact .inr ⟨store, b, fun _ => rfl⟩
  | cons r rs ih =>
    rw [List.forall_mem_cons] at hrs
    have hread (tail : Octets) : Request.read ((r :: rs).flatMap Request.write ++ tail) =
        (.ok (some r.received), rs.flatMap Request.write ++ tail) := by
      rw [List.flatMap_cons, List.append_assoc]
      exact Request.reads hrs.1 _
    by_cases hgo : GoesOn docs store b r.received
    · have hserve (tail : Octets) := store_serveFrom_of_goesOn hgo (hread tail)
      rcases ih hrs.2 (handle docs store b r.received).1 (handle docs store b r.received).2.1 with
        ⟨store', hended⟩ | ⟨store', b', hon⟩
      · exact .inl ⟨store', fun tail => (hserve tail).trans (hended tail)⟩
      · exact .inr ⟨store', b', fun tail => (hserve tail).trans (hon tail)⟩
    · exact .inl ⟨_, fun tail => store_serveFrom_of_not_goesOn hgo (hread tail)⟩

theorem store_serveFrom_write (hr : r.Fits) (store : Store) (b : Binding) :
    (serveFrom docs store b r.write).store = (handle docs store b r.received).1 :=
  store_serveFrom_of_read (Request.reads hr).apply

theorem store_handle_close (docs : DocumentRoot) (store : Store) (b : Binding) (id : SessionId) :
    (handle docs store b (.close id)).1 = (store.close id).1 := by
  rw [handle]
  rcases store.close id with ⟨store', _ | _⟩ <;> rfl

theorem store_serveFrom_close (docs : DocumentRoot) (other : SessionId) (store : Store)
    (b : Binding) :
    (serveFrom docs store b (writeLine "close" ++ Text.encode other.text)).store =
      (store.close other).1 := by
  rw [store_serveFrom_of_read (read_close_unterminated other), store_handle_close]

/-- One request that is cut short, at the front of a conversation. -/
theorem store_serveFrom_cut (docs : DocumentRoot) (hr : r.Fits)
    (hknown : ∀ verb, r ≠ .unknown verb) (hcut : CutShort piece r.write) (store : Store)
    (b : Binding) :
    (serveFrom docs store b piece).store = store ∨
      (serveFrom docs store b piece).store = (serveFrom docs store b r.write).store ∨
      ∃ id other : SessionId, r = .close id ∧
        piece = writeLine "close" ++ Text.encode other.text := by
  rcases Request.read_cut hr hknown hcut with hnothing | ⟨r', hcutAs, hread⟩
  · exact .inl (store_serveFrom_of_nothing hnothing)
  · cases hcutAs with
    | whole =>
      refine .inr (.inl ?_)
      rw [store_serveFrom_of_read hread, store_serveFrom_write hr]
    | harmless hharmless =>
      refine .inl ?_
      rw [store_serveFrom_of_read hread, hharmless]
    | close hclose hpiece => exact .inr (.inr ⟨_, _, hclose, hpiece⟩)

/-- Two sessions closed are not the same change. -/
theorem Store.close_ne_close {id other : SessionId} (hne : other ≠ id)
    (hclose : (store.close other).1 ≠ store) : (store.close other).1 ≠ (store.close id).1 := by
  cases store with
  | gone => exact absurd rfl hclose
  | live t =>
    have hopen : t.isOpen other := by
      refine Decidable.byContradiction fun hnot => hclose ?_
      rw [Store.close, Table.close, if_neg hnot]
    intro heq
    have htable : (t.close other).1 = (t.close id).1 := Store.live.inj heq
    have hclosed : (t.close other).1.session? other = none := by
      rw [Table.close, if_pos hopen]
      exact (Dictionary.get?_erase ..).trans (if_pos rfl)
    have hkept : (t.close id).1.session? other = t.session? other := by
      rw [Table.close]
      split
      · exact (Dictionary.get?_erase ..).trans (if_neg (Ne.symm hne))
      · rfl
    rw [htable, hkept] at hclosed
    rw [Table.isOpen, Dictionary.contains, Option.isSome_iff_ne_none] at hopen
    exact hopen hclosed

/-- As `store_serveFrom_cut`, with the exact condition. -/
theorem store_serveFrom_cut_iff (docs : DocumentRoot) (hr : r.Fits)
    (hknown : ∀ verb, r ≠ .unknown verb) (hcut : CutShort piece r.write) (store : Store)
    (b : Binding) :
    ((serveFrom docs store b piece).store = store ∨
      (serveFrom docs store b piece).store = (serveFrom docs store b r.write).store) ↔
    ¬ ∃ id other : SessionId, r = .close id ∧ other ≠ id ∧
      piece = writeLine "close" ++ Text.encode other.text ∧ (store.close other).1 ≠ store := by
  constructor
  · rintro hgood ⟨id, other, rfl, hne, rfl, hchange⟩
    rw [store_serveFrom_close, store_serveFrom_write hr] at hgood
    have hwhole := store_handle_close docs store b id
    rcases hgood with hkept | hclosed
    · exact hchange hkept
    · exact Store.close_ne_close hne hchange (hclosed.trans hwhole)
  · intro hnot
    rcases store_serveFrom_cut docs hr hknown hcut store b with
      hkept | hwhole | ⟨id, other, rfl, rfl⟩
    · exact .inl hkept
    · exact .inr hwhole
    · rw [store_serveFrom_close, store_serveFrom_write hr]
      by_cases hne : other = id
      · subst hne
        exact .inr (store_handle_close docs store b other).symm
      · exact .inl (Decidable.byContradiction fun hchange =>
          hnot ⟨id, other, rfl, hne, rfl, hchange⟩)

/-- A connection ends inside a request. The sessions are then as the requests before have
    left them or as the whole request leaves them, exactly when it is not the case that an
    open session is closed in the place of the one that the request names. For that the
    request is to close a session, and what has arrived of its id is the id of another. -/
theorem serve_cut (docs : DocumentRoot) (store : Store) (hrs : ∀ r ∈ rs, r.Fits) (hr : r.Fits)
    (hknown : ∀ verb, r ≠ .unknown verb) (hcut : CutShort piece r.write) :
    let after more := (serve docs store ((rs ++ more).flatMap Request.write)).store
    let cut := (serve docs store (rs.flatMap Request.write ++ piece)).store
    ((cut = after [] ∨ cut = after [r]) ↔ ¬ ∃ id other : SessionId, r = .close id ∧ other ≠ id ∧
        piece = writeLine "close" ++ Text.encode other.text ∧ after [.close other] ≠ after []) ∧
      ∀ id other : SessionId, r = .close id → piece = writeLine "close" ++ Text.encode other.text →
        cut = after [.close other] := by
  intro after cut
  have hafter (more : List Request) : after more = (serveFrom docs store .unbound
      (rs.flatMap Request.write ++ more.flatMap Request.write)).store := by
    rw [← List.flatMap_append]
    rfl
  rcases serveFrom_requests docs hrs store .unbound with
    ⟨store', hended⟩ | ⟨store', b', hon⟩
  · have hsame (more : List Request) : after more = store' := (hafter more).trans (hended _)
    have hpiece : cut = store' := hended piece
    simp [hsame, hpiece]
  · have hpiece : cut = (serveFrom docs store' b' piece).store := hon piece
    have hnil : after [] = store' := by rw [hafter, List.flatMap_nil, hon, serveFrom_nil]
    have hone (r' : Request) : after [r'] = (serveFrom docs store' b' r'.write).store := by
      rw [hafter, List.flatMap_singleton, hon]
    have hclose (id : SessionId) : after [.close id] = (store'.close id).1 := by
      rw [hone, store_serveFrom_write (r := .close id) trivial]
      exact store_handle_close ..
    rw [hpiece, hnil, hone r]
    simp only [hclose]
    refine ⟨store_serveFrom_cut_iff docs hr hknown hcut store' b', ?_⟩
    rintro id other - rfl
    exact store_serveFrom_close ..

/-- One octet of a value is missing. -/
theorem serve_cut_post :
    let docs : DocumentRoot := ⟨.empty, []⟩
    let rs : List Request := [.openSession, .post "k" "v"]
    let r : Request := .post "k" "vv"
    let piece := Text.encode "post\nk\n2\nv"
    let after more := (serve docs .new ((rs ++ more).flatMap Request.write)).store
    let cut := (serve docs .new (rs.flatMap Request.write ++ piece)).store
    (∀ r ∈ rs, r.Fits) ∧ r.Fits ∧ (∀ verb, r ≠ .unknown verb) ∧ CutShort piece r.write ∧
    (cut = after [] ∨ cut = after [r]) := by
  intro docs rs r piece after cut
  have hrs : ∀ r ∈ rs, r.Fits := by decide
  have hr : r.Fits := by decide
  have hknown : ∀ verb, r ≠ .unknown verb := nofun
  have hcut : CutShort piece r.write := by
    have hwrite : r.write = Text.encode "post\nk\n2\nvv" := by decide +kernel
    rw [hwrite]
    exact ⟨by decide, by decide⟩
  refine ⟨hrs, hr, hknown, hcut, (serve_cut docs .new hrs hr hknown hcut).1.2 ?_⟩
  rintro ⟨id, other, hclose, -⟩
  have hpost : Request.post "k" "vv" = .close id := hclose
  cases hpost

/-- Ten sessions are open. A connection ends when the first digit of the last one's id has
    arrived, and the first session is closed. -/
theorem serve_cut_close_ten :
    let docs : DocumentRoot := ⟨.empty, []⟩
    let store : Store := .live (Table.new.run (List.replicate 10 .openSession)).1
    let r : Request := .close ⟨10⟩
    let piece := Text.encode "close\n1"
    let cut := (serve docs store piece).store
    CutShort piece r.write ∧ cut ≠ (serve docs store []).store ∧
    cut ≠ (serve docs store r.write).store ∧ cut = (store.close ⟨1⟩).1 := by
  intro docs store r piece cut
  have hpiece : piece = writeLine "close" ++ Text.encode (SessionId.text ⟨1⟩) := by decide +kernel
  have hcut : cut = (store.close ⟨1⟩).1 := by
    show (serve docs store piece).store = _
    rw [hpiece]
    exact store_serveFrom_close ..
  have hnothing : (serve docs store []).store = store := by rw [serve, serveFrom_nil]
  have hwhole : (serve docs store r.write).store = (store.close ⟨10⟩).1 := by
    rw [serve, store_serveFrom_write (r := r) trivial]
    exact store_handle_close ..
  have hwrite : r.write = Text.encode "close\n10\n" := by decide +kernel
  rw [hcut, hnothing, hwhole, hwrite]
  exact ⟨⟨by decide, by decide⟩, by decide, by decide, rfl⟩

end Harbor.Session
