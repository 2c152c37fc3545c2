import Harbor.Proofs.Frame.Sizes
import Harbor.Proofs.Session.Replies
import Harbor.Proofs.Session.Truncation

/-!
# What is answered to what

What a client sends is within the limits of requests, and so is what it may store. So
every value that a client can get back is within the limits of content. The other replies
are failures in words, which tell a name back in a sentence, and documents from files,
which may be of any size.

Main results:

* `Request.ensures_read`: a request that was read is within the limits.
* `gives_of_handle`: what can be answered to a request.
* `Store.Reachable.fits`: values are within the limits, whatever connections have done.
-/

namespace Harbor.Session

open Harbor.Frame (maxLine maxBody)
open Files (DocumentRoot DocumentError)

variable {docs : DocumentRoot} {store : Store} {b : Binding} {r : Request} {reply : Reply}
  {input : Octets}

/-! ## What is read is within the limits -/

/-- The fields of the request have the one property, and its body has the other. -/
def Request.Carries (P Q : String → Prop) : Request → Prop
  | get name => P name
  | post name body => P name ∧ Q body
  | unknown verb => P verb ∧ verb ∉ verbs
  | _ => True

section Carries

variable {P Q : String → Prop}

theorem Request.ensures_readArguments (hname : Reader.Ensures Frame.readField P)
    (hbody : Reader.Ensures Frame.readBody Q) {verb : String} (hverb : P verb) :
    Reader.Ensures (readArguments verb) (Carries P Q) := by
  unfold readArguments
  split
  · exact .pure trivial
  split
  · exact .after fun id => .pure trivial
  split
  · exact .after fun id => .pure trivial
  split
  · exact hname.bind fun name hname => .pure hname
  split
  · refine hname.bind fun name hname => ?_
    exact hbody.bind fun body hbody => .pure ⟨hname, hbody⟩
  · next h₁ h₂ h₃ h₄ h₅ =>
    refine .pure ⟨hverb, ?_⟩
    simp only [verbs, List.mem_cons, List.not_mem_nil, or_false, not_or]
    exact ⟨h₁, h₂, h₃, h₄, h₅⟩

/-- What the reader of lines and the reader of content ensure holds of every request. -/
theorem Request.ensures_read_carries
    (hline : Reader.Ensures Frame.readLine fun line => ∀ s ∈ line, P s)
    (hbody : Reader.Ensures Frame.readBody Q) :
    Reader.Ensures read fun found => ∀ r ∈ found, r.Carries P Q := by
  refine hline.bind fun line hfound => ?_
  cases line with
  | none => exact .pure nofun
  | some verb =>
    refine (ensures_readArguments (Frame.ensures_readField_of hline) hbody (hfound verb rfl)).bind
      fun r hr => .pure fun r' hr' => ?_
    obtain rfl := Option.some.inj hr'
    exact hr

end Carries

theorem Request.ensures_read : Reader.Ensures read fun found => ∀ r ∈ found, r.Fits := by
  have hread := ensures_read_carries Frame.ensures_readLine Frame.ensures_readBody
  intro bs found h r hr
  have hcarries := hread bs found h r hr
  cases r with
  | openSession | resume id | close id => trivial
  | get name | post name body | unknown verb => exact hcarries

/-! ## Answers -/

/-- Every value in the table has the property together with its key. -/
def Store.All (P : String → String → Prop) : Store → Prop
  | live t => t.All P
  | gone => True

/-- Every value in the table has at most as many octets as content may have. -/
def Store.Fits (store : Store) : Prop := store.All fun _ value => Text.size value ≤ maxBody

/-- What a request is about: a name, a verb that the protocol does not have, or neither. -/
def Request.subject : Request → String
  | get name | post name _ => name
  | unknown verb => verb
  | _ => ""

/-- What the daemon can answer to a request. -/
inductive Gives (docs : DocumentRoot) : Request → Reply → Prop
  | accepted {r : Request} (id : SessionId) : r.replyShape = .session → Gives docs r (.accepted id)
  | closed {r : Request} (id : SessionId) : r.replyShape = .session → Gives docs r (.closed id)
  | rejected {r : Request} :
      r.replyShape = .session → Gives docs r (.rejected "Invalid session id")
  | value {name body : String} :
      Text.size body ≤ maxBody → Gives docs (.get name) (.document name body)
  | file {name body : String} : isDocumentName name → docs.read name = .ok body →
      Gives docs (.get name) (.document name body)
  | stored (name body : String) : Gives docs (.post name body) .success
  | error {r : Request} {message : String} :
      Mentions 96 r.subject message → Gives docs r (.error message)

theorem Gives.suits (h : Gives docs r reply) : reply.Suits r.replyShape := by
  cases h with
  | value hbody => exact rfl
  | file hname hread => exact rfl
  | stored name body => exact nofun
  | _ => trivial

/-- Only an error that is too long and a document from a file that is too large are beyond
    the limits. -/
theorem Gives.fits_iff (h : Gives docs r reply) (hr : r.Fits) :
    reply.Fits ↔ (∀ message, reply = .error message → Text.size message ≤ maxLine) ∧
      ∀ name body, reply = .document name body → isDocumentName name →
        Text.size body ≤ maxBody := by
  cases h with
  | accepted id _ => exact iff_of_true trivial ⟨nofun, nofun⟩
  | closed id _ => exact iff_of_true trivial ⟨nofun, nofun⟩
  | rejected _ => exact iff_of_true (by decide) ⟨nofun, nofun⟩
  | stored name body => exact iff_of_true trivial ⟨nofun, nofun⟩
  | error _ =>
    constructor
    · rintro hfits
      exact ⟨fun message heq => Reply.error.inj heq ▸ hfits, nofun⟩
    · rintro ⟨hmessage, -⟩
      exact hmessage _ rfl
  | value hbody =>
    refine iff_of_true ⟨hr, hbody⟩ ⟨nofun, ?_⟩
    rintro name body ⟨⟩ -
    exact hbody
  | file hname hread =>
    constructor
    · rintro ⟨-, hbody⟩
      refine ⟨nofun, ?_⟩
      rintro name body ⟨⟩ -
      exact hbody
    · rintro ⟨-, hbody⟩
      exact ⟨hr, hbody _ _ rfl hname⟩

/-- A reply fits if the subject of the request leaves room for a sentence and no file
    beneath the root is too large. -/
theorem Gives.fits (h : Gives docs r reply) (hr : r.Fits) (hdocs : FilesFit docs)
    (hsubject : Text.size r.subject + 96 ≤ maxLine) : reply.Fits := by
  rw [h.fits_iff hr]
  cases h with
  | error hmentions =>
    refine ⟨?_, nofun⟩
    rintro message ⟨⟩
    exact Nat.le_trans hmentions.size_le hsubject
  | value hbody =>
    refine ⟨nofun, ?_⟩
    rintro name body ⟨⟩ -
    exact hbody
  | file hname hread =>
    refine ⟨nofun, ?_⟩
    rintro name body ⟨⟩ -
    exact size_le_of_read hdocs hread
  | _ => exact ⟨nofun, nofun⟩

/-- The failures of a store are those of its table, or have no words. -/
theorem mentions_of_failure {e : Error} {id : SessionId} {key : String}
    (h : store.get id key = .error e) (hreply : replyToFailure e = .ok reply) :
    ∃ message, reply = .error message ∧ Mentions 96 key message := by
  cases store with
  | gone =>
    cases h
    cases hreply
  | live t =>
    obtain ⟨htold, hmentions⟩ := replyToFailure_of_get h
    rw [htold] at hreply
    cases hreply
    exact ⟨_, rfl, hmentions.mono (by decide)⟩

theorem gives_of_get {id : SessionId} {name : String} (hstore : store.Fits)
    (h : handleGet docs store id name = .ok reply) : Gives docs (.get name) reply := by
  unfold handleGet at h
  split at h
  · next hname =>
    split at h <;> cases h
    · next body hread =>
      refine .file (hname.resolve_left ?_) hread
      rintro rfl
      cases hread
    · next e hread => exact .error (mentions_message_of_read hread)
  · split at h
    · next body hget =>
      cases h
      cases store with
      | live t => exact .value (Table.All.of_get hstore hget)
      | gone => cases hget
    · next e hget =>
      obtain ⟨message, rfl, hmentions⟩ := mentions_of_failure hget h
      exact .error hmentions

theorem gives_of_post {id : SessionId} {name body : String}
    (h : (handlePost store id name body).2 = .ok reply) : Gives docs (.post name body) reply := by
  unfold handlePost at h
  split at h
  · cases h
    exact .error (.without (by decide))
  split at h
  · cases h
    have hfront : ShortLine 25 "Cannot post to file path " := by decide
    exact .error (.at_end hfront (by decide))
  · cases store with
    | gone => cases h
    | live t =>
      dsimp only [Store.put, Table.put] at h
      cases hvalues : t.session? id with
      | none =>
        rw [hvalues] at h
        cases h
        exact .error ((Mentions.without (shortLine_message_notFound id)).mono (by decide))
      | some values =>
        rw [hvalues] at h
        cases h
        exact .stored name body

theorem gives_of_close {id : SessionId} (h : (handle docs store b (.close id)).2.2 = .ok reply) :
    Gives docs (.close id) reply := by
  cases store with
  | gone => cases h
  | live t =>
    dsimp only [handle, Store.close, Table.close] at h
    by_cases hopen : t.isOpen id
    · rw [if_pos hopen] at h
      cases h
      exact .closed id rfl
    · rw [if_neg hopen] at h
      cases h
      exact .error ((Mentions.without (shortLine_message_notFound id)).mono (by decide))

theorem gives_of_handle (hstore : store.Fits) (h : (handle docs store b r).2.2 = .ok reply) :
    Gives docs r reply := by
  cases r with
  | openSession =>
    cases b with
    | bound id =>
      cases h
      exact .error (.without (by decide))
    | unbound =>
      rw [handle] at h
      generalize store.openSession = opened at h
      rcases opened with ⟨store', _ | id⟩ <;> cases h
      exact .accepted id rfl
  | resume id =>
    cases b with
    | bound id' =>
      cases h
      exact .error (.without (by decide))
    | unbound =>
      rw [handle] at h
      generalize store.resume id = resumed at h
      rcases resumed with _ | _ | _ <;> cases h
      · exact .rejected rfl
      · exact .accepted id rfl
  | close id => exact gives_of_close h
  | get name =>
    cases b with
    | unbound =>
      cases h
      exact .error (.without (by decide))
    | bound id => exact gives_of_get hstore h
  | post name body =>
    cases b with
    | unbound =>
      cases h
      exact .error (.without (by decide))
    | bound id => exact gives_of_post h
  | unknown verb =>
    cases h
    have hfront : ShortLine 16 "Invalid message " := by decide
    exact .error (.at_end hfront (by decide))

/-! ## Sessions that conversations lead to -/

section All

variable {P : String → String → Prop}

/-- What the request can store has the property. Nothing is stored under the empty name or
    the name of a document. -/
def Request.Puts (P : String → String → Prop) (r : Request) : Prop :=
  ∀ name body, r = .post name body → name ≠ "" → ¬ isDocumentName name → P name body

theorem store_handle_post (docs : DocumentRoot) (store : Store) (b : Binding) {name : String}
    (body : String) (h : name = "" ∨ isDocumentName name) :
    (handle docs store b (.post name body)).1 = store := by
  cases b with
  | unbound => rfl
  | bound id =>
    show (handlePost store id name body).1 = store
    unfold handlePost
    split
    · rfl
    · next hempty => rw [if_pos (h.resolve_left hempty)]

theorem Effect.stores {t : Table} {d : Table.Deed} {b' : Binding}
    {answer : Except Connection.Failure Reply} (h : Effect docs t b r d b' answer)
    (hr : ∀ name body, r = .post name body → P name body) : d.Stores P := by
  cases h with
  | stored => exact hr _ _ rfl
  | _ => trivial

theorem Store.All.handle (h : store.All P) (hr : r.Puts P) (docs : DocumentRoot) (b : Binding) :
    (handle docs store b r).1.All P := by
  by_cases hrefused : ∃ name body, r = .post name body ∧ (name = "" ∨ isDocumentName name)
  · obtain ⟨name, body, rfl, hname⟩ := hrefused
    rwa [store_handle_post docs store b body hname]
  · cases store with
    | gone =>
      obtain ⟨answer, hhandle, -⟩ := handle_gone docs b r
      rw [hhandle]
      trivial
    | live t =>
      obtain ⟨t', d, b', answer, hhandle, htakes, -, heffect⟩ := handled docs t b r
      rw [hhandle]
      refine Table.All.takes h htakes (heffect.stores fun name body heq => ?_)
      have hname : ¬ (name = "" ∨ isDocumentName name) := fun hname =>
        hrefused ⟨name, body, heq, hname⟩
      exact hr name body heq (not_or.1 hname).1 (not_or.1 hname).2

/-- A turn keeps a property that is ensured of all that can be stored. -/
theorem Store.All.turn (h : store.All P)
    (hread : Reader.Ensures Request.read fun found => ∀ r ∈ found, r.Puts P)
    (docs : DocumentRoot) (b : Binding) (input : Octets) :
    (turn docs store b input).store.All P := by
  have hputs := hread input
  unfold Session.turn
  generalize Request.read input = read at hputs ⊢
  rcases read with ⟨_ | _ | r, rest⟩
  · exact h
  · exact h
  · have hhandle := h.handle (hputs _ rfl r rfl) docs b
    dsimp only
    generalize Session.handle docs store b r = handled at hhandle ⊢
    rcases handled with ⟨store', b', _ | reply⟩ <;> exact hhandle

end All

theorem Request.ensures_read_fits : Reader.Ensures read fun found =>
    ∀ r ∈ found, r.Puts fun _ value => Text.size value ≤ maxBody := by
  intro bs found hfound r hr name body heq _ _
  have hfits := ensures_read bs found hfound r hr
  rw [heq] at hfits
  exact hfits.2

/-- The sessions that connections have led to, one turn of one of them after another. -/
inductive Store.Reachable : Store → Prop
  | new : Reachable .new
  | turn {store : Store} (docs : DocumentRoot) (b : Binding) (input : Octets) :
      Reachable store → Reachable (turn docs store b input).store

theorem Store.Reachable.fits (h : store.Reachable) : store.Fits := by
  induction h with
  | new => exact Table.all_new
  | turn docs b input _ ih => exact Store.All.turn ih Request.ensures_read_fits docs b input

end Harbor.Session
