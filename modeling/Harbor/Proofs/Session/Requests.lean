import Harbor.Proofs.Session.History
import Harbor.Session.Service

/-!
# What a request does

Handling a request does one deed to the sessions, or none, and may change what the
connection is bound to. `Effect` lists what can come of a request, each with its answer:
only a successful open, close or post is a deed, and only an open, a resume and a close
of the connection's own session change the binding. A request that is answered with an
error, a rejection or a document leaves everything as it is.

Main results:

* `handled`: every request on a table that is there has one of these effects.
* `handle_gone`: without a table nothing comes of a request.
-/

namespace Harbor.Session

open Files (DocumentRoot DocumentError)
open Table (Deed)

/-- What can come of a request: a deed, what the connection is bound to afterwards, and the
    answer. -/
inductive Effect (docs : DocumentRoot) (t : Table) :
    Binding → Request → Deed → Binding → Except Connection.Failure Reply → Prop
  | opened (id : SessionId) :
      Effect docs t .unbound .openSession (.opened id) (.bound id) (.ok (.accepted id))
  | exhausted : t.next? = none →
      Effect docs t .unbound .openSession .nothing .unbound (.error .tableUnavailable)
  | resumed {id : SessionId} : t.isOpen id = true →
      Effect docs t .unbound (.resume id) .nothing (.bound id) (.ok (.accepted id))
  | rejected {id : SessionId} : t.isOpen id = false →
      Effect docs t .unbound (.resume id) .nothing .unbound (.ok (.rejected "Invalid session id"))
  | closed (b : Binding) (id : SessionId) :
      Effect docs t b (.close id) (.closed id) (if b = .bound id then .unbound else b)
        (.ok (.closed id))
  | stored (id : SessionId) (name body : String) :
      Effect docs t (.bound id) (.post name body) (.stored id name body) (.bound id) (.ok .success)
  | value {id : SessionId} {name body : String} : t.get id name = .ok body →
      Effect docs t (.bound id) (.get name) .nothing (.bound id) (.ok (.document name body))
  | file {id : SessionId} {name body : String} : name = "" ∨ isDocumentName name →
      docs.read name = .ok body →
      Effect docs t (.bound id) (.get name) .nothing (.bound id) (.ok (.document name body))
  | refused (b : Binding) (r : Request) (message : String) :
      Effect docs t b r .nothing b (.ok (.error message))

/-- Handling the request has one of its effects, and the table is then what the deed makes of
    it. -/
def Handled (docs : DocumentRoot) (t : Table) (b : Binding) (r : Request) : Prop :=
  ∃ t' d b' answer, handle docs (.live t) b r = (.live t', b', answer) ∧ d.Takes t t' ∧
    (d = .nothing → t' = t) ∧ Effect docs t b r d b' answer

section

variable {docs : DocumentRoot} {t : Table} {b : Binding} {r : Request}

theorem handled_of_nothing {b' : Binding} {answer : Except Connection.Failure Reply}
    (heffect : Effect docs t b r .nothing b' answer)
    (h : handle docs (.live t) b r = (.live t, b', answer)) : Handled docs t b r :=
  ⟨t, .nothing, b', answer, h, Deed.takes_nothing t, fun _ => rfl, heffect⟩

theorem handled_of_deed {t' : Table} {d : Deed} {b' : Binding}
    {answer : Except Connection.Failure Reply} (heffect : Effect docs t b r d b' answer)
    (htakes : d.Takes t t') (hd : d ≠ .nothing)
    (h : handle docs (.live t) b r = (.live t', b', answer)) : Handled docs t b r :=
  ⟨t', d, b', answer, h, htakes, fun heq => absurd heq hd, heffect⟩

theorem handled_openSession : Handled docs t b .openSession := by
  cases b with
  | bound id => exact handled_of_nothing (.refused ..) rfl
  | unbound =>
    have htakes := Deed.takes_perform t .openSession
    cases hnext : t.next? with
    | none =>
      refine handled_of_nothing (.exhausted hnext) ?_
      rw [handle, Store.openSession, Table.openSession, hnext]
    | some id =>
      rw [Table.perform, Table.openSession, hnext] at htakes
      refine handled_of_deed (.opened id) htakes (by rintro ⟨⟩) ?_
      rw [handle, Store.openSession, Table.openSession, hnext]

theorem handled_resume (id : SessionId) : Handled docs t b (.resume id) := by
  cases b with
  | bound id' => exact handled_of_nothing (.refused ..) rfl
  | unbound =>
    cases hopen : t.isOpen id with
    | true =>
      refine handled_of_nothing (.resumed hopen) ?_
      rw [handle, Store.resume, hopen]
    | false =>
      refine handled_of_nothing (.rejected hopen) ?_
      rw [handle, Store.resume, hopen]

theorem handled_close (id : SessionId) : Handled docs t b (.close id) := by
  have htakes := Deed.takes_perform t (.close id)
  by_cases hopen : t.isOpen id
  · rw [Table.perform, Table.close, if_pos hopen] at htakes
    refine handled_of_deed (.closed b id) htakes (by rintro ⟨⟩) ?_
    rw [handle, Store.close, Table.close, if_pos hopen]
  · refine handled_of_nothing (.refused b _ (Error.notFound id).message) ?_
    rw [handle, Store.close, Table.close, if_neg hopen]
    rfl

theorem handled_get (name : String) : Handled docs t b (.get name) := by
  cases b with
  | unbound => exact handled_of_nothing (.refused ..) rfl
  | bound id =>
    by_cases hname : name = "" ∨ isDocumentName name
    · cases hread : docs.read name with
      | ok body =>
        refine handled_of_nothing (.file hname hread) ?_
        rw [handle, handleGet, if_pos hname, hread]
      | error e =>
        refine handled_of_nothing (.refused _ _ e.message) ?_
        rw [handle, handleGet, if_pos hname, hread]
    · cases hget : t.get id name with
      | ok body =>
        refine handled_of_nothing (.value hget) ?_
        rw [handle, handleGet, if_neg hname, Store.get, hget]
      | error e =>
        have hreply : replyToFailure e = .ok (.error e.message) := by
          unfold Table.get at hget
          split at hget
          · cases hget
            rfl
          · split at hget <;> cases hget
            rfl
        refine handled_of_nothing (.refused _ _ e.message) ?_
        rw [handle, handleGet, if_neg hname, Store.get, hget]
        exact congrArg (fun answer => (Store.live t, Binding.bound id, answer)) hreply

theorem handled_post (name body : String) : Handled docs t b (.post name body) := by
  cases b with
  | unbound => exact handled_of_nothing (.refused ..) rfl
  | bound id =>
    by_cases hempty : name = ""
    · refine handled_of_nothing (.refused _ _ DocumentError.emptyName.message) ?_
      rw [handle, handlePost, if_pos hempty]
    by_cases hname : isDocumentName name
    · refine handled_of_nothing (.refused _ _ s!"Cannot post to file path {name}") ?_
      rw [handle, handlePost, if_neg hempty, if_pos hname]
    have htakes := Deed.takes_perform t (.put id name body)
    cases hvalues : t.session? id with
    | none =>
      refine handled_of_nothing (.refused _ _ (Error.notFound id).message) ?_
      rw [handle, handlePost, if_neg hempty, if_neg hname, Store.put, Table.put, hvalues]
      rfl
    | some values =>
      rw [Table.perform, Table.put, hvalues] at htakes
      refine handled_of_deed (.stored id name body) htakes (by rintro ⟨⟩) ?_
      rw [handle, handlePost, if_neg hempty, if_neg hname, Store.put, Table.put, hvalues]

end

/-- Every request on a table that is there has one of its effects. -/
theorem handled (docs : DocumentRoot) (t : Table) (b : Binding) (r : Request) :
    Handled docs t b r := by
  cases r with
  | openSession => exact handled_openSession
  | resume id => exact handled_resume id
  | close id => exact handled_close id
  | get name => exact handled_get name
  | post name body => exact handled_post name body
  | unknown verb => exact handled_of_nothing (.refused ..) rfl

/-- Without a table a request changes nothing. There is no answer to it, or it is an error
    or a document from a file. -/
theorem handle_gone (docs : DocumentRoot) (b : Binding) (r : Request) :
    ∃ answer, handle docs .gone b r = (.gone, b, answer) ∧
      (answer = .error .tableUnavailable ∨ (∃ message, answer = .ok (.error message)) ∨
        ∃ name body, answer = .ok (.document name body)) := by
  cases r with
  | openSession | resume id =>
    cases b with
    | unbound => exact ⟨_, rfl, .inl rfl⟩
    | bound _ => exact ⟨_, rfl, .inr (.inl ⟨_, rfl⟩)⟩
  | close id => exact ⟨_, rfl, .inl rfl⟩
  | get name =>
    cases b with
    | unbound => exact ⟨_, rfl, .inr (.inl ⟨_, rfl⟩)⟩
    | bound id =>
      refine ⟨_, rfl, ?_⟩
      unfold handleGet
      split
      · cases docs.read name with
        | ok body => exact .inr (.inr ⟨name, body, rfl⟩)
        | error e => exact .inr (.inl ⟨e.message, rfl⟩)
      · exact .inl rfl
  | post name body =>
    cases b with
    | unbound => exact ⟨_, rfl, .inr (.inl ⟨_, rfl⟩)⟩
    | bound id =>
      by_cases hempty : name = ""
      · refine ⟨.ok (.error DocumentError.emptyName.message), ?_, .inr (.inl ⟨_, rfl⟩)⟩
        rw [handle, handlePost, if_pos hempty]
      by_cases hname : isDocumentName name
      · refine ⟨.ok (.error s!"Cannot post to file path {name}"), ?_, .inr (.inl ⟨_, rfl⟩)⟩
        rw [handle, handlePost, if_neg hempty, if_pos hname]
      · refine ⟨.error .tableUnavailable, ?_, .inl rfl⟩
        rw [handle, handlePost, if_neg hempty, if_neg hname]
        rfl
  | unknown verb => exact ⟨_, rfl, .inr (.inl ⟨_, rfl⟩)⟩

end Harbor.Session
