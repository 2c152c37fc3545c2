import Harbor.Proofs.Session.Requests

/-!
# Bindings to closed sessions

Any number of connections share one table, and a session that one of them is bound to may
be closed by another. `Switchboard` is the table with what every connection is bound to.
It takes the requests in the order in which they reach the table: a request asks the table
at most one thing, so that two of them never mix.

`Tracks` links a switchboard to the log of its run. What is bound has been opened in the
run, and what has been answered as closed is closed for good, because no id is opened
twice. A connection bound to a closed session can therefore do no more than one that is
bound to a session of a table without any.

Main results:

* `Tracks.step`, `tracks_run`: one request, and any number of them, keep to the log.
* `Tracks.inert`: a binding to a closed session does nothing any more.
* `stale_forever`: it stays as it is, whatever is requested later.
-/

namespace Harbor.Session

open Files (DocumentRoot)
open Table (Deed)

/-! ## Connections at one table -/

/-- A request as it reaches the table, with the documents as they are at that moment. -/
structure Arrival where
  connection : Nat
  docs : DocumentRoot
  request : Request

/-- The requests of a run with their answers. -/
abbrev Log := List (Arrival × Except Connection.Failure Reply)

/-- An open of the run was answered with the id. -/
def Log.Grants (log : Log) (id : SessionId) : Prop :=
  ∃ a, (a, .ok (.accepted id)) ∈ log ∧ a.request = .openSession

/-- The table and what every connection is bound to. -/
structure Switchboard where
  store : Store
  bindings : Nat → Binding

namespace Switchboard

/-- A new table, and no connection has a session. -/
def new : Switchboard := ⟨.new, fun _ => .unbound⟩

instance : Inhabited Switchboard := ⟨new⟩

/-- Handles one request. -/
def step (s : Switchboard) (a : Arrival) : Switchboard × Except Connection.Failure Reply :=
  let (store, binding, answer) := handle a.docs s.store (s.bindings a.connection) a.request
  (⟨store, fun c => if c = a.connection then binding else s.bindings c⟩, answer)

/-- Handles requests one after another. -/
def run (s : Switchboard) : List Arrival → Switchboard × Log
  | [] => (s, [])
  | a :: as =>
    let (s', answer) := s.step a
    let (s'', log) := s'.run as
    (s'', (a, answer) :: log)

variable {s : Switchboard} {a : Arrival} {t : Table} {deeds : List Deed}
  {log : Log} {c : Nat} {id : SessionId}

theorem run_cons (s : Switchboard) (a : Arrival) (as : List Arrival) : s.run (a :: as) =
    (((s.step a).1.run as).1, (a, (s.step a).2) :: ((s.step a).1.run as).2) := rfl

theorem run_append (s : Switchboard) (as later : List Arrival) : s.run (as ++ later) =
    (((s.run as).1.run later).1, (s.run as).2 ++ ((s.run as).1.run later).2) := by
  induction as generalizing s with
  | nil => rfl
  | cons a as ih => rw [List.cons_append, run_cons, run_cons, ih, List.cons_append]

theorem step_of_handle {store : Store} {b : Binding} {answer : Except Connection.Failure Reply}
    (h : handle a.docs s.store (s.bindings a.connection) a.request = (store, b, answer)) :
    s.step a = (⟨store, fun c => if c = a.connection then b else s.bindings c⟩, answer) := by
  rw [step, h]

/-- A request that leaves the table and the binding changes nothing. -/
theorem step_of_handle_same {answer : Except Connection.Failure Reply}
    (h : handle a.docs s.store (s.bindings a.connection) a.request =
      (s.store, s.bindings a.connection, answer)) : s.step a = (s, answer) := by
  have hsame : (fun c => if c = a.connection then s.bindings a.connection else s.bindings c) =
      s.bindings := by
    funext c
    split
    · next heq => rw [heq]
    · rfl
  rw [step_of_handle h, hsame]

/-! ## What the log says -/

/-- The table is what the deeds of the run say, and the log tells which sessions they opened
    and closed. -/
structure Tracks (s : Switchboard) (t : Table) (deeds : List Deed) (log : Log) : Prop where
  store_eq : s.store = .live t
  follows : t.Follows deeds
  grants : ∀ id, .opened id ∈ deeds → log.Grants id
  closed_mem : ∀ a id, (a, .ok (.closed id)) ∈ log → .closed id ∈ deeds
  opened_mem : ∀ c id, s.bindings c = .bound id → .opened id ∈ deeds

theorem tracks_new : new.Tracks .new [] [] where
  store_eq := rfl
  follows := Table.follows_new
  grants _ h := nomatch h
  closed_mem _ _ h := nomatch h
  opened_mem _ _ h := nomatch h

/-- An effect that opens a session is the answer to an open. -/
theorem grants_of_effect {b b' : Binding} {d : Deed} {answer : Except Connection.Failure Reply}
    (h : Effect a.docs t b a.request d b' answer) (hd : d = .opened id) :
    Log.Grants [(a, answer)] id := by
  subst hd
  generalize hrequest : a.request = r at h
  cases h with
  | opened => exact ⟨a, List.mem_singleton_self _, hrequest⟩

/-- An effect that is answered as closed closes the session. -/
theorem closed_of_effect {docs : DocumentRoot} {r : Request} {b b' : Binding} {d : Deed}
    {answer : Except Connection.Failure Reply} (h : Effect docs t b r d b' answer)
    (hanswer : answer = .ok (.closed id)) : d = .closed id := by
  subst hanswer
  cases h with
  | closed => rfl

/-- What a request binds a connection to was bound or open before, or it is opened now. -/
theorem bound_of_effect {docs : DocumentRoot} {r : Request} {b b' : Binding} {d : Deed}
    {answer : Except Connection.Failure Reply} (h : Effect docs t b r d b' answer) :
    b' = .bound id → b = .bound id ∨ t.isOpen id = true ∨ d = .opened id := by
  intro hbound
  cases h with
  | opened =>
    cases hbound
    exact .inr (.inr rfl)
  | exhausted => cases hbound
  | resumed hopen =>
    cases hbound
    exact .inr (.inl hopen)
  | rejected => cases hbound
  | closed b id' =>
    split at hbound
    · cases hbound
    · exact .inl hbound
  | stored | value | file | refused => exact .inl hbound

/-- One request keeps to the log. -/
theorem Tracks.step (h : s.Tracks t deeds log) (a : Arrival) :
    ∃ t' d, (s.step a).1.Tracks t' (deeds ++ [d]) (log ++ [(a, (s.step a).2)]) := by
  obtain ⟨t', d, b', answer, hhandle, htakes, -, heffect⟩ :=
    handled a.docs t (s.bindings a.connection) a.request
  rw [← h.store_eq] at hhandle
  rw [step_of_handle hhandle]
  refine ⟨t', d, rfl, h.follows.concat htakes, fun id hid => ?_, fun a' id hlog => ?_,
    fun c id hbound => List.mem_append.2 ?_⟩
  · rcases List.mem_append.1 hid with hid | hid
    · obtain ⟨a', hmem, hrequest⟩ := h.grants id hid
      exact ⟨a', List.mem_append_left _ hmem, hrequest⟩
    · obtain ⟨a', hmem, hrequest⟩ := grants_of_effect heffect (List.mem_singleton.1 hid).symm
      exact ⟨a', List.mem_append_right _ hmem, hrequest⟩
  · rcases List.mem_append.1 hlog with hlog | hlog
    · exact List.mem_append_left _ (h.closed_mem a' id hlog)
    · cases List.mem_singleton.1 hlog
      rw [closed_of_effect heffect rfl]
      exact List.mem_append_right _ (List.mem_singleton_self _)
  · dsimp only at hbound
    split at hbound
    · rcases bound_of_effect heffect hbound with hb | hopen | rfl
      · exact .inl (h.opened_mem _ id hb)
      · obtain ⟨after, hsince⟩ := (h.follows.isSome_iff id).1 hopen
        exact .inl hsince.opened_mem
      · exact .inr (List.mem_singleton_self _)
    · exact .inl (h.opened_mem c id hbound)

/-- Any number of requests keep to the log. -/
theorem Tracks.run (h : s.Tracks t deeds log) (as : List Arrival) :
    ∃ t' later, (s.run as).1.Tracks t' (deeds ++ later) (log ++ (s.run as).2) := by
  induction as generalizing s t deeds log with
  | nil => exact ⟨t, [], by rwa [Switchboard.run, List.append_nil, List.append_nil]⟩
  | cons a as ih =>
    obtain ⟨t', d, hstep⟩ := h.step a
    obtain ⟨t'', later, hrun⟩ := ih hstep
    rw [List.append_assoc, List.append_assoc] at hrun
    exact ⟨t'', _, hrun⟩

theorem tracks_run (as : List Arrival) :
    ∃ t deeds, (new.run as).1.Tracks t deeds (new.run as).2 := by
  obtain ⟨t, deeds, h⟩ := tracks_new.run as
  rw [List.nil_append, List.nil_append] at h
  exact ⟨t, deeds, h⟩

end Switchboard

/-! ## A closed session -/

/-- The request needs the session that its connection is bound to, or needs the connection to
    have none. All others get a document or close another session. -/
def Request.Concerns (id : SessionId) : Request → Prop
  | .close other => other = id
  | .get name => name ≠ "" ∧ ¬ isDocumentName name
  | _ => True

section

variable {t : Table} {id : SessionId} {r : Request}

/-- On a connection bound to a session that is not there, every request that concerns the
    session is refused. -/
theorem handle_refused (docs : DocumentRoot) (hnone : t.session? id = none)
    (hr : r.Concerns id) :
    ∃ message, handle docs (.live t) (.bound id) r =
      (.live t, .bound id, .ok (.error message)) := by
  obtain ⟨t', d, b', answer, hhandle, htakes, hsame, heffect⟩ := handled docs t (.bound id) r
  have hgone : ¬ (t.session? id).isSome := Option.not_isSome_iff_eq_none.2 hnone
  cases heffect with
  | closed b other =>
    have hid : other = id := hr
    subst hid
    exact absurd htakes.possible hgone
  | stored => exact absurd htakes.possible hgone
  | value hget =>
    rw [Table.get, hnone] at hget
    cases hget
  | file hname => exact absurd hname (not_or.2 hr)
  | refused b r message =>
    rw [hsame rfl] at hhandle
    exact ⟨message, hhandle⟩

/-- On such a connection every request that does not close another session is answered as
    though there were no sessions at all. -/
theorem handle_alone (docs : DocumentRoot) (hnone : t.session? id = none)
    (hr : ∀ other, r = .close other → other = id) :
    handle docs (.live t) (.bound id) r =
      (.live t, .bound id, (handle docs .new (.bound id) r).2.2) := by
  cases r with
  | openSession => rfl
  | resume other => rfl
  | unknown verb => rfl
  | close other =>
    have hopen : ¬ t.isOpen id := Option.not_isSome_iff_eq_none.2 hnone
    rw [hr other rfl, handle, Store.close, Table.close, if_neg hopen]
    rfl
  | get name =>
    have hget : (Store.live t).get id name = Store.new.get id name := by
      rw [Store.get, Table.get, hnone]
      rfl
    rw [handle, handleGet, hget]
    rfl
  | post name body =>
    have hput : (Store.live t).put id name body = (.live t, .error (.notFound id)) := by
      rw [Store.put, Table.put, hnone]
    rw [handle, handlePost, hput]
    by_cases hempty : name = ""
    · rw [if_pos hempty, handle, handlePost, if_pos hempty]
    by_cases hname : isDocumentName name
    · rw [if_neg hempty, if_pos hname, handle, handlePost, if_neg hempty, if_pos hname]
    · rw [if_neg hempty, if_neg hname, handle, handlePost, if_neg hempty, if_neg hname]
      rfl

/-- A connection bound to a session that is not there stays bound to it. -/
theorem Effect.bound_eq {docs : DocumentRoot} {d : Deed} {b' : Binding}
    {answer : Except Connection.Failure Reply} (h : Effect docs t (.bound id) r d b' answer)
    (hd : d.Possible t) (hnone : t.session? id = none) : b' = .bound id := by
  cases h with
  | closed b other =>
    refine if_neg fun heq : Binding.bound id = .bound other => ?_
    cases heq
    exact Option.not_isSome_iff_eq_none.2 hnone hd
  | stored | value | file | refused => rfl

end

namespace Switchboard

variable {s : Switchboard} {t : Table} {deeds : List Deed} {log : Log} {c : Nat} {id : SessionId}

/-- The binding of a connection to a session does nothing any more. -/
structure Inert (s : Switchboard) (c : Nat) (id : SessionId) : Prop where
  bound : s.bindings c = .bound id
  /-- Every request that concerns the session is answered with an error and changes nothing. -/
  refused : ∀ docs r, r.Concerns id → ∃ message, s.step ⟨c, docs, r⟩ = (s, .ok (.error message))
  /-- Whatever does not close another session is answered as on a table without sessions, and
      changes nothing. -/
  alone : ∀ docs r, (∀ other, r = .close other → other = id) →
    s.step ⟨c, docs, r⟩ = (s, (handle docs .new (.bound id) r).2.2)

/-- A binding to a closed session does nothing any more. -/
theorem Tracks.inert (h : s.Tracks t deeds log) (hclosed : .closed id ∈ deeds)
    (hbound : s.bindings c = .bound id) : s.Inert c id where
  bound := hbound
  refused docs r hr := by
    obtain ⟨message, hhandle⟩ := handle_refused docs (h.follows.of_closed_mem id hclosed).2 hr
    rw [← h.store_eq, ← hbound] at hhandle
    exact ⟨message, step_of_handle_same hhandle⟩
  alone docs r hr := by
    have hhandle := handle_alone docs (h.follows.of_closed_mem id hclosed).2 hr
    rw [← h.store_eq, ← hbound] at hhandle
    rw [step_of_handle_same hhandle, hbound]

/-- No request takes a connection away from a closed session. -/
theorem Tracks.bindings_step (h : s.Tracks t deeds log) (hclosed : .closed id ∈ deeds)
    (hbound : s.bindings c = .bound id) (a : Arrival) :
    (s.step a).1.bindings c = .bound id := by
  obtain ⟨t', d, b', answer, hhandle, htakes, -, heffect⟩ :=
    handled a.docs t (s.bindings a.connection) a.request
  rw [← h.store_eq] at hhandle
  rw [step_of_handle hhandle]
  show (if c = a.connection then b' else s.bindings c) = .bound id
  split
  · next heq =>
    rw [← heq, hbound] at heffect
    exact heffect.bound_eq htakes.possible (h.follows.of_closed_mem id hclosed).2
  · exact hbound

theorem Tracks.inert_run (h : s.Tracks t deeds log) (hclosed : .closed id ∈ deeds)
    (hbound : s.bindings c = .bound id) (as : List Arrival) : (s.run as).1.Inert c id := by
  induction as generalizing s t deeds log with
  | nil => exact h.inert hclosed hbound
  | cons a as ih =>
    obtain ⟨t', d, hstep⟩ := h.step a
    exact ih hstep (List.mem_append_left _ hclosed) (h.bindings_step hclosed hbound a)

/-- When another connection closes the session, the binding does nothing from then on. -/
theorem Tracks.inert_of_closed (h : s.Tracks t deeds log) (hbound : s.bindings c = .bound id)
    {a : Arrival} (hother : a.connection ≠ c) (hanswer : (s.step a).2 = .ok (.closed id))
    (later : List Arrival) : ((s.step a).1.run later).1.Inert c id := by
  obtain ⟨t', d, hstep⟩ := h.step a
  have hclosed := hstep.closed_mem a id (List.mem_append_right _ (by simp [hanswer]))
  refine hstep.inert_run hclosed ?_ later
  show (if c = a.connection then _ else s.bindings c) = .bound id
  rw [if_neg hother.symm, hbound]

/-- In every run on a new table a connection is bound only to what an open of the run has
    returned; and when a session is closed by one connection while another is bound to it,
    that binding stays and does nothing any more, whatever is requested later. -/
theorem stale_forever (as : List Arrival) :
    (∀ c id, (new.run as).1.bindings c = .bound id → (new.run as).2.Grants id) ∧
    ∀ a c id, (new.run as).1.bindings c = .bound id → a.connection ≠ c →
      ((new.run as).1.step a).2 = .ok (.closed id) →
      ∀ later, (new.run (as ++ a :: later)).1.Inert c id := by
  obtain ⟨t, deeds, h⟩ := tracks_run as
  refine ⟨fun c id hbound => h.grants id (h.opened_mem c id hbound), ?_⟩
  intro a c id hbound hother hanswer later
  rw [run_append]
  exact h.inert_of_closed hbound hother hanswer later

/-- Two connections share a session and one of them closes it. A third one opens a session and
    keeps a note there, which the second one does not come by. -/
theorem stale_forever_note :
    let docs : DocumentRoot := ⟨.empty, []⟩
    let as : List Arrival := [⟨0, docs, .openSession⟩, ⟨1, docs, .resume ⟨1⟩⟩]
    let later : List Arrival := [⟨2, docs, .openSession⟩, ⟨2, docs, .post "note" "mine"⟩]
    let s := (new.run (as ++ ⟨0, docs, .close ⟨1⟩⟩ :: later)).1
    (new.run as).2.Grants ⟨1⟩ ∧ s.Inert 1 ⟨1⟩ ∧
      (s.step ⟨2, docs, .get "note"⟩).2 = .ok (.document "note" "mine") := by
  intro docs as later s
  have hbound : (new.run as).1.bindings 1 = .bound ⟨1⟩ := by decide +kernel
  refine ⟨(stale_forever as).1 1 ⟨1⟩ hbound, ?_, rfl⟩
  exact (stale_forever as).2 ⟨0, docs, .close ⟨1⟩⟩ 1 ⟨1⟩ hbound (by decide) rfl later

end Switchboard

end Harbor.Session
