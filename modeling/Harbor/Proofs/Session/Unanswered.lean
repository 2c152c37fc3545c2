import Harbor.Proofs.Session.Conversation

/-!
# Requests that stay without an answer

A request that fails ends its connection, and the peer is not told why. This is meant for a
session table that is gone. A table that is there and has given out its last id makes an
open fail in the same way, although a table that refuses a close, a get or a post has its
refusal sent to the peer.

Main results:

* `Table.Follows.next?_eq_none_iff`: the ids are used up once the largest one is given out.
* `serveFrom_open_exhausted`: the connection that asks for one more.
* `unanswered_iff`: the requests that stay without an answer, on a table that is there and
  on one that is gone.
-/

namespace Harbor

/-- The largest number of a session. -/
def SessionId.last : SessionId := ⟨18446744073709551615⟩

namespace Session

open Files (DocumentRoot)

/-! ## The last id -/

namespace Table

variable {t : Table} {deeds : List Deed}

/-- There is no next id exactly if the largest one has been given out. -/
theorem Follows.next?_eq_none_iff (h : t.Follows deeds) :
    t.next? = none ↔ .opened .last ∈ deeds := by
  have hlast : SessionId.last.number.toNat = UInt64.size - 1 := rfl
  have hlt := h.length_openedIds_lt
  rw [h.next?_eq, SessionId.ofNat?_eq_none_iff, opened_mem_iff]
  constructor
  · intro hle
    have hlength : SessionId.last.number.toNat = (openedIds deeds).length := by omega
    have hmem : SessionId.last.number.toNat ∈ (openedIds deeds).map (·.number.toNat) := by
      rw [h.openedIds_eq, List.mem_range'_1, ← hlength, hlast]
      decide
    obtain ⟨id, hid, hnumber⟩ := List.mem_map.1 hmem
    rwa [← show id = .last from congrArg SessionId.mk (UInt64.toNat_inj.1 hnumber)]
  · intro hmem
    have hle := h.number_le (opened_mem_iff.2 hmem)
    omega

/-- After a number of opens the next id is that many numbers further on. -/
theorem next?_run_replicate {k : Nat} (h : t.next? = SessionId.ofNat? k) (n : Nat) :
    (t.run (List.replicate n .openSession)).1.next? = SessionId.ofNat? (k + n) := by
  induction n generalizing t k with
  | zero => exact h
  | succ n ih =>
    have hstep : (t.perform .openSession).1.next? = SessionId.ofNat? (k + 1) := by
      rw [perform, openSession]
      cases hnext : t.next? with
      | some id =>
        have hnumber := SessionId.ofNat?_eq_some_iff.1 (h.symm.trans hnext)
        exact hnumber ▸ id.next?_eq
      | none =>
        have hsize := SessionId.ofNat?_eq_none_iff.1 (h.symm.trans hnext)
        exact hnext.trans (SessionId.ofNat?_eq_none_iff.2 (Nat.le_succ_of_le hsize)).symm
    rw [Nat.add_comm n, ← Nat.add_assoc, ← Nat.add_comm n]
    exact ih hstep

end Table

/-! ## Failures -/

/-- The request cannot be answered without the table. -/
def NeedsTable : Binding → Request → Prop
  | .unbound, .openSession | .unbound, .resume _ | _, .close _ => True
  | .bound _, .get name | .bound _, .post name _ => ¬ (name = "" ∨ isDocumentName name)
  | _, _ => False

section

variable {docs : DocumentRoot} {b : Binding} {r : Request} {e : Connection.Failure}

theorem handle_open_exhausted {t : Table} (h : t.next? = none) :
    handle docs (.live t) .unbound .openSession = (.live t, .unbound, .error .tableUnavailable) := by
  rw [handle, Store.openSession, Table.openSession, h]

/-- A table that is there fails a request only if it has no next id. -/
theorem handle_live_eq_error_iff {t : Table} : (handle docs (.live t) b r).2.2 = .error e ↔
    e = .tableUnavailable ∧ b = .unbound ∧ r = .openSession ∧ t.next? = none := by
  constructor
  · intro h
    obtain ⟨t', d, b', answer, heq, -, -, heffect⟩ := handled docs t b r
    rw [heq] at h
    cases heffect with
    | exhausted hnext =>
      cases h
      exact ⟨rfl, rfl, rfl, hnext⟩
    | _ => cases h
  · rintro ⟨rfl, rfl, rfl, hnext⟩
    rw [handle_open_exhausted hnext]

/-- A table that is gone fails every request that needs it. -/
theorem handle_gone_eq_error_iff : (handle docs .gone b r).2.2 = .error e ↔
    e = .tableUnavailable ∧ NeedsTable b r := by
  have hgone : (Except.error .tableUnavailable : Except Connection.Failure Reply) = .error e ↔
      e = .tableUnavailable := by
    rw [Except.error.injEq, eq_comm]
  cases r with
  | openSession | resume id | close id =>
    cases b <;> simp [handle, Store.openSession, Store.resume, Store.close, replyToFailure,
      NeedsTable, hgone]
  | get name =>
    cases b with
    | unbound => simp [handle, NeedsTable]
    | bound id =>
      rw [handle, handleGet, NeedsTable]
      split
      · next hname => cases docs.read name <;> simp [hname]
      · next hname => simp [Store.get, replyToFailure, hname, hgone]
  | post name body =>
    cases b with
    | unbound => simp [handle, NeedsTable]
    | bound id =>
      rw [handle, NeedsTable]
      by_cases hempty : name = ""
      · rw [handlePost, if_pos hempty]
        simp [hempty]
      by_cases hname : isDocumentName name
      · rw [handlePost, if_neg hempty, if_pos hname]
        simp [hname]
      · rw [handlePost, if_neg hempty, if_neg hname]
        simp [Store.put, replyToFailure, hempty, hname, hgone]
  | unknown verb => simp [handle, NeedsTable]

/-- A connection whose open finds no next id is closed without a word, whatever else the
    client has sent. -/
theorem serveFrom_open_exhausted {t : Table} (h : t.next? = none) (rest : Octets) :
    serveFrom docs (.live t) .unbound (Request.openSession.write ++ rest) =
      ⟨.live t, [], .error .tableUnavailable⟩ := by
  have hread := Request.reads (r := .openSession) trivial rest
  have hturn : turn docs (.live t) .unbound (Request.openSession.write ++ rest) =
      ⟨.live t, .unbound, [], rest, some (.error .tableUnavailable)⟩ := by
    rw [turn, hread]
    dsimp only [Request.received]
    rw [handle_open_exhausted h]
  rw [serveFrom_of_ending (congrArg Turn.ending? hturn), hturn]

end

/-- While the table is there a request is answered, unless it is an open on an unbound
    connection and the largest id has been given out. Without the table the requests that
    need it are not answered, and all others are. -/
theorem unanswered_iff (docs : DocumentRoot) (cs : List Table.Command) (b : Binding) (r : Request)
    (e : Connection.Failure) :
    ((handle docs (.live (Table.new.run cs).1) b r).2.2 = .error e ↔
      e = .tableUnavailable ∧ b = .unbound ∧ r = .openSession ∧
        .opened .last ∈ Table.new.history cs) ∧
    ((handle docs .gone b r).2.2 = .error e ↔ e = .tableUnavailable ∧ NeedsTable b r) := by
  have hfollows : (Table.new.run cs).1.Follows (Table.new.history cs) :=
    Table.follows_run Table.follows_new cs
  exact ⟨by rw [handle_live_eq_error_iff, hfollows.next?_eq_none_iff], handle_gone_eq_error_iff⟩

/-- The session table has given out all of its ids, one for each open. The next open on an
    unbound connection fails as if there were no table, and its connection is closed without
    a reply. -/
theorem unanswered_after_last_id :
    let t := (Table.new.run (List.replicate 18446744073709551615 .openSession)).1
    handle default (.live t) .unbound .openSession =
        (.live t, .unbound, .error .tableUnavailable) ∧
      serve default (.live t) Request.openSession.write =
        ⟨.live t, [], .error .tableUnavailable⟩ := by
  have hnext : (Table.new.run (List.replicate 18446744073709551615 .openSession)).1.next? = none :=
    (Table.next?_run_replicate (k := 1) rfl _).trans (SessionId.ofNat?_eq_none_iff.2 (by decide))
  refine ⟨handle_open_exhausted hnext, ?_⟩
  rw [serve, ← List.append_nil Request.openSession.write]
  exact serveFrom_open_exhausted hnext []

end Session

end Harbor
