import Harbor.Proofs.Session.History
import Harbor.Session.Mailbox

/-!
# The mailbox and the table

The ticket of a command is its place in the order in which the commands came in. The
keeper takes them out in this order, so what lies under a ticket is what one run of the
table answers at this place. Callers that go away change nothing of that.

Main results:

* `Table.Follows.answer_opened_unique`: no two commands of a run open the same session.
* `Mailbox.Holds.send`, `Mailbox.Holds.work`, `Mailbox.Holds.leave`: what each operation
  on the mailbox keeps.
* `Mailbox.Holds.workThrough`: what the mailbox comes to when the keeper goes on.
-/

namespace Harbor.Session

/-! ## Runs of the table -/

namespace Table

theorem run_append (t : Table) (cs cs' : List Command) : t.run (cs ++ cs') =
    (((t.run cs).1.run cs').1, (t.run cs).2 ++ ((t.run cs).1.run cs').2) := by
  induction cs generalizing t with
  | nil => rfl
  | cons c cs ih =>
    rw [List.cons_append, run, run]
    dsimp only
    rw [ih]
    rfl

theorem length_answers_run (t : Table) (cs : List Command) :
    (t.run cs).2.length = cs.length := by
  induction cs generalizing t with
  | nil => rfl
  | cons c cs ih => exact congrArg (· + 1) (ih _)

theorem run_concat (t : Table) (cs : List Command) (c : Command) : t.run (cs ++ [c]) =
    (((t.run cs).1.perform c).1, (t.run cs).2 ++ [((t.run cs).1.perform c).2]) := run_append t cs [c]

/-- An answer that has been given is not changed by what comes later. -/
theorem getElem?_answers_append {t : Table} {cs : List Command} {i : Nat}
    {result : Except Error Answer} (h : (t.run cs).2[i]? = some result) (cs' : List Command) :
    (t.run (cs ++ cs')).2[i]? = some result := by
  obtain ⟨hlt, -⟩ := List.getElem?_eq_some_iff.1 h
  rw [run_append, List.getElem?_append_left hlt, h]

section Opened

variable {t : Table} {c : Command} {cs : List Command} {deeds : List Deed} {id : SessionId}
  {i j : Nat}

theorem map_ne_opened {α : Type} {f : α → Answer} (hf : ∀ a, f a ≠ .opened id)
    (result : Except Error α) : result.map f ≠ .ok (.opened id) := by
  cases result with
  | error => exact nofun
  | ok a => exact fun heq => hf a (Except.ok.inj heq)

/-- Only an open answers with a new session. -/
theorem deed_eq_opened (h : (t.perform c).2 = .ok (.opened id)) :
    Deed.of c (t.perform c).2 = .opened id := by
  cases c with
  | openSession => rw [h, Deed.of]
  | resume id' => cases h
  | close id' => exact absurd h (map_ne_opened nofun (t.close id').2)
  | get id' key => exact absurd h (map_ne_opened nofun (t.get id' key))
  | put id' key value => exact absurd h (map_ne_opened nofun (t.put id' key value).2)

theorem Follows.not_mem_of_answer_opened (h : t.Follows deeds)
    (hi : (t.run cs).2[i]? = some (.ok (.opened id))) : .opened id ∉ deeds := by
  induction cs generalizing t deeds i with
  | nil => cases hi
  | cons c cs ih =>
    have htakes := Deed.takes_perform t c
    cases i with
    | zero =>
      have hpossible := htakes.possible
      rw [deed_eq_opened (Option.some.inj hi)] at hpossible
      exact h.opened_not_mem hpossible
    | succ i => exact fun hmem => ih (h.concat htakes) hi (List.mem_append_left _ hmem)

/-- No two commands open the same session. -/
theorem Follows.answer_opened_unique (h : t.Follows deeds)
    (hi : (t.run cs).2[i]? = some (.ok (.opened id)))
    (hj : (t.run cs).2[j]? = some (.ok (.opened id))) : i = j := by
  induction cs generalizing t deeds i j with
  | nil => cases hi
  | cons c cs ih =>
    have hnext := h.concat (Deed.takes_perform t c)
    -- what the first command opens is not opened by those behind it
    have hfirst {k : Nat} (hc : (t.perform c).2 = .ok (.opened id))
        (hk : ((t.perform c).1.run cs).2[k]? = some (.ok (.opened id))) : False := by
      refine hnext.not_mem_of_answer_opened hk ?_
      rw [deed_eq_opened hc]
      exact List.mem_append_right _ List.mem_cons_self
    match i, j with
    | 0, 0 => rfl
    | 0, j + 1 => exact (hfirst (Option.some.inj hi) hj).elim
    | i + 1, 0 => exact (hfirst (Option.some.inj hj) hi).elim
    | i + 1, j + 1 => exact congrArg (· + 1) (ih hnext hi hj)

end Opened

/-- Commands with their places in the order, counted from some number on. -/
def ticketed : Ticket → List Command → List (Ticket × Command)
  | _, [] => []
  | n, c :: cs => (n, c) :: ticketed (n + 1) cs

theorem ticketed_append (n : Ticket) (cs cs' : List Command) :
    ticketed n (cs ++ cs') = ticketed n cs ++ ticketed (n + cs.length) cs' := by
  induction cs generalizing n with
  | nil => rfl
  | cons c cs ih =>
    rw [List.cons_append, ticketed, ih, ticketed, List.cons_append, List.length_cons,
      Nat.add_right_comm, Nat.add_assoc]

theorem map_snd_ticketed (n : Ticket) (cs : List Command) :
    (ticketed n cs).map Prod.snd = cs := by
  induction cs generalizing n with
  | nil => rfl
  | cons c cs ih => rw [ticketed, List.map_cons, ih]

theorem length_ticketed (n : Ticket) (cs : List Command) : (ticketed n cs).length = cs.length := by
  rw [← List.length_map Prod.snd, map_snd_ticketed]

end Table

/-! ## The mailbox -/

namespace Mailbox

open Table (Command Answer ticketed)

variable {m : Mailbox} {done rest : List Command} {ticket : Ticket}

/-- The commands `done` have been performed and the commands `rest` wait. A result lies
    under the ticket of a command that has been performed, as long as its caller waits. -/
structure Holds (m : Mailbox) (done rest : List Command) : Prop where
  queue_eq : m.queue = ticketed done.length rest
  table_eq : m.table = (Table.new.run done).1
  result?_eq : ∀ ticket, m.results.get? ticket =
    if ticket ∈ m.waiting then (Table.new.run done).2[ticket]? else none
  nodup : m.waiting.Nodup
  lt : ∀ ticket ∈ m.waiting, ticket < (done ++ rest).length

theorem holds_new : new.Holds [] [] where
  queue_eq := rfl
  table_eq := rfl
  result?_eq _ := rfl
  nodup := List.nodup_nil
  lt _ h := nomatch h

theorem Holds.send (h : m.Holds done rest) (c : Command) :
    (m.send (done ++ rest).length c).Holds done (rest ++ [c]) where
  queue_eq := by
    show m.queue ++ [_] = _
    rw [h.queue_eq, Table.ticketed_append, List.length_append]
    rfl
  table_eq := h.table_eq
  result?_eq ticket := by
    show m.results.get? ticket = if ticket ∈ _ :: m.waiting then _ else none
    rw [h.result?_eq ticket]
    by_cases heq : ticket = (done ++ rest).length
    · -- there is no answer yet for the command that enters
      have hnot : ticket ∉ m.waiting := fun hmem => Nat.ne_of_lt (h.lt ticket hmem) heq
      rw [if_neg hnot, heq, if_pos List.mem_cons_self, eq_comm, List.getElem?_eq_none_iff,
        Table.length_answers_run, List.length_append]
      omega
    · simp only [List.mem_cons, heq, false_or]
  nodup := List.nodup_cons.2 ⟨fun hmem => Nat.lt_irrefl _ (h.lt _ hmem), h.nodup⟩
  lt ticket hmem := by
    rw [← List.append_assoc, List.length_append, List.length_singleton]
    rcases List.mem_cons.1 hmem with rfl | hmem
    · exact Nat.lt_succ_self _
    · exact Nat.lt_succ_of_lt (h.lt ticket hmem)

/-- The command that has waited longest is the next one in the order. -/
theorem Holds.exists_of_queue (h : m.Holds done rest) {c : Command}
    {queue : List (Ticket × Command)} (hqueue : m.queue = (ticket, c) :: queue) :
    ticket = done.length ∧ ∃ rest', rest = c :: rest' := by
  rw [h.queue_eq] at hqueue
  cases rest with
  | nil => cases hqueue
  | cons c' rest' =>
    rw [ticketed, List.cons.injEq, Prod.mk.injEq] at hqueue
    obtain ⟨⟨rfl, rfl⟩, -⟩ := hqueue
    exact ⟨rfl, rest', rfl⟩

theorem work_eq {c : Command} {queue : List (Ticket × Command)}
    (h : m.queue = (ticket, c) :: queue) : m.work =
      { m with
        table := (m.table.perform c).1
        queue := queue
        results := if ticket ∈ m.waiting then m.results.insert ticket (m.table.perform c).2
          else m.results } := by
  rw [work, h]

theorem Holds.work {c : Command} (h : m.Holds done (c :: rest)) :
    m.work.Holds (done ++ [c]) rest ∧ m.work.waiting = m.waiting := by
  have hlength := Table.length_answers_run Table.new done
  rw [work_eq h.queue_eq]
  refine ⟨⟨?_, ?_, fun ticket => ?_, h.nodup, fun ticket hmem => ?_⟩, rfl⟩
  · rw [List.length_append, List.length_singleton]
  · rw [Table.run_concat, h.table_eq]
  · show (if done.length ∈ m.waiting then _ else m.results).get? ticket =
      if ticket ∈ m.waiting then (Table.new.run (done ++ [c])).2[ticket]? else none
    rw [Table.run_concat, h.table_eq]
    by_cases heq : ticket = done.length
    · -- the command that is performed now
      subst heq
      rw [List.getElem?_append_right (Nat.le_of_eq hlength), hlength, Nat.sub_self]
      by_cases hmem : done.length ∈ m.waiting
      · rw [if_pos hmem, if_pos hmem, Dictionary.get?_insert, if_pos rfl]
        rfl
      · rw [if_neg hmem, if_neg hmem, h.result?_eq, if_neg hmem]
    · -- any other command has the answer that it had
      have hanswer : ((Table.new.run done).2 ++ [((Table.new.run done).1.perform c).2])[ticket]? =
          (Table.new.run done).2[ticket]? := by
        rcases Nat.lt_or_gt_of_ne heq with hlt | hgt
        · exact List.getElem?_append_left (by omega)
        · rw [List.getElem?_eq_none (by rw [List.length_append, List.length_singleton]; omega),
            List.getElem?_eq_none (by omega)]
      rw [hanswer, ← h.result?_eq ticket]
      split
      · rw [Dictionary.get?_insert, if_neg (Ne.symm heq)]
      · rfl
  · rw [List.append_assoc]
    exact h.lt ticket hmem

/-- A caller that goes away takes nothing with it but its result. -/
theorem Holds.leave (h : m.Holds done rest) (ticket : Ticket) :
    (m.leave ticket).Holds done rest where
  queue_eq := h.queue_eq
  table_eq := h.table_eq
  result?_eq other := by
    show (m.results.erase ticket).get? other =
      if other ∈ m.waiting.erase ticket then _ else none
    rw [Dictionary.get?_erase, h.result?_eq]
    by_cases heq : ticket = other
    · rw [if_pos heq, if_neg fun hmem => (h.nodup.mem_erase_iff.1 hmem).1 heq.symm]
    · simp only [heq, h.nodup.mem_erase_iff, Ne.symm heq, ne_eq, not_false_eq_true, true_and,
        if_false]
  nodup := h.nodup.erase ticket
  lt other hmem := h.lt other (List.mem_of_mem_erase hmem)

/-- Collecting a result is going away with it. -/
theorem collect_fst {result : Except Error Answer} (h : (m.collect ticket).2 = some result) :
    (m.collect ticket).1 = m.leave ticket ∧ m.results.get? ticket = some result := by
  unfold collect at h ⊢
  cases hget : m.results.get? ticket with
  | none =>
    rw [hget] at h
    cases h
  | some found =>
    rw [hget] at h
    exact ⟨rfl, h⟩

theorem collect_snd (m : Mailbox) (ticket : Ticket) :
    (m.collect ticket).2 = m.results.get? ticket := by
  unfold collect
  cases m.results.get? ticket <;> rfl

/-- The keeper performs so many commands. -/
def workThrough (m : Mailbox) : Nat → Mailbox
  | 0 => m
  | n + 1 => m.work.workThrough n

theorem Holds.workThrough (h : m.Holds done rest) :
    (m.workThrough rest.length).Holds (done ++ rest) [] ∧
      (m.workThrough rest.length).waiting = m.waiting := by
  induction rest generalizing m done with
  | nil =>
    rw [List.append_nil]
    exact ⟨h, rfl⟩
  | cons c rest ih =>
    obtain ⟨hwork, hwaiting⟩ := h.work
    obtain ⟨hholds, hlast⟩ := ih hwork
    rw [List.append_assoc] at hholds
    exact ⟨hholds, hlast.trans hwaiting⟩

end Mailbox

end Harbor.Session
