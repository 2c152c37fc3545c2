import Harbor.Proofs.Session.Mailbox
import Harbor.Session.Office

/-!
# The keeper works for everyone at once

However the tasks, the keeper and the callers that give up take turns, what comes of it
is one sequential run of the table on the commands in the order in which they entered
the mailbox. The ticket of a command is its place in this order, so the result under a
ticket is the one that the run has at that place.

`Books` says that the commands performed and the commands that wait are the ones that
entered, `Receipts` who waits for what and what has been received, and `Orders` in which
order the commands of one task come.

Main results:

* `Books.step`, `Receipts.step`, `Orders.step`: what each step keeps.
* `serial_run`: every run is a sequential run of the table.
-/

namespace Harbor.Session

/-! ## What has happened -/

/-- The command of a task that waits for room in the mailbox. -/
def Task.pending : Task → List Table.Command
  | .sending c => [c]
  | _ => []

open Table (Command Answer ticketed)

namespace Happening

/-- The command that enters the mailbox, and the task that it comes from. -/
def arrival? : Happening → Option (TaskId × Command)
  | .enter who c => some (who, c)
  | _ => none

/-- The command that is performed, and its ticket. -/
def performed? : Happening → Option (Ticket × Command)
  | .perform ticket c => some (ticket, c)
  | _ => none

/-- The command that a given task issues. -/
def issuedBy? (who : TaskId) : Happening → Option Command
  | .issue who' c => if who' = who then some c else none
  | _ => none

/-- The ticket whose result is received. -/
def deliveredTicket? : Happening → Option Ticket
  | .deliver _ ticket _ => some ticket
  | _ => none

/-- The id of a new session that is received. -/
def receivedId? : Happening → Option SessionId
  | .deliver _ _ (.ok (.opened id)) => some id
  | _ => none

end Happening

namespace Office

/-- The commands that have entered the mailbox, in order. -/
def arrivals (hs : List Happening) : List (TaskId × Command) := hs.filterMap Happening.arrival?

/-- The commands that have been performed, in order. -/
def performed (hs : List Happening) : List (Ticket × Command) := hs.filterMap Happening.performed?

/-- The commands that a task has issued, in order. -/
def issuedBy (who : TaskId) (hs : List Happening) : List Command :=
  hs.filterMap (Happening.issuedBy? who)

/-- The tickets whose results have been received. -/
def deliveredTickets (hs : List Happening) : List Ticket :=
  hs.filterMap Happening.deliveredTicket?

/-- The ids of new sessions that have been received. -/
def receivedIds (hs : List Happening) : List SessionId := hs.filterMap Happening.receivedId?

/-- The commands of one task. -/
def commandsOf (who : TaskId) (arrived : List (TaskId × Command)) : List Command :=
  arrived.filterMap fun a => if a.1 = who then some a.2 else none

/-- The command under a ticket comes from a given task. -/
def Asked (hs : List Happening) (who : TaskId) (ticket : Ticket) : Prop :=
  ∃ c, (arrivals hs)[ticket]? = some (who, c)

/-- The command under a ticket is the last one that a given task has put into the mailbox. -/
structure AskedLast (hs : List Happening) (who : TaskId) (ticket : Ticket) : Prop where
  asked : Asked hs who ticket
  last : ∀ later, Asked hs who later → later ≤ ticket

/-! ## What the keeper has done -/

section

variable {hs : List Happening} {e : Happening} {o o' : Office} {done rest : List Command}
  {who : TaskId} {ticket : Ticket}

theorem arrivals_concat : arrivals (hs ++ [e]) = arrivals hs ++ e.arrival?.toList :=
  Table.filterMap_concat ..

theorem performed_concat : performed (hs ++ [e]) = performed hs ++ e.performed?.toList :=
  Table.filterMap_concat ..

theorem issuedBy_concat : issuedBy who (hs ++ [e]) = issuedBy who hs ++ (e.issuedBy? who).toList :=
  Table.filterMap_concat ..

theorem deliveredTickets_concat :
    deliveredTickets (hs ++ [e]) = deliveredTickets hs ++ e.deliveredTicket?.toList :=
  Table.filterMap_concat ..

/-- The commands `done` have been performed and the commands `rest` wait, and these are
    the ones that have entered, in this order. -/
structure Books (hs : List Happening) (o : Office) (done rest : List Command) : Prop where
  holds : o.mailbox.Holds done rest
  arrivals_eq : (arrivals hs).map Prod.snd = done ++ rest
  performed_eq : performed hs = ticketed 0 done
  next_eq : o.next = (done ++ rest).length

theorem books_new : Books [] new [] [] := ⟨Mailbox.holds_new, rfl, rfl, rfl⟩

/-- Nothing enters the mailbox and nothing is performed. -/
theorem Books.stay (h : Books hs o done rest) (hholds : o'.mailbox.Holds done rest)
    (hnext : o'.next = o.next) (harrival : e.arrival? = none) (hperformed : e.performed? = none) :
    Books (hs ++ [e]) o' done rest where
  holds := hholds
  arrivals_eq := by
    rw [arrivals_concat, harrival, Option.toList_none, List.append_nil, h.arrivals_eq]
  performed_eq := by
    rw [performed_concat, hperformed, Option.toList_none, List.append_nil, h.performed_eq]
  next_eq := hnext.trans h.next_eq

theorem Books.enter (h : Books hs o done rest) (who : TaskId) (c : Command) :
    Books (hs ++ [.enter who c]) (o.enter who c) done (rest ++ [c]) where
  holds := by
    have hsend := h.holds.send c
    rwa [← h.next_eq] at hsend
  arrivals_eq := by
    rw [arrivals_concat, List.map_append, h.arrivals_eq, List.append_assoc]
    rfl
  performed_eq := by
    rw [performed_concat, h.performed_eq]
    exact List.append_nil _
  next_eq := by
    show o.next + 1 = _
    simp only [h.next_eq, List.length_append, List.length_singleton, Nat.add_assoc]

theorem Books.perform {c : Command} (h : Books hs o done (c :: rest)) :
    Books (hs ++ [.perform done.length c]) { o with mailbox := o.mailbox.work } (done ++ [c])
      rest where
  holds := h.holds.work.1
  arrivals_eq := by
    rw [arrivals_concat, List.append_assoc]
    exact (congrArg _ (List.append_nil _)).trans h.arrivals_eq
  performed_eq := by
    rw [performed_concat, h.performed_eq, Table.ticketed_append, Nat.zero_add]
    rfl
  next_eq := by
    rw [List.append_assoc]
    exact h.next_eq

/-- What has been performed stays so. -/
theorem Books.step (h : Books hs o done rest) (hstep : Step o e o') :
    ∃ now rest', Books (hs ++ [e]) o' (done ++ now) rest' := by
  -- nothing is performed, except in a step of the keeper
  have hnone {rest' : List Command} (h' : Books (hs ++ [e]) o' done rest') :
      ∃ now rest', Books (hs ++ [e]) o' (done ++ now) rest' :=
    ⟨[], rest', (List.append_nil done).symm ▸ h'⟩
  cases hstep with
  | issue c hidle => exact hnone (h.stay h.holds rfl rfl rfl)
  | enter hsending hroom => exact hnone (h.enter _ _)
  | perform hqueue =>
    obtain ⟨rfl, rest', rfl⟩ := h.holds.exists_of_queue hqueue
    exact ⟨[_], rest', h.perform⟩
  | deliver hawaiting hresult =>
    refine hnone (h.stay ?_ rfl rfl rfl)
    rw [(Mailbox.collect_fst hresult).1]
    exact h.holds.leave _
  | giveUp hsending => exact hnone (h.stay h.holds rfl rfl rfl)
  | leave hawaiting => exact hnone (h.stay (h.holds.leave _) rfl rfl rfl)

theorem Books.length_arrivals (h : Books hs o done rest) : (arrivals hs).length = o.next := by
  rw [h.next_eq, ← h.arrivals_eq, List.length_map]

/-! ## What the tasks wait for -/

/-- A ticket belongs to one task. -/
theorem Asked.unique {who' : TaskId} (h : Asked hs who ticket) (h' : Asked hs who' ticket) :
    who = who' := by
  obtain ⟨c, hc⟩ := h
  obtain ⟨c', hc'⟩ := h'
  rw [hc] at hc'
  exact (Prod.mk.inj (Option.some.inj hc')).1

theorem Asked.lt (h : Asked hs who ticket) : ticket < (arrivals hs).length := by
  obtain ⟨c, hc⟩ := h
  exact (List.getElem?_eq_some_iff.1 hc).1

/-- A command that enters the mailbox gets the next ticket, and the others keep theirs. -/
theorem asked_concat_iff : Asked (hs ++ [e]) who ticket ↔ Asked hs who ticket ∨
    ticket = (arrivals hs).length ∧ ∃ c, e.arrival? = some (who, c) := by
  rw [Asked, Asked, arrivals_concat]
  rcases Nat.lt_trichotomy ticket (arrivals hs).length with hlt | rfl | hgt
  · rw [List.getElem?_append_left hlt]
    exact (or_iff_left fun h => Nat.ne_of_lt hlt h.1).symm
  · rw [List.getElem?_append_right (Nat.le_refl _), List.getElem?_eq_none (Nat.le_refl _),
      Nat.sub_self]
    cases e.arrival? <;> simp
  · have hend : (arrivals hs ++ e.arrival?.toList).length ≤ ticket := by
      rw [List.length_append]
      exact Nat.le_trans (Nat.add_le_add_left Option.length_toList_le _) hgt
    rw [List.getElem?_eq_none hend, List.getElem?_eq_none (Nat.le_of_lt hgt)]
    simp only [reduceCtorEq, exists_false, false_or, Nat.ne_of_gt hgt, false_and]

/-- No other command of the task has entered the mailbox. -/
theorem AskedLast.stay (h : AskedLast hs who ticket) (harrival : ∀ c, e.arrival? ≠ some (who, c)) :
    AskedLast (hs ++ [e]) who ticket := by
  refine ⟨asked_concat_iff.2 (.inl h.asked), fun later hlater => ?_⟩
  rcases asked_concat_iff.1 hlater with hbefore | ⟨-, c, hc⟩
  · exact h.last later hbefore
  · exact absurd hc (harrival c)

/-- Every task awaits the result of the command that it has entered last, and has received
    none but such results. -/
structure Receipts (hs : List Happening) (o : Office) (done : List Command) : Prop where
  awaiting : ∀ who ticket, o.tasks who = .awaiting ticket →
    ticket ∈ o.mailbox.waiting ∧ AskedLast hs who ticket
  delivered : ∀ before who ticket result, before ++ [.deliver who ticket result] <+: hs →
    AskedLast before who ticket ∧ (Table.new.run done).2[ticket]? = some result ∧
      ticket ∉ o.mailbox.waiting
  nodup : (deliveredTickets hs).Nodup

theorem receipts_new : Receipts [] new [] := ⟨nofun, fun _ _ _ _ h => by simp at h, List.nodup_nil⟩

theorem Receipts.of_deliver (h : Receipts hs o done) {result : Except Error Answer}
    (hmem : .deliver who ticket result ∈ hs) :
    (Table.new.run done).2[ticket]? = some result ∧ ticket ∉ o.mailbox.waiting := by
  obtain ⟨before, after, rfl⟩ := List.append_of_mem hmem
  exact (h.delivered before who ticket result ⟨after, by simp⟩).2

theorem Receipts.append (h : Receipts hs o done) (now : List Command) :
    Receipts hs o (done ++ now) where
  awaiting := h.awaiting
  delivered before who ticket result hstart := by
    obtain ⟨hasked, hresult, hnot⟩ := h.delivered before who ticket result hstart
    exact ⟨hasked, Table.getElem?_answers_append hresult now, hnot⟩
  nodup := h.nodup

/-- Nobody has received anything else. -/
theorem Receipts.delivered_concat (h : Receipts hs o done) (hdelivered : e.deliveredTicket? = none)
    {before : List Happening} {result : Except Error Answer}
    (hstart : before ++ [.deliver who ticket result] <+: hs ++ [e]) :
    AskedLast before who ticket ∧ (Table.new.run done).2[ticket]? = some result ∧
      ticket ∉ o.mailbox.waiting := by
  rcases List.prefix_concat_iff.1 hstart with heq | hstart
  · obtain rfl := List.singleton_inj.1 (List.append_inj' heq rfl).2
    cases hdelivered
  · exact h.delivered before who ticket result hstart

/-- Nobody receives anything, and no more tasks wait. -/
theorem Receipts.stay (h : Receipts hs o done) (harrival : e.arrival? = none)
    (hdelivered : e.deliveredTicket? = none)
    (hwaiting : o'.mailbox.waiting ⊆ o.mailbox.waiting)
    (hawaiting : ∀ who ticket, o'.tasks who = .awaiting ticket →
      o.tasks who = .awaiting ticket ∧ ticket ∈ o'.mailbox.waiting) :
    Receipts (hs ++ [e]) o' done where
  awaiting who ticket htask := by
    obtain ⟨hbefore, hmem⟩ := hawaiting who ticket htask
    exact ⟨hmem, (h.awaiting who ticket hbefore).2.stay fun c hc => nomatch harrival ▸ hc⟩
  delivered before who ticket result hstart := by
    obtain ⟨hasked, hresult, hnot⟩ := h.delivered_concat hdelivered hstart
    exact ⟨hasked, hresult, fun hin => hnot (hwaiting hin)⟩
  nodup := by
    rw [deliveredTickets_concat, hdelivered, Option.toList_none, List.append_nil]
    exact h.nodup

theorem Receipts.enter (h : Receipts hs o done) (hbooks : Books hs o done rest) (who : TaskId)
    (c : Command) : Receipts (hs ++ [.enter who c]) (o.enter who c) done where
  awaiting other ticket htask := by
    show ticket ∈ o.next :: o.mailbox.waiting ∧ _
    change (if other = who then Task.awaiting o.next else o.tasks other) = _ at htask
    split at htask
    · next heq =>
      cases htask
      refine ⟨List.mem_cons_self, ?_, fun later hlater => ?_⟩
      · exact asked_concat_iff.2 (.inr ⟨hbooks.length_arrivals.symm, c, heq ▸ rfl⟩)
      · -- no ticket is later than the newest
        rw [← hbooks.length_arrivals]
        rcases asked_concat_iff.1 hlater with hbefore | ⟨heq, -⟩
        · exact Nat.le_of_lt hbefore.lt
        · exact Nat.le_of_eq heq
    · next hne =>
      obtain ⟨hmem, hasked⟩ := h.awaiting other ticket htask
      refine ⟨List.mem_cons_of_mem _ hmem, hasked.stay fun c' hc => hne ?_⟩
      exact (Prod.mk.inj (Option.some.inj hc)).1.symm
  delivered before other ticket result hstart := by
    obtain ⟨hasked, hresult, hnot⟩ := h.delivered_concat rfl hstart
    refine ⟨hasked, hresult, ?_⟩
    show ticket ∉ o.next :: o.mailbox.waiting
    rw [List.mem_cons, not_or]
    obtain ⟨hlt, -⟩ := List.getElem?_eq_some_iff.1 hresult
    rw [Table.length_answers_run] at hlt
    rw [hbooks.next_eq, List.length_append]
    exact ⟨Nat.ne_of_lt (Nat.lt_add_right _ hlt), hnot⟩
  nodup := by
    rw [deliveredTickets_concat]
    exact (List.append_nil _).symm ▸ h.nodup

/-- A task that stops waiting leaves the others waiting. -/
theorem Receipts.awaiting_of_idle (h : Receipts hs o done) {other : TaskId} {ticket' : Ticket}
    (hwho : o.tasks who = .awaiting ticket)
    (hother : (o.turnTo who .idle).tasks other = .awaiting ticket') :
    o.tasks other = .awaiting ticket' ∧ ticket' ∈ o.mailbox.waiting.erase ticket := by
  change (if other = who then Task.idle else o.tasks other) = _ at hother
  split at hother
  · cases hother
  · next hne =>
    obtain ⟨-, hasked⟩ := h.awaiting who ticket hwho
    obtain ⟨hmem, hasked'⟩ := h.awaiting other ticket' hother
    refine ⟨hother, (List.mem_erase_of_ne ?_).2 hmem⟩
    rintro rfl
    exact hne (hasked'.asked.unique hasked.asked)

theorem Receipts.leave (h : Receipts hs o done) (hwho : o.tasks who = .awaiting ticket) :
    Receipts (hs ++ [.leave who])
      { o.turnTo who .idle with mailbox := o.mailbox.leave ticket } done :=
  h.stay rfl rfl (List.erase_subset ..) fun _ _ htask => h.awaiting_of_idle hwho htask

theorem Receipts.deliver (h : Receipts hs o done) (hbooks : Books hs o done rest)
    {result : Except Error Answer} (hwho : o.tasks who = .awaiting ticket)
    (hresult : o.mailbox.results.get? ticket = some result) :
    Receipts (hs ++ [.deliver who ticket result])
      { o.turnTo who .idle with mailbox := o.mailbox.leave ticket } done where
  awaiting other ticket' htask := by
    obtain ⟨hbefore, hmem⟩ := h.awaiting_of_idle hwho htask
    exact ⟨hmem, (h.awaiting other ticket' hbefore).2.stay nofun⟩
  delivered before other ticket' result' hstart := by
    obtain ⟨hwaiting, hasked⟩ := h.awaiting who ticket hwho
    rcases List.prefix_concat_iff.1 hstart with heq | hstart
    · obtain ⟨rfl, hlast⟩ := List.append_inj' heq rfl
      cases hlast
      refine ⟨hasked, ?_, hbooks.holds.nodup.not_mem_erase⟩
      rw [hbooks.holds.result?_eq, if_pos hwaiting] at hresult
      exact hresult
    · obtain ⟨hasked', hresult', hnot⟩ := h.delivered before other ticket' result' hstart
      exact ⟨hasked', hresult', fun hin => hnot (List.mem_of_mem_erase hin)⟩
  nodup := by
    have hnot : ticket ∉ deliveredTickets hs := by
      intro hmem
      obtain ⟨e, he, hticket⟩ := List.mem_filterMap.1 hmem
      cases e with
      | deliver who' ticket' result' =>
        cases hticket
        exact (h.of_deliver he).2 (h.awaiting who _ hwho).1
      | _ => cases hticket
    rw [deliveredTickets_concat]
    refine List.nodup_append.2 ⟨h.nodup, List.pairwise_singleton .., fun ticket' hmem _ hlast => ?_⟩
    rw [List.mem_singleton.1 hlast]
    exact fun heq => hnot (heq ▸ hmem)

theorem Receipts.step (h : Receipts hs o done) (hbooks : Books hs o done rest)
    (hstep : Step o e o') : Receipts (hs ++ [e]) o' done := by
  cases hstep with
  | @issue who c hidle =>
    refine h.stay rfl rfl (List.Subset.refl _) fun other ticket' htask => ?_
    change (if other = who then Task.sending c else o.tasks other) = _ at htask
    split at htask
    · cases htask
    · exact ⟨htask, (h.awaiting other ticket' htask).1⟩
  | enter hsending hroom => exact h.enter hbooks _ _
  | perform hqueue =>
    rw [Mailbox.work_eq hqueue]
    exact h.stay rfl rfl (List.Subset.refl _) fun other ticket' htask =>
      ⟨htask, (h.awaiting other ticket' htask).1⟩
  | deliver hawaiting hresult =>
    obtain ⟨hleave, hget⟩ := Mailbox.collect_fst hresult
    rw [hleave]
    exact h.deliver hbooks hawaiting hget
  | @giveUp who c hsending =>
    refine h.stay rfl rfl (List.Subset.refl _) fun other ticket' htask => ?_
    change (if other = who then Task.idle else o.tasks other) = _ at htask
    split at htask
    · cases htask
    · exact ⟨htask, (h.awaiting other ticket' htask).1⟩
  | leave hawaiting => exact h.leave hawaiting

/-! ## In which order a task is served -/

/-- What has entered for a task, and what it is about to enter, are commands it has
    issued, in the order in which it did. None is missing as long as the task gives up
    none. -/
structure Orders (hs : List Happening) (o : Office) (who : TaskId) : Prop where
  sublist : List.Sublist (commandsOf who (arrivals hs) ++ (o.tasks who).pending) (issuedBy who hs)
  eq_of_stays : .leave who ∉ hs →
    commandsOf who (arrivals hs) ++ (o.tasks who).pending = issuedBy who hs

theorem orders_new (who : TaskId) : Orders [] new who := ⟨List.Sublist.refl _, fun _ => rfl⟩

theorem commandsOf_concat {a : TaskId × Command} {l : List (TaskId × Command)} :
    commandsOf who (l ++ [a]) = commandsOf who l ++ if a.1 = who then [a.2] else [] := by
  rw [commandsOf, Table.filterMap_concat]
  split <;> rfl

theorem pending_turnTo (o : Office) (who other : TaskId) (task : Task) :
    ((o.turnTo who task).tasks other).pending =
      if other = who then task.pending else (o.tasks other).pending :=
  apply_ite ..

/-- A step that does not concern a task. -/
theorem Orders.stay (h : Orders hs o who)
    (harrival : commandsOf who (arrivals (hs ++ [e])) = commandsOf who (arrivals hs))
    (hissued : e.issuedBy? who = none) (htask : (o'.tasks who).pending = (o.tasks who).pending) :
    Orders (hs ++ [e]) o' who where
  sublist := by
    rw [harrival, htask, issuedBy_concat, hissued]
    exact (List.append_nil _).symm ▸ h.sublist
  eq_of_stays hstays := by
    rw [harrival, htask, issuedBy_concat, hissued, h.eq_of_stays]
    · exact (List.append_nil _).symm
    · exact fun hmem => hstays (List.mem_append_left _ hmem)

theorem Orders.issue (h : Orders hs o who) (c : Command) (hidle : o.tasks who = .idle) :
    Orders (hs ++ [.issue who c]) (o.turnTo who (.sending c)) who := by
  have harrival : arrivals (hs ++ [.issue who c]) = arrivals hs :=
    arrivals_concat.trans (List.append_nil _)
  have hissued : issuedBy who (hs ++ [.issue who c]) = issuedBy who hs ++ [c] := by
    rw [issuedBy_concat, Happening.issuedBy?, if_pos rfl, Option.toList_some]
  have hpending : (o.tasks who).pending = [] := by rw [hidle]; rfl
  obtain ⟨hsublist, heq⟩ := h
  rw [hpending, List.append_nil] at hsublist heq
  refine ⟨?_, fun hstays => ?_⟩
  · rw [harrival, hissued, pending_turnTo, if_pos rfl]
    exact hsublist.append_right [c]
  · rw [harrival, hissued, pending_turnTo, if_pos rfl,
      heq fun hmem => hstays (List.mem_append_left _ hmem)]
    rfl

theorem Orders.enter (h : Orders hs o who) {c : Command} (hsending : o.tasks who = .sending c) :
    Orders (hs ++ [.enter who c]) (o.enter who c) who := by
  have hissued : issuedBy who (hs ++ [.enter who c]) = issuedBy who hs :=
    issuedBy_concat.trans (List.append_nil _)
  -- the command goes from the one list to the other
  have heq : commandsOf who (arrivals (hs ++ [.enter who c])) ++
      ((o.enter who c).tasks who).pending =
        commandsOf who (arrivals hs) ++ (o.tasks who).pending := by
    show commandsOf who (arrivals _) ++ ((o.turnTo who _).tasks who).pending = _
    rw [arrivals_concat, pending_turnTo, if_pos rfl, hsending, Happening.arrival?,
      Option.toList_some, commandsOf_concat, if_pos rfl]
    exact List.append_nil _
  refine ⟨heq ▸ hissued ▸ h.sublist, fun hstays => ?_⟩
  rw [heq, hissued, h.eq_of_stays fun hmem => hstays (List.mem_append_left _ hmem)]

theorem Orders.giveUp (h : Orders hs o who) :
    Orders (hs ++ [.leave who]) (o.turnTo who .idle) who := by
  have harrival : arrivals (hs ++ [.leave who]) = arrivals hs :=
    arrivals_concat.trans (List.append_nil _)
  have hissued : issuedBy who (hs ++ [.leave who]) = issuedBy who hs :=
    issuedBy_concat.trans (List.append_nil _)
  refine ⟨?_, fun hstays => absurd (List.mem_append_right _ List.mem_cons_self) hstays⟩
  rw [harrival, hissued, pending_turnTo, if_pos rfl]
  exact (List.append_nil _).symm ▸ (List.sublist_append_left ..).trans h.sublist

theorem Orders.step (h : Orders hs o who) (hstep : Step o e o') : Orders (hs ++ [e]) o' who := by
  have harrivals : e.arrival? = none → commandsOf who (arrivals (hs ++ [e])) =
      commandsOf who (arrivals hs) := by
    intro hnone
    rw [arrivals_concat, hnone, Option.toList_none, List.append_nil]
  cases hstep with
  | @issue other c hidle =>
    by_cases heq : who = other
    · subst heq
      exact h.issue c hidle
    · exact h.stay (harrivals rfl) (if_neg (Ne.symm heq))
        ((pending_turnTo ..).trans (if_neg heq))
  | @enter other c hsending hroom =>
    by_cases heq : who = other
    · subst heq
      exact h.enter hsending
    · refine h.stay ?_ rfl ((pending_turnTo ..).trans (if_neg heq))
      rw [arrivals_concat, Happening.arrival?, Option.toList_some, commandsOf_concat,
        if_neg (Ne.symm heq), List.append_nil]
  | perform hqueue => exact h.stay (harrivals rfl) rfl rfl
  | @deliver other ticket result hawaiting hresult =>
    refine h.stay (harrivals rfl) rfl ((pending_turnTo ..).trans ?_)
    split
    · next heq => rw [heq, hawaiting]; rfl
    · rfl
  | @giveUp other c hsending =>
    by_cases heq : who = other
    · subst heq
      exact h.giveUp
    · exact h.stay (harrivals rfl) rfl ((pending_turnTo ..).trans (if_neg heq))
  | @leave other ticket hawaiting =>
    refine h.stay (harrivals rfl) rfl ((pending_turnTo ..).trans ?_)
    split
    · next heq => rw [heq, hawaiting]; rfl
    · rfl

/-! ## Every run is one run of the table -/

theorem Run.accounts (h : Run hs o) : ∃ done rest, Books hs o done rest ∧ Receipts hs o done := by
  induction h with
  | new => exact ⟨[], [], books_new, receipts_new⟩
  | step _ hstep ih =>
    obtain ⟨done, rest, hbooks, hreceipts⟩ := ih
    obtain ⟨now, rest', hbooks'⟩ := hbooks.step hstep
    exact ⟨done ++ now, rest', hbooks', (hreceipts.step hbooks hstep).append now⟩

theorem Run.orders (h : Run hs o) (who : TaskId) : Orders hs o who := by
  induction h with
  | new => exact orders_new who
  | step _ hstep ih => exact ih.step hstep

/-- The keeper may go on until nothing waits in the mailbox. -/
theorem Run.workThrough (h : Run hs o) :
    Run (hs ++ o.mailbox.queue.map fun p => .perform p.1 p.2)
      { o with mailbox := o.mailbox.workThrough o.mailbox.queue.length } := by
  generalize hqueue : o.mailbox.queue = queue
  induction queue generalizing hs o with
  | nil =>
    rw [List.map_nil, List.append_nil]
    exact h
  | cons p queue ih =>
    have hwork : o.mailbox.work.queue = queue := by rw [Mailbox.work_eq hqueue]
    have := ih (h.step (.perform hqueue)) hwork
    rwa [List.append_assoc] at this

/-- The results of one run of a new table on the commands in the order in which they
    entered the mailbox. -/
def answers (hs : List Happening) : List (Except Error Answer) :=
  (Table.new.run ((arrivals hs).map Prod.snd)).2

/-- What has happened is one run of the table. -/
structure Serial (hs : List Happening) (o : Office) : Prop where
  /-- The commands that entered are performed once each, in this order; those that have
      not been performed yet are all in the mailbox. -/
  performed_eq : performed hs ++ o.mailbox.queue = ticketed 0 ((arrivals hs).map Prod.snd)
  table_eq : o.mailbox.table = (Table.new.run ((performed hs).map Prod.snd)).1
  /-- A task that waits gets the result of the command that it has entered last, as soon as
      the keeper has performed what is in the mailbox. -/
  awaiting : ∀ who ticket, o.tasks who = .awaiting ticket → AskedLast hs who ticket ∧
    ∃ result o', (answers hs)[ticket]? = some result ∧
      Run (hs ++ (o.mailbox.queue.map fun p => .perform p.1 p.2) ++
        [.deliver who ticket result]) o'
  /-- Whatever a task received is the result of the command that it had entered last. -/
  delivered : ∀ before who ticket result, before ++ [.deliver who ticket result] <+: hs →
    AskedLast before who ticket ∧ (answers hs)[ticket]? = some result
  deliveredTickets_nodup : (deliveredTickets hs).Nodup
  /-- The commands of a task are performed in the order in which it issued them, and
      none is left out before another as long as the task gives up none. -/
  sublist : ∀ who, List.Sublist (commandsOf who ((arrivals hs).take (performed hs).length))
    (issuedBy who hs)
  isPrefix : ∀ who, .leave who ∉ hs →
    commandsOf who ((arrivals hs).take (performed hs).length) <+: issuedBy who hs
  /-- No two tasks receive the same new session. -/
  receivedIds_nodup : (receivedIds hs).Nodup

theorem Books.table_eq (h : Books hs o done rest) :
    o.mailbox.table = (Table.new.run ((performed hs).map Prod.snd)).1 := by
  rw [h.performed_eq, Table.map_snd_ticketed, h.holds.table_eq]

theorem Books.performed_append_queue (h : Books hs o done rest) :
    performed hs ++ o.mailbox.queue = ticketed 0 ((arrivals hs).map Prod.snd) := by
  rw [h.performed_eq, h.holds.queue_eq, h.arrivals_eq, Table.ticketed_append, Nat.zero_add]

/-- The answers that the table has given are those of the whole run. -/
theorem Books.answers_eq (h : Books hs o done rest) {result : Except Error Answer}
    (hresult : (Table.new.run done).2[ticket]? = some result) :
    (answers hs)[ticket]? = some result := by
  rw [answers, h.arrivals_eq]
  exact Table.getElem?_answers_append hresult rest

theorem Books.exists_deliver (h : Books hs o done rest) (hreceipts : Receipts hs o done)
    (hrun : Run hs o) (hawaiting : o.tasks who = .awaiting ticket) :
    ∃ result o', (answers hs)[ticket]? = some result ∧
      Run (hs ++ (o.mailbox.queue.map fun p => .perform p.1 p.2) ++
        [.deliver who ticket result]) o' := by
  obtain ⟨hmem, hasked⟩ := hreceipts.awaiting who ticket hawaiting
  obtain ⟨hholds, hwaiting⟩ := h.holds.workThrough
  have hlength : o.mailbox.queue.length = rest.length := by
    rw [h.holds.queue_eq, Table.length_ticketed]
  have hlt : ticket < (answers hs).length := by
    rw [answers, Table.length_answers_run, List.length_map]
    exact hasked.asked.lt
  refine ⟨_, _, List.getElem?_eq_getElem hlt, hrun.workThrough.step (.deliver hawaiting ?_)⟩
  show ((o.mailbox.workThrough o.mailbox.queue.length).collect ticket).2 = _
  rw [Mailbox.collect_snd, hlength, hholds.result?_eq, if_pos (hwaiting.symm ▸ hmem),
    ← h.arrivals_eq]
  exact List.getElem?_eq_getElem hlt

theorem Orders.sublist_of_performed (h : Orders hs o who) (n : Nat) :
    List.Sublist (commandsOf who ((arrivals hs).take n)) (issuedBy who hs) :=
  (((List.take_sublist ..).filterMap _).trans (List.sublist_append_left ..)).trans h.sublist

theorem Orders.prefix_of_performed (h : Orders hs o who) (hstays : .leave who ∉ hs) (n : Nat) :
    commandsOf who ((arrivals hs).take n) <+: issuedBy who hs := by
  rw [← h.eq_of_stays hstays]
  exact ((List.take_prefix ..).filterMap _).trans (List.prefix_append ..)

theorem Receipts.receivedIds_nodup (h : Receipts hs o done) : (receivedIds hs).Nodup := by
  refine List.pairwise_filterMap.2 ((List.pairwise_filterMap.1 h.nodup).imp_of_mem ?_)
  intro e e' he he' hne id hid id' hid' heq
  subst heq
  have hdeliver {e : Happening} (he : e ∈ hs) (hid : e.receivedId? = some id) :
      ∃ ticket, e.deliveredTicket? = some ticket ∧
        (Table.new.run done).2[ticket]? = some (.ok (.opened id)) := by
    unfold Happening.receivedId? at hid
    split at hid
    · cases hid
      exact ⟨_, rfl, (h.of_deliver he).1⟩
    · cases hid
  obtain ⟨ticket, hticket, hanswer⟩ := hdeliver he hid
  obtain ⟨ticket', hticket', hanswer'⟩ := hdeliver he' hid'
  exact hne ticket hticket ticket' hticket'
    (Table.follows_new.answer_opened_unique hanswer hanswer')

theorem serial_run (h : Run hs o) : Serial hs o := by
  obtain ⟨done, rest, hbooks, hreceipts⟩ := h.accounts
  exact {
    performed_eq := hbooks.performed_append_queue
    table_eq := hbooks.table_eq
    awaiting := fun who ticket hawaiting =>
      ⟨(hreceipts.awaiting who ticket hawaiting).2, hbooks.exists_deliver hreceipts h hawaiting⟩
    delivered := fun before who ticket result hstart =>
      have hdelivered := hreceipts.delivered before who ticket result hstart
      ⟨hdelivered.1, hbooks.answers_eq hdelivered.2.1⟩
    deliveredTickets_nodup := hreceipts.nodup
    sublist := fun who => (h.orders who).sublist_of_performed _
    isPrefix := fun who hstays => (h.orders who).prefix_of_performed hstays _
    receivedIds_nodup := hreceipts.receivedIds_nodup }

/-- Two tasks open a session each. The first does not wait for its result, and the second
    gets the second session. -/
theorem serial_run_two_opens : ∃ o,
    Run [.issue 0 .openSession, .issue 1 .openSession, .enter 0 .openSession,
      .enter 1 .openSession, .leave 0, .perform 0 .openSession, .perform 1 .openSession,
      .deliver 1 1 (.ok (.opened ⟨2⟩))] o ∧
    Serial [.issue 0 .openSession, .issue 1 .openSession, .enter 0 .openSession,
      .enter 1 .openSession, .leave 0, .perform 0 .openSession, .perform 1 .openSession,
      .deliver 1 1 (.ok (.opened ⟨2⟩))] o := by
  have hissued := (Run.new.step (@Step.issue _ 0 .openSession rfl)).step
    (@Step.issue _ 1 .openSession rfl)
  have hentered := (hissued.step (@Step.enter _ 0 .openSession rfl (by decide))).step
    (@Step.enter _ 1 .openSession rfl (by decide))
  have hleft := hentered.step (@Step.leave _ 0 0 rfl)
  have hperformed := (hleft.step (.perform rfl)).step (.perform rfl)
  have hdelivered := hperformed.step (@Step.deliver _ 1 1 (.ok (.opened ⟨2⟩)) rfl rfl)
  exact ⟨_, hdelivered, serial_run hdelivered⟩

end

end Office

end Harbor.Session
