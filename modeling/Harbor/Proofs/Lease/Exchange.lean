import Harbor.Proofs.Lease.Leases
import Harbor.Proofs.Lease.Messages

/-!
# Exchanges with the registry

Clients and strangers send the registry datagrams in any order. What the registry
comes to, and what each client is told, is what the requested operations give when
they are run one after another without any wire: `requests` lists them, up to the
first stop.

Main results:

* `ask_eq`: a call returns what its operation answers.
* `receive_of_operation?_eq_some`: a datagram counts as the operation that it asks for.
* `takeAll_eq_run`: datagrams in any order come to the run of what they ask for.
* `exchange_eq_direct`: after any datagrams, every next one is treated so.
-/

namespace Harbor.Lease

open Registry (Operation Outcome)

/-- What a call returns for the outcome of its operation. -/
def Call.result (call : Call) : Outcome → Except Client.Error (Option Port)
  | .port port => .ok (some port)
  | .refused e => .error (.refused call.message.name e.status)
  | _ => .ok none

/-- A datagram on its way to the registry: a client's call or anything else. -/
inductive Arrival where
  | call (client : Client) (call : Call) (now : Instant)
  | datagram (octets : Octets) (now : Instant)

/-- The operation that an arrival asks for, if it asks for one. -/
def Arrival.operation? : Arrival → Option Operation
  | .call _ c now => some (c.operation now)
  | .datagram octets now =>
    match Message.decode octets with
    | .ok m => m.operation? now
    | .error _ => none

/-- The operations that arrivals ask for, up to the first stop. -/
def requests : List Arrival → List Operation
  | [] => []
  | a :: as =>
    match a.operation? with
    | none => requests as
    | some o => if o = .stop then [o] else o :: requests as

namespace Registry

/-- The registry after an arrival. -/
def take (g : Registry) : Arrival → Registry
  | .call client call now => (client.ask g call now).1
  | .datagram octets now => (g.receive octets now).1

/-- The registry after arrivals, one after another. -/
def takeAll (g : Registry) (arrivals : List Arrival) : Registry := arrivals.foldl take g

variable {g : Registry}

/-! ## One datagram -/

theorem receive_of_stopped (h : g.stopped) (datagram : Octets) (now : Instant) :
    g.receive datagram now = (g, none) := if_pos h

theorem receive_of_decode_error (h : ¬ g.stopped) {datagram : Octets} {e : Message.Error}
    (hd : Message.decode datagram = .error e) (now : Instant) :
    g.receive datagram now = (g, none) := by
  rw [receive, if_neg h]
  split
  · rfl
  · next m hm =>
    rw [Message.decode_take, hd] at hm
    cases hm

theorem receive_of_decode (h : ¬ g.stopped) {datagram : Octets} {m : Message}
    (hd : Message.decode datagram = .ok m) (now : Instant) :
    g.receive datagram now = ((g.handle m now).1, some (g.handle m now).2.encode) := by
  rw [receive, if_neg h, Message.decode_take.2 hd]

/-- A datagram that asks for nothing changes nothing. -/
theorem receive_of_operation?_eq_none (h : ¬ g.stopped) {datagram : Octets} {now : Instant}
    (ho : (Arrival.datagram datagram now).operation? = none) :
    (g.receive datagram now).1 = g := by
  simp only [Arrival.operation?] at ho
  split at ho
  · next m hm => rw [receive_of_decode h hm, handle_eq, ho]
  · next e hm => rw [receive_of_decode_error h hm]

theorem receive_of_operation?_eq_some (h : ¬ g.stopped) {datagram : Octets} {now : Instant}
    {o : Operation} (ho : (Arrival.datagram datagram now).operation? = some o) :
    (g.receive datagram now).1 = (g.apply o).1 := by
  simp only [Arrival.operation?] at ho
  split at ho
  · next m hm => rw [receive_of_decode h hm, handle_eq, ho]
  · cases ho

/-! ## One call -/

theorem conclude_response (client : Client) (call : Call) (name : ServiceName) (port : Port)
    (status : Status) : client.conclude call (some (Message.response name port status).encode) =
      if status.isSuccess then .ok (if call.yieldsPort then some port else none)
      else .error (.refused call.message.name status) := by
  have hdecode : Message.decode ((Message.response name port status).encode.take receiveLimit) =
      .ok (.response name port status) := Message.decode_take.2 (Message.decode_encode _)
  rw [Client.conclude, Client.response, hdecode]
  rfl

/-- A refusal that is answered is a refusal that is returned. -/
theorem conclude_refusal (client : Client) (call : Call) (name : ServiceName) (port : Port)
    (e : Refusal) : client.conclude call (some (Message.response name port e.status).encode) =
      .error (.refused call.message.name e.status) := by
  rw [conclude_response]
  cases e <;> rfl

theorem operation?_message (call : Call) (now : Instant) :
    call.message.operation? now = some (call.operation now) := by cases call <;> rfl

theorem conclude_reply (client : Client) (call : Call) (g : Registry) (now : Instant) :
    client.conclude call (some (call.message.reply (g.apply (call.operation now)).2).encode) =
      call.result (g.apply (call.operation now)).2 := by
  cases call with
  | request name =>
    rw [Call.operation, apply]
    rcases g.requestPort name now with ⟨g', e | port⟩
    · exact conclude_refusal ..
    · exact conclude_response ..
  | keepAlive name port =>
    rw [Call.operation, apply]
    rcases g.keepAlive name port now with ⟨g', e | _⟩
    · exact conclude_refusal ..
    · exact conclude_response ..
  | close name port =>
    rw [Call.operation, apply]
    rcases g.closePort name port with ⟨g', e | _⟩
    · exact conclude_refusal ..
    · exact conclude_response ..
  | lookup name =>
    rw [Call.operation, apply]
    rcases g.lookupPort name with e | port
    · exact conclude_refusal ..
    · exact conclude_response ..
  | stop => exact conclude_response ..

/-- A call does what its operation does and returns what the operation answers. -/
theorem ask_eq (h : ¬ g.stopped) (client : Client) (call : Call) (now : Instant) :
    client.ask g call now =
      ((g.apply (call.operation now)).1, call.result (g.apply (call.operation now)).2) := by
  rw [Client.ask, receive_of_decode h (Message.decode_encode call.message), handle_eq,
    operation?_message]
  exact Prod.ext rfl (conclude_reply client call g now)

/-! ## Any number of datagrams -/

theorem take_of_stopped (h : g.stopped) (a : Arrival) : g.take a = g := by
  cases a with
  | call client call now => rw [take, Client.ask, receive_of_stopped h]
  | datagram octets now => rw [take, receive_of_stopped h]

theorem takeAll_of_stopped (h : g.stopped) (arrivals : List Arrival) : g.takeAll arrivals = g := by
  induction arrivals with
  | nil => rfl
  | cons a as ih => rw [takeAll, List.foldl_cons, take_of_stopped h, ← takeAll, ih]

theorem take_of_operation?_eq_none (h : ¬ g.stopped) {a : Arrival} (ho : a.operation? = none) :
    g.take a = g := by
  cases a with
  | call client call now => cases ho
  | datagram octets now => exact receive_of_operation?_eq_none h ho

theorem take_of_operation?_eq_some (h : ¬ g.stopped) {a : Arrival} {o : Operation}
    (ho : a.operation? = some o) : g.take a = (g.apply o).1 := by
  cases a with
  | call client call now =>
    cases ho
    rw [take, ask_eq h]
  | datagram octets now => exact receive_of_operation?_eq_some h ho

/-- Only a stop stops the registry. -/
theorem stopped_apply {m : Message} {now : Instant} {o : Operation} (ho : m.operation? now = some o)
    (g : Registry) : (g.apply o).1.stopped = if o = .stop then true else g.stopped := by
  unfold Message.operation? at ho
  split at ho <;> cases ho
  · rw [apply_request_fst, if_neg Operation.noConfusion]
    exact (sameTerms_requestPort g m.name now).stopped_eq
  · rw [apply_keepAlive_fst, if_neg Operation.noConfusion]
    exact (sameTerms_updateHeld (·.touch now) g m.name m.port).stopped_eq
  · rw [apply_close_fst, if_neg Operation.noConfusion]
    exact (sameTerms_updateHeld Reservation.release g m.name m.port).stopped_eq
  · rw [apply_lookup_fst, if_neg Operation.noConfusion]
  · rfl

theorem exists_message_of_operation? {a : Arrival} {o : Operation} (ho : a.operation? = some o) :
    ∃ (m : Message) (now : Instant), m.operation? now = some o := by
  cases a with
  | call client call now => exact ⟨call.message, now, (operation?_message call now).trans ho⟩
  | datagram octets now =>
    simp only [Arrival.operation?] at ho
    split at ho
    · exact ⟨_, now, ho⟩
    · cases ho

/-- Arrivals come to the run of what they ask for up to the first stop, and stop the
    registry if there is one. -/
theorem takeAll_eq_run (h : ¬ g.stopped) (arrivals : List Arrival) :
    g.takeAll arrivals = (g.run (requests arrivals)).1 ∧
      ((g.takeAll arrivals).stopped ↔ .stop ∈ requests arrivals) := by
  induction arrivals generalizing g with
  | nil => exact ⟨rfl, by simpa [takeAll, requests] using h⟩
  | cons a as ih =>
    rw [takeAll, List.foldl_cons, ← takeAll]
    cases ho : a.operation? with
    | none =>
      simp only [requests, ho]
      rw [take_of_operation?_eq_none h ho]
      exact ih h
    | some o =>
      rw [take_of_operation?_eq_some h ho]
      obtain ⟨m, now, hm⟩ := exists_message_of_operation? ho
      have hstopped := stopped_apply hm g
      by_cases hstop : o = .stop
      · rw [if_pos hstop] at hstopped
        simp only [requests, ho, if_pos hstop]
        rw [takeAll_of_stopped hstopped, hstopped, hstop]
        exact ⟨rfl, by simp⟩
      · rw [if_neg hstop] at hstopped
        simp only [requests, ho, if_neg hstop]
        obtain ⟨hrun, hiff⟩ := ih (g := (g.apply o).1) (by rwa [hstopped])
        exact ⟨hrun, by rw [hiff, List.mem_cons, or_iff_right (Ne.symm hstop)]⟩

/-- Whatever has arrived, the registry is what the operations asked for up to the first
    stop have made of it. Before a stop, a call returns what its operation answers here and
    now, a datagram that asks for an operation gets the response to it, one that is a
    response is an invalid argument, and one that is no message goes unanswered. After a
    stop nothing is answered and nothing changes. -/
theorem exchange_eq_direct (range : PortRange) (timeout : Span) (arrivals : List Arrival) :
    let g := (new range timeout).takeAll arrivals
    g = ((new range timeout).run (requests arrivals)).1 ∧
    (.stop ∉ requests arrivals → ∀ now,
      (∀ client call, Client.ask client g call now =
        ((g.apply (call.operation now)).1, call.result (g.apply (call.operation now)).2)) ∧
      (∀ datagram m o, Message.decode datagram = .ok m → m.operation? now = some o →
        g.receive datagram now = ((g.apply o).1, some (m.reply (g.apply o).2).encode)) ∧
      (∀ datagram m, Message.decode datagram = .ok m → m.kind = .response →
        g.receive datagram now = (g, some (Message.response m.name m.port .invalidArg).encode)) ∧
      (∀ datagram e, Message.decode datagram = .error e → g.receive datagram now = (g, none)) ∧
      (∀ datagram, datagram.length ≠ 54 → g.receive datagram now = (g, none))) ∧
    (.stop ∈ requests arrivals →
      (∀ datagram now, g.receive datagram now = (g, none)) ∧ ∀ more, g.takeAll more = g) := by
  intro g
  have hnew : ¬ (new range timeout).stopped := Bool.false_ne_true
  obtain ⟨hrun, hiff⟩ := takeAll_eq_run hnew arrivals
  refine ⟨hrun, fun hno now => ?_, fun hstop => ?_⟩
  · have h : ¬ g.stopped := fun hstopped => hno (hiff.1 hstopped)
    refine ⟨fun client call => ask_eq h client call now, fun datagram m o hm ho => ?_,
      fun datagram m hm hkind => ?_, fun datagram e he => receive_of_decode_error h he now,
      fun datagram hlen => ?_⟩
    · rw [receive_of_decode h hm, handle_eq, ho]
    · rw [receive_of_decode h hm, handle_eq, Message.operation?_eq_none_iff.2 hkind]
    · cases hd : Message.decode datagram with
      | ok m => exact absurd (Message.length_of_decode hd) hlen
      | error e => exact receive_of_decode_error h hd now
  · have h : g.stopped := hiff.2 hstop
    exact ⟨receive_of_stopped h, takeAll_of_stopped h⟩

end Registry

end Harbor.Lease
