import Harbor.Lease.Traffic
import Harbor.Proofs.Lease.Exchange
import Harbor.Proofs.Lease.History

/-!
# Advertisers do not disturb each other

A request that its sender has given up may still reach the registry, and what an advertiser
believes may have lapsed, so that its stage says little about the registry by itself. What
ties the two together is `Traffic.Sound`: every letter on its way belongs to the stage of
its sender (`Letter.Belongs`), so that an advertiser that has a port never asks for one
again, and an answer that gives a port back is true from the moment it sets out.

A port that an advertiser was granted and does not hold is `Traffic.Lost` to it. It stays
so, since only a request for a port under its name could bring it back.

Main results:

* `Sound.step`, `Sound.run`: every step keeps what ties advertisers and registry together.
* `Sound.lost_run`, `Sound.conclude_of_lost`: a port that is lost stays lost, and every new
  answer says so.
* `Sound.mem_leases_step`: only a request for a port changes a lease of another service.
* `advertisers_undisturbed`: these three for all advertisers and all their runs.
-/

namespace Harbor.Lease

open Registry (Operation Outcome Deed)

/-! ## One call -/

namespace Registry

variable {g : Registry} {call : Call} {name : ServiceName} {port : Port} {now : Instant}

theorem leasedTo_iff (hg : g.WellFormed) :
    g.LeasedTo port name ↔ ∃ alive, g.lease? port = some ⟨name, alive⟩ :=
  exists_congr fun _ => mem_leases_iff hg

/-- A port has one holder at most. -/
theorem LeasedTo.name_eq (hg : g.WellFormed) {other : ServiceName} (h : g.LeasedTo port name)
    (h' : g.LeasedTo port other) : other = name := by
  rw [leasedTo_iff hg] at h h'
  obtain ⟨alive, h⟩ := h
  obtain ⟨alive', h'⟩ := h'
  obtain ⟨⟩ := h.symm.trans h'
  rfl

/-- A call on the registry is answered by what its operation comes to. -/
theorem receive_call (h : ¬ g.stopped) (call : Call) (now : Instant) :
    ∃ answer, g.receive call.message.encode now =
        ((g.apply (call.operation now)).1, some answer) ∧
      ∀ client : Client, client.conclude call (some answer) =
        call.result (g.apply (call.operation now)).2 := by
  refine ⟨(call.message.reply (g.apply (call.operation now)).2).encode, ?_, fun client =>
    conclude_reply client call g now⟩
  rw [receive_of_decode h (Message.decode_encode call.message), handle_eq, operation?_message]

theorem stopped_apply_call (hcall : call ≠ .stop) :
    (g.apply (call.operation now)).1.stopped = g.stopped := by
  have hstopped := stopped_apply (operation?_message call now) g
  rwa [if_neg] at hstopped
  intro h
  cases call <;> first | exact hcall rfl | cases h

/-- Only a request grants a port, and to the service that makes it. -/
theorem LeasedTo.of_apply (hg : g.WellFormed)
    (h : (g.apply (call.operation now)).1.LeasedTo port name) :
    g.LeasedTo port name ∨ call = .request name := by
  have htakes := Deed.takes_apply hg (call.operation now)
  rw [leasedTo_iff htakes.wellFormed] at h
  obtain ⟨alive, h⟩ := h
  rcases htakes.lease?_iff.1 h with hgrant | ⟨earlier, hearlier, -⟩
  · right
    cases call with
    | request other =>
      generalize (g.apply _).2 = outcome at hgrant
      cases outcome <;> cases hgrant
      rfl
    | _ =>
      generalize (g.apply _).2 = outcome at hgrant
      cases outcome <;> cases hgrant
  · exact .inl ((leasedTo_iff hg).2 ⟨earlier, hearlier⟩)

/-- What a service does to its lease is no deed on the leases of others. -/
theorem deed_of_ne (hcall : ∀ name, call ≠ .request name) (hne : name ≠ call.message.name)
    (port : Port) (now : Instant) (outcome : Outcome) :
    (Deed.of (call.operation now) outcome).sweptAt? = none ∧
      (Deed.of (call.operation now) outcome).refreshedAt? name port = none ∧
      Deed.of (call.operation now) outcome ≠ .close name port := by
  cases call with
  | request other => exact absurd rfl (hcall other)
  | keepAlive other port' =>
    have hne' : ¬ other = name := fun h => hne h.symm
    cases outcome <;> simp [Deed.of, Call.operation, Deed.sweptAt?, Deed.refreshedAt?, hne']
  | close other port' =>
    have hne' : ¬ other = name := fun h => hne h.symm
    cases outcome <;> simp [Deed.of, Call.operation, Deed.sweptAt?, Deed.refreshedAt?, hne']
  | lookup other => exact ⟨rfl, rfl, Deed.noConfusion⟩
  | stop => exact ⟨rfl, rfl, Deed.noConfusion⟩

theorem lease?_apply_of_ne (hg : g.WellFormed) (hcall : ∀ name, call ≠ .request name)
    {lease : Lease} (hne : lease.name ≠ call.message.name) :
    (g.apply (call.operation now)).1.lease? port = some lease ↔ g.lease? port = some lease := by
  obtain ⟨other, alive⟩ := lease
  obtain ⟨hswept, hrefreshed, hclose⟩ :=
    deed_of_ne hcall hne port now (g.apply (call.operation now)).2
  rw [(Deed.takes_apply hg (call.operation now)).lease?_iff]
  constructor
  · rintro (hgrant | ⟨earlier, hlease, -, halive⟩)
    · rw [hgrant] at hswept
      cases hswept
    · rw [hrefreshed] at halive
      cases halive
      exact hlease
  · intro hlease
    refine .inr ⟨alive, hlease, ⟨hclose, fun t ht => ?_⟩, by rw [hrefreshed]; rfl⟩
    rw [hswept] at ht
    cases ht

/-- A service that does not hold the port can neither refresh nor close its lease: it is told
    so, and the registry stays as it is. -/
theorem apply_of_not_leasedTo (hg : g.WellFormed) (h : ¬ g.LeasedTo port name)
    (hcall : call = .keepAlive name port ∨ call = .close name port) (now : Instant) :
    (g.apply (call.operation now)).1 = g ∧
      call.result (g.apply (call.operation now)).2 = .error (.refused name .serviceNotFound) := by
  rw [leasedTo_iff hg, not_exists] at h
  rcases hcall with rfl | rfl
  · rw [Call.operation, apply, keepAlive, updateHeld_of_not_held _ hg h]
    exact ⟨rfl, rfl⟩
  · rw [Call.operation, apply, closePort, updateHeld_of_not_held _ hg h]
    exact ⟨rfl, rfl⟩

/-- A close that succeeds leaves the port to nobody. -/
theorem not_leasedTo_of_close (hg : g.WellFormed) {result : Option Port}
    (h : Call.result (.close name port) (g.apply (.close name port)).2 = .ok result) :
    ¬ (g.apply (.close name port)).1.LeasedTo port name := by
  have htakes := Deed.takes_close hg name port
  rw [leasedTo_iff htakes.wellFormed, not_exists]
  intro alive hlease
  have hgone := htakes.lease?_eq port
  rw [hlease] at hgone
  rw [apply] at h hgone
  generalize g.closePort name port = closed at h hgone
  rcases closed with ⟨g', e | _⟩
  · cases h
  · simp [Deed.of, Deed.leaseAfter?] at hgone

end Registry

/-! ## Datagrams on their way -/

/-- The request of a letter is one that the advertiser has made: it has asked for a port and
    has not got one, or it keeps alive or gives back the port that it has got. -/
inductive Letter.Belongs : Stage → Letter → Prop
  | registering (exchange : Nat) (name : ServiceName) :
      Belongs (.registering exchange) ⟨exchange, name, .request name⟩
  | failed (result : Except Client.Error (Option Port)) (exchange : Nat) (name : ServiceName) :
      Belongs (.failed result) ⟨exchange, name, .request name⟩
  | keepAlive {stage : Stage} {port : Port} (exchange : Nat) (name : ServiceName) :
      stage.port? = some port → Belongs stage ⟨exchange, name, .keepAlive name port⟩
  | close {stage : Stage} {port : Port} (exchange : Nat) (name : ServiceName) :
      stage.port? = some port → Belongs stage ⟨exchange, name, .close name port⟩

namespace Letter.Belongs

variable {stage stage' : Stage} {l : Letter} {name : ServiceName} {port : Port}

theorem name_eq (h : l.Belongs stage) : l.call.message.name = l.sender := by cases h <;> rfl

theorem ne_stop (h : l.Belongs stage) : l.call ≠ .stop := by cases h <;> exact Call.noConfusion

/-- Only an advertiser without a port asks for one. -/
theorem port?_eq_none (h : l.Belongs stage) (hcall : l.call = .request name) :
    stage.port? = none ∧ l.sender = name := by
  cases h <;> cases hcall <;> exact ⟨rfl, rfl⟩

/-- An advertiser that has a port keeps it alive or gives it back. -/
theorem call_eq (h : l.Belongs stage) (hport : stage.port? = some port) :
    l.call = .keepAlive l.sender port ∨ l.call = .close l.sender port := by
  cases h with
  | registering | failed => cases hport
  | keepAlive _ _ hport' =>
    obtain ⟨⟩ := hport.symm.trans hport'
    exact .inl rfl
  | close _ _ hport' =>
    obtain ⟨⟩ := hport.symm.trans hport'
    exact .inr rfl

theorem port?_eq_some (h : l.Belongs stage)
    (hcall : l.call = .keepAlive l.sender port ∨ l.call = .close l.sender port) :
    stage.port? = some port := by
  cases h with
  | registering | failed => rcases hcall with hcall | hcall <;> cases hcall
  | keepAlive _ _ hport | close _ _ hport =>
    rcases hcall with hcall | hcall <;> cases hcall
    exact hport

/-- Letters go on to belong to an advertiser that keeps its port. -/
theorem of_port?_eq (h : l.Belongs stage) (hport : stage.port? = some port)
    (hport' : stage'.port? = some port) : l.Belongs stage' := by
  cases h with
  | registering | failed => cases hport
  | keepAlive _ _ heq => exact .keepAlive _ _ (by rw [hport', ← hport, heq])
  | close _ _ heq => exact .close _ _ (by rw [hport', ← hport, heq])

end Letter.Belongs

namespace Stage

variable {stage stage' : Stage} {name : ServiceName} {port : Port} {exchange : Nat} {call : Call}
  {l : Letter} {result : Except Client.Error (Option Port)}

theorem Calls.belongs (h : stage.Calls name exchange call stage') :
    Letter.Belongs stage' ⟨exchange, name, call⟩ := by
  cases h with
  | request => exact .registering _ _
  | keepAlive port stopping => exact .keepAlive _ _ rfl
  | close port => exact .close _ _ rfl

/-- A call leaves the letters of the advertiser what they are. -/
theorem Calls.belongs_of_belongs (h : stage.Calls name exchange call stage')
    (hl : l.Belongs stage) : l.Belongs stage' := by
  cases h with
  | request => cases hl <;> contradiction
  | keepAlive port stopping => exact hl.of_port?_eq rfl rfl
  | close port => exact hl.of_port?_eq rfl rfl

theorem Calls.port?_eq (h : stage.Calls name exchange call stage')
    (hport : stage.port? = some port) : stage'.port? = some port := by
  cases h <;> exact hport

theorem Calls.ne_withdrawn (h : stage.Calls name exchange call stage') :
    stage' ≠ .withdrawn port result := by
  cases h <;> exact Stage.noConfusion

/-- An advertiser is withdrawn when its close has come to something. -/
theorem settle_eq_withdrawn {result' : Except Client.Error (Option Port)}
    (hawaited : stage.awaited? name = some l) (h : stage.settle result = .withdrawn port result') :
    result = result' ∧ l.call = .close name port := by
  cases stage with
  | registering => rcases result with e | _ | port <;> cases h
  | closing port' exchange =>
    cases hawaited
    cases h
    exact ⟨rfl, rfl⟩
  | advertising => cases h
  | idle | failed | withdrawn => cases hawaited

theorem belongs_of_awaited? (h : stage.awaited? name = some l) : l.Belongs stage := by
  cases stage with
  | registering => cases h; exact .registering _ _
  | advertising port exchange? =>
    rcases exchange? with _ | exchange <;> cases h
    exact .keepAlive _ _ rfl
  | closing => cases h; exact .close _ _ rfl
  | idle | failed | withdrawn => cases h

theorem port?_settle (h : stage.port? = some port) : (stage.settle result).port? = some port := by
  cases stage <;> first | exact h | cases h

/-- What an exchange comes to leaves the other letters of the advertiser what they are. -/
theorem belongs_settle (hl : l.Belongs stage)
    (h : ∀ port, result = .ok (some port) → stage.awaited? l.sender ≠ some l) :
    l.Belongs (stage.settle result) := by
  cases hl with
  | registering exchange name =>
    rcases result with e | _ | port
    · exact .failed _ _ _
    · exact .failed _ _ _
    · exact absurd rfl (h port rfl)
  | failed => exact .failed _ _ _
  | keepAlive exchange name hport => exact .keepAlive _ _ (port?_settle hport)
  | close exchange name hport => exact .close _ _ (port?_settle hport)

end Stage

/-- The letters of some advertisers: each belongs to its sender, and no two are of the same
    exchange. -/
structure Orderly (stages : ServiceName → Stage) (next : Nat) (letters : List Letter) : Prop where
  nodup : letters.Nodup
  fresh : ∀ l ∈ letters, l.exchange < next
  belongs : ∀ l ∈ letters, l.Belongs (stages l.sender)

namespace Orderly

variable {stages : ServiceName → Stage} {next : Nat} {l : Letter} {letters letters' : List Letter}

theorem perm (h : Orderly stages next letters) (hperm : letters.Perm letters') :
    Orderly stages next letters' :=
  ⟨hperm.nodup_iff.1 h.nodup, fun l hl => h.fresh l (hperm.mem_iff.2 hl),
    fun l hl => h.belongs l (hperm.mem_iff.2 hl)⟩

theorem of_cons (h : Orderly stages next (l :: letters)) : Orderly stages next letters :=
  ⟨(List.nodup_cons.1 h.nodup).2, fun l hl => h.fresh l (List.mem_cons_of_mem _ hl),
    fun l hl => h.belongs l (List.mem_cons_of_mem _ hl)⟩

end Orderly

namespace Traffic

section

variable {t : Traffic} {l : Letter} {answer : Octets} {name other : ServiceName} {stage : Stage}

/-- The letters whose requests or answers are on their way. -/
def letters (t : Traffic) : List Letter := t.requests ++ t.answers.map Prod.fst

@[simp] theorem stages_turnTo_self (t : Traffic) (name : ServiceName) (stage : Stage) :
    (t.turnTo name stage).stages name = stage := if_pos rfl

theorem stages_turnTo_of_ne (t : Traffic) (stage : Stage) (h : other ≠ name) :
    (t.turnTo name stage).stages other = t.stages other := if_neg h

theorem letters_of_request (h : l ∈ t.requests) :
    t.letters.Perm (l :: letters { t with requests := t.requests.erase l }) :=
  (List.perm_cons_erase h).append_right _

theorem letters_of_answer (h : (l, answer) ∈ t.answers) :
    t.letters.Perm (l :: letters { t with answers := t.answers.erase (l, answer) }) := by
  have hanswers := (List.perm_cons_erase h).map Prod.fst
  exact (hanswers.append_left t.requests).trans List.perm_middle

end

end Traffic

namespace Orderly

variable {t t' : Traffic} {name : ServiceName} {stage : Stage} {letters : List Letter}

/-- An advertiser goes over to a stage to which all its letters belong. -/
theorem turnTo (h : Orderly t.stages t.next letters)
    (hl : ∀ l ∈ letters, l.sender = name → l.Belongs stage) :
    Orderly (t.turnTo name stage).stages t.next letters := by
  refine ⟨h.nodup, h.fresh, fun l hmem => ?_⟩
  by_cases hname : l.sender = name
  · rw [hname, Traffic.stages_turnTo_self]
    exact hl l hmem hname
  · rw [Traffic.stages_turnTo_of_ne t stage hname]
    exact h.belongs l hmem

/-- An advertiser makes a call. -/
theorem send (h : Orderly t.stages t.next t.letters) {call : Call}
    (hcalls : (t.stages name).Calls name t.next call stage) :
    Orderly (t.send name call stage).stages (t.send name call stage).next
      (t.send name call stage).letters := by
  have hkept : Orderly (t.turnTo name stage).stages t.next t.letters :=
    h.turnTo fun l hl hname => hcalls.belongs_of_belongs (hname ▸ h.belongs l hl)
  refine ⟨List.nodup_cons.2 ⟨fun hmem => ?_, h.nodup⟩, fun l hl => ?_, fun l hl => ?_⟩
  · exact absurd (h.fresh _ hmem) (Nat.lt_irrefl _)
  · rcases List.mem_cons.1 hl with rfl | hold
    · exact Nat.lt_succ_self _
    · exact Nat.lt_succ_of_lt (h.fresh l hold)
  · rcases List.mem_cons.1 hl with rfl | hold
    · show Letter.Belongs ((t.turnTo name stage).stages name) _
      rw [Traffic.stages_turnTo_self]
      exact hcalls.belongs
    · exact hkept.belongs l hold

/-- An exchange comes to something, and its letter is no longer on its way if it has got the
    advertiser a port. -/
theorem settle {l : Letter} {result : Except Client.Error (Option Port)}
    (h : Orderly t.stages t.next letters) (hl : l ∉ letters ∨ ∃ e, result = .error e)
    (hawaited : (t.stages l.sender).awaited? l.sender = some l) :
    Orderly (t.turnTo l.sender ((t.stages l.sender).settle result)).stages t.next letters := by
  refine h.turnTo fun l' hl' hname => Stage.belongs_settle (hname ▸ h.belongs l' hl') ?_
  rintro port rfl hsome
  rw [hname, hawaited] at hsome
  obtain rfl := Option.some.inj hsome
  rcases hl with hnot | ⟨e, he⟩
  · exact hnot hl'
  · cases he

end Orderly

namespace Traffic

variable {clients : ServiceName → Client} {t t' : Traffic} {e : Event} {l : Letter}
  {name : ServiceName} {port : Port} {now : Instant}

/-- What holds whatever has happened. An advertiser that was told that its port is given
    back, or will be told so, does not hold it. -/
structure Sound (clients : ServiceName → Client) (t : Traffic) : Prop where
  wellFormed : t.registry.WellFormed
  running : ¬ t.registry.stopped
  orderly : Orderly t.stages t.next t.letters
  closed : ∀ l answer port result, (l, answer) ∈ t.answers → l.call = .close l.sender port →
    Traffic.result clients l (some answer) = .ok result → ¬ t.registry.LeasedTo port l.sender
  withdrawn : ∀ name port result, t.stages name = .withdrawn port (.ok result) →
    ¬ t.registry.LeasedTo port name

/-- The registry takes a request: its operation is run, and an answer is on its way. -/
theorem Sound.handle_eq (h : Sound clients t) (l : Letter) (now : Instant) :
    ∃ answer, (t.registry.receive l.call.message.encode now).2 = some answer ∧
      t.handle l now =
        { t with registry := (t.registry.apply (l.call.operation now)).1,
                 requests := t.requests.erase l, answers := (l, answer) :: t.answers } := by
  obtain ⟨answer, hreceive, -⟩ := Registry.receive_call h.running l.call now
  refine ⟨answer, by rw [hreceive], ?_⟩
  rw [Traffic.handle, hreceive]
  rfl

/-- The answer says what the operation has come to. -/
theorem Sound.result_of_receive (h : Sound clients t) {answer : Octets}
    (hanswer : (t.registry.receive l.call.message.encode now).2 = some answer) :
    Traffic.result clients l (some answer) =
      l.call.result (t.registry.apply (l.call.operation now)).2 := by
  obtain ⟨answer', hreceive, hresult⟩ := Registry.receive_call h.running l.call now
  rw [hreceive] at hanswer
  cases hanswer
  exact hresult _

theorem Sound.belongs_of_request (h : Sound clients t) (hl : l ∈ t.requests) :
    l.Belongs (t.stages l.sender) := h.orderly.belongs l (List.mem_append_left _ hl)

theorem Sound.belongs_of_answer (h : Sound clients t) {answer : Octets}
    (hl : (l, answer) ∈ t.answers) : l.Belongs (t.stages l.sender) :=
  h.orderly.belongs l (List.mem_append_right _ (List.mem_map_of_mem hl))

/-! ## A port that is not held -/

/-- The advertiser of a service has got the port, and does not hold it any more. -/
def Lost (t : Traffic) (name : ServiceName) (port : Port) : Prop :=
  (t.stages name).port? = some port ∧ ¬ t.registry.LeasedTo port name

/-- What a step does to the advertiser of a service: it makes a call, its exchange comes to
    something, or it is told to stop. -/
theorem stages_step (hstep : Step clients t e t') (name : ServiceName) :
    t'.stages name = t.stages name ∨
    (∃ call, (t.stages name).Calls name t.next call (t'.stages name)) ∨
    (∃ l answer?, l.sender = name ∧ (t.stages name).awaited? name = some l ∧
      (∀ answer, answer? = some answer → (l, answer) ∈ t.answers) ∧
      t'.stages name = (t.stages name).settle (Traffic.result clients l answer?)) ∨
    ∃ port exchange?, t.stages name = .advertising port exchange? false ∧
      t'.stages name = .advertising port exchange? true := by
  have hturn : ∀ (other : ServiceName) (stage : Stage),
      (t.turnTo other stage).stages name = t.stages name ∨
        name = other ∧ (t.turnTo other stage).stages name = stage := by
    intro other stage
    by_cases hname : name = other
    · subst hname
      exact .inr ⟨rfl, stages_turnTo_self t name stage⟩
    · exact .inl (stages_turnTo_of_ne t stage hname)
  cases hstep with
  | handle | loseRequest | loseAnswer => exact .inl rfl
  | @send other call stage hcalls =>
    rcases hturn other stage with heq | ⟨rfl, heq⟩
    · exact .inl heq
    · exact .inr (.inl ⟨call, heq.symm ▸ hcalls⟩)
  | @conclude l answer hawaited hanswer =>
    rcases hturn l.sender _ with heq | ⟨rfl, heq⟩
    · exact .inl heq
    · refine .inr (.inr (.inl ⟨l, some answer, rfl, hawaited, ?_, heq⟩))
      rintro _ ⟨⟩
      exact hanswer
  | @giveUp l hawaited =>
    rcases hturn l.sender _ with heq | ⟨rfl, heq⟩
    · exact .inl heq
    · exact .inr (.inr (.inl ⟨l, none, rfl, hawaited, nofun, heq⟩))
  | @stop other port exchange? hstage =>
    rcases hturn other _ with heq | ⟨rfl, heq⟩
    · exact .inl heq
    · exact .inr (.inr (.inr ⟨port, exchange?, hstage, heq⟩))

theorem port?_step (hstep : Step clients t e t') (hport : (t.stages name).port? = some port) :
    (t'.stages name).port? = some port := by
  rcases stages_step hstep name with
    heq | ⟨_, hcalls⟩ | ⟨_, _, -, -, -, heq⟩ | ⟨_, _, hbefore, hafter⟩
  · rwa [heq]
  · exact hcalls.port?_eq hport
  · rw [heq]
    exact Stage.port?_settle hport
  · rw [hbefore] at hport
    rw [hafter]
    exact hport

/-- The registry changes only when it takes a request. -/
theorem registry_step (hstep : Step clients t e t') :
    t'.registry = t.registry ∨
      ∃ l now, e = .handle l now ∧ l ∈ t.requests ∧ t' = t.handle l now := by
  cases hstep with
  | handle now hl => exact .inr ⟨_, now, rfl, hl, rfl⟩
  | _ => exact .inl rfl

theorem Sound.lost_step (h : Sound clients t) (hstep : Step clients t e t')
    (hlost : t.Lost name port) : t'.Lost name port := by
  refine ⟨port?_step hstep hlost.1, ?_⟩
  rcases registry_step hstep with heq | ⟨l, now, -, hl, rfl⟩
  · rw [heq]
    exact hlost.2
  · obtain ⟨answer, -, heq⟩ := h.handle_eq l now
    rw [heq]
    intro hleased
    rcases hleased.of_apply h.wellFormed with hbefore | hrequest
    · exact hlost.2 hbefore
    -- an advertiser that has a port does not ask for one
    · obtain ⟨hnone, rfl⟩ := (h.belongs_of_request hl).port?_eq_none hrequest
      rw [hlost.1] at hnone
      cases hnone

/-! ## Every step keeps what holds -/

theorem sound_new (range : PortRange) (timeout : Span) : Sound clients (new range timeout) where
  wellFormed := Registry.wellFormed_new range timeout
  running := Bool.false_ne_true
  orderly := ⟨List.nodup_nil, nofun, nofun⟩
  closed := nofun
  withdrawn := nofun

/-- An answer on its way was so before, or the registry has just given it. -/
theorem answers_step (hstep : Step clients t e t') {answer : Octets}
    (hanswer : (l, answer) ∈ t'.answers) : (l, answer) ∈ t.answers ∨
      ∃ now, l ∈ t.requests ∧ t' = t.handle l now ∧
        (t.registry.receive l.call.message.encode now).2 = some answer := by
  cases hstep with
  | @handle l' now hl =>
    simp only [Traffic.handle, List.mem_append, Option.mem_toList, Option.map_eq_some_iff,
      Prod.mk.injEq] at hanswer
    rcases hanswer with ⟨_, hreceive, rfl, rfl⟩ | hold
    · exact .inr ⟨now, hl, rfl, hreceive⟩
    · exact .inl hold
  | loseAnswer | conclude => exact .inl (List.mem_of_mem_erase hanswer)
  | send | loseRequest | giveUp | stop => exact .inl hanswer

theorem Sound.orderly_step (h : Sound clients t) (hstep : Step clients t e t') :
    Orderly t'.stages t'.next t'.letters := by
  cases hstep with
  | send hcalls => exact h.orderly.send hcalls
  | handle now hl =>
    obtain ⟨answer, -, heq⟩ := h.handle_eq _ now
    rw [heq]
    exact h.orderly.perm ((letters_of_request hl).trans List.perm_middle.symm)
  | loseRequest hl => exact (h.orderly.perm (letters_of_request hl)).of_cons
  | loseAnswer hl => exact (h.orderly.perm (letters_of_answer hl)).of_cons
  | conclude hawaited hl =>
    have horderly := h.orderly.perm (letters_of_answer hl)
    exact horderly.of_cons.settle (.inl (List.nodup_cons.1 horderly.nodup).1) hawaited
  | giveUp hawaited => exact h.orderly.settle (.inr ⟨_, rfl⟩) hawaited
  | @stop name port exchange? hstage =>
    refine h.orderly.turnTo fun l hl hname => ?_
    have hl := h.orderly.belongs l hl
    rw [hname, hstage] at hl
    exact hl.of_port?_eq rfl rfl

theorem Sound.closed_step (h : Sound clients t) (hstep : Step clients t e t') {answer : Octets}
    {result : Option Port} (hanswer : (l, answer) ∈ t'.answers)
    (hcall : l.call = .close l.sender port)
    (hresult : Traffic.result clients l (some answer) = .ok result) :
    ¬ t'.registry.LeasedTo port l.sender := by
  rcases answers_step hstep hanswer with hold | ⟨now, hl, rfl, hreceive⟩
  · have hport := (h.belongs_of_answer hold).port?_eq_some (.inr hcall)
    exact (h.lost_step hstep ⟨hport, h.closed l answer port result hold hcall hresult⟩).2
  · obtain ⟨_, -, heq⟩ := h.handle_eq l now
    rw [h.result_of_receive hreceive, hcall] at hresult
    rw [heq, hcall]
    exact Registry.not_leasedTo_of_close h.wellFormed hresult

theorem Sound.withdrawn_step (h : Sound clients t) (hstep : Step clients t e t')
    {result : Option Port} (hstage : t'.stages name = .withdrawn port (.ok result)) :
    ¬ t'.registry.LeasedTo port name := by
  rcases stages_step hstep name with
    heq | ⟨_, hcalls⟩ | ⟨l, answer?, rfl, hawaited, hanswer, heq⟩ | ⟨_, _, -, hafter⟩
  · rw [heq] at hstage
    have hport : (t.stages name).port? = some port := by rw [hstage]; rfl
    exact (h.lost_step hstep ⟨hport, h.withdrawn name port result hstage⟩).2
  · exact absurd hstage hcalls.ne_withdrawn
  -- its close has come to something now, and an answer says that its port is given back
  · rw [heq] at hstage
    obtain ⟨hresult, hcall⟩ := Stage.settle_eq_withdrawn hawaited hstage
    have hport := (Stage.belongs_of_awaited? hawaited).port?_eq_some (.inr hcall)
    cases answer? with
    | none => cases hresult
    | some answer =>
      have hclosed := h.closed l answer port result (hanswer answer rfl) hcall hresult
      exact (h.lost_step hstep ⟨hport, hclosed⟩).2
  · rw [hafter] at hstage
    cases hstage

theorem Sound.step (h : Sound clients t) (hstep : Step clients t e t') : Sound clients t' where
  wellFormed := by
    rcases registry_step hstep with heq | ⟨l, now, -, -, rfl⟩
    · rw [heq]
      exact h.wellFormed
    · obtain ⟨_, -, heq⟩ := h.handle_eq l now
      rw [heq]
      exact (Deed.takes_apply h.wellFormed (l.call.operation now)).wellFormed
  running := by
    rcases registry_step hstep with heq | ⟨l, now, -, hl, rfl⟩
    · rw [heq]
      exact h.running
    · obtain ⟨_, -, heq⟩ := h.handle_eq l now
      rw [heq, Registry.stopped_apply_call (h.belongs_of_request hl).ne_stop]
      exact h.running
  orderly := h.orderly_step hstep
  closed := fun _ _ _ _ => h.closed_step hstep
  withdrawn := fun _ _ _ => h.withdrawn_step hstep

theorem Sound.run {es : List Event} (h : Sound clients t) (hrun : Run clients t es t') :
    Sound clients t' := by
  induction hrun with
  | start => exact h
  | step _ hstep ih => exact ih.step hstep

/-! ## What an advertiser without its port comes to -/

/-- A port that is lost stays lost. -/
theorem Sound.lost_run {es : List Event} (h : Sound clients t) (hlost : t.Lost name port)
    (hrun : Run clients t es t') : t'.Lost name port := by
  induction hrun with
  | start => exact hlost
  | step hrun hstep ih => exact (h.run hrun).lost_step hstep ih

/-- The registry answers an advertiser that has lost its port that it does not know it, and
    stays as it is. -/
theorem Sound.handle_of_lost (h : Sound clients t) (hlost : t.Lost l.sender port)
    (hl : l ∈ t.requests) (now : Instant) :
    ∃ answer, (t.registry.receive l.call.message.encode now).2 = some answer ∧
      t.handle l now =
        { t with requests := t.requests.erase l, answers := (l, answer) :: t.answers } ∧
      Traffic.result clients l (some answer) = .error (.refused l.sender .serviceNotFound) := by
  obtain ⟨answer, hreceive, heq⟩ := h.handle_eq l now
  obtain ⟨hsame, hresult⟩ := Registry.apply_of_not_leasedTo h.wellFormed hlost.2
    ((h.belongs_of_request hl).call_eq hlost.1) now
  exact ⟨answer, hreceive, by rw [heq, hsame], by rw [h.result_of_receive hreceive, hresult]⟩

/-- Every answer that is on its way to it was so before the port was lost, or says so. -/
theorem Sound.answers_of_lost {es : List Event} (h : Sound clients t)
    (hlost : t.Lost l.sender port) (hrun : Run clients t es t') {answer : Octets}
    (hanswer : (l, answer) ∈ t'.answers) : (l, answer) ∈ t.answers ∨
      Traffic.result clients l (some answer) = .error (.refused l.sender .serviceNotFound) := by
  induction hrun with
  | start => exact .inl hanswer
  | step hrun hstep ih =>
    rcases answers_step hstep hanswer with hold | ⟨now, hl, -, hreceive⟩
    · exact ih hold
    · obtain ⟨_, hreceive', -, hresult⟩ :=
        (h.run hrun).handle_of_lost (h.lost_run hlost hrun) hl now
      rw [hreceive] at hreceive'
      cases hreceive'
      exact .inr hresult

theorem Sound.conclude_of_lost {es : List Event} (h : Sound clients t)
    (hlost : t.Lost l.sender port) (hrun : Run clients t es t') {answer : Octets}
    {result : Except Client.Error (Option Port)} (hnew : (l, answer) ∉ t.answers)
    (hmem : .conclude l (some answer) result ∈ es) :
    result = .error (.refused l.sender .serviceNotFound) := by
  induction hrun with
  | start => cases hmem
  | step hrun hstep ih =>
    rcases List.mem_append.1 hmem with hbefore | hlast
    · exact ih hbefore
    · cases List.mem_singleton.1 hlast
      cases hstep with
      | conclude _ hanswer => exact (h.answers_of_lost hlost hrun hanswer).resolve_left hnew

/-! ## An advertiser that is withdrawn -/

theorem withdrawn_step {result : Except Client.Error (Option Port)}
    (hstage : t.stages name = .withdrawn port result) (hstep : Step clients t e t') :
    t'.stages name = .withdrawn port result ∧ ∀ l, e = .send l → l.sender ≠ name := by
  constructor
  · rcases stages_step hstep name with
      heq | ⟨_, hcalls⟩ | ⟨_, _, -, hawaited, -⟩ | ⟨_, _, hbefore, -⟩
    · rw [heq, hstage]
    · rw [hstage] at hcalls
      cases hcalls
    · rw [hstage] at hawaited
      cases hawaited
    · rw [hstage] at hbefore
      cases hbefore
  · rintro l rfl rfl
    cases hstep with
    | send hcalls =>
      rw [hstage] at hcalls
      cases hcalls

/-- An advertiser that is withdrawn sends nothing any more. -/
theorem withdrawn_run {es : List Event} {result : Except Client.Error (Option Port)}
    (hstage : t.stages name = .withdrawn port result) (hrun : Run clients t es t') :
    t'.stages name = .withdrawn port result ∧ ∀ l, .send l ∈ es → l.sender ≠ name := by
  induction hrun with
  | start => exact ⟨hstage, nofun⟩
  | step _ hstep ih =>
    obtain ⟨hstage', hsent⟩ := ih
    obtain ⟨hstage'', hsent'⟩ := withdrawn_step hstage' hstep
    refine ⟨hstage'', fun l hl => ?_⟩
    rcases List.mem_append.1 hl with hbefore | hlast
    · exact hsent l hbefore
    · exact hsent' l (List.mem_singleton.1 hlast).symm

/-! ## The leases of others -/

/-- Only a request for a port changes a lease of another service. -/
theorem Sound.mem_leases_step (h : Sound clients t) (hstep : Step clients t e t')
    (hrequest : ∀ l now, e = .handle l now → l.call ≠ .request l.sender) {lease : Lease}
    (hne : lease.name ≠ e.service) :
    (port, lease) ∈ t'.registry.leases ↔ (port, lease) ∈ t.registry.leases := by
  rcases registry_step hstep with heq | ⟨l, now, rfl, hl, rfl⟩
  · rw [heq]
  · obtain ⟨_, -, heq⟩ := h.handle_eq l now
    have hbelongs := h.belongs_of_request hl
    have hcall : ∀ name, l.call ≠ .request name := by
      intro name hname
      obtain ⟨-, rfl⟩ := hbelongs.port?_eq_none hname
      exact hrequest l now rfl hname
    have htakes := Deed.takes_apply h.wellFormed (l.call.operation now)
    rw [heq, Registry.mem_leases_iff htakes.wellFormed, Registry.mem_leases_iff h.wellFormed]
    exact Registry.lease?_apply_of_ne h.wellFormed hcall (hbelongs.name_eq ▸ hne)

/-- Advertisers do not disturb each other, whatever becomes of their datagrams and whatever
    the clock says. A keep-alive or a withdrawal changes no lease of another service. An
    advertiser whose port is leased to another service is told so by every answer that it is
    given from then on, and the registry stays as it is when it answers. An advertiser that
    has withdrawn holds its port no more and sends nothing more. -/
theorem advertisers_undisturbed (clients : ServiceName → Client) (range : PortRange)
    (timeout : Span) {es : List Event} {t : Traffic} (hrun : Run clients (new range timeout) es t) :
    (∀ e t', Step clients t e t' → (∀ l now, e = .handle l now → l.call ≠ .request l.sender) →
      ∀ port lease, lease.name ≠ e.service →
        ((port, lease) ∈ t'.registry.leases ↔ (port, lease) ∈ t.registry.leases)) ∧
    (∀ name other port, (t.stages name).port? = some port → other ≠ name →
      t.registry.LeasedTo port other → ∀ es' t', Run clients t es' t' →
        ¬ t'.registry.LeasedTo port name ∧
        (∀ l ∈ t'.requests, l.sender = name → ∀ now, ∃ answer,
          t'.handle l now =
            { t' with requests := t'.requests.erase l, answers := (l, answer) :: t'.answers } ∧
          result clients l (some answer) = .error (.refused name .serviceNotFound)) ∧
        ∀ l answer result, .conclude l (some answer) result ∈ es' → l.sender = name →
          (l, answer) ∉ t.answers → result = .error (.refused name .serviceNotFound)) ∧
    ∀ name port given, t.stages name = .withdrawn port (.ok given) →
      ∀ es' t', Run clients t es' t' →
        ¬ t'.registry.LeasedTo port name ∧ ∀ l, .send l ∈ es' → l.sender ≠ name := by
  have h : Sound clients t := (sound_new range timeout).run hrun
  refine ⟨fun e t' hstep hrequest port lease hne => h.mem_leases_step hstep hrequest hne,
    fun name other port hport hne hleased es' t' hrun' => ?_,
    fun name port given hstage es' t' hrun' => ?_⟩
  · have hlost : t.Lost name port :=
      ⟨hport, fun hown => hne (hown.name_eq h.wellFormed hleased)⟩
    refine ⟨(h.lost_run hlost hrun').2, ?_, ?_⟩
    · rintro l hl rfl now
      obtain ⟨answer, -, heq, hresult⟩ :=
        (h.run hrun').handle_of_lost (h.lost_run hlost hrun') hl now
      exact ⟨answer, heq, hresult⟩
    · rintro l answer result hmem rfl hnew
      exact h.conclude_of_lost hlost hrun' hnew hmem
  · have hport : (t.stages name).port? = some port := by rw [hstage]; rfl
    exact ⟨(h.lost_run ⟨hport, h.withdrawn name port given hstage⟩ hrun').2,
      (withdrawn_run hstage hrun').2⟩

/-- The port of a service that has been silent for longer than the timeout is granted to
    another, whose answer is still on its way. The first can refresh its lease no more. -/
theorem advertisers_undisturbed_reissued :
    let clients : ServiceName → Client := fun _ => ⟨⟨.v4 127 0 0 1, 9000, 0⟩, 2000000000⟩
    let a : ServiceName := ⟨"a", by decide, by decide, by decide⟩
    let b : ServiceName := ⟨"b", by decide, by decide, by decide⟩
    let granted : Octets := (Message.response a 5000 .success).encode
    let first : Letter := ⟨0, a, .request a⟩
    let second : Letter := ⟨1, b, .request b⟩
    let third : Letter := ⟨2, a, .keepAlive a 5000⟩
    ∃ t, Run clients (new ⟨5000, 5000, by decide, by decide⟩ 10)
      [.send first, .handle first 0, .conclude first (some granted) (.ok (some 5000)),
        .send second, .handle second 20, .send third] t ∧
      t.registry.leases = [(5000, ⟨b, 20⟩)] ∧
      ∃ answer, (t.handle third 21).registry = t.registry ∧
        (t.handle third 21).answers = (third, answer) :: t.answers ∧
        result clients third (some answer) = .error (.refused a .serviceNotFound) := by
  intro clients a b granted first second third
  let t₀ : Traffic := new ⟨5000, 5000, by decide, by decide⟩ 10
  let t₁ := (t₀.send a (.request a) (.registering 0)).handle first 0
  let t₂ : Traffic := { t₁.turnTo a (.advertising 5000 none false) with answers := [] }
  let t₃ := (t₂.send b (.request b) (.registering 1)).handle second 20
  let t₄ := t₃.send a (.keepAlive a 5000) (.advertising 5000 (some 2) false)
  have hgranted : result clients first (some granted) = .ok (some 5000) :=
    Registry.conclude_response ..
  have hanswers : t₁.answers = [(first, granted)] := by decide +kernel
  have htaken : Run clients t₀ [.send first, .handle first 0] t₁ :=
    (Run.start.step (.send .request)).step (.handle 0 (List.mem_cons_self ..))
  have hconcluded : Run clients t₀
      [.send first, .handle first 0, .conclude first (some granted) (.ok (some 5000))] t₂ := by
    have hanswer : (first, granted) ∈ t₁.answers := hanswers ▸ List.mem_singleton_self _
    have hstep := htaken.step (.conclude (l := first) rfl hanswer)
    rwa [hgranted, hanswers, List.erase_cons_head] at hstep
  have hreissued : Run clients t₀ _ t₃ :=
    (hconcluded.step (.send .request)).step (.handle 20 (List.mem_cons_self ..))
  have hthird : Step clients t₃ (.send third) t₄ := .send (.keepAlive 5000 false)
  have hleased : t₃.registry.LeasedTo 5000 b := ⟨20, by decide +kernel⟩
  obtain ⟨answer, hhandle, hresult⟩ :=
    ((advertisers_undisturbed clients _ 10 hreissued).2.1 a b 5000 rfl (by decide) hleased
      _ t₄ (.step .start hthird)).2.1 third (List.mem_cons_self ..) rfl 21
  refine ⟨t₄, hreissued.step hthird, by decide +kernel, answer, ?_, ?_, hresult⟩
  · rw [hhandle]
  · rw [hhandle]

end Traffic

end Harbor.Lease
