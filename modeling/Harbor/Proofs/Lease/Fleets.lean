import Harbor.Proofs.Lease.Advertising

/-!
# Fleets as traffic

A step of a `Fleet` is an exchange that is through before anything else happens, with both
datagrams delivered or one of them lost. The traffic of the advertisers can do the same in
some steps, so what holds of every run of the traffic holds of fleets, as long as no service
is advertised twice. `Traffic.Shows` says what a fleet tells about the traffic.

Main results:

* `Traffic.Sound.run_askUnder`: an exchange that is not interrupted is a run.
* `Traffic.Sound.performs_step`: so is a step of a fleet.
* `Traffic.Sound.run_steps`: so are any number of its steps, one after another.
-/

namespace Harbor.Lease

theorem Stage.Calls.awaited?_eq {stage stage' : Stage} {name : ServiceName} {exchange : Nat}
    {call : Call} (h : stage.Calls name exchange call stage') :
    stage'.awaited? name = some ⟨exchange, name, call⟩ := by
  cases h <;> rfl

/-- The service that an advertiser begins to advertise. -/
def Fleet.Event.registered? : Fleet.Event → Option ServiceName
  | register _ name _ => some name
  | keepAlive _ | withdraw _ => none

namespace Traffic

variable {clients : ServiceName → Client} {c : Client} {t t' t'' : Traffic} {f : Fleet}
  {name : ServiceName}

theorem Run.trans {es es' : List Event} (h : Run clients t es t') (h' : Run clients t' es' t'') :
    Run clients t (es ++ es') t'' := by
  induction h' with
  | start => rwa [List.append_nil]
  | step _ hstep ih =>
    rw [← List.append_assoc]
    exact ih.step hstep

/-! ## Exchanges without a break -/

theorem stages_send_self (t : Traffic) (name : ServiceName) (call : Call) (stage : Stage) :
    (t.send name call stage).stages name = stage := stages_turnTo_self t name stage

/-- What an advertiser turns to does not depend on what it was. -/
theorem stages_turnTo_congr (stage : Stage)
    (h : ∀ other, other ≠ name → t'.stages other = t.stages other) :
    (t'.turnTo name stage).stages = (t.turnTo name stage).stages := by
  funext other
  by_cases hname : other = name
  · rw [hname, stages_turnTo_self, stages_turnTo_self]
  · rw [stages_turnTo_of_ne _ _ hname, stages_turnTo_of_ne _ _ hname]
    exact h other hname

/-- An exchange that is through before anything else happens is a run: what the registry and
    the advertiser make of it depends on which datagrams arrive. -/
theorem Sound.run_askUnder (h : Sound clients t) {call : Call} {stage : Stage}
    (hcalls : (t.stages name).Calls name t.next call stage) (delivery : Delivery) (now : Instant) :
    ∃ es t', Run clients t es t' ∧
      (∃ answer?, .conclude ⟨t.next, name, call⟩ answer?
        ((clients name).askUnder delivery t.registry call now).2 ∈ es) ∧
      t'.registry = ((clients name).askUnder delivery t.registry call now).1 ∧
      t'.stages = (t.turnTo name (stage.settle
        ((clients name).askUnder delivery t.registry call now).2)).stages ∧
      t'.requests = t.requests ∧ t'.answers = t.answers := by
  let l : Letter := ⟨t.next, name, call⟩
  have hsend : Run clients t [.send l] (t.send name call stage) := .step .start (.send hcalls)
  have hawaited : ((t.send name call stage).stages name).awaited? name = some l := by
    rw [stages_send_self]
    exact hcalls.awaited?_eq
  have hrequests : (t.send name call stage).requests.erase l = t.requests := List.erase_cons_head ..
  -- the stage in which an exchange ends is the same wherever its datagrams were lost
  have hstages : ∀ result, ((t.send name call stage).turnTo name
      (((t.send name call stage).stages name).settle result)).stages =
        (t.turnTo name (stage.settle result)).stages := by
    intro result
    rw [stages_send_self]
    exact stages_turnTo_congr _ fun _ hne => stages_turnTo_of_ne t _ hne
  obtain ⟨answer, hanswer, hhandle⟩ := (h.run hsend).handle_eq l now
  have hresult : result clients l (some answer) =
      call.result (t.registry.apply (call.operation now)).2 :=
    (h.run hsend).result_of_receive hanswer
  have htaken : Run clients t _ _ := hsend.step (.handle now (List.mem_cons_self ..))
  rw [hhandle, hrequests] at htaken
  have hask := Registry.ask_eq h.running (clients name) call now
  cases delivery with
  | complete =>
    refine ⟨_, _, htaken.step (.conclude (l := l) hawaited (List.mem_cons_self ..)), ?_⟩
    rw [Client.askUnder, hask, ← hresult]
    exact ⟨⟨_, List.mem_append_right _ (List.mem_singleton_self _)⟩, rfl, hstages _, rfl,
      List.erase_cons_head ..⟩
  | requestLost =>
    have hlost := hsend.step (.loseRequest (List.mem_cons_self ..))
    exact ⟨_, _, hlost.step (.giveUp (l := l) hawaited),
      ⟨_, List.mem_append_right _ (List.mem_singleton_self _)⟩, rfl, hstages _, hrequests, rfl⟩
  | answerLost =>
    have hlost := htaken.step (.loseAnswer (List.mem_cons_self ..))
    refine ⟨_, _, hlost.step (.giveUp (l := l) hawaited), ?_⟩
    rw [Client.askUnder, hask]
    exact ⟨⟨_, List.mem_append_right _ (List.mem_singleton_self _)⟩, rfl, hstages _, rfl,
      List.erase_cons_head ..⟩

/-! ## Steps of a fleet -/

/-- What the advertisements of a fleet say about the traffic: they are for different services,
    and the advertiser of each waits for its next turn. -/
structure Shows (t : Traffic) (f : Fleet) : Prop where
  registry : t.registry = f.registry
  advertising : ∀ {advertiser ad}, f.held.get? advertiser = some ad →
    t.stages ad.name = .advertising ad.port none false
  apart : ∀ {advertiser other ad ad'}, f.held.get? advertiser = some ad →
    f.held.get? other = some ad' → ad'.name = ad.name → other = advertiser

theorem shows_new (range : PortRange) (timeout : Span) :
    (new range timeout).Shows ⟨.new range timeout, .empty⟩ where
  registry := rfl
  advertising := nofun
  apart := nofun

namespace Shows

/-- The advertiser of a service goes over to something else, and is not in the fleet unless
    it waits for its next turn. -/
theorem turnTo (h : t.Shows f) {f' : Fleet} {stage : Stage}
    (hregistry : t'.registry = f'.registry) (hstages : t'.stages = (t.turnTo name stage).stages)
    (hheld : ∀ {advertiser ad}, f'.held.get? advertiser = some ad →
      f.held.get? advertiser = some ad ∧
        (ad.name = name → stage = .advertising ad.port none false)) :
    t'.Shows f' where
  registry := hregistry
  advertising {advertiser ad} had := by
    obtain ⟨had, hstage⟩ := hheld had
    rw [hstages]
    by_cases hname : ad.name = name
    · rw [hname, stages_turnTo_self]
      exact hstage hname
    · rw [stages_turnTo_of_ne _ _ hname]
      exact h.advertising had
  apart had had' hname := h.apart (hheld had).1 (hheld had').1 hname

/-- No advertisement is for the service of an advertiser that has not begun. -/
theorem name_ne_of_idle (h : t.Shows f) {advertiser : String} {ad : Advertisement}
    (had : f.held.get? advertiser = some ad) (hidle : t.stages name = .idle) : ad.name ≠ name := by
  rintro rfl
  rw [h.advertising had] at hidle
  cases hidle

/-- An advertiser that has not begun has got a port. -/
theorem insert (h : t.Shows f) {g : Registry} {advertiser : String} {port : Port}
    {intervalMillis : Nat} (hidle : t.stages name = .idle) (hregistry : t'.registry = g)
    (hstages : t'.stages = (t.turnTo name (.advertising port none false)).stages) :
    t'.Shows ⟨g, f.held.insert advertiser ⟨name, port, intervalMillis⟩⟩ := by
  have hheld : ∀ {other ad},
      (f.held.insert advertiser ⟨name, port, intervalMillis⟩).get? other = some ad →
        advertiser = other ∧ ad = ⟨name, port, intervalMillis⟩ ∨
        f.held.get? other = some ad ∧ ad.name ≠ name := by
    intro other ad had
    rw [Dictionary.get?_insert] at had
    split at had
    · next heq => exact .inl ⟨heq, (Option.some.inj had).symm⟩
    · exact .inr ⟨had, h.name_ne_of_idle had hidle⟩
  refine ⟨hregistry, fun had => ?_, fun had had' hname => ?_⟩
  · rw [hstages]
    rcases hheld had with ⟨-, rfl⟩ | ⟨had, hne⟩
    · exact stages_turnTo_self ..
    · rw [stages_turnTo_of_ne _ _ hne]
      exact h.advertising had
  · rcases hheld had with ⟨rfl, rfl⟩ | ⟨had, hne⟩
    · rcases hheld had' with ⟨rfl, -⟩ | ⟨-, hne'⟩
      · rfl
      · exact absurd hname hne'
    · rcases hheld had' with ⟨rfl, rfl⟩ | ⟨had', -⟩
      · exact absurd hname.symm hne
      · exact h.apart had had' hname

end Shows

/-- Some steps of the traffic do what a step of a fleet does: the fleet after it shows what
    they lead to, an exchange comes to what the step returns, and the advertisers that have not
    begun are left alone, but for one that may begin. -/
def Performs (c : Client) (t : Traffic) (registered? : Option ServiceName)
    (after : Fleet × Option (Except Client.Error (Option Port))) : Prop :=
  ∃ es t', Run (fun _ => c) t es t' ∧ t'.Shows after.1 ∧
    (∀ name, t.stages name = .idle → registered? ≠ some name → t'.stages name = .idle) ∧
    ∀ result, after.2 = some result → ∃ l answer?, .conclude l answer? result ∈ es

/-- A step of an advertiser that is not in the fleet does nothing. -/
theorem performs_nothing (hshows : t.Shows f) (registered? : Option ServiceName) :
    t.Performs c registered? (f, none) :=
  ⟨[], t, .start, hshows, fun _ hother _ => hother, nofun⟩

namespace Sound

theorem performs_register (h : Sound (fun _ => c) t) (hshows : t.Shows f)
    (hidle : t.stages name = .idle) (advertiser : String) (intervalMillis : Nat)
    (delivery : Delivery) (now : Instant) :
    t.Performs c (some name)
      (f.step c (.register advertiser name intervalMillis) delivery now) := by
  have hcalls : (t.stages name).Calls name t.next (.request name) (.registering t.next) := by
    rw [hidle]
    exact .request
  obtain ⟨es, t', hrun, ⟨answer?, hmem⟩, hregistry, hstages, -, -⟩ :=
    h.run_askUnder hcalls delivery now
  rw [hshows.registry] at hmem hregistry hstages
  have hleft : ∀ other, t.stages other = .idle → some name ≠ some other →
      t'.stages other = .idle := by
    intro other hother hne
    rw [hstages, stages_turnTo_of_ne _ _ fun heq => hne (congrArg some heq.symm), hother]
  -- no advertisement is for the service yet
  have hkept : ∀ {other ad} {stage : Stage}, f.held.get? other = some ad →
      f.held.get? other = some ad ∧ (ad.name = name → stage = .advertising ad.port none false) :=
    fun had => ⟨had, fun hname => absurd hname (hshows.name_ne_of_idle had hidle)⟩
  rw [Fleet.step]
  generalize c.askUnder delivery f.registry (.request name) now = asked at *
  rcases asked with ⟨g, e | _ | port⟩
  · exact ⟨es, t', hrun, hshows.turnTo hregistry hstages hkept, hleft, fun _ heq =>
      ⟨_, _, Option.some.inj heq ▸ hmem⟩⟩
  · exact ⟨es, t', hrun, hshows.turnTo hregistry hstages hkept, hleft, fun _ heq =>
      ⟨_, _, Option.some.inj heq ▸ hmem⟩⟩
  · exact ⟨es, t', hrun, hshows.insert hidle hregistry hstages, hleft, fun _ heq =>
      ⟨_, _, Option.some.inj heq ▸ hmem⟩⟩

theorem performs_keepAlive (h : Sound (fun _ => c) t) (hshows : t.Shows f) (advertiser : String)
    (delivery : Delivery) (now : Instant) :
    t.Performs c none (f.step c (.keepAlive advertiser) delivery now) := by
  rw [Fleet.step]
  cases had : f.held.get? advertiser with
  | none => exact performs_nothing hshows none
  | some ad =>
    have hcalls : (t.stages ad.name).Calls ad.name t.next (.keepAlive ad.name ad.port)
        (.advertising ad.port (some t.next) false) := by
      rw [hshows.advertising had]
      exact .keepAlive ad.port false
    obtain ⟨es, t', hrun, ⟨answer?, hmem⟩, hregistry, hstages, -, -⟩ :=
      h.run_askUnder hcalls delivery now
    rw [hshows.registry] at hmem hregistry hstages
    refine ⟨es, t', hrun, ?_, ?_, ?_⟩
    · refine hshows.turnTo hregistry hstages fun had' => ⟨had', fun hname => ?_⟩
      obtain rfl := hshows.apart had had' hname
      obtain rfl := Option.some.inj (had.symm.trans had')
      rfl
    · intro other hother _
      rw [hstages, stages_turnTo_of_ne, hother]
      exact (hshows.name_ne_of_idle had hother).symm
    · rintro _ ⟨⟩
      exact ⟨_, _, hmem⟩

theorem performs_withdraw (h : Sound (fun _ => c) t) (hshows : t.Shows f) (advertiser : String)
    (delivery : Delivery) (now : Instant) :
    t.Performs c none (f.step c (.withdraw advertiser) delivery now) := by
  rw [Fleet.step]
  cases had : f.held.get? advertiser with
  | none => exact performs_nothing hshows none
  | some ad =>
    have hstop : Run (fun _ => c) t [.stop ad.name]
        (t.turnTo ad.name (.advertising ad.port none true)) :=
      .step .start (.stop (hshows.advertising had))
    have hcalls : ((t.turnTo ad.name (.advertising ad.port none true)).stages ad.name).Calls
        ad.name t.next (.close ad.name ad.port) (.closing ad.port t.next) := by
      rw [stages_turnTo_self]
      exact .close ad.port
    obtain ⟨es, t', hrun, ⟨answer?, hmem⟩, hregistry, hstages, -, -⟩ :=
      (h.run hstop).run_askUnder hcalls delivery now
    rw [stages_turnTo_congr _ fun _ hne => stages_turnTo_of_ne t _ hne] at hstages
    -- being told to stop has left the registry as it was
    have hsame : (t.turnTo ad.name (.advertising ad.port none true)).registry = f.registry :=
      hshows.registry
    rw [hsame] at hmem hregistry
    refine ⟨_, t', hstop.trans hrun, ?_, ?_, ?_⟩
    · refine hshows.turnTo hregistry hstages fun {other ad'} had' => ?_
      rw [Dictionary.get?_erase] at had'
      split at had'
      · cases had'
      · next hne => exact ⟨had', fun hname => absurd (hshows.apart had had' hname).symm hne⟩
    · intro other hother _
      rw [hstages, stages_turnTo_of_ne, hother]
      exact (hshows.name_ne_of_idle had hother).symm
    · rintro _ ⟨⟩
      exact ⟨_, _, List.mem_append_right _ hmem⟩

/-- A step of a fleet is a run of the traffic that it shows, if no service is advertised
    again. -/
theorem performs_step (h : Sound (fun _ => c) t) (hshows : t.Shows f) {event : Fleet.Event}
    (hidle : ∀ name, event.registered? = some name → t.stages name = .idle) (delivery : Delivery)
    (now : Instant) : t.Performs c event.registered? (f.step c event delivery now) := by
  cases event with
  | register advertiser name intervalMillis =>
    exact h.performs_register hshows (hidle name rfl) advertiser intervalMillis delivery now
  | keepAlive advertiser => exact h.performs_keepAlive hshows advertiser delivery now
  | withdraw advertiser => exact h.performs_withdraw hshows advertiser delivery now

/-- Any number of steps of a fleet that advertise different services are a run. -/
theorem run_steps (h : Sound (fun _ => c) t) (hshows : t.Shows f)
    (events : List (Fleet.Event × Delivery × Instant))
    (hnodup : (events.filterMap (·.1.registered?)).Nodup)
    (hidle : ∀ name ∈ events.filterMap (·.1.registered?), t.stages name = .idle) :
    ∃ es t', Run (fun _ => c) t es t' ∧
      t'.Shows (events.foldl (fun f e => (f.step c e.1 e.2.1 e.2.2).1) f) := by
  induction events generalizing t f with
  | nil => exact ⟨[], t, .start, hshows⟩
  | cons e events ih =>
    obtain ⟨event, delivery, now⟩ := e
    rw [List.filterMap_cons] at hnodup hidle
    have hbegin : ∀ name, event.registered? = some name → t.stages name = .idle := by
      intro name hname
      rw [hname] at hidle
      exact hidle name (List.mem_cons_self ..)
    obtain ⟨es, t', hrun, hshows', hleft, -⟩ := h.performs_step hshows hbegin delivery now
    have hlater : (events.filterMap (·.1.registered?)).Nodup ∧
        ∀ name ∈ events.filterMap (·.1.registered?), t'.stages name = .idle := by
      cases hregistered : event.registered? with
      | none =>
        rw [hregistered] at hnodup hidle
        exact ⟨hnodup, fun name hname => hleft name (hidle name hname) (hregistered ▸ nofun)⟩
      | some service =>
        rw [hregistered] at hnodup hidle
        obtain ⟨hnew, hnodup⟩ := List.nodup_cons.1 hnodup
        refine ⟨hnodup, fun name hname => hleft name (hidle name (List.mem_cons_of_mem _ hname)) ?_⟩
        intro heq
        obtain rfl := Option.some.inj (hregistered.symm.trans heq)
        exact hnew hname
    obtain ⟨es', t'', hrun', hshows''⟩ := ih (h.run hrun) hshows' hlater.1 hlater.2
    exact ⟨_, t'', hrun.trans hrun', hshows''⟩

end Sound

end Traffic

end Harbor.Lease
