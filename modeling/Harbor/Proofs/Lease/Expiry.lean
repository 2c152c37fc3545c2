import Harbor.Lease.Client
import Harbor.Proofs.Lease.History

/-!
# Lapsed leases are taken back late

The registry sweeps when a port is requested and at no other time. The same calls can
be made on a registry that is swept before each of them. Between two requests the
leases of the two drift apart: a lapsed lease lingers in the one and is gone from the
other. What they have in common is `Agrees`: a sweep at any time to come leaves the
same leases in both.

Main results:

* `Agrees.reclaimExpired_eq`: registries that agree are the same once they are swept.
* `agrees_apply`: a call keeps the agreement, unless it revives a lapsed lease.
* `Agrees.run`: so do any number of calls, one after another.
* `lazy_agrees_with_eager`: requests cannot tell the two registries apart, and other
  calls only where the service that they name holds a lapsed lease.
-/

namespace Harbor.Lease

/-- A call on the registry and the time at which it arrives. -/
structure TimedCall where
  call : Call
  now : Instant
  deriving DecidableEq

namespace TimedCall

/-- The operation that the call stands for at its time. -/
def operation (t : TimedCall) : Registry.Operation := t.call.operation t.now

/-- The calls as they are. -/
def lazily (calls : List TimedCall) : List Registry.Operation := calls.map operation

/-- The calls with a sweep before each. -/
def eagerly (calls : List TimedCall) : List Registry.Operation :=
  calls.flatMap fun t => [.reclaim t.now, t.operation]

end TimedCall

namespace Registry

/-- The call keeps a lease alive that has lapsed. -/
def Revives (g : Registry) (t : TimedCall) : Prop :=
  match t.call with
  | .keepAlive name port => (g.keepAlive name port t.now).2 = .ok () ∧
      ∃ held ∈ g.leases, held.1 = port ∧ held.2.isExpired t.now g.timeout
  | _ => False

/-- No call of a run keeps a lease alive that has lapsed. -/
def RevivesNone (g : Registry) : List TimedCall → Prop
  | [] => True
  | t :: calls => ¬ g.Revives t ∧ RevivesNone (g.apply t.operation).1 calls

/-- The service holds a lease that has lapsed and has not been taken back. -/
def HoldsLapsed (g : Registry) (name : ServiceName) (now : Instant) : Prop :=
  ∃ held ∈ g.leases, held.2.name = name ∧ held.2.isExpired now g.timeout

instance (g : Registry) (t : TimedCall) : Decidable (g.Revives t) :=
  match t with
  | ⟨.keepAlive _ _, _⟩ => inferInstanceAs (Decidable (_ ∧ _))
  | ⟨.request _, _⟩ | ⟨.close _ _, _⟩ | ⟨.lookup _, _⟩ | ⟨.stop, _⟩ =>
    inferInstanceAs (Decidable False)

instance decidableRevivesNone (g : Registry) : (calls : List TimedCall) →
    Decidable (g.RevivesNone calls)
  | [] => inferInstanceAs (Decidable True)
  | t :: calls =>
    have := decidableRevivesNone (g.apply t.operation).1 calls
    inferInstanceAs (Decidable (_ ∧ _))

/-- From a time on, a sweep leaves the same leases in both registries. -/
structure Agrees (since : Instant) (e g : Registry) : Prop where
  left : e.WellFormed
  right : g.WellFormed
  terms : g.SameTerms e
  surviving?_eq : ∀ now, since ≤ now → ∀ port, e.surviving? now port = g.surviving? now port

section Agrees

variable {since now : Instant} {e g : Registry}

theorem agrees_refl (hg : g.WellFormed) : Agrees since g g :=
  ⟨hg, hg, ⟨rfl, rfl, rfl⟩, fun _ _ _ => rfl⟩

theorem Agrees.reclaimExpired_eq (h : Agrees since e g) (hle : since ≤ now) :
    (e.reclaimExpired now).1 = (g.reclaimExpired now).1 := by
  have hterms : (g.reclaimExpired now).1.SameTerms (e.reclaimExpired now).1 :=
    ⟨h.terms.range_eq, h.terms.timeout_eq, h.terms.stopped_eq⟩
  refine (h.right.reclaimExpired now).eq_of_lease? (h.left.reclaimExpired now) hterms fun port => ?_
  rw [lease?_reclaimExpired, lease?_reclaimExpired, h.surviving?_eq now hle]

theorem agrees_reclaimExpired (hg : g.WellFormed) : Agrees now (g.reclaimExpired now).1 g :=
  ⟨hg.reclaimExpired now, hg, ⟨rfl, rfl, rfl⟩, fun _ hle => surviving?_reclaimExpired g hle⟩

end Agrees

/-! ## One call

After a sweep of the one registry, both make the same call. -/

section Call

variable {g : Registry} {now : Instant} {name : ServiceName} {port : Port}

/-- A request sweeps anyway. -/
theorem requestPort_reclaimExpired (hg : g.WellFormed) (name : ServiceName) (now : Instant) :
    (g.reclaimExpired now).1.requestPort name now = g.requestPort name now := by
  rw [requestPort, requestPort, reclaimExpired_reclaimExpired hg (Int.le_refl now)]

theorem surviving?_eq_none {alive later : Instant} (h : g.lease? port = some ⟨name, alive⟩)
    (hlapsed : ¬ now - alive < g.timeout) (hle : now ≤ later) :
    g.surviving? later port = none := by
  rw [Option.eq_none_iff_forall_ne_some]
  rintro lease hlease
  rw [surviving?_eq_some_iff, h] at hlease
  obtain ⟨⟨⟩, hlt⟩ := hlease
  exact hlapsed (Int.lt_of_le_of_lt (Int.sub_le_sub_right hle _) hlt)

theorem holdsLapsed_of_lease? (hg : g.WellFormed) {alive : Instant}
    (h : g.lease? port = some ⟨name, alive⟩) (hlapsed : ¬ now - alive < g.timeout) :
    g.HoldsLapsed name now :=
  ⟨_, (mem_leases_iff hg).2 h, rfl, Lease.isExpired_iff.2 (Int.not_lt.1 hlapsed)⟩

/-- How a service stands to a port before and after a sweep. -/
inductive Standing (g : Registry) (now : Instant) (name : ServiceName) (port : Port) : Prop where
  | kept (alive : Instant) : g.lease? port = some ⟨name, alive⟩ →
      (g.reclaimExpired now).1.lease? port = some ⟨name, alive⟩ → Standing g now name port
  | lapsed (alive : Instant) : g.lease? port = some ⟨name, alive⟩ →
      ¬ now - alive < g.timeout → (g.reclaimExpired now).1.lease? port = none →
      Standing g now name port
  | absent : (∀ alive, g.lease? port ≠ some ⟨name, alive⟩) →
      (∀ alive, (g.reclaimExpired now).1.lease? port ≠ some ⟨name, alive⟩) →
      Standing g now name port

theorem standing (g : Registry) (now : Instant) (name : ServiceName) (port : Port) :
    Standing g now name port := by
  by_cases hheld : ∃ alive, g.lease? port = some ⟨name, alive⟩
  · obtain ⟨alive, h⟩ := hheld
    by_cases hlt : now - alive < g.timeout
    · refine .kept alive h ?_
      rw [lease?_reclaimExpired, surviving?_eq_some_iff]
      exact ⟨h, hlt⟩
    · refine .lapsed alive h hlt ?_
      rw [lease?_reclaimExpired, surviving?_eq_none h hlt (Int.le_refl now)]
  · refine .absent (not_exists.1 hheld) fun alive h => hheld ⟨alive, ?_⟩
    rw [lease?_reclaimExpired, surviving?_eq_some_iff] at h
    exact h.1

theorem surviving?_of_lease? {g' : Registry} {lease? : Option Lease} (hterms : g.SameTerms g')
    (h : ∀ q, g'.lease? q = if q = port then lease? else g.lease? q) (later : Instant) (q : Port) :
    g'.surviving? later q = if q = port
      then lease?.filter fun lease => !lease.isExpired later g.timeout
      else g.surviving? later q := by
  rw [surviving?, h, hterms.timeout_eq]
  split <;> rfl

/-- A change of a held lease keeps the agreement, unless it leaves a lease where the other
    registry has taken back a lapsed one. -/
theorem agrees_updateHeld (change : Reservation → Reservation) (hg : g.WellFormed)
    (hport : ∀ r, (change r).port = r.port)
    (hlapsed : ∀ alive, g.lease? port = some ⟨name, alive⟩ → ¬ now - alive < g.timeout →
      (change ⟨port, some ⟨name, alive⟩⟩).lease? = none) :
    Agrees now ((g.reclaimExpired now).1.updateHeld name port change).1
      (g.updateHeld name port change).1 := by
  have hswept := hg.reclaimExpired now
  have hsweep := sameTerms_reclaimExpired g now
  have hterms := sameTerms_updateHeld change g name port
  have hterms' := sameTerms_updateHeld change (g.reclaimExpired now).1 name port
  cases standing g now name port with
  | kept alive h h' =>
    obtain ⟨g', heq, hg', hleases⟩ := updateHeld_of_held change hg h hport
    obtain ⟨e', heq', he', hleases'⟩ := updateHeld_of_held change hswept h' hport
    rw [heq] at hterms ⊢
    rw [heq'] at hterms' ⊢
    refine ⟨he', hg', hterms.symm.trans (hsweep.trans hterms'), fun later hle q => ?_⟩
    rw [surviving?_of_lease? hterms' hleases', surviving?_of_lease? hterms hleases,
      surviving?_reclaimExpired g hle, hsweep.timeout_eq]
  | lapsed alive h hlt h' =>
    obtain ⟨g', heq, hg', hleases⟩ := updateHeld_of_held change hg h hport
    rw [heq] at hterms ⊢
    rw [updateHeld_of_not_held change hswept fun _ => by rw [h']; exact nofun]
    refine ⟨hswept, hg', hterms.symm.trans hsweep, fun later hle q => ?_⟩
    rw [surviving?_reclaimExpired g hle, surviving?_of_lease? hterms hleases, hlapsed alive h hlt]
    split
    · next hq => rw [hq, surviving?_eq_none h hlt hle, Option.filter_none]
    · rfl
  | absent h h' =>
    rw [updateHeld_of_not_held change hg h, updateHeld_of_not_held change hswept h']
    exact agrees_reclaimExpired hg

/-- The answers are the same unless the lease has lapsed. -/
theorem updateHeld_reclaimExpired_snd (change : Reservation → Reservation) (hg : g.WellFormed)
    (hport : ∀ r, (change r).port = r.port) (h : ¬ g.HoldsLapsed name now) :
    ((g.reclaimExpired now).1.updateHeld name port change).2 =
      (g.updateHeld name port change).2 := by
  have hswept := hg.reclaimExpired now
  cases standing g now name port with
  | kept alive hlease hlease' =>
    obtain ⟨g', heq, -⟩ := updateHeld_of_held change hg hlease hport
    obtain ⟨e', heq', -⟩ := updateHeld_of_held change hswept hlease' hport
    rw [heq, heq']
  | lapsed alive hlease hlapsed _ => exact absurd (holdsLapsed_of_lease? hg hlease hlapsed) h
  | absent hlease hlease' =>
    rw [updateHeld_of_not_held change hg hlease, updateHeld_of_not_held change hswept hlease']

/-- A call keeps the agreement, unless it revives a lapsed lease. -/
theorem agrees_apply (hg : g.WellFormed) {t : TimedCall} (h : ¬ g.Revives t) :
    Agrees t.now ((g.reclaimExpired t.now).1.apply t.operation).1 (g.apply t.operation).1 := by
  obtain ⟨call, now⟩ := t
  cases call with
  | request name =>
    have hwf := (Deed.takes_request hg name now).wellFormed
    rw [apply_request_fst] at hwf
    simp only [TimedCall.operation, Call.operation, apply_request_fst,
      requestPort_reclaimExpired hg]
    exact agrees_refl hwf
  | keepAlive name port =>
    simp only [TimedCall.operation, Call.operation, apply_keepAlive_fst]
    refine agrees_updateHeld _ hg (fun _ => rfl) fun alive hlease hlapsed => absurd ?_ h
    obtain ⟨g', heq, -⟩ := updateHeld_of_held (·.touch now) hg hlease fun _ => rfl
    exact ⟨by rw [keepAlive, heq], _, (mem_leases_iff hg).2 hlease, rfl,
      Lease.isExpired_iff.2 (Int.not_lt.1 hlapsed)⟩
  | close name port =>
    simp only [TimedCall.operation, Call.operation, apply_close_fst]
    exact agrees_updateHeld _ hg (fun _ => rfl) fun _ _ _ => rfl
  | lookup name =>
    simp only [TimedCall.operation, Call.operation, apply_lookup_fst]
    exact agrees_reclaimExpired hg
  | stop =>
    have hagrees : Agrees now (g.reclaimExpired now).1 g := agrees_reclaimExpired hg
    exact ⟨hagrees.left, hg, ⟨rfl, rfl, rfl⟩, hagrees.surviving?_eq⟩

/-- A call is answered alike unless the service it names holds a lapsed lease. -/
theorem apply_reclaimExpired_snd (hg : g.WellFormed) {t : TimedCall}
    (h : ¬ g.HoldsLapsed t.call.message.name t.now) :
    ((g.reclaimExpired t.now).1.apply t.operation).2 = (g.apply t.operation).2 := by
  obtain ⟨call, now⟩ := t
  cases call with
  | request name =>
    simp only [TimedCall.operation, Call.operation, apply, requestPort_reclaimExpired hg]
  | keepAlive name port =>
    have hsnd : ((g.reclaimExpired now).1.keepAlive name port now).2 =
        (g.keepAlive name port now).2 := updateHeld_reclaimExpired_snd _ hg (fun _ => rfl) h
    simp only [TimedCall.operation, Call.operation, apply]
    grind
  | close name port =>
    have hsnd : ((g.reclaimExpired now).1.closePort name port).2 = (g.closePort name port).2 :=
      updateHeld_reclaimExpired_snd _ hg (fun _ => rfl) h
    simp only [TimedCall.operation, Call.operation, apply]
    grind
  | lookup name =>
    have hlookup : (g.reclaimExpired now).1.lookupPort name = g.lookupPort name := by
      refine lookupPort_reclaimExpired hg fun port alive hlease => ?_
      by_contra hlapsed
      exact h (holdsLapsed_of_lease? hg hlease hlapsed)
    simp only [TimedCall.operation, Call.operation, apply, hlookup]
    cases g.lookupPort name <;> rfl
  | stop => rfl

end Call

/-! ## Runs -/

section Run

variable {e g : Registry} {since : Instant}

theorem run_append (g : Registry) (ops ops' : List Operation) :
    (g.run (ops ++ ops')).1 = ((g.run ops).1.run ops').1 := by
  induction ops generalizing g with
  | nil => rfl
  | cons o ops ih => exact ih (g.apply o).1

theorem RevivesNone.of_append {before after : List TimedCall}
    (h : g.RevivesNone (before ++ after)) : g.RevivesNone before := by
  induction before generalizing g with
  | nil => trivial
  | cons t before ih => exact ⟨h.1, ih h.2⟩

/-- Registries that agree go on to agree. -/
theorem Agrees.run {calls : List TimedCall} (h : Agrees since e g) {now : Instant}
    (hsorted : (since :: (calls.map TimedCall.now ++ [now])).Pairwise (· ≤ ·))
    (hrevives : g.RevivesNone calls) :
    Agrees now (e.run (TimedCall.eagerly calls)).1 (g.run (TimedCall.lazily calls)).1 := by
  induction calls generalizing e g since with
  | nil =>
    have hle : since ≤ now := by simpa using hsorted
    exact ⟨h.left, h.right, h.terms, fun later hlater => h.surviving?_eq later (hle.trans hlater)⟩
  | cons t calls ih =>
    rw [List.pairwise_cons] at hsorted
    have hstep := agrees_apply h.right hrevives.1
    rw [← h.reclaimExpired_eq (hsorted.1 t.now List.mem_cons_self)] at hstep
    exact ih hstep hsorted.2 hrevives.2

/-- The two registries are the same after a sweep. -/
theorem reclaimExpired_run_eagerly (hg : g.WellFormed) {calls : List TimedCall} {now : Instant}
    (hsorted : (calls.map TimedCall.now ++ [now]).Pairwise (· ≤ ·))
    (hrevives : g.RevivesNone calls) :
    ((g.run (TimedCall.eagerly calls)).1.reclaimExpired now).1 =
      ((g.run (TimedCall.lazily calls)).1.reclaimExpired now).1 := by
  cases calls with
  | nil => rfl
  | cons t calls =>
    have hfirst := agrees_apply hg hrevives.1
    have hlast : Agrees now _ _ := hfirst.run hsorted hrevives.2
    exact hlast.reclaimExpired_eq (Int.le_refl now)

end Run

/-- Taking lapsed leases back when a port is requested is as good as taking them back at
    once. Requests get the same port or the same refusal and leave the same leases. Any
    other call is answered differently only if the service that it names holds a lease
    that has lapsed. -/
theorem lazy_agrees_with_eager (range : PortRange) (timeout : Span) (calls : List TimedCall)
    (hsorted : (calls.map TimedCall.now).Pairwise (· ≤ ·))
    (hrevives : (new range timeout).RevivesNone calls)
    (before : List TimedCall) (t : TimedCall) (after : List TimedCall)
    (hcalls : calls = before ++ t :: after) :
    let g := ((new range timeout).run (TimedCall.lazily before)).1
    let e := ((new range timeout).run (TimedCall.eagerly before ++ [.reclaim t.now])).1
    (∀ name, t.call = .request name → (e.apply t.operation).2 = (g.apply t.operation).2 ∧
      (e.apply t.operation).1.leases = (g.apply t.operation).1.leases) ∧
    ((e.apply t.operation).2 ≠ (g.apply t.operation).2 →
      g.HoldsLapsed t.call.message.name t.now) := by
  intro g e
  subst hcalls
  have hnew := wellFormed_new range timeout
  have hg : g.WellFormed := wellFormed_run hnew _
  have hprefix : (before.map TimedCall.now ++ [t.now]).Pairwise (· ≤ ·) := by
    refine hsorted.sublist ?_
    simp
  have he : e = (g.reclaimExpired t.now).1 := by
    rw [← reclaimExpired_run_eagerly hnew hprefix hrevives.of_append]
    exact run_append _ _ _
  rw [he]
  refine ⟨fun name hname => ?_, fun hne => ?_⟩
  · have happly : (g.reclaimExpired t.now).1.apply t.operation = g.apply t.operation := by
      rw [TimedCall.operation, hname, Call.operation, apply, apply, requestPort_reclaimExpired hg]
    rw [happly]
    exact ⟨rfl, rfl⟩
  · by_contra hlapsed
    exact hne (apply_reclaimExpired_snd hg hlapsed)

/-- A service is looked up and gives its port back when its lease has lapsed. Only the
    registry that has not swept finds it, and both grant the same port after that. -/
theorem lazy_agrees_with_eager_on_lapse :
    let range : PortRange := ⟨5000, 5001, by decide, by decide⟩
    let a : ServiceName := ⟨"a", by decide, by decide, by decide⟩
    let b : ServiceName := ⟨"b", by decide, by decide, by decide⟩
    let before : List TimedCall := [⟨.request a, 0⟩, ⟨.keepAlive a 5000, 5⟩, ⟨.request b, 9⟩,
      ⟨.lookup a, 15⟩, ⟨.close a 5000, 16⟩]
    let g := ((new range 10).run (TimedCall.lazily before)).1
    let e := ((new range 10).run (TimedCall.eagerly before ++ [.reclaim 17])).1
    (e.apply (.request a 17)).2 = (g.apply (.request a 17)).2 ∧
      ((new range 10).run (TimedCall.lazily before)).2 =
        [.port 5000, .done, .port 5001, .port 5000, .done] ∧
      ((new range 10).run (TimedCall.eagerly before)).2 =
        [.reclaimed 0, .port 5000, .reclaimed 0, .done, .reclaimed 0, .port 5001,
          .reclaimed 1, .refused (.serviceNotFound a), .reclaimed 0, .refused (.serviceNotFound a)] := by
  intro range a b before g e
  let next : TimedCall := ⟨.request a, 17⟩
  have hsorted : ((before ++ [next]).map TimedCall.now).Pairwise (· ≤ ·) := by decide
  have hrevives : (new range 10).RevivesNone (before ++ [next]) := by decide +kernel
  refine ⟨?_, by decide +kernel, by decide +kernel⟩
  exact ((lazy_agrees_with_eager range 10 _ hsorted hrevives before next [] rfl).1 a rfl).1

end Registry

end Harbor.Lease
