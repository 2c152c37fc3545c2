import Harbor.Lease.Registry
import Mathlib.Data.List.Find

/-!
# The leases of a registry

`Registry.lease?` is the lease on a port, found by the port's offset in the range.
Every operation is described by the leases before it and the leases after it; the
list of reservations is not looked at outside this module.

Main results:

* `mem_leases_iff`: the leases found by offset are those that the registry lists.
* `lease?_reclaimExpired`: a sweep keeps the leases that have not lapsed.
* `requestPort_ok`, `requestPort_error`: a request sweeps first, and then leases a
  port that the sweep left free, or finds that it left none.
* `updateHeld_of_held`, `updateHeld_of_not_held`: a lease is changed by its holder
  and by nobody else.
-/

namespace Harbor.Lease

/-- A lease has lapsed once its age has reached the timeout. -/
theorem Lease.isExpired_iff {lease : Lease} {now : Instant} {timeout : Span} :
    lease.isExpired now timeout ↔ (timeout : Int) ≤ now - lease.lastAlive := by
  simp only [isExpired, Bool.and_eq_true, decide_eq_true_eq]
  constructor
  · exact fun h => h.2
  · intro h
    exact ⟨Int.le_of_sub_nonneg (Int.le_trans (Int.natCast_nonneg timeout) h), h⟩

namespace Reservation

/-- A reservation that is held has a lease, and the lease bears the name. -/
theorem isHeldBy_iff {r : Reservation} {name : ServiceName} :
    r.isHeldBy name ↔ ∃ alive, r.lease? = some ⟨name, alive⟩ := by
  obtain ⟨port, _ | ⟨name', alive⟩⟩ := r <;> simp [isHeldBy, name?]

@[simp] theorem sweep_port (r : Reservation) (now : Instant) (timeout : Span) :
    (r.sweep now timeout).port = r.port := by
  unfold sweep
  split <;> rfl

theorem sweep_lease? (r : Reservation) (now : Instant) (timeout : Span) :
    (r.sweep now timeout).lease? = r.lease?.filter fun lease => !lease.isExpired now timeout := by
  obtain ⟨port, lease?⟩ := r
  cases lease? with
  | none => rfl
  | some lease =>
    cases h : lease.isExpired now timeout <;>
      simp [sweep, isExpired, release, Option.filter_some, h]

end Reservation

namespace Registry

variable {g : Registry}

/-- Each port of the range has its reservation, in ascending order. -/
def WellFormed (g : Registry) : Prop := g.reservations.map Reservation.port = g.range.ports

/-- The lease on a port, if there is one. -/
def lease? (g : Registry) (port : Port) : Option Lease := (g.reservation? port).bind (·.lease?)

/-- The lease on a port that is left after a sweep. -/
def surviving? (g : Registry) (now : Instant) (port : Port) : Option Lease :=
  (g.lease? port).filter fun lease => !lease.isExpired now g.timeout

/-- The registries differ in their leases at most. -/
structure SameTerms (g g' : Registry) : Prop where
  range_eq : g'.range = g.range
  timeout_eq : g'.timeout = g.timeout
  stopped_eq : g'.stopped = g.stopped

namespace SameTerms

variable {g' g'' : Registry}

theorem symm (h : g.SameTerms g') : g'.SameTerms g :=
  ⟨h.range_eq.symm, h.timeout_eq.symm, h.stopped_eq.symm⟩

theorem trans (h : g.SameTerms g') (h' : g'.SameTerms g'') : g.SameTerms g'' :=
  ⟨h'.range_eq.trans h.range_eq, h'.timeout_eq.trans h.timeout_eq,
    h'.stopped_eq.trans h.stopped_eq⟩

theorem eq_of_reservations (h : g.SameTerms g') (hr : g'.reservations = g.reservations) :
    g' = g := by
  cases g
  cases g'
  obtain ⟨rfl, rfl, rfl⟩ := h
  cases hr
  rfl

end SameTerms

/-! ## Reservations by offset -/

theorem reservation?_eq (g : Registry) (port : Port) :
    g.reservation? port = (g.range.offset? port).bind (g.reservations[·]?) := rfl

theorem WellFormed.offset?_port (hg : g.WellFormed) {i : Nat} {r : Reservation}
    (hr : g.reservations[i]? = some r) : g.range.offset? r.port = some i := by
  rw [← PortRange.getElem?_ports_eq_some_iff, ← hg, List.getElem?_map, hr, Option.map_some]

theorem WellFormed.port_of_offset? (hg : g.WellFormed) {i : Nat} {r : Reservation} {port : Port}
    (hi : g.range.offset? port = some i) (hr : g.reservations[i]? = some r) : r.port = port := by
  rw [← PortRange.getElem?_ports_eq_some_iff, ← hg, List.getElem?_map, hr, Option.map_some] at hi
  exact Option.some.inj hi

theorem reservation?_eq_some_iff (hg : g.WellFormed) {port : Port} {r : Reservation} :
    g.reservation? port = some r ↔ r ∈ g.reservations ∧ r.port = port := by
  rw [reservation?_eq, Option.bind_eq_some_iff]
  constructor
  · rintro ⟨i, hi, hr⟩
    exact ⟨List.mem_of_getElem? hr, hg.port_of_offset? hi hr⟩
  · rintro ⟨hr, rfl⟩
    obtain ⟨i, hi⟩ := List.mem_iff_getElem?.1 hr
    exact ⟨i, hg.offset?_port hi, hi⟩

theorem lease?_eq_some_iff (hg : g.WellFormed) {port : Port} {lease : Lease} :
    g.lease? port = some lease ↔ ⟨port, some lease⟩ ∈ g.reservations := by
  rw [lease?, Option.bind_eq_some_iff]
  constructor
  · rintro ⟨⟨q, l⟩, hr, rfl⟩
    obtain ⟨hmem, rfl⟩ := (reservation?_eq_some_iff hg).1 hr
    exact hmem
  · intro h
    exact ⟨_, (reservation?_eq_some_iff hg).2 ⟨h, rfl⟩, rfl⟩

theorem mem_leases_iff (hg : g.WellFormed) {port : Port} {lease : Lease} :
    (port, lease) ∈ g.leases ↔ g.lease? port = some lease := by
  rw [lease?_eq_some_iff hg, leases, List.mem_filterMap]
  constructor
  · rintro ⟨⟨q, l⟩, hr, heq⟩
    obtain ⟨lease', rfl, hpair⟩ := Option.map_eq_some_iff.1 heq
    cases hpair
    exact hr
  · intro h
    exact ⟨_, h, rfl⟩

theorem WellFormed.reservations_eq (hg : g.WellFormed) :
    g.reservations = g.range.ports.map fun port => ⟨port, g.lease? port⟩ := by
  rw [← hg, List.map_map]
  refine ((List.map_congr_left fun r hr => ?_).trans (List.map_id _)).symm
  have hfound := (reservation?_eq_some_iff hg).2 ⟨hr, rfl⟩
  simp only [Function.comp_apply, lease?, hfound, Option.bind_some, id]

/-- A registry is told by its terms and the leases on its ports. -/
theorem WellFormed.eq_of_lease? {g' : Registry} (hg : g.WellFormed) (hg' : g'.WellFormed)
    (hterms : g.SameTerms g') (h : ∀ port, g'.lease? port = g.lease? port) : g' = g := by
  refine hterms.eq_of_reservations ?_
  rw [hg'.reservations_eq, hg.reservations_eq, hterms.range_eq]
  exact List.map_congr_left fun port _ => by rw [h]

/-- Replacing the reservation of a port changes the lease on that port only. -/
theorem lease?_set (hg : g.WellFormed) {i : Nat} {r r' : Reservation}
    (hr : g.reservations[i]? = some r) (q : Port) :
    ({ g with reservations := g.reservations.set i r' } : Registry).lease? q =
      if q = r.port then r'.lease? else g.lease? q := by
  have hi := hg.offset?_port hr
  have hlt : i < g.reservations.length := (List.getElem?_eq_some_iff.1 hr).1
  simp only [lease?, reservation?_eq]
  by_cases hq : q = r.port
  · rw [if_pos hq, hq, hi, Option.bind_some, List.getElem?_set_self hlt, Option.bind_some]
  · rw [if_neg hq]
    cases hj : g.range.offset? q with
    | none => rfl
    | some j =>
      have hne : i ≠ j := by
        rintro rfl
        exact hq (hg.port_of_offset? hj hr).symm
      rw [Option.bind_some, Option.bind_some, List.getElem?_set_ne hne]

theorem WellFormed.set (hg : g.WellFormed) {i : Nat} {r r' : Reservation}
    (hr : g.reservations[i]? = some r) (hport : r'.port = r.port) :
    WellFormed { g with reservations := g.reservations.set i r' } := by
  show (g.reservations.set i r').map Reservation.port = g.range.ports
  obtain ⟨hlt, hget⟩ := List.getElem?_eq_some_iff.1 hr
  have hlt' : i < (g.reservations.map Reservation.port).length := by
    rw [List.length_map]
    exact hlt
  rw [List.map_set, hport, ← hget, ← List.getElem_map Reservation.port (h := hlt'),
    List.set_getElem_self]
  exact hg

/-! ## A new registry -/

theorem wellFormed_new (range : PortRange) (timeout : Span) : (new range timeout).WellFormed := by
  show (range.ports.map fun p => (⟨p, none⟩ : Reservation)).map Reservation.port = range.ports
  rw [List.map_map]
  exact List.map_id _

theorem lease?_new (range : PortRange) (timeout : Span) (port : Port) :
    (new range timeout).lease? port = none := by
  rw [Option.eq_none_iff_forall_ne_some]
  intro lease h
  rw [lease?_eq_some_iff (wellFormed_new range timeout)] at h
  obtain ⟨p, -, heq⟩ := List.mem_map.1 h
  cases heq

/-! ## Sweeps -/

theorem WellFormed.reclaimExpired (hg : g.WellFormed) (now : Instant) :
    (g.reclaimExpired now).1.WellFormed := by
  show (g.reservations.map (·.sweep now g.timeout)).map Reservation.port = g.range.ports
  rw [List.map_map, ← hg]
  exact List.map_congr_left fun r _ => r.sweep_port now g.timeout

theorem lease?_reclaimExpired (g : Registry) (now : Instant) (port : Port) :
    (g.reclaimExpired now).1.lease? port = g.surviving? now port := by
  simp only [lease?, surviving?, reservation?_eq, Registry.reclaimExpired]
  cases g.range.offset? port with
  | none => rfl
  | some i =>
    rw [Option.bind_some, Option.bind_some, List.getElem?_map]
    cases g.reservations[i]? with
    | none => rfl
    | some r => exact r.sweep_lease? now g.timeout

theorem surviving?_eq_some_iff {now : Instant} {port : Port} {lease : Lease} :
    g.surviving? now port = some lease ↔
      g.lease? port = some lease ∧ now - lease.lastAlive < g.timeout := by
  rw [surviving?, Option.filter_eq_some_iff, Bool.not_eq_true', ← Bool.not_eq_true,
    Lease.isExpired_iff, Int.not_le]

theorem sameTerms_reclaimExpired (g : Registry) (now : Instant) :
    g.SameTerms (g.reclaimExpired now).1 := ⟨rfl, rfl, rfl⟩

/-- A lease that has lapsed stays so. -/
theorem surviving?_reclaimExpired (g : Registry) {now later : Instant} (hle : now ≤ later)
    (port : Port) :
    (g.reclaimExpired now).1.surviving? later port = g.surviving? later port := by
  refine Option.ext fun lease => ?_
  rw [surviving?_eq_some_iff, lease?_reclaimExpired, surviving?_eq_some_iff,
    surviving?_eq_some_iff, and_assoc]
  refine and_congr_right fun _ => ⟨And.right, fun hlt => ⟨?_, hlt⟩⟩
  exact Int.lt_of_le_of_lt (Int.sub_le_sub_right hle _) hlt

theorem reclaimExpired_reclaimExpired (hg : g.WellFormed) {now later : Instant}
    (hle : now ≤ later) :
    ((g.reclaimExpired now).1.reclaimExpired later).1 = (g.reclaimExpired later).1 := by
  refine (hg.reclaimExpired later).eq_of_lease? ((hg.reclaimExpired now).reclaimExpired later)
    ⟨rfl, rfl, rfl⟩ fun port => ?_
  rw [lease?_reclaimExpired, lease?_reclaimExpired, surviving?_reclaimExpired g hle]

/-- A sweep does not hide a service whose leases have not lapsed. -/
theorem lookupPort_reclaimExpired (hg : g.WellFormed) {name : ServiceName} {now : Instant}
    (h : ∀ port alive, g.lease? port = some ⟨name, alive⟩ → now - alive < g.timeout) :
    (g.reclaimExpired now).1.lookupPort name = g.lookupPort name := by
  have hheld : ∀ r ∈ g.reservations,
      (r.sweep now g.timeout).isHeldBy name = r.isHeldBy name := by
    rintro ⟨port, lease?⟩ hr
    cases lease? with
    | none => rfl
    | some lease =>
      rw [Reservation.isHeldBy, Reservation.name?, Reservation.sweep_lease?, Option.filter_some]
      cases hlapsed : lease.isExpired now g.timeout with
      | false => rfl
      | true =>
        -- a lapsed lease bears another name
        have hne : lease.name ≠ name := by
          rintro rfl
          have hlt := h port lease.lastAlive ((lease?_eq_some_iff hg).2 hr)
          exact absurd hlt (Int.not_lt.2 (Lease.isExpired_iff.1 hlapsed))
        simp [Reservation.isHeldBy, Reservation.name?, hne]
  have hfind : g.reservations.find? ((·.isHeldBy name) ∘ (·.sweep now g.timeout)) =
      g.reservations.find? (·.isHeldBy name) := List.find?_congr hheld
  unfold lookupPort
  simp only [Registry.reclaimExpired, List.find?_map, hfind]
  cases g.reservations.find? (·.isHeldBy name) with
  | none => rfl
  | some r => exact congrArg Except.ok (r.sweep_port now g.timeout)

/-! ## Requests -/

theorem reserveFirst_eq_some {name : ServiceName} {now : Instant} {rs rs' : List Reservation}
    {port : Port} (h : reserveFirst name now rs = some (rs', port)) :
    ∃ i r, rs[i]? = some r ∧ r.lease? = none ∧ r.port = port ∧
      rs' = rs.set i (r.reserve name now) := by
  induction rs generalizing rs' with
  | nil => cases h
  | cons r rs ih =>
    rw [reserveFirst] at h
    split at h
    · next hfree =>
      cases h
      exact ⟨0, r, rfl, Option.isNone_iff_eq_none.1 hfree, rfl, rfl⟩
    · obtain ⟨⟨rs₁, port₁⟩, hrec, hpair⟩ := Option.map_eq_some_iff.1 h
      cases hpair
      obtain ⟨i, r₁, hr₁, hfree, hport, rfl⟩ := ih hrec
      exact ⟨i + 1, r₁, hr₁, hfree, hport, rfl⟩

/-- A granted request: the port was free after the sweep and is leased now; the other
    ports are as the sweep left them. -/
theorem requestPort_ok (hg : g.WellFormed) {g' : Registry} {name : ServiceName} {now : Instant}
    {port : Port} (h : g.requestPort name now = (g', .ok port)) :
    g'.WellFormed ∧ g.surviving? now port = none ∧
      ∀ q, g'.lease? q = if q = port then some ⟨name, now⟩ else g.surviving? now q := by
  simp only [requestPort] at h
  split at h
  · next rs p hrs =>
    cases h
    have hswept := hg.reclaimExpired now
    obtain ⟨i, r, hr, hfree, rfl, rfl⟩ := reserveFirst_eq_some hrs
    refine ⟨hswept.set hr rfl, ?_, fun q => ?_⟩
    · rw [← lease?_reclaimExpired, lease?, reservation?_eq, hswept.offset?_port hr,
        Option.bind_some, hr]
      exact hfree
    · rw [lease?_set hswept hr, lease?_reclaimExpired]
      rfl
  · cases h

/-- A refused request has swept. -/
theorem requestPort_error {g' : Registry} {name : ServiceName} {now : Instant} {e : Refusal}
    (h : g.requestPort name now = (g', .error e)) : g' = (g.reclaimExpired now).1 := by
  simp only [requestPort] at h
  split at h <;> cases h
  rfl

theorem sameTerms_requestPort (g : Registry) (name : ServiceName) (now : Instant) :
    g.SameTerms (g.requestPort name now).1 := by
  simp only [requestPort]
  split <;> exact ⟨rfl, rfl, rfl⟩

theorem sameTerms_of_requestPort {g' : Registry} {name : ServiceName} {now : Instant}
    {result : Except Refusal Port} (h : g.requestPort name now = (g', result)) :
    g.SameTerms g' := by
  have hterms := sameTerms_requestPort g name now
  rwa [h] at hterms

/-! ## Keeping alive and giving back -/

section Held

variable {name : ServiceName} {port : Port} (change : Reservation → Reservation)

theorem updateHeld_of_held (hg : g.WellFormed) {alive : Instant}
    (h : g.lease? port = some ⟨name, alive⟩) (hport : ∀ r, (change r).port = r.port) :
    ∃ g', g.updateHeld name port change = (g', .ok ()) ∧ g'.WellFormed ∧
      ∀ q, g'.lease? q =
        if q = port then (change ⟨port, some ⟨name, alive⟩⟩).lease? else g.lease? q := by
  obtain ⟨i, hi⟩ := List.mem_iff_getElem?.1 ((lease?_eq_some_iff hg).1 h)
  refine ⟨_, ?_, hg.set hi (hport _), fun q => lease?_set hg hi q⟩
  simp only [updateHeld, hg.offset?_port hi, hi]
  exact if_pos ⟨trivial, beq_self_eq_true _⟩

theorem updateHeld_of_not_held (hg : g.WellFormed)
    (h : ∀ alive, g.lease? port ≠ some ⟨name, alive⟩) :
    g.updateHeld name port change = (g, .error (.serviceNotFound name)) := by
  unfold updateHeld
  split
  · rfl
  · split
    · rfl
    · next i _ r hr =>
      refine if_neg ?_
      rintro ⟨rfl, hheld⟩
      obtain ⟨alive, hlease⟩ := Reservation.isHeldBy_iff.1 hheld
      refine h alive ((lease?_eq_some_iff hg).2 ?_)
      rw [← hlease]
      exact List.mem_of_getElem? hr

theorem sameTerms_updateHeld (g : Registry) (name : ServiceName) (port : Port) :
    g.SameTerms (g.updateHeld name port change).1 := by
  unfold updateHeld
  split
  · exact ⟨rfl, rfl, rfl⟩
  · split
    · exact ⟨rfl, rfl, rfl⟩
    · split <;> exact ⟨rfl, rfl, rfl⟩

end Held

/-! ## Operations -/

theorem apply_request_fst (g : Registry) (name : ServiceName) (now : Instant) :
    (g.apply (.request name now)).1 = (g.requestPort name now).1 := by
  rw [apply]
  rcases g.requestPort name now with ⟨g', _ | _⟩ <;> rfl

theorem apply_keepAlive_fst (g : Registry) (name : ServiceName) (port : Port) (now : Instant) :
    (g.apply (.keepAlive name port now)).1 = (g.keepAlive name port now).1 := by
  rw [apply]
  rcases g.keepAlive name port now with ⟨g', _ | _⟩ <;> rfl

theorem apply_close_fst (g : Registry) (name : ServiceName) (port : Port) :
    (g.apply (.close name port)).1 = (g.closePort name port).1 := by
  rw [apply]
  rcases g.closePort name port with ⟨g', _ | _⟩ <;> rfl

theorem apply_lookup_fst (g : Registry) (name : ServiceName) : (g.apply (.lookup name)).1 = g := by
  rw [apply]
  rcases g.lookupPort name with _ | _ <;> rfl

theorem exists_lookupPort_ok_iff (hg : g.WellFormed) {name : ServiceName} :
    (∃ port, g.lookupPort name = .ok port) ↔ ∃ port alive, g.lease? port = some ⟨name, alive⟩ := by
  have hfind : (∃ port, g.lookupPort name = .ok port) ↔ ∃ r ∈ g.reservations, r.isHeldBy name := by
    rw [← List.find?_isSome]
    unfold lookupPort
    cases g.reservations.find? (·.isHeldBy name) <;> simp
  rw [hfind]
  constructor
  · rintro ⟨r, hmem, hheld⟩
    obtain ⟨alive, hlease⟩ := Reservation.isHeldBy_iff.1 hheld
    exact ⟨r.port, alive, (lease?_eq_some_iff hg).2 (hlease ▸ hmem)⟩
  · rintro ⟨port, alive, h⟩
    exact ⟨_, (lease?_eq_some_iff hg).1 h, beq_self_eq_true _⟩

end Registry

end Harbor.Lease
