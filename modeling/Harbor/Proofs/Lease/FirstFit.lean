import Harbor.Proofs.Lease.Scans

/-!
# Requests

A request looks at the reservations twice: the first pass takes back the leases that have
lapsed, the second leases the first port that is free then. Together they lease the lowest
of the ports that were vacant before the request. The second pass can fail only if the
first has released nothing, so a request that fails changes nothing.

Main results:

* `vacant_iff_exists`: the second pass finds free what was vacant before the first.
* `requestPort_ok_iff`, `requestPort_error_iff`: when a request is granted, and what then.
* `requestPort_first_fit`: requests after every run.
* `exists_requestPort_of_vacant`: requests at one time come to every vacant port.
-/

namespace Harbor.Lease.Registry

variable {g g' : Registry} {name : ServiceName} {now : Instant} {port q : Port}

/-- A port of the range has no lease on it, or one that has lapsed. -/
def Vacant (g : Registry) (now : Instant) (port : Port) : Prop :=
  g.range.contains port ∧
    ∀ lease, g.lease? port = some lease → (g.timeout : Int) ≤ now - lease.lastAlive

theorem vacant_iff : g.Vacant now port ↔ g.range.contains port ∧ g.surviving? now port = none := by
  rw [Vacant, Option.eq_none_iff_forall_ne_some]
  refine and_congr_right fun _ => forall_congr' fun lease => ?_
  rw [ne_eq, surviving?_eq_some_iff, not_and, Int.not_lt]

/-- A port of the range that is not vacant has a lease on it that has not lapsed. -/
theorem not_vacant_iff : ¬ g.Vacant now port ↔
    (g.range.contains port →
      ∃ lease, g.lease? port = some lease ∧ now - lease.lastAlive < g.timeout) := by
  rw [vacant_iff, not_and, ← ne_eq, Option.ne_none_iff_exists']
  simp only [surviving?_eq_some_iff]

theorem lease?_eq_none_of_not_contains (h : ¬ g.range.contains port) : g.lease? port = none := by
  rw [lease?, reservation?_eq, PortRange.offset?, if_neg h]
  rfl

/-- A sweep that leaves no port vacant has released nothing. -/
theorem reclaimExpired_eq_self (hg : g.WellFormed) (h : ∀ port, ¬ g.Vacant now port) :
    (g.reclaimExpired now).1 = g := by
  refine hg.eq_of_lease? (hg.reclaimExpired now) (sameTerms_reclaimExpired g now) fun port => ?_
  rw [lease?_reclaimExpired]
  by_cases hport : g.range.contains port
  · obtain ⟨lease, hlease, hlasts⟩ := not_vacant_iff.1 (h port) hport
    rw [hlease, surviving?_eq_some_iff]
    exact ⟨hlease, hlasts⟩
  · rw [surviving?, lease?_eq_none_of_not_contains hport]
    rfl

/-- The ports that are free after the sweep are those that were vacant before it. -/
theorem vacant_iff_exists (hg : g.WellFormed) (port : Port) : g.Vacant now port ↔
    ∃ r ∈ (g.reclaimExpired now).1.reservations, r.isAvailable ∧ r.port = port := by
  rw [(hg.reclaimExpired now).reservations_eq, vacant_iff, ← PortRange.mem_ports_iff]
  simp only [List.mem_map, Reservation.isAvailable, Option.isNone_iff_eq_none,
    lease?_reclaimExpired]
  constructor
  · rintro ⟨hport, hfree⟩
    exact ⟨_, ⟨port, hport, rfl⟩, hfree, rfl⟩
  · rintro ⟨_, ⟨p, hp, rfl⟩, hfree, rfl⟩
    exact ⟨hp, hfree⟩

/-! ## One request -/

theorem map_snd_reserveFirst (name : ServiceName) (now : Instant) (rs : List Reservation) :
    (reserveFirst name now rs).map Prod.snd =
      (rs.find? (·.isAvailable)).map Reservation.port := by
  induction rs with
  | nil => rfl
  | cons r rs ih =>
    rw [reserveFirst, List.find?_cons]
    cases r.isAvailable with
    | true => rfl
    | false =>
      rw [if_neg Bool.false_ne_true, ← ih, Option.map_map]
      rfl

theorem requestPort_snd (g : Registry) (name : ServiceName) (now : Instant) :
    (g.requestPort name now).2 =
      match ((g.reclaimExpired now).1.reservations.find? (·.isAvailable)).map Reservation.port with
      | some port => .ok port
      | none => .error .allPortsBusy := by
  rw [← map_snd_reserveFirst name now, requestPort]
  cases reserveFirst name now (g.reclaimExpired now).1.reservations <;> rfl

/-- A request is granted the lowest port that is vacant. -/
theorem requestPort_snd_eq_ok_iff (hg : g.WellFormed) (name : ServiceName) :
    (g.requestPort name now).2 = .ok port ↔
      g.Vacant now port ∧ ∀ q, g.Vacant now q → port ≤ q := by
  rw [← map_find?_eq_some_iff (vacant_iff_exists hg) (hg.reclaimExpired now), requestPort_snd]
  cases ((g.reclaimExpired now).1.reservations.find? (·.isAvailable)).map Reservation.port <;> simp

theorem requestPort_snd_eq_error_iff (hg : g.WellFormed) {e : Refusal} :
    (g.requestPort name now).2 = .error e ↔ e = .allPortsBusy ∧ ∀ port, ¬ g.Vacant now port := by
  rw [← map_find?_eq_none_iff (vacant_iff_exists hg), requestPort_snd]
  cases ((g.reclaimExpired now).1.reservations.find? (·.isAvailable)).map Reservation.port <;>
    simp [eq_comm]

/-- A granted request leases the port and takes back what has lapsed. -/
theorem eq_mapLeases_of_requestPort (hg : g.WellFormed)
    (h : g.requestPort name now = (g', .ok port)) :
    g' = g.mapLeases fun q lease? => if q = port then some ⟨name, now⟩
      else lease?.filter fun lease => now - lease.lastAlive < g.timeout := by
  obtain ⟨hg', -, hleases⟩ := requestPort_ok hg h
  refine hg.eq_mapLeases hg' (sameTerms_of_requestPort h) fun q => ?_
  rw [hleases, surviving?]
  congr 2
  funext lease
  rw [Bool.eq_iff_iff, Bool.not_eq_true', ← Bool.not_eq_true, Lease.isExpired_iff, Int.not_le,
    decide_eq_true_iff]

theorem requestPort_ok_iff (hg : g.WellFormed) :
    g.requestPort name now = (g', .ok port) ↔
      g.Vacant now port ∧ (∀ q, g.Vacant now q → port ≤ q) ∧
        g' = g.mapLeases fun q lease? => if q = port then some ⟨name, now⟩
          else lease?.filter fun lease => now - lease.lastAlive < g.timeout := by
  rw [← and_assoc, ← requestPort_snd_eq_ok_iff hg name]
  constructor
  · intro h
    exact ⟨congrArg Prod.snd h, eq_mapLeases_of_requestPort hg h⟩
  · rintro ⟨hport, rfl⟩
    have h : g.requestPort name now = ((g.requestPort name now).1, .ok port) := Prod.ext rfl hport
    rw [h, eq_mapLeases_of_requestPort hg h]

/-- A request fails if no port is vacant, and leaves the registry as it is: there was
    nothing to take back. -/
theorem requestPort_error_iff (hg : g.WellFormed) {e : Refusal} :
    g.requestPort name now = (g', .error e) ↔
      e = .allPortsBusy ∧ g' = g ∧ ∀ port, g.range.contains port →
        ∃ lease, g.lease? port = some lease ∧ now - lease.lastAlive < g.timeout := by
  simp only [← not_vacant_iff]
  constructor
  · intro h
    have hnone := (requestPort_snd_eq_error_iff hg).1 (congrArg Prod.snd h)
    refine ⟨hnone.1, ?_, hnone.2⟩
    rw [requestPort_error h, reclaimExpired_eq_self hg hnone.2]
  · rintro ⟨rfl, rfl, hnone⟩
    have h : g'.requestPort name now = ((g'.requestPort name now).1, .error .allPortsBusy) :=
      Prod.ext rfl ((requestPort_snd_eq_error_iff hg).2 ⟨rfl, hnone⟩)
    rw [h, requestPort_error h, reclaimExpired_eq_self hg hnone]

/-- After every run a request is granted the lowest port of the range that has no lease on
    it or one that has lapsed. The port is leased to the service from now on, the other
    leases that have lapsed are gone, and every other lease stays as it is. A request fails
    exactly if each port of the range has a lease on it that has not lapsed, and changes
    nothing then. -/
theorem requestPort_first_fit (range : PortRange) (timeout : Span) (ops : List Operation)
    (name : ServiceName) (now : Instant) :
    let g := ((new range timeout).run ops).1
    (∀ g' port, g.requestPort name now = (g', .ok port) ↔
      g.Vacant now port ∧ (∀ q, g.Vacant now q → port ≤ q) ∧
        g' = g.mapLeases fun q lease? => if q = port then some ⟨name, now⟩
          else lease?.filter fun lease => now - lease.lastAlive < timeout) ∧
    (∀ g' e, g.requestPort name now = (g', .error e) ↔
      e = .allPortsBusy ∧ g' = g ∧ ∀ port, range.contains port →
        ∃ lease, g.lease? port = some lease ∧ now - lease.lastAlive < timeout) := by
  intro g
  have hrun : Follows timeout g _ := follows_run (follows_new range timeout) ops
  have hrange : g.range = range := range_run _ ops
  refine ⟨fun g' port => ?_, fun g' e => ?_⟩
  · rw [requestPort_ok_iff hrun.wellFormed, hrun.timeout_eq]
  · rw [requestPort_error_iff hrun.wellFormed, hrun.timeout_eq, hrange]

/-! ## Requests at one time -/

section Successive

variable (hg : g.WellFormed)
include hg

theorem exists_requestPort_ok (name : ServiceName) (hport : g.Vacant now port) :
    ∃ g' p, g.requestPort name now = (g', .ok p) := by
  rcases hreq : g.requestPort name now with ⟨g', e | p⟩
  · have hnone := (requestPort_snd_eq_error_iff hg).1 (congrArg Prod.snd hreq)
    exact absurd hport (hnone.2 port)
  · exact ⟨g', p, rfl⟩

/-- A port that has just been granted is not vacant. -/
theorem vacant_iff_of_requestPort (htimeout : 0 < g.timeout)
    (h : g.requestPort name now = (g', .ok port)) :
    g'.Vacant now q ↔ g.Vacant now q ∧ q ≠ port := by
  have hterms := sameTerms_of_requestPort h
  obtain ⟨-, -, hleases⟩ := requestPort_ok hg h
  rw [Vacant, Vacant, hterms.range_eq, hterms.timeout_eq, hleases]
  by_cases hq : q = port
  · refine iff_of_false ?_ fun h => h.2 hq
    rintro ⟨-, hlapsed⟩
    have hage : (g.timeout : Int) ≤ now - now := hlapsed ⟨name, now⟩ (if_pos hq)
    rw [Int.sub_self] at hage
    exact absurd (Int.natCast_pos.2 htimeout) (Int.not_lt.2 hage)
  · rw [if_neg hq, and_iff_left hq]
    refine and_congr_right fun _ => forall_congr' fun lease => ?_
    rw [surviving?_eq_some_iff, and_imp, ← Int.not_lt, imp_not_self]

/-- The requests come to a port once they have come to the vacant ports below it. -/
theorem exists_requestPort_of_vacant_of_lt (htimeout : 0 < g.timeout) (name : ServiceName)
    (hport : g.Vacant now port) {d : Nat} (hd : ∀ q, g.Vacant now q → port.toNat < q.toNat + d) :
    ∃ k, ((g.run (List.replicate k (.request name now))).1.requestPort name now).2 =
      .ok port := by
  -- `d` bounds how far the port lies above the lowest vacant one, which the next request takes
  induction d generalizing g with
  | zero => exact absurd (hd port hport) (Nat.lt_irrefl _)
  | succ d ih =>
    obtain ⟨g', p, hreq⟩ := exists_requestPort_ok hg name hport
    obtain ⟨hp, hlowest⟩ := (requestPort_snd_eq_ok_iff hg name).1 (congrArg Prod.snd hreq)
    by_cases hne : port = p
    · exact ⟨0, hne ▸ congrArg Prod.snd hreq⟩
    · have hvacant := fun q => vacant_iff_of_requestPort (q := q) hg htimeout hreq
      have htimeout' : 0 < g'.timeout := (sameTerms_of_requestPort hreq).timeout_eq ▸ htimeout
      obtain ⟨k, hk⟩ := ih (requestPort_ok hg hreq).1 htimeout'
        ((hvacant port).2 ⟨hport, hne⟩) fun q hq => by
          obtain ⟨hq, hqp⟩ := (hvacant q).1 hq
          have hlt := UInt16.lt_iff_toNat_lt.1 (UInt16.lt_of_le_of_ne (hlowest q hq) (Ne.symm hqp))
          have := hd p hp
          omega
      refine ⟨k + 1, ?_⟩
      show (((g.apply (.request name now)).1.run _).1.requestPort name now).2 = .ok port
      rw [apply_request_fst, hreq]
      exact hk

/-- Requests at one time come to every port that is vacant. -/
theorem exists_requestPort_of_vacant (htimeout : 0 < g.timeout) (name : ServiceName)
    (hport : g.Vacant now port) :
    ∃ k, ((g.run (List.replicate k (.request name now))).1.requestPort name now).2 = .ok port :=
  exists_requestPort_of_vacant_of_lt hg htimeout name hport (d := port.toNat + 1) fun q _ => by
    omega

end Successive

end Harbor.Lease.Registry
