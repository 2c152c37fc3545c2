import Harbor.Proofs.Lease.History

/-!
# Reservations by offset and by scan

The registry finds the reservation of a port by the port's offset in the range, and a
service or a free port by looking at the reservations one after another. The two ways
agree because the reservations are the ports of the range in ascending order, whatever
has been asked of the registry: a port stands where its offset says, and a scan stops at
the lowest port at which it can.

Main results:

* `map_find?_eq_some_iff`: where a scan stops.
* `updateHeld_eq`: a change by offset is made when a scan finds the lease, to this lease
  and to no other.
* `offset_agrees_with_scan`: keeping alive, giving back and looking up after every run.
-/

namespace Harbor.Lease.Registry

variable {g : Registry}

/-- The registry with another lease, or none, on each port. -/
def mapLeases (g : Registry) (f : Port → Option Lease → Option Lease) : Registry :=
  { g with reservations := g.reservations.map fun r => ⟨r.port, f r.port r.lease?⟩ }

/-- A scan of the reservations comes upon the port with a lease of the service. -/
def scan (g : Registry) (name : ServiceName) (port : Port) : Bool :=
  g.reservations.any fun r => r.port == port && r.isHeldBy name

/-- A registry is told from another with the same terms by the leases on the ports of its
    range. -/
theorem WellFormed.eq_mapLeases {g' : Registry} (hg : g.WellFormed) (hg' : g'.WellFormed)
    (hterms : g.SameTerms g') {f : Port → Option Lease → Option Lease}
    (h : ∀ port, g'.lease? port = f port (g.lease? port)) : g' = g.mapLeases f := by
  have hterms' : (g.mapLeases f).SameTerms g' :=
    ⟨hterms.range_eq, hterms.timeout_eq, hterms.stopped_eq⟩
  refine hterms'.eq_of_reservations ?_
  rw [hg'.reservations_eq, hterms.range_eq, mapLeases, hg.reservations_eq, List.map_map]
  exact List.map_congr_left fun port _ => by rw [h, Function.comp_apply]

/-! ## Scans -/

theorem WellFormed.pairwise_port (hg : g.WellFormed) :
    g.reservations.Pairwise fun r r' => r.port < r'.port := by
  rw [← List.pairwise_map, hg]
  exact g.range.pairwise_ports

section Find

variable {p : Reservation → Bool} {P : Port → Prop}
  (hP : ∀ port, P port ↔ ∃ r ∈ g.reservations, p r ∧ r.port = port)
include hP

/-- A scan stops at the lowest of the ports at which it can. -/
theorem map_find?_eq_some_iff (hg : g.WellFormed) {port : Port} :
    (g.reservations.find? p).map Reservation.port = some port ↔
      P port ∧ ∀ q, P q → port ≤ q := by
  have hleast : ∀ r, g.reservations.find? p = some r →
      P r.port ∧ ∀ q, P q → r.port ≤ q := by
    intro r hr
    refine ⟨(hP _).2 ⟨r, List.mem_of_find?_eq_some hr, List.find?_some hr, rfl⟩, fun q hq => ?_⟩
    obtain ⟨r', hmem, hp, rfl⟩ := (hP q).1 hq
    obtain ⟨-, before, after, heq, hbefore⟩ := List.find?_eq_some_iff_append.1 hr
    have hsorted := hg.pairwise_port
    rw [heq, List.pairwise_append, List.pairwise_cons] at hsorted
    rw [heq, List.mem_append, List.mem_cons] at hmem
    rcases hmem with hmem | rfl | hmem
    · have hnot := hbefore r' hmem
      rw [hp] at hnot
      cases hnot
    · exact UInt16.le_refl _
    · exact UInt16.le_of_lt (hsorted.2.1.1 r' hmem)
  constructor
  · intro h
    obtain ⟨r, hr, rfl⟩ := Option.map_eq_some_iff.1 h
    exact hleast r hr
  · rintro ⟨hport, hle⟩
    obtain ⟨r, hmem, hp, -⟩ := (hP port).1 hport
    obtain ⟨r', hr'⟩ := Option.isSome_iff_exists.1 (List.find?_isSome.2 ⟨r, hmem, hp⟩)
    obtain ⟨hstop, hle'⟩ := hleast r' hr'
    rw [hr', Option.map_some, UInt16.le_antisymm (hle' port hport) (hle _ hstop)]

theorem map_find?_eq_none_iff :
    (g.reservations.find? p).map Reservation.port = none ↔ ∀ q, ¬ P q := by
  rw [Option.map_eq_none_iff, List.find?_eq_none]
  constructor
  · intro h q hq
    obtain ⟨r, hmem, hp, -⟩ := (hP q).1 hq
    exact h r hmem hp
  · exact fun h r hmem hp => h r.port ((hP _).2 ⟨r, hmem, hp, rfl⟩)

end Find

/-- The reservation that stands at a port's offset is the one that a scan for the port
    finds. -/
theorem reservation?_eq_find? (hg : g.WellFormed) (port : Port) :
    g.reservation? port = g.reservations.find? (·.port == port) := by
  cases hfind : g.reservations.find? (·.port == port) with
  | some r =>
    exact (reservation?_eq_some_iff hg).2
      ⟨List.mem_of_find?_eq_some hfind, eq_of_beq (List.find?_some hfind :)⟩
  | none =>
    rw [Option.eq_none_iff_forall_ne_some]
    intro r hr
    obtain ⟨hmem, hport⟩ := (reservation?_eq_some_iff hg).1 hr
    exact List.find?_eq_none.1 hfind r hmem (beq_iff_eq.2 hport)

theorem scan_iff_exists {name : ServiceName} {port : Port} :
    g.scan name port ↔ ∃ r ∈ g.reservations, r.isHeldBy name ∧ r.port = port := by
  simp only [scan, List.any_eq_true, Bool.and_eq_true, beq_iff_eq, and_comm]

theorem scan_iff (hg : g.WellFormed) {name : ServiceName} {port : Port} :
    g.scan name port ↔ ∃ alive, g.lease? port = some ⟨name, alive⟩ := by
  simp only [scan_iff_exists, Reservation.isHeldBy_iff, lease?_eq_some_iff hg]
  constructor
  · rintro ⟨r, hmem, ⟨alive, hlease⟩, rfl⟩
    exact ⟨alive, hlease ▸ hmem⟩
  · rintro ⟨alive, hmem⟩
    exact ⟨_, hmem, ⟨alive, rfl⟩, rfl⟩

/-! ## Operations -/

section Held

variable {name : ServiceName} {port : Port}

/-- A change by offset as a scan would make it. -/
theorem updateHeld_eq (hg : g.WellFormed) (change : Reservation → Reservation)
    (hport : ∀ r, (change r).port = r.port) {left? : Option Lease}
    (hchange : ∀ alive, (change ⟨port, some ⟨name, alive⟩⟩).lease? = left?) :
    g.updateHeld name port change =
      if g.scan name port then
        (g.mapLeases fun q lease? => if q = port then left? else lease?, .ok ())
      else (g, .error (.serviceNotFound name)) := by
  by_cases hscan : g.scan name port
  · obtain ⟨alive, h⟩ := (scan_iff hg).1 hscan
    have hterms := sameTerms_updateHeld change g name port
    obtain ⟨g', heq, hg', hleases⟩ := updateHeld_of_held change hg h hport
    rw [heq] at hterms ⊢
    rw [if_pos hscan, hg.eq_mapLeases hg' hterms fun q => by rw [hleases, hchange]]
  · rw [if_neg hscan, updateHeld_of_not_held change hg fun alive h =>
      hscan ((scan_iff hg).2 ⟨alive, h⟩)]

theorem keepAlive_eq (hg : g.WellFormed) (now : Instant) :
    g.keepAlive name port now =
      if g.scan name port then
        (g.mapLeases fun q lease? => if q = port then some ⟨name, now⟩ else lease?, .ok ())
      else (g, .error (.serviceNotFound name)) :=
  updateHeld_eq hg (·.touch now) (fun _ => rfl) fun _ => rfl

theorem closePort_eq (hg : g.WellFormed) :
    g.closePort name port =
      if g.scan name port then
        (g.mapLeases fun q lease? => if q = port then none else lease?, .ok ())
      else (g, .error (.serviceNotFound name)) :=
  updateHeld_eq hg Reservation.release (fun _ => rfl) fun _ => rfl

theorem keepAlive_ok_iff (hg : g.WellFormed) {now : Instant} :
    (g.keepAlive name port now).2 = .ok () ↔ g.scan name port := by
  rw [keepAlive_eq hg]
  split <;> simp [*]

theorem lookupPort_eq (g : Registry) (name : ServiceName) :
    g.lookupPort name = match (g.reservations.find? (·.isHeldBy name)).map Reservation.port with
      | some port => .ok port
      | none => .error (.serviceNotFound name) := by
  rw [lookupPort]
  cases g.reservations.find? (·.isHeldBy name) <;> rfl

/-- A look-up finds the lowest port that a scan finds leased to the service. -/
theorem lookupPort_ok_iff (hg : g.WellFormed) :
    g.lookupPort name = .ok port ↔ g.scan name port ∧ ∀ q, g.scan name q → port ≤ q := by
  rw [← map_find?_eq_some_iff (fun _ => scan_iff_exists) hg, lookupPort_eq]
  cases (g.reservations.find? (·.isHeldBy name)).map Reservation.port <;> simp

theorem lookupPort_error_iff :
    g.lookupPort name = .error (.serviceNotFound name) ↔ ∀ q, ¬ g.scan name q := by
  rw [← map_find?_eq_none_iff fun _ => scan_iff_exists, lookupPort_eq]
  cases (g.reservations.find? (·.isHeldBy name)).map Reservation.port <;> simp

end Held

/-- After every run the reservations are the ports of the range, each once and in ascending
    order, and what is found by offset is what a scan of all of them finds. A service keeps
    a lease alive, or gives it back, exactly if a scan comes upon the port with a lease of
    the service; then this lease changes and no other, and else nothing does. A look-up
    finds the lowest port that the service could keep alive. -/
theorem offset_agrees_with_scan (range : PortRange) (timeout : Span) (ops : List Operation)
    (name : ServiceName) (port : Port) (now : Instant) :
    let g := ((new range timeout).run ops).1
    (∀ p, p ∈ g.reservations.map Reservation.port ↔ range.first ≤ p ∧ p ≤ range.last) ∧
    (g.reservations.map Reservation.port).Pairwise (· < ·) ∧
    g.reservation? port = g.reservations.find? (·.port == port) ∧
    g.keepAlive name port now = (if g.scan name port then
        (g.mapLeases fun q lease? => if q = port then some ⟨name, now⟩ else lease?, .ok ())
      else (g, .error (.serviceNotFound name))) ∧
    g.closePort name port = (if g.scan name port then
        (g.mapLeases fun q lease? => if q = port then none else lease?, .ok ())
      else (g, .error (.serviceNotFound name))) ∧
    (g.lookupPort name = .ok port ↔ (g.keepAlive name port now).2 = .ok () ∧
      ∀ q, (g.keepAlive name q now).2 = .ok () → port ≤ q) ∧
    (g.lookupPort name = .error (.serviceNotFound name) ↔
      ∀ q, (g.keepAlive name q now).2 ≠ .ok ()) := by
  intro g
  have hg : g.WellFormed := wellFormed_run (wellFormed_new range timeout) ops
  have hports : g.reservations.map Reservation.port = range.ports := by
    rw [hg, range_run]
    rfl
  refine ⟨fun p => ?_, ?_, reservation?_eq_find? hg port, keepAlive_eq hg now, closePort_eq hg,
    ?_, ?_⟩
  · rw [hports, PortRange.mem_ports_iff]
    simp [PortRange.contains]
  · rw [hports]
    exact range.pairwise_ports
  · simp only [keepAlive_ok_iff hg]
    exact lookupPort_ok_iff hg
  · simp only [ne_eq, keepAlive_ok_iff hg]
    exact lookupPort_error_iff

end Harbor.Lease.Registry
