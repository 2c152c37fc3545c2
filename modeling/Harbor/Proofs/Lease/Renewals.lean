import Harbor.Proofs.Lease.Scans

/-!
# What a keep-alive does to the end of a lease

A keep-alive sets the last sign of life of a lease to the time at which it arrives. If
the clock has stepped back since the sign of life before, the lease ends earlier than it
did. A registry whose operations have all come by the time of the keep-alive has no such
lease.

Main results:

* `AliveBy.run`: no lease has a sign of life later than every operation of the run.
* `keepAlive_shortens_iff`: when a keep-alive shortens a lease, and by how much.
-/

namespace Harbor.Lease.Registry

/-- Is there a lease on the port, and has it lapsed? -/
def isLapsed (g : Registry) (port : Port) (now : Instant) : Bool :=
  (g.reservation? port).any (·.isExpired now g.timeout)

/-- The time at which an operation arrives, if it matters. -/
def Operation.now? : Operation → Option Instant
  | .request _ now | .keepAlive _ _ now | .reclaim now | .message _ now => some now
  | .close _ _ | .lookup _ | .stop => none

/-- No lease has a later sign of life. -/
def AliveBy (g : Registry) (now : Instant) : Prop :=
  ∀ port lease, g.lease? port = some lease → lease.lastAlive ≤ now

/-! ## Signs of life -/

/-- The sign of life that a deed gives to a lease. -/
def Deed.signedAt? : Deed → Option Instant
  | grant _ _ now | refresh _ _ now => some now
  | sweep _ | close _ _ | nothing => none

theorem Deed.signedAt?_of_refreshedAt? {d : Deed} {name : ServiceName} {port : Port}
    {now : Instant} (h : d.refreshedAt? name port = some now) : d.signedAt? = some now := by
  unfold refreshedAt? at h
  split at h
  · split at h
    · exact h
    · cases h
  · cases h

theorem Deed.eq_of_signedAt?_ofResponse {m response : Message} {now s : Instant}
    (h : (ofResponse m now response).signedAt? = some s) : now = s := by
  unfold ofResponse at h
  split at h <;> first | exact Option.some.inj h | cases h

theorem Deed.now?_of_signedAt? {o : Operation} {out : Outcome} {now : Instant}
    (h : (Deed.of o out).signedAt? = some now) : o.now? = some now := by
  cases o with
  | request | keepAlive | reclaim => cases out <;> first | exact h | cases h
  | message m s =>
    cases out with
    | answer response => exact congrArg some (eq_of_signedAt?_ofResponse h)
    | _ => cases h
  | _ => cases out <;> cases h

section Run

variable {g : Registry} {now : Instant}

theorem aliveBy_new (range : PortRange) (timeout : Span) : (new range timeout).AliveBy now := by
  intro port lease h
  rw [lease?_new] at h
  cases h

/-- An operation that has come by then gives no later sign of life. -/
theorem AliveBy.apply (h : g.AliveBy now) (hg : g.WellFormed) {o : Operation}
    (ho : ∀ s, o.now? = some s → s ≤ now) : (g.apply o).1.AliveBy now := by
  rintro port ⟨name, alive⟩ hlease
  rcases (Deed.takes_apply hg o).lease?_iff.1 hlease with hgrant | ⟨earlier, hbefore, -, rfl⟩
  · have hsign : (Deed.of o (g.apply o).2).signedAt? = some alive := by
      rw [hgrant]
      rfl
    exact ho alive (Deed.now?_of_signedAt? hsign)
  · cases hsign : (Deed.of o (g.apply o).2).refreshedAt? name port with
    | none => exact h port _ hbefore
    | some s => exact ho s (Deed.now?_of_signedAt? (Deed.signedAt?_of_refreshedAt? hsign))

theorem AliveBy.run (h : g.AliveBy now) (hg : g.WellFormed) {ops : List Operation}
    (hops : ∀ o ∈ ops, ∀ s, o.now? = some s → s ≤ now) : (g.run ops).1.AliveBy now := by
  induction ops generalizing g with
  | nil => exact h
  | cons o ops ih =>
    rw [List.forall_mem_cons] at hops
    exact ih (h.apply hg hops.1) (Deed.takes_apply hg o).wellFormed hops.2

end Run

/-! ## The end of a lease -/

section Lapsed

variable {g : Registry} {port : Port}

theorem isLapsed_eq (g : Registry) (port : Port) (now : Instant) :
    g.isLapsed port now = (g.lease? port).any (·.isExpired now g.timeout) := by
  rw [isLapsed, lease?]
  rcases g.reservation? port with _ | ⟨_, _ | _⟩ <;> rfl

/-- A lease has lapsed from the timeout after its last sign of life on. -/
theorem isLapsed_eq_true_iff {name : ServiceName} {alive now : Instant}
    (h : g.lease? port = some ⟨name, alive⟩) :
    g.isLapsed port now = true ↔ alive + g.timeout ≤ now := by
  rw [isLapsed_eq, h, Option.any_some, Lease.isExpired_iff, Int.add_comm,
    Int.add_le_iff_le_sub]

theorem isLapsed_eq_false_iff {name : ServiceName} {alive now : Instant}
    (h : g.lease? port = some ⟨name, alive⟩) :
    g.isLapsed port now = false ↔ now < alive + g.timeout := by
  rw [← Bool.not_eq_true, isLapsed_eq_true_iff h, Int.not_le]

/-- A keep-alive that succeeds was for a lease of the service; it sets the last sign of
    life of this lease, and leaves the others. -/
theorem keepAlive_ok {g' : Registry} {name : ServiceName} {now : Instant} (hg : g.WellFormed)
    (h : g.keepAlive name port now = (g', .ok ())) :
    ∃ alive, g.lease? port = some ⟨name, alive⟩ ∧ g'.timeout = g.timeout ∧
      ∀ q, g'.lease? q = if q = port then some ⟨name, now⟩ else g.lease? q := by
  have hok : (g.keepAlive name port now).2 = .ok () := by rw [h]
  obtain ⟨alive, hlease⟩ := (scan_iff hg).1 ((keepAlive_ok_iff hg).1 hok)
  obtain ⟨g'', heq, -, hleases⟩ := updateHeld_of_held (·.touch now) hg hlease fun _ => rfl
  obtain ⟨rfl, -⟩ := Prod.mk.inj (heq.symm.trans h)
  have hterms := sameTerms_updateHeld (·.touch now) g name port
  rw [heq] at hterms
  exact ⟨alive, hlease, hterms.timeout_eq, hleases⟩

end Lapsed

/-- A keep-alive that succeeds makes a lease lapse, at the times from the timeout after the
    keep-alive up to the timeout after the sign of life before it, where it would not have
    lapsed. So it shortens the lease exactly if it comes before that sign of life, which
    takes an operation of the run with a later time than its own. On other ports it changes
    nothing. -/
theorem keepAlive_shortens_iff (range : PortRange) (timeout : Span) (ops : List Operation)
    (name : ServiceName) (port : Port) (now : Instant) (g' : Registry)
    (h : ((new range timeout).run ops).1.keepAlive name port now = (g', .ok ())) :
    let g := ((new range timeout).run ops).1
    ∃ alive, (port, ⟨name, alive⟩) ∈ g.leases ∧
      (∀ t, (g.isLapsed port t = false ∧ g'.isLapsed port t = true) ↔
        now + timeout ≤ t ∧ t < alive + timeout) ∧
      ((∀ t, g.isLapsed port t = false → g'.isLapsed port t = false) ↔ alive ≤ now) ∧
      ((∀ o ∈ ops, ∀ s, o.now? = some s → s ≤ now) → alive ≤ now) ∧
      ∀ q, q ≠ port → ∀ t, g'.isLapsed q t = g.isLapsed q t := by
  intro g
  have hnew := wellFormed_new range timeout
  have hg : g.WellFormed := wellFormed_run hnew ops
  have htimeout : g.timeout = timeout := (follows_run (follows_new range timeout) ops).timeout_eq
  obtain ⟨alive, hlease, hterms, hleases⟩ := keepAlive_ok hg h
  have hlease' : g'.lease? port = some ⟨name, now⟩ := by rw [hleases, if_pos rfl]
  have hlost : ∀ t, (g.isLapsed port t = false ∧ g'.isLapsed port t = true) ↔
      now + timeout ≤ t ∧ t < alive + timeout := by
    intro t
    rw [isLapsed_eq_false_iff hlease, isLapsed_eq_true_iff hlease', hterms, htimeout, and_comm]
  refine ⟨alive, (mem_leases_iff hg).2 hlease, hlost, ⟨fun hkept => ?_, fun hle t hfalse => ?_⟩,
    fun hops => ?_, fun q hq t => ?_⟩
  · -- the first time at which the new lease has lapsed
    by_contra hlt
    obtain ⟨hbefore, hafter⟩ := (hlost (now + timeout)).2
      ⟨Int.le_refl _, Int.add_lt_add_right (Int.not_le.1 hlt) _⟩
    rw [hkept _ hbefore] at hafter
    cases hafter
  · rw [isLapsed_eq_false_iff hlease] at hfalse
    rw [isLapsed_eq_false_iff hlease', hterms]
    exact Int.lt_of_lt_of_le hfalse (Int.add_le_add_right hle _)
  · exact (aliveBy_new range timeout).run hnew hops port _ hlease
  · rw [isLapsed_eq, isLapsed_eq, hleases, if_neg hq, hterms]

/-- A lease of ten seconds that is kept alive three seconds after it was granted. -/
theorem keepAlive_shortens_iff_three_seconds :
    let range : PortRange := ⟨40000, 40001, by decide, by decide⟩
    let a : ServiceName := ⟨"A", by decide, by decide, by decide⟩
    let g := ((new range 10000).run [.request a 0]).1
    ∃ alive, (40000, ⟨a, alive⟩) ∈ g.leases ∧
      ((∀ t, g.isLapsed 40000 t = false → (g.keepAlive a 40000 3000).1.isLapsed 40000 t = false) ↔
        alive ≤ 3000) ∧ alive ≤ 3000 := by
  intro range a g
  obtain ⟨alive, hmem, -, hshortens, hordered, -⟩ :=
    keepAlive_shortens_iff range 10000 [.request a 0] a 40000 3000
      (g.keepAlive a 40000 3000).1 (by decide +kernel)
  refine ⟨alive, hmem, hshortens, hordered ?_⟩
  decide

/-- The clock steps back by fifty seconds between the grant of a lease and its keep-alive.
    Five seconds after the grant the lease has lapsed, and without the keep-alive it would
    not have. -/
theorem keepAlive_shortens_after_step_back :
    let range : PortRange := ⟨40000, 40000, by decide, by decide⟩
    let a : ServiceName := ⟨"A", by decide, by decide, by decide⟩
    let g := ((new range 10000).run [.request a 100000]).1
    (g.keepAlive a 40000 50000).2 = .ok () ∧ g.isLapsed 40000 105000 = false ∧
      (g.keepAlive a 40000 50000).1.isLapsed 40000 105000 = true := by
  decide +kernel

end Harbor.Lease.Registry
