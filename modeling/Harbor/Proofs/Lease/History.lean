import Harbor.Proofs.Lease.Leases
import Harbor.Proofs.Lease.Messages

/-!
# Leases and their history

A `Deed` is what one step of a history does to the leases, read off the operation
and its answer alone. A port is leased to a service exactly when the deeds say so:
it was granted, and since then it has been neither given back nor swept at a time at
which the timeout had passed since the last sign of life.

`Deed.Takes` is all that a step can do, and `Follows` the invariant that links the
stored times to the history.

Main results:

* `takes_apply`: every operation is its deed.
* `follows_run`: after every run the leases are those that the history says.
* `leasedTo_iff_granted`: who holds a port after a run, and what that entails.
-/

namespace Harbor.Lease.Registry

/-! ## Deeds -/

/-- What a step does to the leases. -/
inductive Deed where
  /-- A request is answered with a port. It sweeps first. -/
  | grant (name : ServiceName) (port : Port) (now : Instant)
  /-- A sweep that grants nothing. -/
  | sweep (now : Instant)
  /-- A lease is kept alive. -/
  | refresh (name : ServiceName) (port : Port) (now : Instant)
  /-- A lease is given back. -/
  | close (name : ServiceName) (port : Port)
  | nothing
  deriving DecidableEq

namespace Deed

/-- The deed of a message, by the response to it. -/
def ofResponse (m : Message) (now : Instant) (response : Message) : Deed :=
  match m.kind, response.status with
  | .requestPort, .success => grant m.name response.port now
  | .requestPort, _ => sweep now
  | .keepAlive, .success => refresh m.name m.port now
  | .closePort, .success => close m.name m.port
  | _, _ => nothing

/-- The deed of an operation, by its outcome. -/
def of : Operation → Outcome → Deed
  | .request name now, .port port => grant name port now
  | .request _ now, _ => sweep now
  | .keepAlive name port now, .done => refresh name port now
  | .close name port, .done => close name port
  | .reclaim now, _ => sweep now
  | .message m now, .answer response => ofResponse m now response
  | _, _ => nothing

/-- The time at which a deed sweeps. -/
def sweptAt? : Deed → Option Instant
  | grant _ _ now => some now
  | sweep now => some now
  | _ => none

/-- The time at which a deed keeps the lease of a service on a port alive. -/
def refreshedAt? (name : ServiceName) (port : Port) : Deed → Option Instant
  | refresh name' port' now => if name' = name ∧ port' = port then some now else none
  | _ => none

end Deed

/-- The deeds of a run. -/
def history (g : Registry) (ops : List Operation) : List Deed :=
  List.zipWith Deed.of ops (g.run ops).2

section Lasting

variable (timeout : Span) (name : ServiceName) (port : Port) (since : Instant)

/-- The last sign of life of a lease granted at `since`, after further deeds. -/
def lastSign (deeds : List Deed) : Instant :=
  (deeds.filterMap (Deed.refreshedAt? name port)).getLast?.getD since

/-- A lease granted at `since` outlasts further deeds: it is not given back, and no
    sweep comes when the timeout has passed since the last sign of life before it. -/
def Outlasts (deeds : List Deed) : Prop :=
  .close name port ∉ deeds ∧ ∀ before d after now, deeds = before ++ d :: after →
    d.sweptAt? = some now → now - lastSign name port since before < timeout

/-- The history granted the port to the service, and the lease has outlasted what came
    after, with its last sign of life at `alive`. -/
def Granted (deeds : List Deed) (alive : Instant) : Prop :=
  ∃ before since after, deeds = before ++ .grant name port since :: after ∧
    Outlasts timeout name port since after ∧ lastSign name port since after = alive

end Lasting

/-- The port is leased to the service. -/
def LeasedTo (g : Registry) (port : Port) (name : ServiceName) : Prop :=
  ∃ alive, (port, ⟨name, alive⟩) ∈ g.leases

/-! ## One more deed -/

section Append

variable {timeout : Span} {name : ServiceName} {port : Port} {since alive : Instant}
  {deeds : List Deed} {d : Deed}

/-- What a deed must not be for a lease that was alive at `alive` to outlast it. -/
def Spares (timeout : Span) (name : ServiceName) (port : Port) (alive : Instant) (d : Deed) : Prop :=
  d ≠ .close name port ∧ ∀ now, d.sweptAt? = some now → now - alive < timeout

theorem lastSign_concat : lastSign name port since (deeds ++ [d]) =
    (d.refreshedAt? name port).getD (lastSign name port since deeds) := by
  unfold lastSign
  rw [List.filterMap_append]
  cases h : d.refreshedAt? name port with
  | none => rw [List.filterMap_cons_none h, List.filterMap_nil, List.append_nil, Option.getD_none]
  | some now =>
    rw [List.filterMap_cons_some h, List.filterMap_nil, List.getLast?_concat, Option.getD_some,
      Option.getD_some]

theorem outlasts_concat : Outlasts timeout name port since (deeds ++ [d]) ↔
    Outlasts timeout name port since deeds ∧
      Spares timeout name port (lastSign name port since deeds) d := by
  unfold Outlasts Spares
  constructor
  · rintro ⟨hclose, hsweep⟩
    rw [List.mem_append, List.mem_singleton, not_or] at hclose
    refine ⟨⟨hclose.1, fun before e after now heq => ?_⟩, Ne.symm hclose.2, fun now => ?_⟩
    · exact hsweep before e (after ++ [d]) now (by rw [heq, List.append_assoc, List.cons_append])
    · exact hsweep deeds d [] now rfl
  · rintro ⟨⟨hclose, hsweep⟩, hd, hdsweep⟩
    refine ⟨by simp [hclose, Ne.symm hd], fun before e after now heq => ?_⟩
    -- the sweep is the last deed, or one of those before it
    rcases List.eq_nil_or_concat after with rfl | ⟨after', e', rfl⟩
    · obtain ⟨rfl, hcons⟩ := List.append_inj' heq rfl
      cases hcons
      exact hdsweep now
    · rw [List.concat_eq_append, ← List.cons_append, ← List.append_assoc] at heq
      obtain ⟨rfl, -⟩ := List.append_inj' heq rfl
      exact hsweep before e after' now rfl

theorem granted_concat : Granted timeout name port (deeds ++ [d]) alive ↔
    d = .grant name port alive ∨ ∃ earlier, Granted timeout name port deeds earlier ∧
      Spares timeout name port earlier d ∧ (d.refreshedAt? name port).getD earlier = alive := by
  constructor
  · rintro ⟨before, since, after, heq, houtlasts, rfl⟩
    rcases List.eq_nil_or_concat after with rfl | ⟨after', e, rfl⟩
    · obtain ⟨rfl, hcons⟩ := List.append_inj' heq rfl
      cases hcons
      exact .inl rfl
    · rw [List.concat_eq_append] at heq houtlasts ⊢
      rw [← List.cons_append, ← List.append_assoc] at heq
      obtain ⟨rfl, hcons⟩ := List.append_inj' heq rfl
      cases hcons
      rw [outlasts_concat] at houtlasts
      exact .inr ⟨_, ⟨before, since, after', rfl, houtlasts.1, rfl⟩, houtlasts.2,
        lastSign_concat.symm⟩
  · rintro (rfl | ⟨_, ⟨before, since, after, rfl, houtlasts, rfl⟩, hspares, rfl⟩)
    · exact ⟨deeds, alive, [], rfl, ⟨List.not_mem_nil, by simp⟩, rfl⟩
    · exact ⟨before, since, after ++ [d], by simp, outlasts_concat.2 ⟨houtlasts, hspares⟩,
        lastSign_concat⟩

end Append

/-! ## What a step can do -/

namespace Deed

variable {g g' : Registry} {d : Deed}

/-- The lease on a port after a deed. -/
def leaseAfter? (g : Registry) (q : Port) : Deed → Option Lease
  | grant name port now => if q = port then some ⟨name, now⟩ else g.surviving? now q
  | sweep now => g.surviving? now q
  | refresh name port now => if q = port then some ⟨name, now⟩ else g.lease? q
  | close _ port => if q = port then none else g.lease? q
  | nothing => g.lease? q

/-- What a registry must be for the deed to be done on it: a port that is granted is free
    after the sweep, and one that is kept alive or given back is held. -/
def Possible (g : Registry) : Deed → Prop
  | grant _ port now => g.surviving? now port = none
  | refresh name port _ => ∃ alive, g.lease? port = some ⟨name, alive⟩
  | close name port => ∃ alive, g.lease? port = some ⟨name, alive⟩
  | _ => True

/-- The deed takes one registry to another. -/
structure Takes (d : Deed) (g g' : Registry) : Prop where
  wellFormed : g'.WellFormed
  timeout_eq : g'.timeout = g.timeout
  possible : d.Possible g
  lease?_eq : ∀ q, g'.lease? q = d.leaseAfter? g q

theorem takes_nothing (hg : g.WellFormed) : nothing.Takes g g :=
  ⟨hg, rfl, trivial, fun _ => rfl⟩

theorem takes_request (hg : g.WellFormed) (name : ServiceName) (now : Instant) :
    (of (.request name now) (g.apply (.request name now)).2).Takes g
      (g.apply (.request name now)).1 := by
  rw [apply]
  rcases h : g.requestPort name now with ⟨g', e | port⟩
  · obtain rfl := requestPort_error h
    exact ⟨hg.reclaimExpired now, rfl, trivial, lease?_reclaimExpired g now⟩
  · obtain ⟨hg', hfree, hleases⟩ := requestPort_ok hg h
    exact ⟨hg', (sameTerms_of_requestPort h).timeout_eq, hfree, hleases⟩

/-- A change of a held reservation is a deed if it changes the lease as the deed does. -/
theorem takes_updateHeld (change : Reservation → Reservation) {name : ServiceName} {port : Port}
    (hg : g.WellFormed) (hport : ∀ r, (change r).port = r.port)
    (hpossible : ∀ alive, g.lease? port = some ⟨name, alive⟩ → d.Possible g)
    (hlease : ∀ alive q, d.leaseAfter? g q =
      if q = port then (change ⟨port, some ⟨name, alive⟩⟩).lease? else g.lease? q) :
    (∃ g', g.updateHeld name port change = (g', .ok ()) ∧ d.Takes g g') ∨
      ∃ e, g.updateHeld name port change = (g, .error e) := by
  by_cases hheld : ∃ alive, g.lease? port = some ⟨name, alive⟩
  · obtain ⟨alive, h⟩ := hheld
    have hterms := sameTerms_updateHeld change g name port
    obtain ⟨g', heq, hg', hleases⟩ := updateHeld_of_held change hg h hport
    rw [heq] at hterms
    refine .inl ⟨g', heq, hg', hterms.timeout_eq, hpossible alive h, fun q => ?_⟩
    rw [hleases, hlease alive]
  · exact .inr ⟨_, updateHeld_of_not_held change hg (not_exists.1 hheld)⟩

theorem takes_keepAlive (hg : g.WellFormed) (name : ServiceName) (port : Port) (now : Instant) :
    (of (.keepAlive name port now) (g.apply (.keepAlive name port now)).2).Takes g
      (g.apply (.keepAlive name port now)).1 := by
  rw [apply, keepAlive]
  rcases takes_updateHeld (d := refresh name port now) (·.touch now) hg (fun _ => rfl)
    (fun alive h => ⟨alive, h⟩) (fun _ _ => rfl) with ⟨g', heq, htakes⟩ | ⟨e, heq⟩
  · rw [heq]
    exact htakes
  · rw [heq]
    exact takes_nothing hg

theorem takes_close (hg : g.WellFormed) (name : ServiceName) (port : Port) :
    (of (.close name port) (g.apply (.close name port)).2).Takes g
      (g.apply (.close name port)).1 := by
  rw [apply, closePort]
  rcases takes_updateHeld (d := close name port) Reservation.release hg (fun _ => rfl)
    (fun alive h => ⟨alive, h⟩) (fun _ _ => rfl) with ⟨g', heq, htakes⟩ | ⟨e, heq⟩
  · rw [heq]
    exact htakes
  · rw [heq]
    exact takes_nothing hg

theorem takes_lookup (hg : g.WellFormed) (name : ServiceName) :
    (of (.lookup name) (g.apply (.lookup name)).2).Takes g (g.apply (.lookup name)).1 := by
  rw [apply]
  cases g.lookupPort name <;> exact takes_nothing hg

theorem takes_stop (hg : g.WellFormed) :
    (of .stop (g.apply .stop).2).Takes g (g.apply .stop).1 :=
  ⟨hg, rfl, trivial, fun _ => rfl⟩

/-- The deed of a message is that of the operation it asks for. -/
theorem ofResponse_reply {m : Message} {now : Instant} {o : Operation}
    (h : m.operation? now = some o) (g : Registry) :
    ofResponse m now (m.reply (g.apply o).2) = of o (g.apply o).2 := by
  unfold Message.operation? at h
  split at h
  · next hkind =>
    cases h
    simp only [ofResponse, apply, hkind]
    rcases g.requestPort m.name now with ⟨g', e | port⟩
    · cases e <;> rfl
    · rfl
  · next hkind =>
    cases h
    simp only [ofResponse, apply, hkind]
    rcases g.keepAlive m.name m.port now with ⟨g', e | _⟩
    · cases e <;> rfl
    · simp only [Message.reply, hkind]
      rfl
  · next hkind =>
    cases h
    simp only [ofResponse, apply, hkind]
    rcases g.closePort m.name m.port with ⟨g', e | _⟩
    · cases e <;> rfl
    · simp only [Message.reply, hkind]
      rfl
  · next hkind =>
    cases h
    simp only [ofResponse, apply, hkind]
    rcases g.lookupPort m.name with e | port <;> rfl
  · next hkind =>
    cases h
    simp only [ofResponse, hkind]
    rfl
  · cases h

theorem takes_operation (hg : g.WellFormed) {m : Message} {now : Instant} {o : Operation}
    (h : m.operation? now = some o) : (of o (g.apply o).2).Takes g (g.apply o).1 := by
  unfold Message.operation? at h
  split at h <;> cases h
  · exact takes_request hg _ _
  · exact takes_keepAlive hg _ _ _
  · exact takes_close hg _ _
  · exact takes_lookup hg _
  · exact takes_stop hg

/-- Every operation is its deed. -/
theorem takes_apply (hg : g.WellFormed) (o : Operation) :
    (of o (g.apply o).2).Takes g (g.apply o).1 := by
  cases o with
  | request name now => exact takes_request hg name now
  | keepAlive name port now => exact takes_keepAlive hg name port now
  | close name port => exact takes_close hg name port
  | lookup name => exact takes_lookup hg name
  | reclaim now => exact ⟨hg.reclaimExpired now, rfl, trivial, lease?_reclaimExpired g now⟩
  | stop => exact takes_stop hg
  | message m now =>
    rw [apply, handle_eq]
    cases h : m.operation? now with
    | none =>
      rw [of, ofResponse, Message.operation?_eq_none_iff.1 h]
      exact takes_nothing hg
    | some o =>
      rw [of, ofResponse_reply h g]
      exact takes_operation hg h

end Deed

/-! ## Runs -/

/-- The leases of the registry are those that the history has granted and that have
    outlasted it, each with its last sign of life. -/
structure Follows (timeout : Span) (g : Registry) (deeds : List Deed) : Prop where
  wellFormed : g.WellFormed
  timeout_eq : g.timeout = timeout
  lease?_iff : ∀ name port alive,
    g.lease? port = some ⟨name, alive⟩ ↔ Granted timeout name port deeds alive

section Takes

variable {g g' : Registry} {name : ServiceName} {port : Port} {alive : Instant}

/-- A deed that sweeps spares the leases that survive the sweep. -/
theorem spared_iff_surviving {d : Deed} {now : Instant} (hswept : d.sweptAt? = some now)
    (hrefresh : d.refreshedAt? name port = none) (hclose : d ≠ .close name port) :
    (∃ earlier, g.lease? port = some ⟨name, earlier⟩ ∧ Spares g.timeout name port earlier d ∧
      (d.refreshedAt? name port).getD earlier = alive) ↔
        g.surviving? now port = some ⟨name, alive⟩ := by
  rw [surviving?_eq_some_iff, hrefresh]
  constructor
  · rintro ⟨earlier, hlease, ⟨-, hlt⟩, rfl⟩
    exact ⟨hlease, hlt now hswept⟩
  · rintro ⟨hlease, hlt⟩
    refine ⟨alive, hlease, ⟨hclose, fun t ht => ?_⟩, rfl⟩
    obtain rfl := Option.some.inj (hswept.symm.trans ht)
    exact hlt

/-- A lease after a deed is a new one, or one that the deed spares. -/
theorem Deed.Takes.lease?_iff {d : Deed} (h : d.Takes g g') : g'.lease? port = some ⟨name, alive⟩ ↔
    d = .grant name port alive ∨ ∃ earlier, g.lease? port = some ⟨name, earlier⟩ ∧
      Spares g.timeout name port earlier d ∧ (d.refreshedAt? name port).getD earlier = alive := by
  rw [h.lease?_eq]
  have hpossible := h.possible
  cases d with
  | grant name' port' now =>
    rw [spared_iff_surviving rfl rfl Deed.noConfusion, Deed.leaseAfter?]
    by_cases hq : port = port'
    · subst hq
      rw [if_pos rfl, show g.surviving? now port = none from hpossible]
      simp
    · rw [if_neg hq]
      simp [Ne.symm hq]
  | sweep now =>
    rw [spared_iff_surviving rfl rfl Deed.noConfusion, Deed.leaseAfter?]
    simp
  | refresh name' port' now =>
    rw [Deed.leaseAfter?]
    by_cases hq : port = port'
    · subst hq
      obtain ⟨held, hheld⟩ := hpossible
      rw [if_pos rfl]
      constructor
      · rintro ⟨⟩
        exact .inr ⟨held, hheld, ⟨Deed.noConfusion, fun t ht => nomatch ht⟩,
          by simp [Deed.refreshedAt?]⟩
      · rintro (heq | ⟨earlier, hlease, -, rfl⟩)
        · cases heq
        · obtain ⟨⟩ := hheld.symm.trans hlease
          simp [Deed.refreshedAt?]
    · rw [if_neg hq]
      simp [Spares, Deed.sweptAt?, Deed.refreshedAt?, Ne.symm hq]
  | close name' port' =>
    rw [Deed.leaseAfter?]
    by_cases hq : port = port'
    · subst hq
      obtain ⟨held, hheld⟩ := hpossible
      rw [if_pos rfl]
      constructor
      · intro heq
        cases heq
      · rintro (heq | ⟨earlier, hlease, ⟨hne, -⟩, -⟩)
        · cases heq
        · obtain ⟨⟩ := hheld.symm.trans hlease
          exact absurd rfl hne
    · rw [if_neg hq]
      simp [Spares, Deed.sweptAt?, Deed.refreshedAt?, Ne.symm hq]
  | nothing => simp [Deed.leaseAfter?, Spares, Deed.sweptAt?, Deed.refreshedAt?]

end Takes

theorem follows_new (range : PortRange) (timeout : Span) :
    Follows timeout (new range timeout) [] where
  wellFormed := wellFormed_new range timeout
  timeout_eq := rfl
  lease?_iff name port alive := by
    rw [lease?_new]
    constructor
    · intro h
      cases h
    · rintro ⟨before, since, after, heq, -⟩
      simp at heq

section Run

variable {timeout : Span} {g : Registry} {deeds : List Deed}

theorem Follows.concat {g' : Registry} {d : Deed} (h : Follows timeout g deeds)
    (hd : d.Takes g g') : Follows timeout g' (deeds ++ [d]) where
  wellFormed := hd.wellFormed
  timeout_eq := hd.timeout_eq.trans h.timeout_eq
  lease?_iff name port alive := by
    simp only [hd.lease?_iff, h.lease?_iff, h.timeout_eq, granted_concat]

theorem history_cons (g : Registry) (o : Operation) (ops : List Operation) :
    g.history (o :: ops) = Deed.of o (g.apply o).2 :: (g.apply o).1.history ops := rfl

theorem follows_run (h : Follows timeout g deeds) (ops : List Operation) :
    Follows timeout (g.run ops).1 (deeds ++ g.history ops) := by
  induction ops generalizing g deeds with
  | nil => rwa [history, List.zipWith_nil_left, List.append_nil]
  | cons o ops ih =>
    have := ih (h.concat (Deed.takes_apply h.wellFormed o))
    rwa [List.append_assoc, List.singleton_append] at this

theorem wellFormed_run (hg : g.WellFormed) (ops : List Operation) : (g.run ops).1.WellFormed := by
  induction ops generalizing g with
  | nil => exact hg
  | cons o ops ih => exact ih (Deed.takes_apply hg o).wellFormed

theorem range_request (g : Registry) (name : ServiceName) (now : Instant) :
    (g.apply (.request name now)).1.range = g.range := by
  rw [apply_request_fst]
  exact (sameTerms_requestPort g name now).range_eq

theorem range_keepAlive (g : Registry) (name : ServiceName) (port : Port) (now : Instant) :
    (g.apply (.keepAlive name port now)).1.range = g.range := by
  rw [apply_keepAlive_fst]
  exact (sameTerms_updateHeld _ g name port).range_eq

theorem range_close (g : Registry) (name : ServiceName) (port : Port) :
    (g.apply (.close name port)).1.range = g.range := by
  rw [apply_close_fst]
  exact (sameTerms_updateHeld _ g name port).range_eq

theorem range_lookup (g : Registry) (name : ServiceName) :
    (g.apply (.lookup name)).1.range = g.range := by rw [apply_lookup_fst]

/-- No operation changes the range. -/
theorem range_apply (g : Registry) (o : Operation) : (g.apply o).1.range = g.range := by
  cases o with
  | request name now => exact range_request g name now
  | keepAlive name port now => exact range_keepAlive g name port now
  | close name port => exact range_close g name port
  | lookup name => exact range_lookup g name
  | reclaim now => rfl
  | stop => rfl
  | message m now =>
    rw [apply, handle_eq]
    cases h : m.operation? now with
    | none => rfl
    | some o =>
      unfold Message.operation? at h
      split at h <;> cases h
      · exact range_request g _ _
      · exact range_keepAlive g _ _ _
      · exact range_close g _ _
      · exact range_lookup g _
      · rfl

theorem range_run (g : Registry) (ops : List Operation) : (g.run ops).1.range = g.range := by
  induction ops generalizing g with
  | nil => rfl
  | cons o ops ih => exact (ih (g.apply o).1).trans (range_apply g o)

/-- Each deed of a history is that of an operation on the registry that the deeds before
    it have led to. -/
theorem exists_of_history_eq {ops : List Operation} {before after : List Deed} {d : Deed}
    (h : g.history ops = before ++ d :: after) :
    ∃ ops' o, g.history ops' = before ∧ d = Deed.of o ((g.run ops').1.apply o).2 := by
  induction before generalizing g ops with
  | nil =>
    cases ops with
    | nil => cases h
    | cons o ops =>
      rw [history_cons] at h
      cases h
      exact ⟨[], o, rfl, rfl⟩
  | cons e before ih =>
    cases ops with
    | nil => cases h
    | cons o ops =>
      rw [history_cons, List.cons_append, List.cons_eq_cons] at h
      obtain ⟨ops', o', rfl, hd⟩ := ih h.2
      exact ⟨o :: ops', o', by rw [history_cons, h.1], hd⟩

/-- A port is not granted again while the lease on it lasts. -/
theorem not_outlasts_of_grant (hg : Follows timeout g []) {ops : List Operation}
    {before between after : List Deed} {name other : ServiceName} {port : Port}
    {since now : Instant}
    (h : g.history ops =
      before ++ .grant name port since :: (between ++ .grant other port now :: after)) :
    ¬ Outlasts timeout name port since (between ++ [.grant other port now]) := by
  rw [outlasts_concat]
  rintro ⟨houtlasts, -, hspared⟩
  rw [← List.cons_append, ← List.append_assoc] at h
  obtain ⟨ops', o, hbefore, hd⟩ := exists_of_history_eq h
  have hrun := follows_run hg ops'
  rw [List.nil_append, hbefore] at hrun
  have hlease := (hrun.lease?_iff _ _ _).2 ⟨before, since, between, rfl, houtlasts, rfl⟩
  have hpossible := (Deed.takes_apply hrun.wellFormed o).possible
  rw [← hd] at hpossible
  have hsurvives := surviving?_eq_some_iff.2 ⟨hlease, hrun.timeout_eq ▸ hspared now rfl⟩
  rw [show surviving? _ now port = none from hpossible] at hsurvives
  cases hsurvives

end Run

/-- After every run a port is leased to a service exactly if the run granted it to the
    service and the lease has outlasted the deeds after that. So a port has one holder at
    most, is never granted while a lease on it lasts, and a lease that has lapsed but has
    not been swept is found and can be kept alive, whatever the time. -/
theorem leasedTo_iff_granted (range : PortRange) (timeout : Span) (ops : List Operation)
    (name : ServiceName) (port : Port) :
    let g := ((new range timeout).run ops).1
    let deeds := (new range timeout).history ops
    (g.LeasedTo port name ↔ ∃ before since after,
      deeds = before ++ .grant name port since :: after ∧ Outlasts timeout name port since after) ∧
    (∀ other, g.LeasedTo port name → g.LeasedTo port other → other = name) ∧
    (∀ before since between other now after,
      deeds = before ++ .grant name port since :: (between ++ .grant other port now :: after) →
        ¬ Outlasts timeout name port since (between ++ [.grant other port now])) ∧
    (g.LeasedTo port name →
      (∃ p, g.lookupPort name = .ok p) ∧ ∀ now, (g.keepAlive name port now).2 = .ok ()) := by
  intro g deeds
  have hrun : Follows timeout g deeds := follows_run (follows_new range timeout) ops
  have hleased : ∀ name, g.LeasedTo port name ↔ ∃ alive, g.lease? port = some ⟨name, alive⟩ :=
    fun name => exists_congr fun alive => mem_leases_iff hrun.wellFormed
  refine ⟨?_, fun other => ?_, ?_, fun h => ⟨?_, fun now => ?_⟩⟩
  · rw [hleased]
    constructor
    · rintro ⟨alive, h⟩
      obtain ⟨before, since, after, heq, houtlasts, -⟩ := (hrun.lease?_iff _ _ _).1 h
      exact ⟨before, since, after, heq, houtlasts⟩
    · rintro ⟨before, since, after, heq, houtlasts⟩
      exact ⟨_, (hrun.lease?_iff _ _ _).2 ⟨before, since, after, heq, houtlasts, rfl⟩⟩
  · rw [hleased, hleased]
    rintro ⟨alive, h⟩ ⟨alive', h'⟩
    obtain ⟨⟩ := h.symm.trans h'
    rfl
  · intro before since between other now after
    exact not_outlasts_of_grant (follows_new range timeout)
  · obtain ⟨alive, h⟩ := (hleased name).1 h
    exact (exists_lookupPort_ok_iff hrun.wellFormed).2 ⟨port, alive, h⟩
  · obtain ⟨alive, h⟩ := (hleased name).1 h
    obtain ⟨g', heq, -⟩ := updateHeld_of_held (·.touch now) hrun.wellFormed h fun _ => rfl
    rw [keepAlive, heq]

end Harbor.Lease.Registry
