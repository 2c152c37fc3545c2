import Harbor.Proofs.Lease.FirstFit
import Harbor.Settings.Basic

/-!
# The ports that a registry grants

Settings that pass the check are those of a registry whose requests come, sooner or later,
to every port between the two bounds, and to no other. The check compares the registry's
own port with the bounds only. It does not keep the registry from granting its own port if
that port lies between them.

Main results:

* `isGrantable_iff`: the ports that can be granted at all.
* `grants_iff_between`: a registry with checked settings, and when it grants its own port.
-/

namespace Harbor.Lease.Registry

/-- After some run a request is granted the port. -/
def IsGrantable (g : Registry) (port : Port) : Prop :=
  ∃ ops name now, ((g.run ops).1.requestPort name now).2 = .ok port

theorem vacant_new (range : PortRange) (timeout : Span) {port : Port} (now : Instant)
    (hport : range.contains port) : (new range timeout).Vacant now port := by
  refine ⟨hport, fun lease h => ?_⟩
  rw [lease?_new] at h
  cases h

/-- A new registry comes to every port of its range. -/
theorem isGrantable_iff {range : PortRange} {timeout : Span} (htimeout : 0 < timeout)
    {port : Port} : (new range timeout).IsGrantable port ↔ range.contains port := by
  constructor
  · rintro ⟨ops, name, now, h⟩
    have hg := wellFormed_run (wellFormed_new range timeout) ops
    have hrange : ((new range timeout).run ops).1.range = range := range_run _ ops
    exact hrange ▸ ((requestPort_snd_eq_ok_iff hg name).1 h).1.1
  · intro hport
    obtain ⟨k, hk⟩ := exists_requestPort_of_vacant (wellFormed_new range timeout) htimeout default
      (vacant_new range timeout 0 hport)
    exact ⟨_, _, _, hk⟩

/-- A registry with settings that pass the check grants the ports between the two bounds,
    the bounds included, and no others; zero is not among them. It grants its own port
    exactly if this lies strictly between the bounds. -/
theorem grants_iff_between (s : Settings.Registry) (range : PortRange) (h : s.range = .ok range) :
    (∀ port, (new range s.timeoutMillis).IsGrantable port ↔
      port ≠ 0 ∧ s.firstPort ≤ port ∧ port ≤ s.lastPort) ∧
    ((new range s.timeoutMillis).IsGrantable s.port ↔
      s.firstPort < s.port ∧ s.port < s.lastPort) := by
  obtain ⟨⟨hfirst, hlast⟩, -, hne, hne', htime⟩ := Settings.Registry.range_eq_ok_iff.1 h
  have htimeout : 0 < s.timeoutMillis :=
    Nat.mul_pos (by decide) (Nat.pos_of_ne_zero fun hzero => htime (UInt64.toNat_inj.1 hzero))
  have hbetween : ∀ port, (new range s.timeoutMillis).IsGrantable port ↔
      s.firstPort ≤ port ∧ port ≤ s.lastPort := by
    intro port
    rw [isGrantable_iff htimeout, PortRange.contains, hfirst, hlast, Bool.and_eq_true,
      decide_eq_true_iff, decide_eq_true_iff]
  refine ⟨fun port => ?_, ?_⟩
  · rw [hbetween, iff_and_self]
    rintro ⟨hle, -⟩ rfl
    exact absurd (hfirst ▸ range.first_pos) (Nat.not_lt.2 (UInt16.le_iff_toNat_le.1 hle))
  · rw [hbetween, UInt16.lt_iff_le_and_ne, UInt16.lt_iff_le_and_ne]
    rw [and_iff_left hne, and_iff_left hne'.symm]

/-- Without a settings file the registry's own port lies outside of the range. -/
theorem grants_iff_between_default :
    let s := Settings.Registry.default
    let range : PortRange := ⟨40000, 40099, by decide, by decide⟩
    s.range = .ok range ∧ (new range s.timeoutMillis).IsGrantable 40099 ∧
      ¬ (new range s.timeoutMillis).IsGrantable s.port := by
  have h : Settings.Registry.default.range = .ok ⟨40000, 40099, by decide, by decide⟩ := by decide
  obtain ⟨hport, hown⟩ := grants_iff_between _ _ h
  exact ⟨h, (hport 40099).2 (by decide), fun hgranted => absurd (hown.1 hgranted) (by decide)⟩

/-- A registry that listens on port 40001 and leases the ports from 40000 to 40002 grants
    its own port to the second request. -/
theorem own_port_granted :
    let s : Settings.Registry := ⟨.any, 40001, 40000, 40002, 300⟩
    let range : PortRange := ⟨40000, 40002, by decide, by decide⟩
    s.range = .ok range ∧
    (((new range s.timeoutMillis).run [.request .empty 0]).1.requestPort .empty 0).2 =
      .ok s.port := by
  decide

end Harbor.Lease.Registry
