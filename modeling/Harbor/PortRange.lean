/-!
# Port ranges

The registry leases ports from one contiguous range with both ends included.
Port zero belongs to no range.

Main results:

* `mem_ports_iff`: the ports listed are exactly those between the two ends.
* `length_ports`, `pairwise_ports`: each is listed once, in ascending order.
* `getElem?_ports_eq_some_iff`: a port stands in the list where its offset says.
-/

namespace Harbor

/-- A TCP or UDP port. -/
abbrev Port := UInt16

/-- A non-empty range of ports, both ends included. -/
structure PortRange where
  first : Port
  last : Port
  first_pos : 0 < first.toNat
  first_le_last : first.toNat ≤ last.toNat
  deriving DecidableEq

namespace PortRange

/-- The bounds do not delimit a range of ports (`DomainError`). -/
structure Error where
  first : Port
  last : Port
  deriving Repr, DecidableEq

/-- The fault in words. -/
def Error.message (e : Error) : String := s!"Invalid port range {e.first}..={e.last}"

/-- Accepts two bounds as a range (`PortRange.new`). -/
def ofBounds? (first last : Port) : Except Error PortRange :=
  if h : 0 < first.toNat ∧ first.toNat ≤ last.toNat then .ok ⟨first, last, h.1, h.2⟩
  else .error ⟨first, last⟩

/-- Number of ports in the range (`PortRange.len`). -/
def size (r : PortRange) : Nat := r.last.toNat - r.first.toNat + 1

/-- Does the port belong to the range? -/
def contains (r : PortRange) (p : Port) : Bool := r.first ≤ p && p ≤ r.last

/-- How far a port of the range lies from its first port (`PortRange.offset_of`). -/
def offset? (r : PortRange) (p : Port) : Option Nat :=
  if r.contains p then some (p.toNat - r.first.toNat) else none

/-- All ports of the range in ascending order (`PortRange.iter`). -/
def ports (r : PortRange) : List Port :=
  (List.range r.size).map fun i => UInt16.ofNat (r.first.toNat + i)

/-- The range in words, `40000-40099`. -/
def text (r : PortRange) : String := s!"{r.first}-{r.last}"

@[simp] theorem length_ports (r : PortRange) : r.ports.length = r.size := by simp [ports]

theorem contains_iff {r : PortRange} {p : Port} :
    r.contains p ↔ r.first.toNat ≤ p.toNat ∧ p.toNat ≤ r.last.toNat := by
  simp [contains, UInt16.le_iff_toNat_le]

theorem toNat_ports (r : PortRange) :
    r.ports.map UInt16.toNat = (List.range r.size).map (r.first.toNat + ·) := by
  simp only [ports, List.map_map, List.map_inj_left, List.mem_range, Function.comp]
  intro i hi
  have := r.last.toNat_lt
  have := r.first_le_last
  simp only [size] at hi
  simp only [UInt16.toNat_ofNat']
  omega

theorem pairwise_ports (r : PortRange) : r.ports.Pairwise (· < ·) := by
  have h : (r.ports.map UInt16.toNat).Pairwise (· < ·) := by
    rw [toNat_ports, List.pairwise_map]
    exact List.pairwise_lt_range.imp fun hlt => Nat.add_lt_add_left hlt _
  exact (List.pairwise_map.1 h).imp UInt16.lt_iff_toNat_lt.2

theorem mem_ports_iff {r : PortRange} {p : Port} : p ∈ r.ports ↔ r.contains p := by
  rw [contains_iff, ports, List.mem_map]
  have := r.last.toNat_lt
  have := r.first_le_last
  constructor
  · rintro ⟨i, hi, rfl⟩
    simp only [List.mem_range, size] at hi
    simp only [UInt16.toNat_ofNat']
    omega
  · rintro ⟨h₁, h₂⟩
    refine ⟨p.toNat - r.first.toNat, by simp only [List.mem_range, size]; omega, ?_⟩
    rw [Nat.add_sub_cancel' h₁]
    exact UInt16.ofNat_toNat

theorem offset?_eq_some_iff {r : PortRange} {p : Port} {i : Nat} :
    r.offset? p = some i ↔ r.first.toNat + i = p.toNat ∧ p.toNat ≤ r.last.toNat := by
  unfold offset?
  split
  · next h =>
    rw [contains_iff] at h
    rw [Option.some_inj]
    omega
  · next h =>
    rw [contains_iff] at h
    simp only [reduceCtorEq, false_iff]
    omega

theorem getElem?_ports_eq_some_iff {r : PortRange} {p : Port} {i : Nat} :
    r.ports[i]? = some p ↔ r.offset? p = some i := by
  have hlt := r.last.toNat_lt
  have hle := r.first_le_last
  rw [offset?_eq_some_iff, ports, List.getElem?_map, Option.map_eq_some_iff]
  constructor
  · rintro ⟨j, hj, rfl⟩
    obtain ⟨hlen, rfl⟩ := List.getElem?_eq_some_iff.1 hj
    rw [List.length_range, size] at hlen
    rw [List.getElem_range, UInt16.toNat_ofNat', Nat.mod_eq_of_lt (by omega)]
    omega
  · rintro ⟨h₁, h₂⟩
    have hi : i < r.size := by rw [size]; omega
    exact ⟨i, by rw [List.getElem?_range hi], by rw [h₁]; exact UInt16.ofNat_toNat⟩

end PortRange

end Harbor
