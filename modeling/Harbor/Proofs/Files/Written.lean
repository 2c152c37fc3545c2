import Harbor.Proofs.Files.Resolution
import Harbor.Proofs.Files.Walking
import Harbor.Files.Written

/-!
# Paths written out and read

A path with a slash behind each of its names is taken apart into these names, by a client
that saves into it as well as by a server that looks it up beneath its root.

Main results:

* `stepsOf_written`: the steps of a path are its names.
* `lastName?_eq_self_iff`: which paths are nothing but the name that they end in.
* `resolve_written`: a name of a directory stands for the place that its names lead to.
-/

namespace Harbor.Files

/-- A path with a slash behind each name. -/
def written (names : List Name) : Octets := names.flatMap fun name => name ++ [slash]

theorem written_cons (name : Name) (names : List Name) :
    written (name :: names) = name ++ slash :: written names := by
  rw [written, List.flatMap_cons, List.append_assoc]
  rfl

theorem length_written (names : List Name) : (written names).length = pathSize names := by
  induction names with
  | nil => rfl
  | cons name names ih =>
    rw [written_cons, List.length_append, List.length_cons, ih, pathSize]
    omega

variable {names : List Name}

/-- A path is nothing but the name that it ends in exactly when it is one piece and no step
    that stays or goes up. -/
theorem lastName?_eq_self_iff {path : Octets} : lastName? path = some path ↔
    path ≠ [] ∧ slash ∉ path ∧ path ≠ here ∧ path ≠ above := by
  rw [lastName?, Option.filter_eq_some_iff]
  constructor
  · rintro ⟨hlast, habove⟩
    obtain ⟨hsteps, hhere⟩ := List.mem_filter.1 (List.mem_of_getLast? hlast)
    obtain ⟨hpieces, hempty⟩ := List.mem_filter.1 hsteps
    exact ⟨by simpa using hempty, slash_not_mem_of_mem_pieces hpieces, by simpa using hhere,
      by simpa using habove⟩
  · rintro ⟨hempty, hslash, hhere, habove⟩
    have hsteps : stepsOf path = [path] := by
      rw [stepsOf, pieces_of_not_mem hslash]
      exact List.filter_eq_self.2 fun _ h => by simpa [List.mem_singleton.1 h] using hempty
    have hessential : FileSystem.essential [path] = [path] :=
      List.filter_eq_self.2 fun _ h => by simpa [List.mem_singleton.1 h] using hhere
    rw [hsteps, hessential]
    exact ⟨rfl, by simpa using habove⟩

theorem stepsOf_written (h : ∀ name ∈ names, IsName name) : stepsOf (written names) = names := by
  induction names with
  | nil => rfl
  | cons name names ih =>
    rw [List.forall_mem_cons] at h
    obtain ⟨hname, hnames⟩ := h
    have hne : name.isEmpty = false := by
      rw [List.isEmpty_eq_false_iff]
      exact hname.ne_nil
    rw [stepsOf, written_cons, pieces_append hname.slash_not_mem, List.filter_cons, hne]
    exact congrArg (name :: ·) (ih hnames)

theorem resolve_written {root : Path} {path : String} (h : ∀ name ∈ names, IsName name)
    (hne : names ≠ []) (hpath : Text.encode path = written names) :
    resolve root path = .ok (root ++ names) := by
  have hsteps : stepsOf (Text.encode path) = names := by rw [hpath, stepsOf_written h]
  have hessential : FileSystem.essential names = names :=
    List.filter_eq_self.2 fun name hname => by simpa using (h name hname).ne_here
  rw [resolve_eq_ok_iff, hsteps, hessential]
  exact ⟨hne, fun habove => (h above habove).ne_above rfl, rfl⟩

end Harbor.Files
