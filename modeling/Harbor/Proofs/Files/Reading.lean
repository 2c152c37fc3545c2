import Harbor.Proofs.Files.Resolution

/-!
# Reading beneath a root

A name of a document stands for steps down from the root, none of them to the
directory above. What is read there is a file of the file system, reached by these
steps, or the reading fails in one of seven ways.

Main results:

* `FileSystem.exists_file_of_read`: what is read is the contents of a file.
* `FileSystem.mem_failures_of_read`: how reading fails.
* `DocumentRoot.read_eq_ok`: a document is a file beneath the root.
-/

namespace Harbor.Files

namespace FileSystem

variable {fs : FileSystem} {links : Nat} {start path : Path} {steps : List Name}

/-- A walk that finds a file has found what is there. -/
theorem node?_of_walk {contents : Octets}
    (h : fs.walk links start steps = .ok (.found path (.file contents))) :
    fs.node? path = some (.file contents) := by
  fun_induction walk fs links start steps
  case case2 ih | case3 ih | case7 ih | case11 ih => exact ih h
  case case8 hnode =>
    cases h
    exact hnode
  all_goals cases h

/-- The ways in which reading a file fails. -/
def failures : List SystemError :=
  [.noEntry, .accessDenied, .notDirectory, .isDirectory, .nameTooLong, .tooManyLinks, .nulInPath]

theorem mem_failures_of_walk {e : SystemError} (h : fs.walk links start steps = .error e) :
    e ∈ failures := by
  fun_induction walk fs links start steps
  case case2 ih | case3 ih | case7 ih | case11 ih => exact ih h
  case case4 | case6 | case9 | case10 =>
    cases h
    decide
  all_goals cases h

theorem mem_failures_of_follow {e : SystemError} (h : fs.follow start steps = .error e) :
    e ∈ failures := by
  unfold follow refusal? at h
  split at h
  · next e' hrefusal =>
    cases h
    split at hrefusal
    · cases hrefusal
      decide
    split at hrefusal <;> cases hrefusal
    decide
  · split at h
    · exact mem_failures_of_walk h
    all_goals
      cases h
      decide

theorem mem_failures_of_read {e : SystemError} (h : fs.read start steps = .error e) :
    e ∈ failures := by
  unfold read at h
  split at h
  · split at h <;> cases h
    decide
  · cases h
    decide
  · cases h
    decide
  · next hfollow =>
    cases h
    exact mem_failures_of_follow hfollow

theorem exists_file_of_read {contents : Octets} (h : fs.read start steps = .ok contents) :
    ∃ path, fs.node? path = some (.file contents) := by
  unfold read at h
  split at h
  · next path _ hfollow =>
    split at h <;> cases h
    refine ⟨path, ?_⟩
    unfold follow at hfollow
    split at hfollow
    · cases hfollow
    · split at hfollow
      · exact node?_of_walk hfollow
      all_goals cases hfollow
  all_goals cases h

end FileSystem

/-! ## Documents -/

namespace DocumentRoot

/-- The contents of a file that steps down from the root lead to. -/
def Holds (d : DocumentRoot) (contents : Octets) : Prop :=
  ∃ steps, above ∉ steps ∧ d.files.read d.root steps = .ok contents

/-- Every directory that steps down from the root lead to may be listed. -/
def Listable (d : DocumentRoot) : Prop :=
  ∀ steps directory, above ∉ steps →
    d.files.follow d.root steps = .ok (.found directory .directory) →
      directory ∉ d.files.unreadable

theorem stepsTo_of_resolve {d : DocumentRoot} {name : String} {place : Path}
    (h : resolve d.root name = .ok place) : above ∉ d.stepsTo place := by
  obtain ⟨-, habove, rfl⟩ := resolve_eq_ok_iff.1 h
  rw [stepsTo, List.drop_left]
  exact fun hmem => habove (List.mem_filter.1 hmem).1

theorem read_eq_ok {d : DocumentRoot} {name text : String} (h : d.read name = .ok text) :
    d.Holds (Text.encode text) := by
  unfold read at h
  split at h
  · cases h
  · next place hplace =>
    split at h
    · next octets hread =>
      split at h
      · next hdecode =>
        cases h
        rw [Text.encode_of_decode? hdecode]
        exact ⟨_, stepsTo_of_resolve hplace, hread⟩
      · cases h
    · cases h
    · split at h <;> cases h

/-- Why a document cannot be had: its name or the file system. -/
theorem read_eq_error {d : DocumentRoot} {name : String} {e : DocumentError}
    (h : d.read name = .error e) :
    e = .emptyName ∨ e = .invalidName name ∨ e = .fileNotFound name ∨ e = .notText name ∨
      ∃ cause ∈ FileSystem.failures, e = .failed name cause := by
  unfold read at h
  split at h
  · next e' hresolve =>
    cases h
    exact (resolve_eq_error hresolve).imp_right .inl
  · split at h
    · split at h <;> cases h
      exact .inr (.inr (.inr (.inl rfl)))
    · cases h
      exact .inr (.inr (.inl rfl))
    · next cause _ hread =>
      split at h <;> cases h
      · exact .inr (.inr (.inl rfl))
      · have hmem := FileSystem.mem_failures_of_read hread
        exact .inr (.inr (.inr (.inr ⟨cause, hmem, rfl⟩)))

end DocumentRoot

end Harbor.Files
