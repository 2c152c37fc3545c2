import Harbor.Files.Documents

/-!
# The place that a name stands for

A name is taken apart at its slashes. Empty pieces and pieces `.` say nothing, and a piece
`..` is refused wherever it stands. All other pieces lead down from the root, one step each and
in their order, whatever dots they have in them. So a place that a name stands for is never
above the root nor beside it.

Main results:

* `stepsOf_eq`: the steps of a path are its first name, if any, and the steps behind it.
* `resolve_eq_steps`, `resolve_eq_ok_iff`: a name is resolved by the steps that it takes.
* `resolve_eq_pieces`: a name is resolved by the pieces between its slashes.
-/

namespace Harbor.Files

open FileSystem (essential)

variable {name : Name} {rest : Octets}

/-! ## Pieces -/

theorem bne_slash_of_mem (h : slash ∉ name) : ∀ b ∈ name, (b != slash) = true := by
  intro b hb
  rw [bne_iff_ne]
  rintro rfl
  exact h hb

theorem firstName_append (h : slash ∉ name) : firstName (name ++ slash :: rest) = name := by
  rw [firstName, List.takeWhile_append_of_pos (bne_slash_of_mem h),
    List.takeWhile_cons_of_neg (by simp), List.append_nil]

theorem afterFirst_append (h : slash ∉ name) : afterFirst (name ++ slash :: rest) = rest := by
  rw [afterFirst, List.dropWhile_append_of_pos (bne_slash_of_mem h),
    List.dropWhile_cons_of_neg (by simp)]
  rfl

theorem firstName_of_not_mem (h : slash ∉ name) : firstName name = name := by
  have htake : (name ++ []).takeWhile (· != slash) = name ++ [].takeWhile (· != slash) :=
    List.takeWhile_append_of_pos (bne_slash_of_mem h)
  rwa [List.takeWhile_nil, List.append_nil] at htake

theorem afterFirst_of_not_mem (h : slash ∉ name) : afterFirst name = [] := by
  have hdrop : (name ++ []).dropWhile (· != slash) = [].dropWhile (· != slash) :=
    List.dropWhile_append_of_pos (bne_slash_of_mem h)
  rw [List.dropWhile_nil, List.append_nil] at hdrop
  rw [afterFirst, hdrop, List.drop_nil]

theorem pieces_append (h : slash ∉ name) :
    pieces (name ++ slash :: rest) = name :: pieces rest := by
  induction name with
  | nil => rw [List.nil_append, pieces, if_pos rfl]
  | cons b name ih =>
    rw [List.mem_cons, not_or] at h
    rw [List.cons_append, pieces, if_neg (Ne.symm h.1), ih h.2]

theorem pieces_of_not_mem (h : slash ∉ name) : pieces name = [name] := by
  induction name with
  | nil => rfl
  | cons b name ih =>
    rw [List.mem_cons, not_or] at h
    rw [pieces, if_neg (Ne.symm h.1), ih h.2]

theorem slash_not_mem_of_mem_pieces {path : Octets} (h : name ∈ pieces path) : slash ∉ name := by
  induction path generalizing name with
  | nil =>
    rw [List.mem_singleton.1 h]
    exact List.not_mem_nil
  | cons b path ih =>
    rw [pieces] at h
    split at h
    · rcases List.mem_cons.1 h with rfl | h
      · exact List.not_mem_nil
      · exact ih h
    next hb =>
    -- the octet goes to the first piece of the rest
    cases hpieces : pieces path with
    | nil =>
      rw [hpieces] at h
      rw [List.mem_singleton.1 h, List.mem_singleton]
      exact Ne.symm hb
    | cons piece rest =>
      rw [hpieces] at h ih
      rcases List.mem_cons.1 h with rfl | h
      · rw [List.mem_cons, not_or]
        exact ⟨Ne.symm hb, ih List.mem_cons_self⟩
      · exact ih (List.mem_cons_of_mem _ h)

/-! ## Steps -/

theorem mem_stepsOf_iff {path : Octets} : name ∈ stepsOf path ↔ name ∈ pieces path ∧ name ≠ [] := by
  rw [stepsOf, List.mem_filter, Bool.not_eq_true', List.isEmpty_eq_false_iff]

theorem stepsOf_eq_nil_iff {path : Octets} :
    stepsOf path = [] ↔ ∀ piece ∈ pieces path, piece = [] := by
  simp [stepsOf]

/-- The first name of a path is its first step, unless it is empty. -/
theorem stepsOf_eq (path : Octets) : stepsOf path =
    (if firstName path = [] then [] else [firstName path]) ++ stepsOf (afterFirst path) := by
  by_cases h : slash ∈ path
  · obtain ⟨name, rest, rfl, hname⟩ := List.eq_append_cons_of_mem h
    rw [firstName_append hname, afterFirst_append hname, stepsOf, pieces_append hname,
      List.filter_cons]
    cases name <;> rfl
  · rw [firstName_of_not_mem h, afterFirst_of_not_mem h, stepsOf, pieces_of_not_mem h]
    cases path <;> rfl

theorem stepsOf_slash (path : Octets) : stepsOf (slash :: path) = stepsOf path := by
  rw [stepsOf, pieces, if_pos rfl]
  rfl

/-- Slashes in front of a path take no steps. -/
theorem stepsOf_dropWhile (path : Octets) :
    stepsOf (path.dropWhile (· == slash)) = stepsOf path := by
  induction path with
  | nil => rfl
  | cons b path ih =>
    by_cases hb : b = slash
    · rw [hb, List.dropWhile_cons_of_pos (by simp), ih, stepsOf_slash]
    · rw [List.dropWhile_cons_of_neg (by simpa using hb)]

/-- A path that takes no steps is nothing but slashes. -/
theorem dropWhile_eq_nil_iff {path : Octets} :
    path.dropWhile (· == slash) = [] ↔ stepsOf path = [] := by
  rw [← stepsOf_dropWhile]
  constructor
  · intro h
    rw [h]
    rfl
  · intro h
    cases hdrop : path.dropWhile (· == slash) with
    | nil => rfl
    | cons b rest =>
      have hb : (b == slash) = false := by
        simpa [hdrop] using List.head?_dropWhile_not (· == slash) path
      rw [hdrop, stepsOf_eq, firstName, List.takeWhile_cons_of_pos (by simpa [bne] using hb)] at h
      simp at h

theorem essential_here (steps : List Name) : essential (here :: steps) = essential steps :=
  List.filter_cons_of_neg (by simp)

theorem essential_cons {step : Name} (h : step ≠ here) (steps : List Name) :
    essential (step :: steps) = step :: essential steps :=
  List.filter_cons_of_pos (by simpa using h)

/-- A path extends a place by its steps without those that stay, if none of them goes up. -/
theorem extend_eq (place : Path) (path : Octets) : extend place path =
    if above ∈ stepsOf path then none else some (place ++ essential (stepsOf path)) := by
  fun_induction extend place path
  case case1 place =>
    show _ = some (place ++ [])
    rw [List.append_nil]
  case case2 path hne hup =>
    rw [stepsOf_eq, hup, if_pos]
    exact List.mem_cons_self
  case case3 path hne hup hstay ih =>
    rw [ih, stepsOf_eq path]
    rcases hstay with hempty | hhere
    · rw [hempty]
      rfl
    · have hne : here ≠ [] := by decide
      have hdown : above ≠ here := by decide
      simp only [hhere, if_neg hne, List.singleton_append, List.mem_cons, hdown, false_or,
        essential_here]
  case case4 path hne hup hstay ih =>
    rw [not_or] at hstay
    rw [ih, stepsOf_eq path]
    simp only [if_neg hstay.1, List.singleton_append, List.mem_cons, Ne.symm hup, false_or,
      essential_cons hstay.2, List.append_assoc]

/-! ## Names -/

/-- A name stands for the root extended by the steps that it takes, if it takes any and none of
    them goes up. -/
theorem resolve_eq_steps (root : Path) (name : String) : resolve root name =
    if stepsOf (Text.encode name) = [] then .error .emptyName
    else if above ∈ stepsOf (Text.encode name) then .error (.invalidName name)
    else .ok (root ++ essential (stepsOf (Text.encode name))) := by
  rw [resolve]
  split
  · next hdrop => rw [if_pos (dropWhile_eq_nil_iff.1 hdrop)]
  · next path hne =>
    rw [if_neg (mt dropWhile_eq_nil_iff.2 hne), extend_eq, stepsOf_dropWhile]
    by_cases habove : above ∈ stepsOf (Text.encode name)
    · rw [if_pos habove, if_pos habove]
    · rw [if_neg habove, if_neg habove]

theorem resolve_eq_ok_iff {root place : Path} {name : String} : resolve root name = .ok place ↔
    stepsOf (Text.encode name) ≠ [] ∧ above ∉ stepsOf (Text.encode name) ∧
      place = root ++ essential (stepsOf (Text.encode name)) := by
  rw [resolve_eq_steps]
  split
  · next hnil => exact iff_of_false nofun fun h => h.1 hnil
  split
  · next habove => exact iff_of_false nofun fun h => h.2.1 habove
  · next hne habove => rw [Except.ok.injEq, eq_comm, and_iff_right hne, and_iff_right habove]

theorem resolve_eq_error {root : Path} {name : String} {e : DocumentError}
    (h : resolve root name = .error e) : e = .emptyName ∨ e = .invalidName name := by
  rw [resolve_eq_steps] at h
  split at h
  · cases h
    exact .inl rfl
  split at h <;> cases h
  exact .inr rfl

/-- The step leads from a directory to what lies directly in it. -/
def LeadsDown (step : Name) : Prop := step ≠ [] ∧ slash ∉ step ∧ step ≠ here ∧ step ≠ above

/-- A name is refused as empty if nothing stands between its slashes, and as invalid if `..`
    stands there. Any other name stands for the root extended by the pieces that are neither
    empty nor `.`, each of which leads down. -/
theorem resolve_eq_pieces (root : Path) (name : String) :
    let pieces := pieces (Text.encode name)
    resolve root name =
      (if ∀ piece ∈ pieces, piece = [] then .error .emptyName
      else if above ∈ pieces then .error (.invalidName name)
      else .ok (root ++ pieces.filter fun piece => piece ≠ [] ∧ piece ≠ here)) ∧
    ∀ place, resolve root name = .ok place →
      ∃ steps, place = root ++ steps ∧ ∀ step ∈ steps, LeadsDown step := by
  intro pieces
  have habove : above ∈ stepsOf (Text.encode name) ↔ above ∈ pieces := by
    rw [mem_stepsOf_iff, and_iff_left (by decide)]
  have hkept : essential (stepsOf (Text.encode name)) =
      pieces.filter fun piece => piece ≠ [] ∧ piece ≠ here := by
    rw [essential, stepsOf, List.filter_filter]
    refine List.filter_congr fun piece _ => ?_
    cases piece <;> simp
  constructor
  · rw [resolve_eq_steps, hkept]
    simp only [stepsOf_eq_nil_iff, habove]
    rfl
  · intro place hplace
    obtain ⟨-, hnot, rfl⟩ := resolve_eq_ok_iff.1 hplace
    refine ⟨_, rfl, fun step hstep => ?_⟩
    obtain ⟨hsteps, hhere⟩ := List.mem_filter.1 hstep
    obtain ⟨hpieces, hne⟩ := mem_stepsOf_iff.1 hsteps
    refine ⟨hne, slash_not_mem_of_mem_pieces hpieces, by simpa using hhere, ?_⟩
    rintro rfl
    exact hnot hsteps

/-- Slashes at both ends and in a row, a piece `.`, and pieces that only have dots in them. -/
theorem resolve_eq_pieces_dots :
    let root : Path := [Text.encode "srv"]
    let steps : List Name := [Text.encode "...", Text.encode "..a", Text.encode ".b"]
    resolve root "//..././/..a/.b/" = .ok (root ++ steps) ∧ ∀ step ∈ steps, LeadsDown step := by
  intro root steps
  obtain ⟨hresolve, hdown⟩ := resolve_eq_pieces root "//..././/..a/.b/"
  have hsteps : resolve root "//..././/..a/.b/" = .ok (root ++ steps) := by
    rw [hresolve, if_neg (by decide), if_neg (by decide)]
    exact congrArg Except.ok (by decide)
  obtain ⟨steps', heq, hsteps'⟩ := hdown _ hsteps
  exact ⟨hsteps, (List.append_cancel_left heq).symm ▸ hsteps'⟩

end Harbor.Files
