import Harbor.Proofs.Files.Walking

/-!
# Making directories

A directory is made where a path leads, and before it those above it that are missing. So
all that is made are directories that fronts of the path lead to, in places where nothing
was, even if the last of them cannot be made.

Main results:

* `makeDirectories_of_follow`: a directory that is there is not made again.
* `makes_makeDirectories`: what is made are directories on the way.
* `exists_follow_makeDirectories`: the path leads to a directory afterwards.
-/

namespace Harbor.Files.FileSystem

variable {fs fs' : FileSystem} {start directory path : Path} {steps front : List Name}
  {name : Name} {node : Node}

/-! ## Directories that are there -/

/-- The last step of a path can be left out. -/
theorem follow_front {parent : Path}
    (h : refusal? start (front ++ [name]) = none) (hname : name ≠ [])
    (hstart : fs.node? start = some .directory)
    (hwalk : fs.walk maxLinks start front = .ok (.found parent .directory)) :
    fs.follow start (front ++ [here]) = .ok (.found parent .directory) := by
  obtain ⟨hnul, hsize⟩ := refusal?_eq_none_iff.1 h
  obtain ⟨links, hlinks⟩ := walk_append hwalk
  refine follow_eq_ok_iff.2 ⟨refusal?_eq_none_iff.2 ⟨fun step hstep => ?_, ?_⟩, hstart, ?_⟩
  · rw [← List.append_assoc, List.mem_append, List.mem_singleton] at hstep
    rcases hstep with hstep | rfl
    · exact hnul step (by rw [← List.append_assoc]; exact List.mem_append_left _ hstep)
    · decide
  · have hlength := List.length_pos_iff.2 hname
    simp only [pathSize_append, pathSize, here, List.length_singleton] at hsize ⊢
    omega
  · rw [hlinks, walk_here, walk]

/-- A directory that is there is not made again. -/
theorem makeDirectory_of_follow (h : fs.follow start steps = .ok (.found directory .directory))
    (hsteps : ∀ step ∈ steps, step ≠ []) : fs.makeDirectory start steps = .error .exists := by
  obtain ⟨hrefusal, hstart, hwalk⟩ := follow_eq_ok_iff.1 h
  rw [makeDirectory, hrefusal]
  rcases List.eq_nil_or_concat steps with rfl | ⟨front, name, rfl⟩
  · rfl
  rw [List.concat_eq_append] at *
  -- the directory above is there, and the name is in it
  obtain ⟨parent, hparent⟩ := exists_directory_of_walk hwalk (List.cons_ne_nil _ _)
  obtain ⟨links, hlinks⟩ := walk_append hparent
  have hname : name ≠ [] := hsteps name (List.mem_append_right _ List.mem_cons_self)
  rw [List.getLast?_concat, List.dropLast_concat]
  dsimp only
  rw [follow_front hrefusal hname hstart hparent]
  dsimp only
  rw [hlinks] at hwalk
  split
  · rfl
  next hplain =>
  rw [not_or] at hplain
  split
  · next hlong =>
    rw [walk, if_neg hplain.1, if_neg hplain.2, if_pos hlong] at hwalk
    cases hwalk
  next hlength =>
  split
  · rfl
  · next hnone =>
    rw [walk_name hplain.1 hplain.2 hlength, Option.not_isSome_iff_eq_none.1 hnone] at hwalk
    cases hwalk

/-- A path that leads to a directory is accepted as it is. -/
theorem makeDirectories_of_follow
    (h : fs.follow start steps = .ok (.found directory .directory))
    (hsteps : ∀ step ∈ steps, step ≠ []) : fs.makeDirectories start steps = (fs, .ok ()) := by
  have hdirectory : fs.isDirectory start steps = true := by rw [isDirectory, h]
  rw [makeDirectories, makeDirectory_of_follow h hsteps]
  exact if_pos hdirectory

theorem isDirectory_iff : fs.isDirectory start steps = true ↔
    ∃ directory, fs.follow start steps = .ok (.found directory .directory) := by
  unfold isDirectory
  split
  · next directory h => exact iff_of_true rfl ⟨directory, h⟩
  · next h => exact iff_of_false Bool.false_ne_true fun ⟨directory, hfollow⟩ => h directory hfollow

/-! ## Steps that stay -/

theorem walk_drop_here {links : Nat} {rest : List Name}
    (h : fs.walk links start (front ++ here :: rest) = .ok (.found directory .directory)) :
    fs.walk links start (front ++ rest) = .ok (.found directory .directory) := by
  obtain ⟨middle, hmiddle⟩ := exists_directory_of_walk h (List.cons_ne_nil _ _)
  obtain ⟨links', hlinks⟩ := walk_append hmiddle
  rw [hlinks, walk_here] at h
  rw [hlinks, h]

/-- The steps that stay can be left out of the way to a directory. -/
theorem walk_essential {links : Nat} (front : List Name)
    (h : fs.walk links start (front ++ steps) = .ok (.found directory .directory)) :
    fs.walk links start (front ++ essential steps) = .ok (.found directory .directory) := by
  induction steps generalizing front with
  | nil => exact h
  | cons step steps ih =>
    by_cases hstep : step = here
    · subst hstep
      exact ih front (walk_drop_here h)
    · have hcons : essential (step :: steps) = step :: essential steps :=
        List.filter_cons_of_pos (by simpa using hstep)
      rw [hcons, List.append_cons]
      exact ih _ (by rwa [← List.append_cons])

theorem pathSize_essential_le (steps : List Name) : pathSize (essential steps) ≤ pathSize steps := by
  induction steps with
  | nil => exact Nat.le_refl _
  | cons step steps ih =>
    unfold essential at ih ⊢
    rw [List.filter_cons, pathSize]
    split
    · rw [pathSize]
      omega
    · omega

theorem follow_essential (h : fs.follow start steps = .ok (.found directory .directory)) :
    fs.follow start (essential steps) = .ok (.found directory .directory) := by
  obtain ⟨hrefusal, hstart, hwalk⟩ := follow_eq_ok_iff.1 h
  obtain ⟨hnul, hsize⟩ := refusal?_eq_none_iff.1 hrefusal
  have hwalk' := walk_essential [] hwalk
  refine follow_eq_ok_iff.2 ⟨refusal?_eq_none_iff.2 ⟨fun step hstep => ?_, ?_⟩, hstart, hwalk'⟩
  · rcases List.mem_append.1 hstep with hstep | hstep
    · exact hnul step (List.mem_append_left _ hstep)
    · exact hnul step (List.mem_append_right _ (List.mem_filter.1 hstep).1)
  · have := pathSize_essential_le steps
    rw [pathSize_append] at hsize ⊢
    omega

/-! ## What is made -/

/-- What is made is a directory where nothing was, and the path leads to it. -/
theorem makeDirectory_eq_ok (h : fs.makeDirectory start steps = .ok fs') :
    ∃ made, fs.node? made = none ∧ fs' = fs.place made .directory ∧
      fs'.follow start steps = .ok (.found made .directory) := by
  rw [makeDirectory] at h
  split at h
  · cases h
  · cases h
  next name hrefusal hlast =>
  obtain ⟨front, rfl⟩ := List.getLast?_eq_some_iff.1 hlast
  rw [List.dropLast_concat] at h
  split at h
  · cases h
  · next directory hfollow =>
    split at h
    · cases h
    next hplain =>
    split at h
    · cases h
    next hlength =>
    split at h
    · cases h
    next hnode =>
    cases h
    rw [not_or] at hplain
    rw [Option.not_isSome_iff_eq_none] at hnode
    obtain ⟨-, hstart, hwalk⟩ := follow_eq_ok_iff.1 (follow_place hfollow
      (takesFile_of_vacant hnode) .directory)
    have hwalk' := walk_drop_here hwalk
    rw [List.append_nil] at hwalk'
    obtain ⟨links, hlinks⟩ := walk_append hwalk'
    refine ⟨directory ++ [name], hnode, rfl, follow_eq_ok_iff.2 ⟨hrefusal, hstart, ?_⟩⟩
    rw [hlinks, walk_name hplain.1 hplain.2 hlength,
      node?_place (takesFile_of_vacant hnode).ne_nil, if_pos rfl]
    exact walk.eq_1 ..
  · cases h

/-- A place is a directory that a front of the path leads to. -/
def OnTheWay (fs : FileSystem) (start : Path) (steps : List Name) (path : Path) : Prop :=
  ∃ front, front <+: essential steps ∧ fs.follow start front = .ok (.found path .directory)

theorem OnTheWay.place (h : fs.OnTheWay start steps directory) (hpath : fs.TakesFile path)
    (node : Node) : (fs.place path node).OnTheWay start steps directory := by
  obtain ⟨front, hfront, hfollow⟩ := h
  exact ⟨front, hfront, follow_place hfollow hpath node⟩

/-- Every place that has changed was vacant and is a directory on the way. -/
def Makes (fs fs' : FileSystem) (start : Path) (steps : List Name) : Prop :=
  ∀ path, fs'.node? path ≠ fs.node? path → fs.node? path = none ∧
    fs'.node? path = some .directory ∧ fs'.OnTheWay start steps path

theorem makes_refl (fs : FileSystem) (start : Path) (steps : List Name) :
    fs.Makes fs start steps := fun _ h => absurd rfl h

/-- What is made on the way to the directory above is made on the way. -/
theorem Makes.of_dropLast (h : fs.Makes fs' start (essential steps).dropLast) :
    fs.Makes fs' start steps := by
  intro path hpath
  obtain ⟨hvacant, hmade, front, hfront, hfollow⟩ := h path hpath
  rw [essential_dropLast] at hfront
  exact ⟨hvacant, hmade, front, hfront.trans (List.dropLast_prefix _), hfollow⟩

theorem Makes.makeDirectory {fs'' : FileSystem} (h : fs.Makes fs' start steps)
    (hmake : fs'.makeDirectory start steps = .ok fs'') : fs.Makes fs'' start steps := by
  obtain ⟨made, hvacant, rfl, hfollow⟩ := makeDirectory_eq_ok hmake
  have hmade := takesFile_of_vacant hvacant
  intro path hpath
  rw [node?_place hmade.ne_nil] at hpath ⊢
  split at hpath
  · next heq =>
    subst heq
    have hbefore : fs.node? made = none := by
      by_cases heq : fs'.node? made = fs.node? made
      · rw [← heq, hvacant]
      · exact (h made heq).1
    rw [if_pos rfl]
    exact ⟨hbefore, rfl, _, List.prefix_rfl, follow_essential hfollow⟩
  · next hne =>
    obtain ⟨hbefore, hdirectory, hway⟩ := h path hpath
    rw [if_neg hne]
    exact ⟨hbefore, hdirectory, hway.place hmade _⟩

/-- What is made are directories on the way, also when not all of them can be made. -/
theorem makes_makeDirectories (fs : FileSystem) (start : Path) (steps : List Name) :
    fs.Makes (fs.makeDirectories start steps).1 start steps := by
  fun_induction makeDirectories fs start steps
  case case1 hmake => exact (makes_refl _ _ _).makeDirectory hmake
  case case3 hlater ih =>
    rw [hlater] at ih
    exact ih.of_dropLast
  case case4 hlater fs'' hmake ih =>
    rw [hlater] at ih
    exact ih.of_dropLast.makeDirectory hmake
  case case5 hlater _ _ _ ih | case6 hlater _ _ _ ih =>
    rw [hlater] at ih
    exact ih.of_dropLast
  all_goals exact makes_refl _ _ _

/-- The path leads to a directory when it has been made. -/
theorem exists_follow_makeDirectories (h : fs.makeDirectories start steps = (fs', .ok ())) :
    ∃ directory, fs'.follow start steps = .ok (.found directory .directory) := by
  have hmade {fs fs' : FileSystem} (h : fs.makeDirectory start steps = .ok fs') :
      ∃ directory, fs'.follow start steps = .ok (.found directory .directory) := by
    obtain ⟨made, -, -, hfollow⟩ := makeDirectory_eq_ok h
    exact ⟨made, hfollow⟩
  rw [makeDirectories] at h
  split at h
  · next hmake =>
    cases h
    exact hmade hmake
  · split at h
    · cases h
    split at h
    · cases h
    · split at h
      · next hmake =>
        cases h
        exact hmade hmake
      · split at h
        · next hdirectory =>
          cases h
          exact isDirectory_iff.1 hdirectory
        · cases h
  · split at h
    · next hdirectory =>
      cases h
      exact isDirectory_iff.1 hdirectory
    · cases h

end Harbor.Files.FileSystem
