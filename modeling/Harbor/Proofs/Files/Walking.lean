import Harbor.Files.FileSystem

/-!
# Going on from a directory

A path that goes on behind a directory leads where its last steps lead from there. So
what lies directly in a directory can be named by the path to the directory and one
name more, unless that makes the path too long.

Main results:

* `walk_append`: a walk goes on from the directory that it has come to.
* `follow_directory`, `follow_file`, `follow_vacant`: what one more name leads to.
* `follow_place`: the way to a directory stays when a file is put somewhere.
-/

namespace Harbor.Files

/-- What something in a directory can be named. -/
structure IsName (name : Name) : Prop where
  ne_nil : name ≠ []
  length_le : name.length ≤ maxName
  slash_not_mem : slash ∉ name
  nul_not_mem : 0 ∉ name
  ne_here : name ≠ here
  ne_above : name ≠ above

theorem isName_iff {name : Name} : IsName name ↔ name ≠ [] ∧ name.length ≤ maxName ∧
    slash ∉ name ∧ 0 ∉ name ∧ name ≠ here ∧ name ≠ above :=
  ⟨fun h => ⟨h.1, h.2, h.3, h.4, h.5, h.6⟩, fun ⟨h₁, h₂, h₃, h₄, h₅, h₆⟩ =>
    ⟨h₁, h₂, h₃, h₄, h₅, h₆⟩⟩

instance (name : Name) : Decidable (IsName name) := decidable_of_iff _ isName_iff.symm

theorem pathSize_append (names names' : List Name) :
    pathSize (names ++ names') = pathSize names + pathSize names' := by
  induction names with
  | nil => exact (Nat.zero_add _).symm
  | cons name names ih =>
    rw [List.cons_append, pathSize, pathSize, ih]
    omega

namespace FileSystem

variable {fs : FileSystem} {links : Nat} {start at_ directory path : Path}
  {steps rest : List Name} {name : Name} {node : Node} {leads : Leads}

theorem node?_place (h : path ≠ []) (node : Node) (other : Path) :
    (fs.place path node).node? other = if path = other then some node else fs.node? other := by
  unfold node? place
  by_cases hother : other = []
  · rw [if_pos hother, if_pos hother, if_neg fun heq => h (heq.trans hother)]
  · rw [if_neg hother, if_neg hother, Dictionary.get?_insert]

/-! ## Walks -/

theorem walk_here : fs.walk links at_ (here :: rest) = fs.walk links at_ rest := by
  rw [walk, if_pos rfl]

theorem walk_above : fs.walk links at_ (above :: rest) = fs.walk links at_.dropLast rest := by
  rw [walk, if_neg (by decide), if_pos rfl]

theorem walk_name (hhere : name ≠ here) (habove : name ≠ above)
    (hlength : ¬ maxName < name.length) :
    fs.walk links at_ (name :: rest) =
      match fs.node? (at_ ++ [name]) with
      | none => if rest = [] then .ok (.vacant at_ name) else .error .noEntry
      | some .directory => fs.walk links (at_ ++ [name]) rest
      | some (.file contents) =>
        if rest = [] then .ok (.found (at_ ++ [name]) (.file contents)) else .error .notDirectory
      | some (.link target) =>
        match links with
        | 0 => .error .tooManyLinks
        | links + 1 =>
          fs.walk links (if target.head? = some slash then [] else at_)
            (targetSteps target ++ rest) := by
  rw [walk]
  exact (if_neg hhere).trans ((if_neg habove).trans (if_neg hlength))

/-- A walk goes on from the directory that it has come to. -/
theorem walk_append (h : fs.walk links start steps = .ok (.found directory .directory)) :
    ∃ links', ∀ rest, fs.walk links start (steps ++ rest) = fs.walk links' directory rest := by
  fun_induction walk fs links start steps
  case case1 =>
    cases h
    exact ⟨_, fun _ => rfl⟩
  case case2 ih =>
    obtain ⟨links', hwalk⟩ := ih h
    exact ⟨links', fun rest => walk_here.trans (hwalk rest)⟩
  case case3 ih =>
    obtain ⟨links', hwalk⟩ := ih h
    exact ⟨links', fun rest => walk_above.trans (hwalk rest)⟩
  case case7 hhere habove hlength hnode ih =>
    obtain ⟨links', hwalk⟩ := ih h
    refine ⟨links', fun rest => ?_⟩
    rw [List.cons_append, walk_name hhere habove hlength, hnode]
    exact hwalk rest
  case case11 hhere habove hlength target hnode links ih =>
    obtain ⟨links', hwalk⟩ := ih h
    refine ⟨links', fun rest => ?_⟩
    rw [List.cons_append, walk_name hhere habove hlength, hnode]
    exact (congrArg _ (List.append_assoc ..).symm).trans (hwalk rest)
  all_goals cases h

/-- A walk that goes on has come to a directory. -/
theorem exists_directory_of_walk (h : fs.walk links start (steps ++ rest) = .ok leads)
    (hrest : rest ≠ []) :
    ∃ directory, fs.walk links start steps = .ok (.found directory .directory) := by
  fun_induction walk fs links start steps
  case case1 => exact ⟨_, rfl⟩
  case case2 ih => exact ih (walk_here.symm.trans h)
  case case3 ih => exact ih (walk_above.symm.trans h)
  case case4 hhere habove hlength =>
    rw [List.cons_append, walk, if_neg hhere, if_neg habove, if_pos hlength] at h
    cases h
  case case7 hhere habove hlength hnode ih =>
    rw [List.cons_append, walk_name hhere habove hlength, hnode] at h
    exact ih h
  case case11 hhere habove hlength target hnode links ih =>
    rw [List.cons_append, walk_name hhere habove hlength, hnode] at h
    exact ih ((congrArg _ (List.append_assoc ..)).trans h)
  case case10 hhere habove hlength target hnode =>
    rw [List.cons_append, walk_name hhere habove hlength, hnode] at h
    cases h
  -- nothing lies behind a file, or where there is nothing
  case case5 hhere habove hlength hnode | case6 hhere habove hlength hnode _ |
      case8 hhere habove hlength _ hnode | case9 hhere habove hlength _ hnode _ =>
    rw [List.cons_append, walk_name hhere habove hlength, hnode] at h
    dsimp only at h
    rw [if_neg (List.append_ne_nil_of_right_ne_nil _ hrest)] at h
    cases h

/-- There is room for a file at a place: nothing is there, or a file. -/
def TakesFile (fs : FileSystem) (path : Path) : Prop :=
  ∀ node, fs.node? path = some node → ∃ contents, node = .file contents

theorem takesFile_of_vacant (h : fs.node? path = none) : fs.TakesFile path := by
  intro node hnode
  rw [h] at hnode
  cases hnode

theorem TakesFile.ne_nil (h : fs.TakesFile path) : path ≠ [] := by
  rintro rfl
  obtain ⟨contents, heq⟩ := h .directory rfl
  cases heq

theorem TakesFile.node?_ne_directory (h : fs.TakesFile path) :
    fs.node? path ≠ some .directory := by
  intro hnode
  obtain ⟨contents, heq⟩ := h .directory hnode
  cases heq

theorem TakesFile.place_file {other : Path} (h : fs.TakesFile path) (hother : other ≠ [])
    (contents : Octets) : (fs.place other (.file contents)).TakesFile path := by
  intro node hnode
  rw [node?_place hother] at hnode
  split at hnode
  · cases hnode
    exact ⟨contents, rfl⟩
  · exact h node hnode

/-- A walk to a directory does not notice what is put where there is room for a file. -/
theorem walk_place (h : fs.walk links start steps = .ok (.found directory .directory))
    (hpath : fs.TakesFile path) (node : Node) :
    (fs.place path node).walk links start steps = .ok (.found directory .directory) := by
  have hkeep {other : Path} {old : Node} (hother : fs.node? other = some old)
      (hold : ∀ contents, old ≠ .file contents) : (fs.place path node).node? other = some old := by
    rw [node?_place hpath.ne_nil, if_neg, hother]
    rintro rfl
    obtain ⟨contents, heq⟩ := hpath old hother
    exact hold contents heq
  fun_induction walk fs links start steps
  case case1 =>
    rw [walk]
    exact h
  case case2 ih => exact walk_here.trans (ih h)
  case case3 ih => exact walk_above.trans (ih h)
  case case7 hhere habove hlength hnode ih =>
    rw [walk_name hhere habove hlength, hkeep hnode nofun]
    exact ih h
  case case11 hhere habove hlength target hnode links ih =>
    rw [walk_name hhere habove hlength, hkeep hnode nofun]
    exact ih h
  all_goals cases h

/-! ## Paths -/

theorem refusal?_eq_none_iff : refusal? start steps = none ↔
    (∀ name ∈ start ++ steps, 0 ∉ name) ∧ pathSize (start ++ steps) ≤ maxPath := by
  have hany : (start ++ steps).any (fun name => name.contains 0) = true ↔
      ¬ ∀ name ∈ start ++ steps, 0 ∉ name := by
    rw [List.any_eq_true]
    simp only [List.contains_iff_mem, Classical.not_forall, Classical.not_not, exists_prop]
  unfold refusal?
  split
  · next hnul => exact iff_of_false (Option.some_ne_none _) fun h => hany.1 hnul h.1
  split
  · next hlong => exact iff_of_false (Option.some_ne_none _) fun h => Nat.not_le.2 hlong h.2
  · next hnul hlong =>
    exact iff_of_true rfl ⟨Decidable.not_not.1 fun h => hnul (hany.2 h), Nat.not_lt.1 hlong⟩

theorem refusal?_of_long (hnul : ∀ name ∈ start ++ steps, 0 ∉ name)
    (h : maxPath < pathSize (start ++ steps)) : refusal? start steps = some .nameTooLong := by
  have hany : ¬ ((start ++ steps).any fun name => name.contains 0) = true := by
    rw [List.any_eq_true]
    rintro ⟨name, hname, hmem⟩
    exact hnul name hname (List.contains_iff_mem.1 hmem)
  rw [refusal?, if_neg hany, if_pos h]

theorem follow_eq_ok_iff : fs.follow start steps = .ok leads ↔ refusal? start steps = none ∧
    fs.node? start = some .directory ∧ fs.walk maxLinks start steps = .ok leads := by
  unfold follow
  cases refusal? start steps with
  | some e => simp
  | none =>
    cases fs.node? start with
    | none => simp
    | some node => cases node <;> simp

/-- The shortest path, from the root of the whole file system to itself. -/
theorem follow_nil (fs : FileSystem) : fs.follow [] [] = .ok (.found [] .directory) :=
  follow_eq_ok_iff.2 ⟨by decide, rfl, by rw [walk]⟩

/-- What one more name leads to, unless it makes the path too long. -/
theorem exists_walk_of_follow (h : fs.follow start steps = .ok (.found directory .directory))
    (hname : IsName name) (hsize : pathSize (start ++ steps ++ [name]) ≤ maxPath) :
    ∃ links, fs.follow start (steps ++ [name]) = fs.walk links directory [name] := by
  obtain ⟨hrefusal, hstart, hwalk⟩ := follow_eq_ok_iff.1 h
  obtain ⟨links, hlinks⟩ := walk_append hwalk
  refine ⟨links, ?_⟩
  have hnul : ∀ other ∈ start ++ steps ++ [name], 0 ∉ other := by
    intro other hother
    rcases List.mem_append.1 hother with hother | hother
    · exact (refusal?_eq_none_iff.1 hrefusal).1 other hother
    · exact List.mem_singleton.1 hother ▸ hname.nul_not_mem
  rw [List.append_assoc] at hnul hsize
  rw [follow, refusal?_eq_none_iff.2 ⟨hnul, hsize⟩, hstart]
  exact hlinks [name]

theorem follow_directory (h : fs.follow start steps = .ok (.found directory .directory))
    (hname : IsName name) (hsize : pathSize (start ++ steps ++ [name]) ≤ maxPath)
    (hnode : fs.node? (directory ++ [name]) = some .directory) :
    fs.follow start (steps ++ [name]) = .ok (.found (directory ++ [name]) .directory) := by
  obtain ⟨links, hfollow⟩ := exists_walk_of_follow h hname hsize
  rw [hfollow, walk_name hname.ne_here hname.ne_above (Nat.not_lt.2 hname.length_le), hnode]
  exact walk.eq_1 ..

theorem follow_file {contents : Octets}
    (h : fs.follow start steps = .ok (.found directory .directory)) (hname : IsName name)
    (hsize : pathSize (start ++ steps ++ [name]) ≤ maxPath)
    (hnode : fs.node? (directory ++ [name]) = some (.file contents)) :
    fs.follow start (steps ++ [name]) = .ok (.found (directory ++ [name]) (.file contents)) := by
  obtain ⟨links, hfollow⟩ := exists_walk_of_follow h hname hsize
  rw [hfollow, walk_name hname.ne_here hname.ne_above (Nat.not_lt.2 hname.length_le), hnode]
  exact if_pos rfl

theorem follow_vacant (h : fs.follow start steps = .ok (.found directory .directory))
    (hname : IsName name) (hsize : pathSize (start ++ steps ++ [name]) ≤ maxPath)
    (hnode : fs.node? (directory ++ [name]) = none) :
    fs.follow start (steps ++ [name]) = .ok (.vacant directory name) := by
  obtain ⟨links, hfollow⟩ := exists_walk_of_follow h hname hsize
  rw [hfollow, walk_name hname.ne_here hname.ne_above (Nat.not_lt.2 hname.length_le), hnode]
  exact if_pos rfl

/-- A path that is too long is not even looked for. -/
theorem follow_long (h : maxPath < pathSize (start ++ steps)) (leads : Leads) :
    fs.follow start steps ≠ .ok leads := fun hfollow =>
  Nat.not_le.2 h (refusal?_eq_none_iff.1 (follow_eq_ok_iff.1 hfollow).1).2

/-- The way to a directory stays when something is put where there is room for a file. -/
theorem follow_place (h : fs.follow start steps = .ok (.found directory .directory))
    (hpath : fs.TakesFile path) (node : Node) :
    (fs.place path node).follow start steps = .ok (.found directory .directory) := by
  obtain ⟨hrefusal, hstart, hwalk⟩ := follow_eq_ok_iff.1 h
  refine follow_eq_ok_iff.2 ⟨hrefusal, ?_, walk_place hwalk hpath node⟩
  rw [node?_place hpath.ne_nil, if_neg, hstart]
  rintro rfl
  exact hpath.node?_ne_directory hstart

end FileSystem

end Harbor.Files
