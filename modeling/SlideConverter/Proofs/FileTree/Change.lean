import SlideConverter.FileTree.Reply
import SlideConverter.Proofs.FileTree.Walk

/-!
# What operations leave behind

Making directories and files only adds to a tree, at places where nothing was. A removal
takes away the place that its path leads to, and for a whole directory what is below it.
A path that has been removed leads nowhere afterwards. To remove a directory undoes the making
of it, but not that of the directories on the way.
-/

namespace SlideConverter.FileTree

open Text

variable {t made base : FileTree} {place goal other : Location} {path : Path} {node : Node}
  {paths : List Path}

/-! ## Making -/

/-- A tree with more directories in it, well formed as well. -/
structure Grows (t made : FileTree) : Prop where
  extended : made.Extends t
  wellFormed : made.WellFormed
  added : ∀ place node, made.node? place = some node →
    t.node? place = some node ∨ node = .directory

theorem Grows.refl (wf : t.WellFormed) : Grows t t := ⟨.refl t, wf, fun _ _ here => .inl here⟩

theorem Grows.trans {between : FileTree} (first : Grows t between) (second : Grows between made) :
    Grows t made := by
  refine ⟨second.extended.trans first.extended, second.wellFormed, ?_⟩
  intro place node here
  rcases second.added place node here with there | dir
  · exact first.added place node there
  · exact .inr dir

theorem IsFree.wellFormed (free : t.IsFree place) (wf : t.WellFormed) :
    (t.put place node).WellFormed := by
  obtain ⟨vacant, above, name, rfl, dir, proper⟩ := free
  exact wf.put dir proper vacant

theorem IsFree.grows (free : t.IsFree place) (wf : t.WellFormed) :
    Grows t (t.put place .directory) := by
  obtain ⟨vacant, above, name, same, -⟩ := id free
  refine ⟨extends_put vacant, free.wellFormed wf, ?_⟩
  intro other node here
  rw [node?_put (by simp [same])] at here
  split at here
  · cases here
    exact .inr rfl
  · exact .inl here

/-- What is made is a directory where nothing was. -/
theorem makeDirectory_eq_ok (ok : t.makeDirectory path = .ok made) :
    ∃ goal, t.locateParts .vacancy path (withoutTrailing path).1 = .ok goal ∧
      t.node? goal = none ∧ made = t.put goal .directory := by
  rw [makeDirectory] at ok
  cases located : t.locateParts .vacancy path (withoutTrailing path).1 with
  | error cause => simp [located, bind, Except.bind] at ok
  | ok goal =>
    simp only [located, bind, Except.bind] at ok
    split at ok
    · rename_i vacant
      cases ok
      exact ⟨goal, rfl, vacant, rfl⟩
    · cases ok

theorem full_of_located {ending : Ending} {parts : List Bytes}
    (located : t.locateParts ending path parts = .ok goal) : path.bytes ≠ [] := by
  intro empty
  obtain ⟨checked, -⟩ := locateParts_eq_ok.mp located
  simp [checkPath, empty] at checked

theorem isFree_of_vacant (wf : t.WellFormed)
    (located : t.locateParts .vacancy path (withoutTrailing path).1 = .ok goal)
    (vacant : t.node? goal = none) : t.IsFree goal := by
  obtain ⟨-, walked⟩ := locateParts_eq_ok.mp located
  obtain ⟨empties, split, -⟩ := withoutTrailing_append path
  refine walkLinks_free wf vacant ?_ ?_ walked
  · intro part there
    have within : part ∈ Path.splitSlashes path.bytes := by
      rw [split]
      exact List.mem_append_left _ there
    exact Path.slash_notMem_of_mem part within
  · intro nowhere none
    have absolute := isAbsolute_of_withoutTrailing none (full_of_located located)
    simp [origin, absolute] at nowhere

theorem makeDirectory_grows (wf : t.WellFormed) (ok : t.makeDirectory path = .ok made) :
    Grows t made := by
  obtain ⟨goal, located, vacant, rfl⟩ := makeDirectory_eq_ok ok
  exact (isFree_of_vacant wf located vacant).grows wf

theorem makeFirst_grows (wf : t.WellFormed) (paths : List Path) :
    Grows t (t.makeFirst paths).2 := by
  induction paths with
  | nil => exact .refl wf
  | cons path ancestors ih =>
    rw [makeFirst]
    split
    · exact .refl wf
    · have there : ∀ (u : FileTree) (cause : SystemError),
          (if u.isDirectory path then ((.ok (), u) : Outcome) else (.error cause, u)).2 = u := by
        intro u cause
        split <;> rfl
      split
      · rename_i made ok
        exact makeDirectory_grows wf ok
      · split
        · rename_i cause u failed
          rw [failed] at ih
          exact ih
        · rename_i u done
          rw [done] at ih
          split
          · rename_i made ok
            exact ih.trans (makeDirectory_grows ih.wellFormed ok)
          · rw [there]
            exact ih
      · rw [there]
        exact .refl wf

theorem makeDirectoryAll_grows (wf : t.WellFormed) (path : Path) :
    Grows t (t.makeDirectoryAll path).2 :=
  makeFirst_grows wf path.lineage

theorem isDirectory_eq_true : t.isDirectory path = true ↔
    ∃ place, t.lookUp .existing path = .ok (place, .directory) := by
  rw [isDirectory]
  split
  · rename_i place same
    simp [same]
  · rename_i other
    simp only [Bool.false_eq_true, false_iff, not_exists]
    exact other

/-- Whatever is looked for at the path, the directory that has been made is found. -/
theorem lookUp_made {ending : Ending} (asks : ending.mayBeMissing = false)
    (located : t.locateParts .vacancy path (withoutTrailing path).1 = .ok goal)
    (vacant : t.node? goal = none) :
    (t.put goal .directory).lookUp ending path = .ok (goal, .directory) := by
  obtain ⟨checked, walked⟩ := locateParts_eq_ok.mp located
  obtain ⟨empties, split, empty⟩ := withoutTrailing_append path
  have goal_ne : goal ≠ [] := ne_root (t := t) (by simp [vacant])
  refine lookUp_eq_ok.mpr ⟨locateParts_eq_ok.mpr ⟨checked, ?_⟩, by simp [node?_put goal_ne]⟩
  rw [split]
  exact walkLinks_filled asks empty vacant walked

theorem isDirectory_of_makeDirectory (ok : t.makeDirectory path = .ok made) :
    made.isDirectory path = true := by
  obtain ⟨goal, located, vacant, rfl⟩ := makeDirectory_eq_ok ok
  exact isDirectory_eq_true.mpr ⟨goal, lookUp_made rfl located vacant⟩

/-- What has been made can be walked to. -/
theorem isDirectory_of_makeFirst {ancestors : List Path} (full : path.bytes ≠ [])
    (ok : (t.makeFirst (path :: ancestors)).1 = .ok ()) :
    (t.makeFirst (path :: ancestors)).2.isDirectory path = true := by
  have there : ∀ (u : FileTree) (cause : SystemError),
      (if u.isDirectory path then ((.ok (), u) : Outcome) else (.error cause, u)).1 = .ok () →
      (if u.isDirectory path then ((.ok (), u) : Outcome) else (.error cause, u)).2.isDirectory
        path = true := by
    intro u cause ok
    split at ok
    · rename_i dir
      simp [dir]
    · cases ok
  rw [makeFirst] at ok ⊢
  simp only [List.isEmpty_iff, full, if_false] at ok ⊢
  split
  · rename_i made done
    exact isDirectory_of_makeDirectory done
  · rename_i missing
    simp only [missing] at ok
    split
    · rename_i cause u failed
      simp [failed] at ok
    · rename_i u done
      simp only [done] at ok
      split
      · rename_i made again
        exact isDirectory_of_makeDirectory again
      · rename_i cause again
        simp only [again] at ok
        exact there u cause ok
  · rename_i cause other failed
    simp only [failed] at ok
    exact there t cause ok

theorem lineage_eq_cons (path : Path) : ∃ ancestors, path.lineage = path :: ancestors := by
  rw [Path.lineage]
  cases path.bytes.length with
  | zero => exact ⟨[], rfl⟩
  | succ steps =>
    rw [Path.lineageWithin]
    split
    · exact ⟨[], rfl⟩
    · exact ⟨_, rfl⟩

theorem isDirectory_of_makeDirectoryAll (full : path.bytes ≠ [])
    (ok : (t.makeDirectoryAll path).1 = .ok ()) :
    (t.makeDirectoryAll path).2.isDirectory path = true := by
  obtain ⟨ancestors, lineage⟩ := lineage_eq_cons path
  rw [makeDirectoryAll, lineage] at ok ⊢
  exact isDirectory_of_makeFirst full ok

/-- For the empty path nothing has to be made. -/
theorem makeDirectoryAll_of_nil (empty : path.bytes = []) :
    t.makeDirectoryAll path = (.ok (), t) := by
  obtain ⟨ancestors, lineage⟩ := lineage_eq_cons path
  rw [makeDirectoryAll, lineage, makeFirst]
  simp [empty]

/-- A directory that is there is left as it is. -/
theorem makeDirectoryAll_of_isDirectory (there : t.isDirectory path = true) :
    t.makeDirectoryAll path = (.ok (), t) := by
  obtain ⟨place, found⟩ := isDirectory_eq_true.mp there
  obtain ⟨located, dir⟩ := lookUp_eq_ok.mp found
  have full := full_of_located located
  obtain ⟨checked, walked⟩ := locateParts_eq_ok.mp located
  obtain ⟨empties, split, empty⟩ := withoutTrailing_append path
  rw [split] at walked
  obtain ⟨goal, node, reached, here⟩ := walkLinks_unfollowed
    (rfl : Ending.vacancy.followsLink = false) (walkLinks_without_empties empty walked) dir
  have taken : t.makeDirectory path = .error .exists := by
    rw [makeDirectory, locateParts_eq_ok.mpr ⟨checked, reached⟩]
    simp [bind, Except.bind, here]
  obtain ⟨ancestors, lineage⟩ := lineage_eq_cons path
  rw [makeDirectoryAll, lineage, makeFirst]
  simp [full, taken, there]

/-! ## Putting files -/

theorem createNewFile_eq_ok (ok : t.createNewFile path = .ok made) :
    ∃ goal, t.locate .vacancy path = .ok goal ∧ t.node? goal = none ∧
      made = t.put goal (.file [] false) := by
  rw [createNewFile] at ok
  cases located : t.locate .vacancy path with
  | error cause => simp [located, bind, Except.bind] at ok
  | ok goal =>
    simp only [located, bind, Except.bind] at ok
    split at ok
    · rename_i vacant
      cases ok
      exact ⟨goal, rfl, vacant, rfl⟩
    · cases ok

theorem createFile_eq_ok (ok : t.createFile path = .ok made) :
    ∃ goal executable, t.locate .target path = .ok goal ∧
      (t.node? goal = none ∨ ∃ content, t.node? goal = some (.file content executable)) ∧
      made = t.put goal (.file [] executable) := by
  rw [createFile] at ok
  cases located : t.locate .target path with
  | error cause => simp [located, bind, Except.bind] at ok
  | ok goal =>
    simp only [located, bind, Except.bind] at ok
    split at ok
    · rename_i content executable here
      cases ok
      exact ⟨goal, executable, rfl, .inr ⟨content, here⟩, rfl⟩
    · rename_i vacant
      cases ok
      exact ⟨goal, false, rfl, .inl vacant, rfl⟩
    · cases ok

theorem createFile_wellFormed (wf : t.WellFormed) (ok : t.createFile path = .ok made) :
    made.WellFormed := by
  obtain ⟨goal, executable, located, vacant | ⟨content, here⟩, rfl⟩ := createFile_eq_ok ok
  · obtain ⟨-, walked⟩ := locateParts_eq_ok.mp located
    have free : t.IsFree goal := walkLinks_free wf vacant
      (fun part => Path.slash_notMem_of_mem part) (fun _ => Path.splitSlashes_ne_nil _) walked
    exact free.wellFormed wf
  · exact wf.put_file here (by simp)

theorem copy_eq_ok {source target : Path} (ok : t.copy source target = .ok made) :
    ∃ origin content executable goal,
      t.lookUp .existing source = .ok (origin, .file content executable) ∧
      t.locate .target target = .ok goal ∧
      t.node? goal ≠ some .directory ∧ (∀ target, t.node? goal ≠ some (.link target)) ∧
      made = t.put goal (.file (if goal = origin then [] else content) executable) := by
  rw [copy] at ok
  cases read : t.lookUp .existing source with
  | error cause => simp [read, bind, Except.bind] at ok
  | ok found =>
    obtain ⟨origin, node⟩ := found
    simp only [read, bind, Except.bind] at ok
    cases node with
    | directory => cases ok
    | link => cases ok
    | file content executable =>
      cases located : t.locate .target target with
      | error cause => simp [located] at ok
      | ok goal =>
        simp only [located] at ok
        split at ok
        · cases ok
        · cases ok
        · rename_i apart direct
          cases ok
          exact ⟨origin, content, executable, goal, rfl, rfl, apart, direct, rfl⟩

/-! ## Removing -/

theorem erase_put (vacant : t.node? place = none) : (t.put place node).erase place = t := by
  have place_ne : place ≠ [] := ne_root (t := t) (by simp [vacant])
  have none_there : ∀ e ∈ t.entries, e.1 ≠ place := by
    rw [node?_of_ne_nil place_ne] at vacant
    simpa using vacant
  have kept : t.entries.filter (·.1 ≠ place) = t.entries :=
    List.filter_eq_self.mpr fun e there => by simpa using none_there e there
  simp only [put, erase, List.filter_append, kept]
  simp

theorem removeFile_eq_ok (ok : t.removeFile path = .ok made) :
    ∃ goal node, t.locate .itself path = .ok goal ∧ t.node? goal = some node ∧
      node ≠ .directory ∧ made = t.erase goal := by
  rw [removeFile] at ok
  cases located : t.locateParts .itself path (withoutTrailing path).1 with
  | error cause => simp [located, bind, Except.bind] at ok
  | ok goal =>
    simp only [located, bind, Except.bind] at ok
    have erased : ∀ {node}, t.node? goal = some node → node ≠ .directory →
        (if (withoutTrailing path).2 = true then .error .notDirectory
          else .ok (t.erase goal) : Except SystemError FileTree) = .ok made →
        ∃ goal node, t.locate .itself path = .ok goal ∧ t.node? goal = some node ∧
          node ≠ .directory ∧ made = t.erase goal := by
      intro node here other ok
      split at ok
      · cases ok
      · rename_i none
        cases ok
        rw [withoutTrailing_of_none (by simpa using none)] at located
        exact ⟨goal, node, located, here, other, rfl⟩
    cases here : t.node? goal with
    | none => simp [here] at ok
    | some node =>
      cases node with
      | directory => simp [here] at ok
      | file content executable => exact erased here nofun (by simpa only [here] using ok)
      | link target => exact erased here nofun (by simpa only [here] using ok)

/-- What is called by a name is not the root. -/
theorem ne_nil_of_named {last : Bytes} (lastPart : (withoutTrailing path).1.getLast? = some last)
    (notDot : ¬ last = [Path.dot]) (notDots : ¬ last = [Path.dot, Path.dot])
    (located : t.locateParts .itself path (withoutTrailing path).1 = .ok goal) : goal ≠ [] := by
  obtain ⟨front, kept⟩ := List.getLast?_eq_some_iff.mp lastPart
  obtain ⟨empties, split, -⟩ := withoutTrailing_append path
  have last_ne := ne_nil_of_withoutTrailing kept
  have within : last ∈ Path.splitSlashes path.bytes := by
    rw [split, kept]
    simp
  have plain := Path.slash_notMem_of_mem last within
  have proper := Path.isName_of_ne plain last_ne notDot notDots
  obtain ⟨-, walked⟩ := locateParts_eq_ok.mp located
  rw [kept] at walked
  have may : MayFollow .itself [last] := .inr ⟨last, by simp, last_ne⟩
  obtain ⟨between, reached⟩ := walkLinks_front may walked
  obtain ⟨left, on⟩ := walkLinks_append may reached
  rw [on] at walked
  obtain ⟨-, rfl⟩ := walkLinks_name proper (.inl rfl) walked
  simp

theorem removeDirectory_eq_ok (ok : t.removeDirectory path = .ok made) :
    ∃ goal, t.locateParts .itself path (withoutTrailing path).1 = .ok goal ∧
      t.node? goal = some .directory ∧ goal ≠ [] ∧ made = t.erase goal := by
  rw [removeDirectory] at ok
  cases located : t.locateParts .itself path (withoutTrailing path).1 with
  | error cause => simp [located, bind, Except.bind] at ok
  | ok goal =>
    simp only [located, bind, Except.bind] at ok
    split at ok
    · cases ok
    · rename_i last lastPart
      split at ok
      · cases ok
      · rename_i notDot
        split at ok
        · cases ok
        · rename_i notDots
          split at ok
          · cases ok
          · rename_i dir
            split at ok
            · cases ok
              refine ⟨goal, rfl, dir, ?_, rfl⟩
              exact ne_nil_of_named lastPart notDot notDots located
            · cases ok
          · cases ok

/-- The ways in which a removal of a whole directory can go. -/
inductive Removal (t : FileTree) (path : Path) : Outcome → Prop
  | failed (cause : SystemError) : Removal t path (.error cause, t)
  | link {place : Location} {target : Path}
      (here : t.lookUp .itself path = .ok (place, .link target)) :
    Removal t path (.ok (), t.erase place)
  | emptied {place : Location} (cause : SystemError)
      (here : t.lookUp .itself path = .ok (place, .directory)) :
    Removal t path (.error cause, t.eraseBelow place)
  /-- What the path went through was below it. -/
  | cutOff {place : Location} (here : t.lookUp .itself path = .ok (place, .directory))
      (away : (t.eraseBelow place).removeDirectory path = .error .missing) :
    Removal t path (.ok (), t.eraseBelow place)
  | removed {place goal : Location} (here : t.lookUp .itself path = .ok (place, .directory))
      (located : (t.eraseBelow place).locateParts .itself path (withoutTrailing path).1 = .ok goal)
      (dir : (t.eraseBelow place).node? goal = some .directory) (goal_ne : goal ≠ []) :
    Removal t path (.ok (), (t.eraseBelow place).erase goal)

theorem removal (t : FileTree) (path : Path) : Removal t path (t.removeDirectoryAll path) := by
  rw [removeDirectoryAll]
  split
  · exact .failed _
  · rename_i place target here
    cases gone : t.removeFile path with
    | error cause => exact .failed cause
    | ok made =>
      obtain ⟨goal, node, located, -, -, rfl⟩ := removeFile_eq_ok gone
      obtain ⟨same, -⟩ := lookUp_eq_ok.mp here
      rw [same] at located
      cases located
      exact .link here
  · exact .failed _
  · rename_i place here
    dsimp only
    cases gone : (t.eraseBelow place).removeDirectory path with
    | error cause =>
      by_cases missing : cause = .missing
      · subst missing
        exact .cutOff here gone
      · split
        · rename_i same
          cases same
          exact absurd rfl missing
        · exact .emptied cause here
    | ok made =>
      obtain ⟨goal, located, dir, goal_ne, rfl⟩ := removeDirectory_eq_ok gone
      exact .removed here located dir goal_ne

/-- What exists is there without following a link at its end. -/
theorem lookUp_itself_of_existing (found : t.lookUp .existing path = .ok (place, node)) :
    ∃ goal here, t.lookUp .itself path = .ok (goal, here) := by
  obtain ⟨located, there⟩ := lookUp_eq_ok.mp found
  obtain ⟨checked, walked⟩ := locateParts_eq_ok.mp located
  obtain ⟨goal, here, reached, same⟩ := walkLinks_unfollowed
    (rfl : Ending.itself.followsLink = false) walked there
  exact ⟨goal, here, lookUp_eq_ok.mpr ⟨locateParts_eq_ok.mpr ⟨checked, reached⟩, same⟩⟩

theorem lookUp_existing_of_itself (here : t.lookUp .itself path = .ok (place, .directory)) :
    t.lookUp .existing path = .ok (place, .directory) := by
  obtain ⟨located, dir⟩ := lookUp_eq_ok.mp here
  obtain ⟨checked, walked⟩ := locateParts_eq_ok.mp located
  rcases walkLinks_existing_of_itself walked with ⟨target, linked⟩ | reached | gap
  · rw [dir] at linked
    cases linked
  · exact lookUp_eq_ok.mpr ⟨locateParts_eq_ok.mpr ⟨checked, reached⟩, dir⟩
  · rw [dir] at gap
    cases gap

/-- The directory that a removal takes away last is the one that the path leads to. -/
theorem eq_of_removed (here : t.lookUp .itself path = .ok (place, .directory))
    (located : (t.eraseBelow place).locateParts .itself path (withoutTrailing path).1 = .ok goal)
    (dir : (t.eraseBelow place).node? goal = some .directory) : goal = place := by
  obtain ⟨checked, walked⟩ := locateParts_eq_ok.mp located
  obtain ⟨empties, split, empty⟩ := withoutTrailing_append path
  rcases walkLinks_existing_of_itself walked with ⟨target, linked⟩ | reached | gap
  · rw [dir] at linked
    cases linked
  · have there := lookUp_of_empties checked split empty reached dir
    have before := lookUp_extends (extends_eraseBelow t place) rfl there
    rw [lookUp_existing_of_itself here] at before
    cases before
    rfl
  · rw [dir] at gap
    cases gap

/-- Nothing is removed but what the path leads to and, if that is a directory, what is below it. -/
theorem node?_removeDirectoryAll (t : FileTree) (path : Path) (other : Location) :
    (t.removeDirectoryAll path).2.node? other = t.node? other ∨
      (∃ target, t.lookUp .itself path = .ok (other, .link target)) ∨
      ∃ place, t.lookUp .itself path = .ok (place, .directory) ∧
        (other = place ∨ isBelow place other = true) := by
  have shape := removal t path
  generalize t.removeDirectoryAll path = result at shape
  have emptied : ∀ {place : Location}, t.lookUp .itself path = .ok (place, .directory) →
      (t.eraseBelow place).node? other = t.node? other ∨
        ∃ place, t.lookUp .itself path = .ok (place, .directory) ∧
          (other = place ∨ isBelow place other = true) := by
    intro place here
    by_cases below : isBelow place other = true
    · exact .inr ⟨place, here, .inr below⟩
    · exact .inl (by simp [node?_eraseBelow, below])
  cases shape with
  | failed cause => exact .inl rfl
  | @link place target here =>
    obtain ⟨-, linked⟩ := lookUp_eq_ok.mp here
    have place_ne : place ≠ [] := ne_root (t := t) (by simp [linked])
    by_cases same : other = place
    · subst same
      exact .inr (.inl ⟨target, here⟩)
    · exact .inl (by simp [node?_erase place_ne, same])
  | emptied cause here => exact (emptied here).imp_right .inr
  | cutOff here away => exact (emptied here).imp_right .inr
  | @removed place goal here located dir goal_ne =>
    obtain rfl := eq_of_removed here located dir
    by_cases same : other = goal
    · exact .inr (.inr ⟨goal, here, .inl same⟩)
    · rw [node?_erase goal_ne, if_neg same]
      exact (emptied here).imp_right .inr

/-- All that is below the directory that the path leads to is removed, even if the removal
of the directory itself fails. -/
theorem removeDirectoryAll_below (here : t.lookUp .itself path = .ok (place, .directory))
    (below : isBelow place other = true) : (t.removeDirectoryAll path).2.node? other = none := by
  have emptied : (t.eraseBelow place).node? other = none := by simp [node?_eraseBelow, below]
  rw [removeDirectoryAll, here]
  dsimp only
  cases gone : (t.eraseBelow place).removeDirectory path with
  | error cause => cases cause <;> exact emptied
  | ok made =>
    obtain ⟨goal, -, -, goal_ne, rfl⟩ := removeDirectory_eq_ok gone
    change ((t.eraseBelow place).erase goal).node? other = none
    rw [node?_erase goal_ne, emptied, ite_self]

theorem pathExists_eq_true : t.pathExists path = true ↔
    ∃ place node, t.lookUp .existing path = .ok (place, node) := by
  rw [pathExists]
  cases t.lookUp .existing path with
  | error cause => simp [Except.toBool]
  | ok found =>
    simp only [Except.toBool, Except.ok.injEq, true_iff]
    exact ⟨found.1, found.2, rfl⟩

/-- A path does not exist once nothing is where it led, links at its end not followed. -/
theorem pathExists_eq_false {kept empties : List Bytes} (smaller : t.Extends made)
    (split : Path.splitSlashes path.bytes = kept ++ empties)
    (empty : ∀ part ∈ empties, part = [])
    (gone : ∀ goal, t.locateParts .itself path kept = .ok goal → made.node? goal = none) :
    made.pathExists path = false := by
  by_contra there
  obtain ⟨place, node, found⟩ := pathExists_eq_true.mp (by simpa using there)
  obtain ⟨located, here⟩ := lookUp_eq_ok.mp found
  obtain ⟨checked, walked⟩ := locateParts_eq_ok.mp located
  rw [split] at walked
  obtain ⟨goal, node', reached, here'⟩ := walkLinks_unfollowed
    (rfl : Ending.itself.followsLink = false) (walkLinks_without_empties empty walked) here
  have before := smaller.hasWays.locateParts rfl (locateParts_eq_ok.mpr ⟨checked, reached⟩)
  rw [gone goal before] at here'
  cases here'

theorem node?_of_missing (away : t.removeDirectory path = .error .missing)
    (located : t.locateParts .itself path (withoutTrailing path).1 = .ok goal) :
    t.node? goal = none := by
  rw [removeDirectory] at away
  simp only [located, bind, Except.bind] at away
  split at away
  · cases away
  · split at away
    · cases away
    · split at away
      · cases away
      · split at away
        · assumption
        · split at away <;> cases away
        · cases away

/-- What has been removed does not exist. -/
theorem pathExists_of_removed (ok : (t.removeDirectoryAll path).1 = .ok ()) :
    (t.removeDirectoryAll path).2.pathExists path = false := by
  obtain ⟨empties, split, empty⟩ := withoutTrailing_append path
  have shape := removal t path
  generalize t.removeDirectoryAll path = result at shape ok ⊢
  cases shape with
  | failed cause => cases ok
  | @link place target here =>
    obtain ⟨located, linked⟩ := lookUp_eq_ok.mp here
    have place_ne : place ≠ [] := ne_root (t := t) (by simp [linked])
    refine pathExists_eq_false (extends_erase t place) (List.append_nil _).symm (by simp) ?_
    intro goal located'
    rw [← locate, located] at located'
    cases located'
    simp [node?_erase place_ne]
  | emptied cause here => cases ok
  | cutOff here away =>
    exact pathExists_eq_false (.refl _) split empty fun goal located =>
      node?_of_missing away located
  | @removed place goal here located dir goal_ne =>
    refine pathExists_eq_false (extends_erase _ goal) split empty ?_
    intro goal' located'
    rw [located] at located'
    cases located'
    simp [node?_erase goal_ne]

/-! ## Undoing -/

/-- A walk that ends in dots comes to a directory. -/
theorem directory_of_dots {ending : Ending} {links : Nat} {last : Bytes} (wf : t.WellFormed)
    (dots : last = [Path.dot] ∨ last = [Path.dot, Path.dot])
    (reached : t.walkLinks ending links place [last] = .ok goal) :
    t.node? goal = some .directory := by
  by_cases dir : t.node? place = some .directory
  · rw [walkLinks] at reached
    rcases dots with rfl | rfl
    · rw [walk_silent dir rfl] at reached
      cases reached
      exact dir
    · rw [walk_dots dir] at reached
      cases reached
      exact wf.dropLast dir
  · obtain ⟨cause, stuck⟩ := walk_stuck ending last [] dir
    rw [walkLinks, stuck] at reached
    cases reached

/-- Where nothing is yet, the path ends in a name. -/
theorem named_of_vacant (wf : t.WellFormed)
    (located : t.locateParts .vacancy path (withoutTrailing path).1 = .ok goal)
    (vacant : t.node? goal = none) : ∃ last, (withoutTrailing path).1.getLast? = some last ∧
      last ≠ [Path.dot] ∧ last ≠ [Path.dot, Path.dot] := by
  obtain ⟨-, walked⟩ := locateParts_eq_ok.mp located
  cases parts : (withoutTrailing path).1.getLast? with
  | none =>
    have nothing := List.getLast?_eq_none_iff.mp parts
    have absolute := isAbsolute_of_withoutTrailing nothing (full_of_located located)
    rw [nothing, origin, if_pos absolute, walkLinks, walk] at walked
    cases walked
    simp at vacant
  | some last =>
    obtain ⟨front, kept⟩ := List.getLast?_eq_some_iff.mp parts
    rw [kept] at walked
    have undotted : ¬ (last = [Path.dot] ∨ last = [Path.dot, Path.dot]) := by
      intro dots
      have may : MayFollow .vacancy [last] :=
        .inr ⟨last, by simp, ne_nil_of_withoutTrailing kept⟩
      obtain ⟨between, reached⟩ := walkLinks_front may walked
      obtain ⟨left, on⟩ := walkLinks_append may reached
      rw [on] at walked
      rw [directory_of_dots wf dots walked] at vacant
      cases vacant
    exact ⟨last, rfl, fun dot => undotted (.inl dot), fun dots => undotted (.inr dots)⟩

theorem names_of_vacant (wf : t.WellFormed) (vacant : t.node? place = none) :
    t.names place = [] := by
  refine List.eq_nil_iff_forall_not_mem.mpr ?_
  intro name there
  obtain ⟨node, here⟩ := mem_names_iff.mp there
  rw [wf.parents place name node here] at vacant
  cases vacant

/-- Nothing is below a directory that has just been made. -/
theorem names_put (wf : t.WellFormed) (vacant : t.node? place = none) :
    (t.put place node).names place = [] := by
  have place_ne : place ≠ [] := ne_root (t := t) (by simp [vacant])
  refine List.eq_nil_iff_forall_not_mem.mpr ?_
  intro name there
  obtain ⟨found, here⟩ := mem_names_iff.mp there
  rw [node?_put place_ne, if_neg (by simp)] at here
  have old := mem_names_iff.mpr ⟨found, here⟩
  rw [names_of_vacant wf vacant] at old
  cases old

theorem eraseBelow_put (wf : t.WellFormed) (vacant : t.node? place = none) :
    (t.put place node).eraseBelow place = t.put place node := by
  have outside : ∀ e ∈ (t.put place node).entries, isBelow place e.1 = false := by
    intro e there
    by_contra below
    have below : isBelow place e.1 = true := by simpa using below
    have nothing := wf.node?_below (names_of_vacant wf vacant) below
    have e_ne : e.1 ≠ [] := by
      intro root
      simp [root, isBelow_root] at below
    rw [node?_of_ne_nil e_ne] at nothing
    rcases List.mem_append.mp there with old | new
    · have known := (List.mem_filter.mp old).1
      simp only [Option.map_eq_none_iff, List.find?_eq_none] at nothing
      exact nothing e known (by simp)
    · rw [List.mem_singleton.mp new, not_isBelow_self] at below
      cases below
  have kept : (t.put place node).entries.filter (fun e => !isBelow place e.1) =
      (t.put place node).entries :=
    List.filter_eq_self.mpr fun e there => by simp [outside e there]
  rw [eraseBelow, kept]

/-- To remove a directory that has just been made undoes the making. -/
theorem removeDirectoryAll_of_makeDirectory (wf : t.WellFormed)
    (ok : t.makeDirectory path = .ok made) : made.removeDirectoryAll path = (.ok (), t) := by
  obtain ⟨goal, located, vacant, rfl⟩ := makeDirectory_eq_ok ok
  have goal_ne : goal ≠ [] := ne_root (t := t) (by simp [vacant])
  obtain ⟨last, parts, notDot, notDots⟩ := named_of_vacant wf located vacant
  obtain ⟨checked, walked⟩ := locateParts_eq_ok.mp located
  have reached : (t.put goal .directory).locateParts .itself path (withoutTrailing path).1 =
      .ok goal := by
    have filled := walkLinks_filled (rfl : Ending.itself.mayBeMissing = false)
      (by simp : ∀ part ∈ ([] : List Bytes), part = []) vacant walked
    rw [List.append_nil] at filled
    exact locateParts_eq_ok.mpr ⟨checked, filled⟩
  have removed : (t.put goal .directory).removeDirectory path = .ok t := by
    rw [removeDirectory, reached]
    simp [bind, Except.bind, parts, notDot, notDots, node?_put goal_ne, names_put wf vacant,
      erase_put vacant]
  rw [removeDirectoryAll, lookUp_made rfl located vacant]
  simp only [eraseBelow_put wf vacant, removed, outcome]

/-- If all that was missing is the directory itself then nothing else is made. -/
theorem makeDirectoryAll_of_makeDirectory (ok : t.makeDirectory path = .ok made) :
    t.makeDirectoryAll path = (.ok (), made) := by
  obtain ⟨goal, located, -⟩ := makeDirectory_eq_ok ok
  obtain ⟨ancestors, lineage⟩ := lineage_eq_cons path
  rw [makeDirectoryAll, lineage, makeFirst]
  simp [full_of_located located, ok]

/-- A directory that was made with others on the way to it is removed alone: the tree is as it was
exactly if the directory is gone and nothing else had been made. -/
theorem removeDirectoryAll_undoes_iff (wf : t.WellFormed)
    (here : made.lookUp .itself path = .ok (place, .directory)) (new : t.node? place = none) :
    (∀ other, (made.removeDirectoryAll path).2.node? other = t.node? other) ↔
      (made.removeDirectoryAll path).2.node? place = none ∧
        ∀ other, other ≠ place → isBelow place other = false →
          made.node? other = t.node? other := by
  have kept : ∀ other, other ≠ place → isBelow place other = false →
      (made.removeDirectoryAll path).2.node? other = made.node? other := by
    intro other apart outside
    rcases node?_removeDirectoryAll made path other with
      same | ⟨target, linked⟩ | ⟨goal, found, within⟩
    · exact same
    · rw [here] at linked
      cases linked
    · rw [here] at found
      cases found
      rcases within with same | below
      · exact absurd same apart
      · simp [outside] at below
  constructor
  · intro same
    refine ⟨(same place).trans new, ?_⟩
    intro other apart outside
    exact (kept other apart outside).symm.trans (same other)
  · rintro ⟨gone, alone⟩ other
    by_cases itself : other = place
    · rw [itself, gone, new]
    · by_cases below : isBelow place other = true
      · rw [removeDirectoryAll_below here below, wf.node?_below (names_of_vacant wf new) below]
      · have outside : isBelow place other = false := by simpa using below
        exact (kept other itself outside).trans (alone other itself outside)

end SlideConverter.FileTree
