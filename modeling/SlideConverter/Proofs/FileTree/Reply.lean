import SlideConverter.Proofs.FileTree.Change

/-!
# What answers leave behind

What is known of a tree once a question has been answered well: a list of entries names
what is there, a copy is a new file at its target, and a directory in which a file could
be made and removed again is as it was.
-/

namespace SlideConverter.FileTree

open Text

variable {t : FileTree} {place : Location} {path : Path}

theorem attempted_eq_ok {α : Type} {attempt : String} {result : Except SystemError α} {a : α} :
    attempted attempt result = .ok a ↔ result = .ok a := by
  cases result <;> simp [attempted]

/-- What fails changes nothing. -/
theorem outcome_cases (t : FileTree) (result : Except SystemError FileTree) :
    (t.outcome result).2 = t ∨ result = .ok (t.outcome result).2 := by
  cases result with
  | error cause => exact .inl rfl
  | ok changed => exact .inr rfl

/-! ## Lists -/

theorem list_eq_ok {names : List Bytes} : t.list path = .ok names ↔
    ∃ place, t.lookUp .existing path = .ok (place, .directory) ∧ names = t.names place := by
  rw [list]
  cases found : t.lookUp .existing path with
  | error cause => simp [bind, Except.bind]
  | ok there =>
    obtain ⟨place, node⟩ := there
    cases node with
    | directory => simp [bind, Except.bind, eq_comm]
    | file content executable => simp [bind, Except.bind]
    | link target => simp [bind, Except.bind]

theorem isEmptyDirectory_eq_ok (ok : t.isEmptyDirectory path = .ok true) :
    ∃ place, t.lookUp .existing path = .ok (place, .directory) ∧ t.names place = [] := by
  have listed := attempted_eq_ok.mp ok
  cases names : t.list path with
  | error cause => simp [names, Except.map] at listed
  | ok all =>
    obtain ⟨place, found, rfl⟩ := list_eq_ok.mp names
    refine ⟨place, found, ?_⟩
    simpa [names, Except.map] using listed

theorem listDirectory_eq_ok {entries : List Path} (ok : t.listDirectory path = .ok entries) :
    ∃ place, t.lookUp .existing path = .ok (place, .directory) ∧
      ∀ entry ∈ entries, ∃ name node, entry = path.join ⟨name⟩ ∧
        t.node? (place ++ [name]) = some node := by
  have listed := attempted_eq_ok.mp ok
  cases names : t.list path with
  | error cause => simp [names, Except.map] at listed
  | ok all =>
    obtain ⟨place, found, rfl⟩ := list_eq_ok.mp names
    refine ⟨place, found, ?_⟩
    intro entry there
    have same : (t.names place).map (fun name => path.join ⟨name⟩) = entries := by
      simpa [names, Except.map] using listed
    rw [← same] at there
    obtain ⟨name, within, rfl⟩ := List.mem_map.mp there
    obtain ⟨node, here⟩ := mem_names_iff.mp within
    exact ⟨name, node, rfl, here⟩

/-! ## Files -/

theorem copyFile_cases (t : FileTree) (source target : Path) :
    (∃ cause, t.copyFile source target = (.error cause, t)) ∨
      ∃ made, t.copy source target = .ok made ∧ t.copyFile source target = (.ok (), made) := by
  rw [copyFile, attempting]
  cases copied : t.copy source target with
  | error cause => exact .inl ⟨_, rfl⟩
  | ok made => exact .inr ⟨made, rfl, rfl⟩

theorem houses_extends {base : FileTree} (extended : t.Extends base)
    (houses : base.Houses path place) : t.Houses path place := by
  rcases houses with ⟨empty, rfl⟩ | located
  · exact .inl ⟨empty, extended.current.symm⟩
  · exact .inr (extended.hasWays.locateParts rfl located)

/-- A file of a directory is removed at its place there. -/
theorem removeFile_join {name : Bytes} {made : FileTree} (proper : Path.IsName name)
    (houses : t.Houses path place) (ok : t.removeFile (path.join ⟨name⟩) = .ok made) :
    t.node? (place ++ [name]) ≠ some .directory ∧ made = t.erase (place ++ [name]) := by
  obtain ⟨goal, node, located, here, other, rfl⟩ := removeFile_eq_ok ok
  obtain ⟨-, rfl⟩ := locate_join proper houses (.inl rfl) located
  refine ⟨?_, rfl⟩
  rw [here]
  simpa using other

theorem isName_marker : Path.IsName marker.bytes := by
  constructor <;> decide

/-- A directory that is found to be writable is left as it was, and nothing is lost otherwise. -/
theorem checkWritable_cases (houses : t.Houses path place) : (t.checkWritable path).2 = t ∨
    (t.checkWritable path).1 ≠ .ok () ∧ (t.checkWritable path).2.Extends t := by
  rw [checkWritable]
  cases new : t.createNewFile (path.join marker) with
  | error cause => exact .inl rfl
  | ok made =>
    obtain ⟨goal, located, vacant, rfl⟩ := createNewFile_eq_ok new
    obtain ⟨-, rfl⟩ := locate_join isName_marker houses (.inl rfl) located
    have extended : (t.put (place ++ [marker.bytes]) (.file [] false)).Extends t :=
      extends_put vacant
    cases removed : (t.put (place ++ [marker.bytes]) (.file [] false)).removeFile
        (path.join marker) with
    | error cause =>
      right
      simpa [removed, attempting, attempted, outcome] using extended
    | ok made =>
      obtain ⟨-, gone⟩ := removeFile_join isName_marker (houses_extends extended houses) removed
      left
      simp [removed, attempting, outcome, gone, erase_put vacant]

end SlideConverter.FileTree
