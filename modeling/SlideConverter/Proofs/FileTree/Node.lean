import Mathlib.Data.List.Induction
import SlideConverter.Proofs.Path

/-!
# What is at each location

A file tree is known by the node at each location, so each change of the entries is
said once in terms of `node?`. A tree extends another one if all that is in the other
is in it as well. In a tree that is well formed every node is inside a directory under
a name that a path can have.
-/

namespace SlideConverter

open Text

namespace FileTree

variable {t base : FileTree} {place other : Location} {node : Node}

@[simp] theorem node?_root (t : FileTree) : t.node? [] = some .directory := by
  simp [node?]

/-- The root is a directory. -/
theorem ne_root (leaf : t.node? place ≠ some .directory) : place ≠ [] := by
  rintro rfl
  exact leaf (node?_root t)

theorem node?_of_ne_nil (other_ne : other ≠ []) :
    t.node? other = (t.entries.find? (·.1 = other)).map (·.2) := by
  simp [node?, other_ne]

/-- Which entries are kept is asked of their places only. -/
theorem find?_kept (keep : Location → Bool) (entries : List (Location × Node)) (other : Location) :
    (entries.filter fun e => keep e.1).find? (·.1 = other) =
      if keep other then entries.find? (·.1 = other) else none := by
  induction entries with
  | nil => simp
  | cons e rest ih =>
    by_cases here : e.1 = other
    · by_cases kept : keep other = true
      · simp [here, kept]
      · simp [here, kept, ih]
    · by_cases kept : keep e.1 = true
      · simp [here, kept, ih]
      · simp [here, kept, ih]

theorem node?_erase (place_ne : place ≠ []) :
    (t.erase place).node? other = if other = place then none else t.node? other := by
  by_cases root : other = []
  · subst root
    simp [Ne.symm place_ne]
  · have kept := find?_kept (fun here => decide (here ≠ place)) t.entries other
    by_cases same : other = place
    · rw [node?_of_ne_nil root, erase, kept]
      simp [same]
    · rw [node?_of_ne_nil root, erase, kept]
      simp [same, node?_of_ne_nil root]

theorem node?_put (place_ne : place ≠ []) :
    (t.put place node).node? other = if other = place then some node else t.node? other := by
  by_cases root : other = []
  · subst root
    simp [Ne.symm place_ne]
  · have kept := find?_kept (fun here => decide (here ≠ place)) t.entries other
    rw [node?_of_ne_nil root, put, List.find?_append, kept]
    by_cases same : other = place
    · simp [same]
    · simp [same, Ne.symm same, node?_of_ne_nil root]

theorem isBelow_root (place : Location) : isBelow place [] = false := by
  cases place <;> simp [isBelow]

theorem node?_eraseBelow :
    (t.eraseBelow place).node? other = if isBelow place other then none else t.node? other := by
  by_cases root : other = []
  · subst root
    simp [isBelow_root]
  · have kept := find?_kept (fun here => !isBelow place here) t.entries other
    rw [node?_of_ne_nil root, eraseBelow, kept]
    cases below : isBelow place other <;> simp [node?_of_ne_nil root]

/-! ## Below -/

theorem isBelow_iff : isBelow place other = true ↔ ∃ name rest, other = place ++ name :: rest := by
  simp only [isBelow, Bool.and_eq_true, List.isPrefixOf_iff_prefix, ne_eq, decide_not,
    Bool.not_eq_true', decide_eq_false_iff_not]
  constructor
  · rintro ⟨⟨more, rfl⟩, further⟩
    cases more with
    | nil => simp at further
    | cons name rest => exact ⟨name, rest, rfl⟩
  · rintro ⟨name, rest, rfl⟩
    exact ⟨⟨_, rfl⟩, by simp⟩

theorem isBelow_child (place : Location) (name : Bytes) : isBelow place (place ++ [name]) = true :=
  isBelow_iff.mpr ⟨name, [], rfl⟩

theorem not_isBelow_self (place : Location) : isBelow place place = false := by
  simp [isBelow]

/-! ## Extension -/

/-- All that is in `base` is in `t`. -/
structure Extends (t base : FileTree) : Prop where
  current : t.current = base.current
  nodes : ∀ place node, base.node? place = some node → t.node? place = some node

theorem Extends.refl (t : FileTree) : t.Extends t := ⟨rfl, fun _ _ h => h⟩

theorem Extends.trans {between : FileTree} (upper : t.Extends between)
    (lower : between.Extends base) : t.Extends base :=
  ⟨upper.current.trans lower.current, fun _ _ h => upper.nodes _ _ (lower.nodes _ _ h)⟩

theorem extends_put (vacant : t.node? place = none) : (t.put place node).Extends t := by
  refine ⟨rfl, ?_⟩
  intro other there found
  have place_ne : place ≠ [] := ne_root (t := t) (by simp [vacant])
  have apart : other ≠ place := by
    rintro rfl
    rw [vacant] at found
    cases found
  rw [node?_put place_ne, if_neg apart, found]

/-- What is not in the smaller tree may be taken away. -/
theorem Extends.erase (extended : t.Extends base) (foreign : base.node? place = none) :
    (t.erase place).Extends base := by
  refine ⟨extended.current, ?_⟩
  intro other there found
  have place_ne : place ≠ [] := ne_root (t := base) (by simp [foreign])
  have apart : other ≠ place := by
    rintro rfl
    rw [foreign] at found
    cases found
  rw [node?_erase place_ne, if_neg apart, extended.nodes _ _ found]

theorem extends_erase (t : FileTree) (place : Location) : t.Extends (t.erase place) := by
  refine ⟨rfl, ?_⟩
  intro other node there
  by_cases root : other = []
  · subst root
    simpa using there
  · have kept := find?_kept (fun here => decide (here ≠ place)) t.entries other
    rw [node?_of_ne_nil root, erase, kept] at there
    rw [node?_of_ne_nil root]
    by_cases same : other = place
    · simp [same] at there
    · simpa [same] using there

theorem extends_eraseBelow (t : FileTree) (place : Location) : t.Extends (t.eraseBelow place) := by
  refine ⟨rfl, ?_⟩
  intro other node there
  rw [node?_eraseBelow] at there
  split at there
  · cases there
  · exact there

/-! ## Well-formed trees -/

structure WellFormed (t : FileTree) : Prop where
  parents : ∀ place name node, t.node? (place ++ [name]) = some node →
    t.node? place = some .directory
  names : ∀ place name node, t.node? (place ++ [name]) = some node → Path.IsName name

/-- Something new inside a directory. -/
theorem WellFormed.put {name : Bytes} (wf : t.WellFormed)
    (inside : t.node? place = some .directory) (proper : Path.IsName name)
    (vacant : t.node? (place ++ [name]) = none) : (t.put (place ++ [name]) node).WellFormed := by
  have place_ne : place ++ [name] ≠ [] := by simp
  have extended : (t.put (place ++ [name]) node).Extends t := extends_put vacant
  constructor
  · intro above last there found
    rw [node?_put place_ne] at found
    split at found
    · rename_i same
      obtain ⟨rfl, -⟩ := List.append_inj' same rfl
      exact extended.nodes _ _ inside
    · exact extended.nodes _ _ (wf.parents above last there found)
  · intro above last there found
    rw [node?_put place_ne] at found
    split at found
    · rename_i same
      obtain ⟨-, same⟩ := List.append_inj' same rfl
      cases same
      exact proper
    · exact wf.names above last there found

/-- A tree with nothing in it but one file. -/
theorem wellFormed_single {name : Bytes} (proper : Path.IsName name) (node : Node) :
    (put {} [name] node).WellFormed := by
  have bare : WellFormed {} := by
    constructor <;> intro place name node here <;> simp [node?] at here
  exact bare.put (node?_root _) proper (by simp [node?])

/-- What is no directory has nothing below it, so a file can stand in its place. -/
theorem WellFormed.put_file {content : Bytes} {executable : Bool} (wf : t.WellFormed)
    (here : t.node? place = some node) (leaf : node ≠ .directory) :
    (t.put place (.file content executable)).WellFormed := by
  have other : t.node? place ≠ some .directory := by simp [here, leaf]
  have place_ne : place ≠ [] := ne_root other
  constructor
  · intro above last there found
    have dir : t.node? above = some .directory := by
      rw [node?_put place_ne] at found
      split at found
      · rename_i same
        subst same
        exact wf.parents above last node here
      · exact wf.parents above last there found
    have apart : above ≠ place := by
      rintro rfl
      exact other dir
    rw [node?_put place_ne, if_neg apart, dir]
  · intro above last there found
    rw [node?_put place_ne] at found
    split at found
    · rename_i same
      subst same
      exact wf.names above last node here
    · exact wf.names above last there found

/-- Nothing is below what is no directory, so it can go. -/
theorem WellFormed.erase (wf : t.WellFormed) (leaf : t.node? place ≠ some .directory) :
    (t.erase place).WellFormed := by
  have place_ne : place ≠ [] := ne_root leaf
  constructor
  · intro above last there found
    rw [node?_erase place_ne] at found ⊢
    split at found
    · cases found
    · have dir := wf.parents above last there found
      have apart : above ≠ place := by
        rintro rfl
        exact leaf dir
      rw [if_neg apart, dir]
  · intro above last there found
    rw [node?_erase place_ne] at found
    split at found
    · cases found
    · exact wf.names above last there found

/-- Everything on the way to a node is a directory. -/
theorem WellFormed.ancestors (wf : t.WellFormed) {name : Bytes} (rest : Location)
    (found : t.node? (place ++ name :: rest) = some node) :
    ∃ child, t.node? (place ++ [name]) = some child := by
  induction rest using List.reverseRecOn generalizing node with
  | nil => exact ⟨node, found⟩
  | append_singleton rest last ih =>
    have dir := wf.parents (place ++ name :: rest) last node (by simpa using found)
    exact ih dir

theorem mem_names_iff {name : Bytes} :
    name ∈ t.names place ↔ ∃ node, t.node? (place ++ [name]) = some node := by
  rw [node?_of_ne_nil (by simp)]
  simp only [names, List.mem_filterMap, Option.map_eq_some_iff]
  constructor
  · rintro ⟨⟨e, n⟩, there, h⟩
    split at h
    · rename_i child
      simp only [isChild, Bool.and_eq_true, decide_eq_true_eq] at child
      obtain ⟨-, above⟩ := child
      obtain ⟨front, rfl⟩ := List.getLast?_eq_some_iff.mp h
      have whole : front = place := by simpa using above
      cases found : t.entries.find? (·.1 = place ++ [name]) with
      | none =>
        rw [List.find?_eq_none] at found
        have missing := found _ there
        simp [whole] at missing
      | some e' => exact ⟨e'.2, e', rfl, rfl⟩
    · cases h
  · rintro ⟨n, ⟨e, n'⟩, found, rfl⟩
    have there := List.mem_of_find?_eq_some found
    have whole : e = place ++ [name] := by simpa using List.find?_some found
    exact ⟨_, there, by simp [whole, isChild]⟩

/-- Nothing at all is below an empty directory. -/
theorem WellFormed.node?_below (wf : t.WellFormed) (empty : t.names place = [])
    (below : isBelow place other = true) : t.node? other = none := by
  obtain ⟨name, rest, rfl⟩ := isBelow_iff.mp below
  cases found : t.node? (place ++ name :: rest) with
  | none => rfl
  | some node =>
    have here := mem_names_iff.mpr (wf.ancestors rest found)
    simp [empty] at here

end FileTree

end SlideConverter
