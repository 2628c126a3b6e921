import SlideConverter.Proofs.FileTree.Node

/-!
# Where walks lead

A walk that ends at something does the same in every tree that extends the first one.
A walk along a path with more behind it is the walk to where the path leads, and then
the rest. Endings differ only at the last part: one that does not follow links stops at
the link that the others go through, and one that needs nothing there stops where the
others are stuck.
-/

namespace SlideConverter.FileTree

open Text

variable {t base : FileTree} {ending : Ending} {place goal : Location} {part : Bytes}
  {parts rest front last : List Bytes} {links : Nat} {node : Node} {path : Path}

/-! ## One part -/

theorem walk_stuck (ending : Ending) (part : Bytes) (rest : List Bytes)
    (blocked : t.node? place ≠ some .directory) :
    ∃ cause, t.walk ending place (part :: rest) = .stuck cause := by
  rw [walk]
  split
  · rename_i dir
    exact absurd dir blocked
  · exact ⟨_, rfl⟩
  · exact ⟨_, rfl⟩

theorem walk_silent (dir : t.node? place = some .directory) (silent : isSilent part = true) :
    t.walk ending place (part :: rest) = t.walk ending place rest := by
  rw [walk]
  simp [dir, silent]

theorem walk_dots (dir : t.node? place = some .directory) :
    t.walk ending place ([Path.dot, Path.dot] :: rest) = t.walk ending place.dropLast rest := by
  rw [walk]
  simp [dir, isSilent]

/-- A part that leads down, up to the limit on its length. -/
structure IsStep (part : Bytes) : Prop where
  loud : isSilent part = false
  down : part ≠ [Path.dot, Path.dot]
  short : part.length ≤ nameLimit

/-- What is found under the name of a step. -/
def found (t : FileTree) (ending : Ending) (place : Location) (part : Bytes) (rest : List Bytes) :
    Walk :=
  match t.node? (place ++ [part]) with
  | none =>
    if ending.mayBeMissing && rest.isEmpty then .arrived (place ++ [part]) else .stuck .missing
  | some (.link target) =>
    if rest.isEmpty && !ending.followsLink then .arrived (place ++ [part])
    else .diverted place target rest
  | some _ => walk t ending (place ++ [part]) rest

/-- For an ending that makes a file, slashes behind its name are refused. -/
def refusesSlashes (ending : Ending) (rest : List Bytes) : Bool :=
  ending.followsLink && ending.mayBeMissing && !rest.isEmpty && rest.all (·.isEmpty)

theorem walk_step (dir : t.node? place = some .directory) (step : IsStep part)
    (allowed : refusesSlashes ending rest = false) :
    t.walk ending place (part :: rest) = t.found ending place part rest := by
  rw [walk]
  have short : ¬ part.length > nameLimit := by
    have := step.short
    omega
  rw [refusesSlashes] at allowed
  simp only [dir, step.loud, step.down, allowed, short, Bool.false_eq_true, if_false]
  rfl

theorem walk_refused (ending : Ending) (rest : List Bytes)
    (dir : t.node? place = some .directory) (loud : isSilent part = false)
    (down : part ≠ [Path.dot, Path.dot])
    (refused : refusesSlashes ending rest = true ∨ part.length > nameLimit) :
    ∃ cause, t.walk ending place (part :: rest) = .stuck cause ∧
      (refusesSlashes ending rest = false → cause = .nameTooLong) := by
  rw [walk]
  simp only [dir, loud, down, Bool.false_eq_true, if_false]
  rw [refusesSlashes] at refused
  by_cases slashes : (ending.followsLink && ending.mayBeMissing && !rest.isEmpty
      && rest.all (·.isEmpty)) = true
  · exact ⟨_, if_pos slashes, by simp [refusesSlashes, slashes]⟩
  · rw [if_neg slashes, if_pos (refused.resolve_left slashes)]
    exact ⟨_, rfl, fun _ => rfl⟩

/-- Every part is one of these: it goes nowhere, it goes up, or it is a step, or it is refused. -/
theorem walk_cases (t : FileTree) (ending : Ending) (place : Location) (part : Bytes)
    (rest : List Bytes) :
    t.node? place ≠ some .directory ∨
    (t.node? place = some .directory ∧ isSilent part = true) ∨
    (t.node? place = some .directory ∧ part = [Path.dot, Path.dot]) ∨
    (t.node? place = some .directory ∧ isSilent part = false ∧ part ≠ [Path.dot, Path.dot] ∧
      (refusesSlashes ending rest = true ∨ part.length > nameLimit)) ∨
    (t.node? place = some .directory ∧ IsStep part ∧ refusesSlashes ending rest = false) := by
  by_cases dir : t.node? place = some .directory
  · by_cases silent : isSilent part = true
    · exact .inr (.inl ⟨dir, silent⟩)
    · have loud : isSilent part = false := by simpa using silent
      by_cases dots : part = [Path.dot, Path.dot]
      · exact .inr (.inr (.inl ⟨dir, dots⟩))
      · by_cases refused : refusesSlashes ending rest = true ∨ part.length > nameLimit
        · exact .inr (.inr (.inr (.inl ⟨dir, loud, dots, refused⟩)))
        · have short : part.length ≤ nameLimit := by omega
          have allowed : refusesSlashes ending rest = false := by
            by_contra slashes
            exact refused (.inl (by simpa using slashes))
          exact .inr (.inr (.inr (.inr ⟨dir, ⟨loud, dots, short⟩, allowed⟩)))
  · exact .inl dir

/-! ## In a tree with the same ways -/

/-- What a walk meets in `base` it meets in `t`: the same directories and links, and files
where files are. -/
structure HasWays (t base : FileTree) : Prop where
  current : t.current = base.current
  nodes : ∀ place node, base.node? place = some node → t.node? place = some node ∨
    (∃ content executable, node = .file content executable) ∧
      ∃ content executable, t.node? place = some (.file content executable)

theorem Extends.hasWays (extended : t.Extends base) : t.HasWays base :=
  ⟨extended.current, fun place node here => .inl (extended.nodes place node here)⟩

theorem HasWays.directory (ways : t.HasWays base) (dir : base.node? place = some .directory) :
    t.node? place = some .directory := by
  rcases ways.nodes place _ dir with same | ⟨⟨content, executable, other⟩, -⟩
  · exact same
  · cases other

/-- No way is closed by what a file holds. -/
theorem hasWays_put {content : Bytes} {executable : Bool}
    (taken : t.node? place ≠ some .directory)
    (direct : ∀ target, t.node? place ≠ some (.link target)) :
    (t.put place (.file content executable)).HasWays t := by
  have place_ne : place ≠ [] := ne_root taken
  refine ⟨rfl, ?_⟩
  intro other there here
  rw [node?_put place_ne]
  split
  · rename_i same
    subst same
    cases there with
    | directory => exact absurd here taken
    | link target => exact absurd here (direct target)
    | file old bit => exact .inr ⟨⟨old, bit, rfl⟩, content, executable, rfl⟩
  · exact .inl here

/-- Nothing new can come in the way of a walk that was not stuck. -/
theorem HasWays.walk_eq (ways : t.HasWays base) (must : ending.mayBeMissing = false)
    (free : ∀ cause, base.walk ending place parts ≠ .stuck cause) :
    t.walk ending place parts = base.walk ending place parts := by
  induction parts generalizing place with
  | nil => rfl
  | cons part rest ih =>
    rcases walk_cases base ending place part rest with
      blocked | ⟨dir, silent⟩ | ⟨dir, rfl⟩ | ⟨dir, loud, down, refused⟩ | ⟨dir, step, allowed⟩
    · obtain ⟨cause, stuck⟩ := walk_stuck ending part rest blocked
      exact absurd stuck (free cause)
    · rw [walk_silent dir silent] at free ⊢
      rw [walk_silent (ways.directory dir) silent]
      exact ih free
    · rw [walk_dots dir] at free ⊢
      rw [walk_dots (ways.directory dir)]
      exact ih free
    · obtain ⟨cause, stuck, -⟩ := walk_refused _ _ dir loud down refused
      exact absurd stuck (free cause)
    · rw [walk_step dir step allowed] at free ⊢
      rw [walk_step (ways.directory dir) step allowed]
      cases here : base.node? (place ++ [part]) with
      | none => simp [found, here, must] at free
      | some node =>
        rcases ways.nodes _ _ here with there | ⟨⟨_, _, rfl⟩, _, _, there⟩
        · cases node with
          | link target => simp only [found, here, there]
          | directory | file =>
            simp only [found, here, there] at free ⊢
            exact ih free
        · simp only [found, here, there] at free ⊢
          exact ih free

/-- A walk with links ends where it arrives, or goes on behind a link. -/
theorem walkLinks_eq_ok : t.walkLinks ending links place parts = .ok goal ↔
    t.walk ending place parts = .arrived goal ∨
    ∃ inside target rest more, links = more + 1 ∧
      t.walk ending place parts = .diverted inside target rest ∧
      t.walkLinks ending more (origin inside target) (Path.splitSlashes target.bytes ++ rest) =
        .ok goal := by
  cases links with
  | zero => rw [walkLinks]; cases t.walk ending place parts <;> simp
  | succ more => rw [walkLinks]; cases t.walk ending place parts <;> simp

/-- Induction along the links that a walk follows until it arrives. -/
theorem walkLinks_induction {motive : Nat → Location → List Bytes → Prop}
    (arrived : ∀ links place parts, t.walk ending place parts = .arrived goal →
      motive links place parts)
    (diverted : ∀ links place parts inside target rest,
      t.walk ending place parts = .diverted inside target rest →
      motive links (origin inside target) (Path.splitSlashes target.bytes ++ rest) →
      motive (links + 1) place parts)
    (reached : t.walkLinks ending links place parts = .ok goal) : motive links place parts := by
  induction links generalizing place parts with
  | zero =>
    rcases walkLinks_eq_ok.mp reached with here | ⟨_, _, _, _, none, -, -⟩
    · exact arrived 0 place parts here
    · cases none
  | succ links ih =>
    rcases walkLinks_eq_ok.mp reached with here | ⟨inside, target, rest, more, one, link, on⟩
    · exact arrived (links + 1) place parts here
    · cases one
      exact diverted links place parts inside target rest link (ih on)

theorem walkLinks_of_arrived (arrived : t.walk ending place parts = .arrived goal) :
    t.walkLinks ending links place parts = .ok goal :=
  walkLinks_eq_ok.mpr (.inl arrived)

theorem walkLinks_of_diverted {inside : Location} {target : Path}
    (diverted : t.walk ending place parts = .diverted inside target rest)
    (on : t.walkLinks ending links (origin inside target)
      (Path.splitSlashes target.bytes ++ rest) = .ok goal) :
    t.walkLinks ending (links + 1) place parts = .ok goal :=
  walkLinks_eq_ok.mpr (.inr ⟨inside, target, rest, links, rfl, diverted, on⟩)

theorem HasWays.walkLinks (ways : t.HasWays base) (must : ending.mayBeMissing = false)
    (reached : base.walkLinks ending links place parts = .ok goal) :
    t.walkLinks ending links place parts = .ok goal := by
  refine walkLinks_induction (motive := fun links place parts =>
      t.walkLinks ending links place parts = .ok goal)
    (fun links place parts arrived => ?_)
    (fun links place parts inside target rest diverted on => ?_) reached
  · have same : t.walk ending place parts = base.walk ending place parts :=
      ways.walk_eq must (by simp [arrived])
    exact walkLinks_of_arrived (same.trans arrived)
  · have same : t.walk ending place parts = base.walk ending place parts :=
      ways.walk_eq must (by simp [diverted])
    exact walkLinks_of_diverted (same.trans diverted) on

theorem locateParts_eq_ok : t.locateParts ending path parts = .ok goal ↔
    checkPath path = .ok () ∧
      t.walkLinks ending linkLimit (origin t.current path) parts = .ok goal := by
  rw [locateParts]
  cases checkPath path <;> simp [bind, Except.bind]

theorem HasWays.locateParts (ways : t.HasWays base) (must : ending.mayBeMissing = false)
    (reached : base.locateParts ending path parts = .ok goal) :
    t.locateParts ending path parts = .ok goal := by
  obtain ⟨checked, walked⟩ := locateParts_eq_ok.mp reached
  rw [← ways.current] at walked
  exact locateParts_eq_ok.mpr ⟨checked, ways.walkLinks must walked⟩

theorem lookUp_eq_ok : t.lookUp ending path = .ok (goal, node) ↔
    t.locate ending path = .ok goal ∧ t.node? goal = some node := by
  rw [lookUp]
  cases located : t.locate ending path with
  | error cause => simp [bind, Except.bind]
  | ok place =>
    cases here : t.node? place with
    | none =>
      simp only [bind, Except.bind, here, reduceCtorEq, Except.ok.injEq, false_iff, not_and]
      rintro rfl
      simp [here]
    | some node' =>
      simp only [bind, Except.bind, here, Except.ok.injEq, Prod.mk.injEq]
      constructor
      · rintro ⟨rfl, rfl⟩
        exact ⟨rfl, here⟩
      · rintro ⟨rfl, there⟩
        exact ⟨rfl, by rw [here] at there; simpa using there⟩

theorem lookUp_extends (extended : t.Extends base) (must : ending.mayBeMissing = false)
    (reached : base.lookUp ending path = .ok (goal, node)) :
    t.lookUp ending path = .ok (goal, node) := by
  obtain ⟨located, there⟩ := lookUp_eq_ok.mp reached
  exact lookUp_eq_ok.mpr ⟨extended.hasWays.locateParts must located, extended.nodes _ _ there⟩

theorem HasWays.lookUp_directory (ways : t.HasWays base) (must : ending.mayBeMissing = false)
    (reached : base.lookUp ending path = .ok (goal, .directory)) :
    t.lookUp ending path = .ok (goal, .directory) := by
  obtain ⟨located, there⟩ := lookUp_eq_ok.mp reached
  exact lookUp_eq_ok.mpr ⟨ways.locateParts must located, ways.directory there⟩

/-! ## With more behind it -/

/-- Behind a path to somewhere there may be anything, unless it is slashes for an ending that
refuses them or does not go through links. -/
def MayFollow (ending : Ending) (last : List Bytes) : Prop :=
  ending = .existing ∨ ∃ part ∈ last, part ≠ []

theorem MayFollow.allowed (may : MayFollow ending last) (rest : List Bytes) :
    refusesSlashes ending (rest ++ last) = false := by
  rcases may with rfl | ⟨part, there, part_ne⟩
  · rfl
  · have some : (rest ++ last).all (·.isEmpty) = false := by
      rw [List.all_eq_false]
      exact ⟨part, List.mem_append_right _ there, by simpa using part_ne⟩
    simp [refusesSlashes, some]

theorem MayFollow.followed (may : MayFollow ending last) (rest : List Bytes) :
    ((rest ++ last).isEmpty && !ending.followsLink) = false := by
  rcases may with rfl | ⟨part, there, -⟩
  · simp [Ending.existing]
  · cases last with
    | nil => cases there
    | cons => simp

theorem MayFollow.required (may : MayFollow ending last) (rest : List Bytes) :
    (ending.mayBeMissing && (rest ++ last).isEmpty) = false := by
  rcases may with rfl | ⟨part, there, -⟩
  · rfl
  · cases last with
    | nil => cases there
    | cons => simp

theorem walk_append (may : MayFollow ending last) :
    t.walk ending place (front ++ last) =
      match t.walk .existing place front with
      | .arrived goal => t.walk ending goal last
      | .diverted inside target rest => .diverted inside target (rest ++ last)
      | .stuck cause => .stuck cause := by
  induction front generalizing place with
  | nil => rfl
  | cons part front ih =>
    rw [List.cons_append]
    rcases walk_cases t .existing place part front with
      blocked | ⟨dir, silent⟩ | ⟨dir, rfl⟩ | ⟨dir, loud, down, refused⟩ | ⟨dir, step, -⟩
    · rw [walk, walk]
      split <;> simp_all
    · rw [walk_silent dir silent, walk_silent dir silent, ih]
    · rw [walk_dots dir, walk_dots dir, ih]
    · have long : part.length > nameLimit := refused.resolve_left nofun
      obtain ⟨cause, stuck, why⟩ := walk_refused ending (front ++ last) dir loud down (.inr long)
      obtain ⟨cause', stuck', why'⟩ := walk_refused .existing front dir loud down (.inr long)
      rw [stuck, stuck', why (may.allowed front), why' rfl]
    · rw [walk_step dir step (may.allowed front), walk_step dir step rfl]
      cases here : t.node? (place ++ [part]) with
      | none => simp [found, here, may.required front, Ending.existing]
      | some node =>
        cases node with
        | directory => simpa [found, here] using ih
        | file content executable => simpa [found, here] using ih
        | link target => simp [found, here, may.followed front, Ending.existing]

/-- A walk to where the first parts lead, and then the rest. -/
theorem walkLinks_append (may : MayFollow ending last)
    (reached : t.walkLinks .existing links place front = .ok goal) :
    ∃ left, t.walkLinks ending links place (front ++ last) = t.walkLinks ending left goal last := by
  refine walkLinks_induction (motive := fun links place front => ∃ left,
      t.walkLinks ending links place (front ++ last) = t.walkLinks ending left goal last)
    (fun links place front arrived => ?_)
    (fun links place front inside target rest diverted on => ?_) reached
  · exact ⟨links, by rw [walkLinks, walk_append may, arrived, walkLinks]⟩
  · obtain ⟨left, same⟩ := on
    refine ⟨left, ?_⟩
    rw [walkLinks, walk_append may, diverted, ← same, List.append_assoc]

theorem walkLinks_front (may : MayFollow ending last)
    (reached : t.walkLinks ending links place (front ++ last) = .ok goal) :
    ∃ between, t.walkLinks .existing links place front = .ok between := by
  induction links generalizing place front with
  | zero =>
    rw [walkLinks, walk_append may] at reached
    rw [walkLinks]
    cases went : t.walk .existing place front with
    | arrived between => exact ⟨between, rfl⟩
    | diverted inside target rest => simp [went] at reached
    | stuck cause => simp [went] at reached
  | succ links ih =>
    rw [walkLinks, walk_append may] at reached
    rw [walkLinks]
    cases went : t.walk .existing place front with
    | arrived between => exact ⟨between, rfl⟩
    | diverted inside target rest =>
      simp only [went, ← List.append_assoc] at reached
      exact ih reached
    | stuck cause => simp [went] at reached

/-! ## Links and gaps at the end -/

/-- An ending that follows no link differs only by stopping at one, or at a gap. -/
theorem walk_unfollowed (t : FileTree) (place : Location) (parts : List Bytes)
    (stays : ending.followsLink = false) :
    t.walk ending place parts = t.walk .existing place parts ∨
      ∃ goal, t.walk ending place parts = .arrived goal ∧
        ((∃ target, t.node? goal = some (.link target)) ∨
          t.node? goal = none ∧ ∃ cause, t.walk .existing place parts = .stuck cause) := by
  have unslashed : ∀ rest, refusesSlashes ending rest = false := by simp [refusesSlashes, stays]
  induction parts generalizing place with
  | nil => exact .inl rfl
  | cons part rest ih =>
    rcases walk_cases t .existing place part rest with
      blocked | ⟨dir, silent⟩ | ⟨dir, rfl⟩ | ⟨dir, loud, down, refused⟩ | ⟨dir, step, -⟩
    · left
      rw [walk, walk]
      split <;> simp_all
    · rw [walk_silent dir silent, walk_silent dir silent]
      exact ih _
    · rw [walk_dots dir, walk_dots dir]
      exact ih _
    · left
      have long : part.length > nameLimit := refused.resolve_left nofun
      obtain ⟨cause, stuck, why⟩ :=
        walk_refused ending rest dir loud down (.inr long)
      obtain ⟨cause', stuck', why'⟩ :=
        walk_refused .existing rest dir loud down (.inr long)
      rw [stuck, stuck', why (unslashed rest), why' rfl]
    · rw [walk_step dir step (unslashed rest), walk_step dir step rfl]
      cases here : t.node? (place ++ [part]) with
      | none =>
        by_cases gap : (ending.mayBeMissing && rest.isEmpty) = true
        · exact .inr ⟨_, by simp only [found, here, gap, if_true],
            .inr ⟨here, .missing, by simp [found, here, Ending.existing]⟩⟩
        · left
          simp [found, here, gap, Ending.existing]
      | some node =>
        cases node with
        | directory => simpa only [found, here] using ih _
        | file content executable => simpa only [found, here] using ih _
        | link target =>
          by_cases final : rest.isEmpty = true
          · exact .inr ⟨_, by simp [found, here, final, stays], .inl ⟨target, here⟩⟩
          · left
            simp [found, here, final, Ending.existing]

/-- What can be reached through links can be reached without following the last one. -/
theorem walkLinks_unfollowed (stays : ending.followsLink = false)
    (reached : t.walkLinks .existing links place parts = .ok goal)
    (there : t.node? goal = some node) :
    ∃ goal' node', t.walkLinks ending links place parts = .ok goal' ∧
      t.node? goal' = some node' := by
  refine walkLinks_induction (motive := fun links place parts => ∃ goal' node',
      t.walkLinks ending links place parts = .ok goal' ∧ t.node? goal' = some node')
    (fun links place parts arrived => ?_)
    (fun links place parts inside target rest diverted on => ?_) reached
  · rcases walk_unfollowed t place parts stays with
      same | ⟨goal', arrived', ⟨target, linked⟩ | ⟨-, cause, stuck⟩⟩
    · exact ⟨goal, node, walkLinks_of_arrived (same.trans arrived), there⟩
    · exact ⟨goal', _, walkLinks_of_arrived arrived', linked⟩
    · rw [stuck] at arrived
      cases arrived
  · rcases walk_unfollowed t place parts stays with
      same | ⟨goal', arrived', ⟨target, linked⟩ | ⟨-, cause, stuck⟩⟩
    · obtain ⟨goal', node', reached', there'⟩ := on
      exact ⟨goal', node', walkLinks_of_diverted (same.trans diverted) reached', there'⟩
    · exact ⟨goal', _, walkLinks_of_arrived arrived', linked⟩
    · rw [stuck] at diverted
      cases diverted

/-- Where there is no link at the end, following it makes no difference. -/
theorem walkLinks_existing_of_itself
    (reached : t.walkLinks .itself links place parts = .ok goal) :
    (∃ target, t.node? goal = some (.link target)) ∨
      t.walkLinks .existing links place parts = .ok goal ∨ t.node? goal = none := by
  refine walkLinks_induction (motive := fun links place parts =>
      (∃ target, t.node? goal = some (.link target)) ∨
        t.walkLinks .existing links place parts = .ok goal ∨ t.node? goal = none)
    (fun links place parts arrived => ?_)
    (fun links place parts inside target rest diverted on => ?_) reached
  · rcases walk_unfollowed t place parts (rfl : Ending.itself.followsLink = false) with
      same | ⟨goal', arrived', linked | ⟨gap, -⟩⟩
    · exact .inr (.inl (walkLinks_of_arrived (same.symm.trans arrived)))
    · rw [arrived] at arrived'
      cases arrived'
      exact .inl linked
    · rw [arrived] at arrived'
      cases arrived'
      exact .inr (.inr gap)
  · rcases walk_unfollowed t place parts (rfl : Ending.itself.followsLink = false) with
      same | ⟨goal', arrived', -⟩
    · rcases on with linked | reached' | gap
      · exact .inl linked
      · exact .inr (.inl (walkLinks_of_diverted (same.symm.trans diverted) reached'))
      · exact .inr (.inr gap)
    · rw [diverted] at arrived'
      cases arrived'

/-- Behind a directory nothing but empty parts leads to it. -/
theorem walk_empties (dir : t.node? place = some .directory) (empty : ∀ part ∈ parts, part = []) :
    t.walk ending place parts = .arrived place := by
  induction parts with
  | nil => rfl
  | cons part rest ih =>
    rw [walk_silent dir (by simp [isSilent, empty part])]
    exact ih fun part there => empty part (List.mem_cons_of_mem _ there)

theorem walkLinks_empties (dir : t.node? place = some .directory)
    (empty : ∀ part ∈ parts, part = []) : t.walkLinks ending links place parts = .ok place :=
  walkLinks_eq_ok.mpr (.inl (walk_empties dir empty))

/-- Empty parts lead nowhere else. -/
theorem eq_of_walkLinks_empties (empty : ∀ part ∈ parts, part = [])
    (reached : t.walkLinks ending links place parts = .ok goal) : goal = place := by
  by_cases dir : t.node? place = some .directory
  · rw [walkLinks_empties dir empty] at reached
    simpa using reached.symm
  · cases parts with
    | nil =>
      rcases walkLinks_eq_ok.mp reached with arrived | ⟨_, _, _, _, -, diverted, -⟩
      · cases arrived
        rfl
      · cases diverted
    | cons part rest =>
      obtain ⟨cause, stuck⟩ := walk_stuck ending part rest dir
      rcases walkLinks_eq_ok.mp reached with arrived | ⟨_, _, _, _, -, diverted, -⟩
      · simp [stuck] at arrived
      · simp [stuck] at diverted

/-- Without the empty parts at its end a path leads to the same place. -/
theorem walkLinks_without_empties {empties : List Bytes} (empty : ∀ part ∈ empties, part = [])
    (reached : t.walkLinks .existing links place (front ++ empties) = .ok goal) :
    t.walkLinks .existing links place front = .ok goal := by
  have may : MayFollow .existing empties := .inl rfl
  obtain ⟨between, reached_front⟩ := walkLinks_front may reached
  obtain ⟨left, on⟩ := walkLinks_append may reached_front
  rw [on] at reached
  rw [reached_front, eq_of_walkLinks_empties empty reached]

theorem lookUp_of_empties {empties : List Bytes} (checked : checkPath path = .ok ())
    (split : Path.splitSlashes path.bytes = front ++ empties) (empty : ∀ part ∈ empties, part = [])
    (reached : t.walkLinks .existing linkLimit (origin t.current path) front = .ok goal)
    (dir : t.node? goal = some .directory) : t.lookUp .existing path = .ok (goal, .directory) := by
  have may : MayFollow .existing empties := .inl rfl
  obtain ⟨left, same⟩ := walkLinks_append may reached
  refine lookUp_eq_ok.mpr ⟨locateParts_eq_ok.mpr ⟨checked, ?_⟩, dir⟩
  rw [split, same]
  exact walkLinks_empties dir empty

/-! ## Places where nothing is yet -/

/-- A place for a new name inside a directory. -/
def IsFree (t : FileTree) (goal : Location) : Prop :=
  t.node? goal = none ∧ ∃ above name, goal = above ++ [name] ∧
    t.node? above = some .directory ∧ Path.IsName name

theorem WellFormed.dropLast (wf : t.WellFormed) (dir : t.node? place = some .directory) :
    t.node? place.dropLast = some .directory := by
  induction place using List.reverseRecOn with
  | nil => simp
  | append_singleton above name _ =>
    rw [List.dropLast_concat]
    exact wf.parents above name _ dir

theorem walk_diverted {inside : Location} {target : Path}
    (diverted : t.walk ending place parts = .diverted inside target rest) :
    t.node? inside = some .directory ∧ ∀ part ∈ rest, part ∈ parts := by
  induction parts generalizing place with
  | nil => cases diverted
  | cons part more ih =>
    have later : ∀ {next}, t.walk ending next more = .diverted inside target rest →
        t.node? inside = some .directory ∧ ∀ p ∈ rest, p ∈ part :: more := by
      intro next on
      obtain ⟨dir, within⟩ := ih on
      exact ⟨dir, fun p there => List.mem_cons_of_mem part (within p there)⟩
    rcases walk_cases t ending place part more with
      blocked | ⟨dir, silent⟩ | ⟨dir, rfl⟩ | ⟨dir, loud, down, refused⟩ | ⟨dir, step, allowed⟩
    · obtain ⟨cause, stuck⟩ := walk_stuck ending part more blocked
      rw [stuck] at diverted
      cases diverted
    · rw [walk_silent dir silent] at diverted
      exact later diverted
    · rw [walk_dots dir] at diverted
      exact later diverted
    · obtain ⟨cause, stuck, -⟩ := walk_refused _ _ dir loud down refused
      rw [stuck] at diverted
      cases diverted
    · rw [walk_step dir step allowed, found] at diverted
      split at diverted
      · split at diverted <;> cases diverted
      · split at diverted
        · cases diverted
        · cases diverted
          exact ⟨dir, fun p there => List.mem_cons_of_mem part there⟩
      · exact later diverted

theorem walk_free (wf : t.WellFormed) (plain : ∀ part ∈ parts, Path.slash ∉ part)
    (start : t.node? place = none → parts ≠ [])
    (arrived : t.walk ending place parts = .arrived goal) (vacant : t.node? goal = none) :
    t.IsFree goal := by
  induction parts generalizing place with
  | nil =>
    cases arrived
    exact absurd rfl (start vacant)
  | cons part rest ih =>
    have plain_rest : ∀ p ∈ rest, Path.slash ∉ p := fun p there =>
      plain p (List.mem_cons_of_mem part there)
    have onward : ∀ {next node}, t.node? next = some node →
        t.walk ending next rest = .arrived goal → t.IsFree goal := by
      intro next node there on
      exact ih plain_rest (fun none => by simp [there] at none) on
    rcases walk_cases t ending place part rest with
      blocked | ⟨dir, silent⟩ | ⟨dir, rfl⟩ | ⟨dir, loud, down, refused⟩ | ⟨dir, step, allowed⟩
    · obtain ⟨cause, stuck⟩ := walk_stuck ending part rest blocked
      rw [stuck] at arrived
      cases arrived
    · rw [walk_silent dir silent] at arrived
      exact onward dir arrived
    · rw [walk_dots dir] at arrived
      exact onward (wf.dropLast dir) arrived
    · obtain ⟨cause, stuck, -⟩ := walk_refused _ _ dir loud down refused
      rw [stuck] at arrived
      cases arrived
    · rw [walk_step dir step allowed, found] at arrived
      split at arrived
      · split at arrived
        · cases arrived
          have loud := step.loud
          simp only [isSilent, Bool.or_eq_false_iff, decide_eq_false_iff_not] at loud
          exact ⟨vacant, place, part, rfl, dir, Path.isName_of_ne
            (plain part List.mem_cons_self) loud.1 loud.2 step.down⟩
        · cases arrived
      · rename_i target linked
        split at arrived
        · cases arrived
          rw [vacant] at linked
          cases linked
        · cases arrived
      · rename_i there
        exact onward there arrived

/-- Where a walk arrives at nothing, it has come to a place for a new name. -/
theorem walkLinks_free (wf : t.WellFormed) (vacant : t.node? goal = none)
    (plain : ∀ part ∈ parts, Path.slash ∉ part) (start : t.node? place = none → parts ≠ [])
    (reached : t.walkLinks ending links place parts = .ok goal) : t.IsFree goal := by
  refine walkLinks_induction (motive := fun _ place parts =>
      (∀ part ∈ parts, Path.slash ∉ part) → (t.node? place = none → parts ≠ []) → t.IsFree goal)
    (fun links place parts arrived plain start => ?_)
    (fun links place parts inside target rest diverted on plain _ => ?_) reached plain start
  · exact walk_free wf plain start arrived vacant
  · obtain ⟨dir, within⟩ := walk_diverted diverted
    refine on ?_ ?_
    · intro part there
      rcases List.mem_append.mp there with there | there
      · exact Path.slash_notMem_of_mem part there
      · exact plain part (within part there)
    · intro _ none
      exact Path.splitSlashes_ne_nil target.bytes (List.append_eq_nil_iff.mp none).1

/-- Once there is a directory where a walk has come to nothing, it can be walked to. -/
theorem walk_filled {empties : List Bytes} (asks : ending.mayBeMissing = false)
    (empty : ∀ part ∈ empties, part = []) (vacant : t.node? goal = none)
    (arrived : t.walk .vacancy place parts = .arrived goal) :
    (t.put goal .directory).walk ending place (parts ++ empties) = .arrived goal := by
  have goal_ne : goal ≠ [] := ne_root (t := t) (by simp [vacant])
  have extended : (t.put goal .directory).Extends t := extends_put vacant
  have made : (t.put goal .directory).node? goal = some .directory := by simp [node?_put goal_ne]
  have allowed' : ∀ rest, refusesSlashes ending rest = false := by simp [refusesSlashes, asks]
  induction parts generalizing place with
  | nil =>
    cases arrived
    exact walk_empties made empty
  | cons part rest ih =>
    rw [List.cons_append]
    rcases walk_cases t .vacancy place part rest with
      blocked | ⟨dir, silent⟩ | ⟨dir, rfl⟩ | ⟨dir, loud, down, refused⟩ | ⟨dir, step, allowed⟩
    · obtain ⟨cause, stuck⟩ := walk_stuck .vacancy part rest blocked
      rw [stuck] at arrived
      cases arrived
    · rw [walk_silent dir silent] at arrived
      rw [walk_silent (extended.nodes _ _ dir) silent]
      exact ih arrived
    · rw [walk_dots dir] at arrived
      rw [walk_dots (extended.nodes _ _ dir)]
      exact ih arrived
    · obtain ⟨cause, stuck, -⟩ := walk_refused _ _ dir loud down refused
      rw [stuck] at arrived
      cases arrived
    · rw [walk_step dir step allowed, found] at arrived
      rw [walk_step (extended.nodes _ _ dir) step (allowed' _), found]
      split at arrived
      · split at arrived
        · rename_i final
          cases arrived
          have nothing : rest = [] := by simpa [Ending.vacancy] using final
          rw [made, nothing]
          exact walk_empties made empty
        · cases arrived
      · rename_i target linked
        split at arrived
        · cases arrived
          rw [vacant] at linked
          cases linked
        · cases arrived
      · rename_i node direct there
        rw [extended.nodes _ _ there]
        have onward := ih arrived
        cases node with
        | link target => exact absurd rfl (direct target)
        | directory | file => exact onward

/-- A link before the end is followed whatever is wanted at the end. -/
theorem walk_diverted_alike {made : FileTree} (empties : List Bytes)
    (asks : ending.mayBeMissing = false) (extended : made.Extends t) {inside : Location}
    {target : Path} (diverted : t.walk .vacancy place parts = .diverted inside target rest) :
    made.walk ending place (parts ++ empties) = .diverted inside target (rest ++ empties) := by
  have allowed' : ∀ rest, refusesSlashes ending rest = false := by simp [refusesSlashes, asks]
  induction parts generalizing place with
  | nil => cases diverted
  | cons part more ih =>
    rw [List.cons_append]
    rcases walk_cases t .vacancy place part more with
      blocked | ⟨dir, silent⟩ | ⟨dir, rfl⟩ | ⟨dir, loud, down, refused⟩ | ⟨dir, step, allowed⟩
    · obtain ⟨cause, stuck⟩ := walk_stuck .vacancy part more blocked
      rw [stuck] at diverted
      cases diverted
    · rw [walk_silent dir silent] at diverted
      rw [walk_silent (extended.nodes _ _ dir) silent]
      exact ih diverted
    · rw [walk_dots dir] at diverted
      rw [walk_dots (extended.nodes _ _ dir)]
      exact ih diverted
    · obtain ⟨cause, stuck, -⟩ := walk_refused _ _ dir loud down refused
      rw [stuck] at diverted
      cases diverted
    · rw [walk_step dir step allowed, found] at diverted
      rw [walk_step (extended.nodes _ _ dir) step (allowed' _), found]
      split at diverted
      · split at diverted <;> cases diverted
      · rename_i target' linked
        split at diverted
        · cases diverted
        · rename_i further
          cases diverted
          have rest_ne : rest ≠ [] := by simpa [Ending.vacancy] using further
          simp [extended.nodes _ _ linked, rest_ne]
      · rename_i node direct there
        rw [extended.nodes _ _ there]
        have onward := ih diverted
        cases node with
        | link target => exact absurd rfl (direct target)
        | directory | file => exact onward

theorem walkLinks_filled {empties : List Bytes} (asks : ending.mayBeMissing = false)
    (empty : ∀ part ∈ empties, part = []) (vacant : t.node? goal = none)
    (reached : t.walkLinks .vacancy links place parts = .ok goal) :
    (t.put goal .directory).walkLinks ending links place (parts ++ empties) = .ok goal := by
  refine walkLinks_induction (motive := fun links place parts =>
      (t.put goal .directory).walkLinks ending links place (parts ++ empties) = .ok goal)
    (fun links place parts arrived => ?_)
    (fun links place parts inside target rest diverted on => ?_) reached
  · exact walkLinks_of_arrived (walk_filled asks empty vacant arrived)
  · have there : (t.put goal .directory).walk ending place (parts ++ empties) =
        .diverted inside target (rest ++ empties) :=
      walk_diverted_alike empties asks (extends_put vacant) diverted
    rw [List.append_assoc] at on
    exact walkLinks_of_diverted there on

/-! ## Names in a directory -/

/-- A name leads to its place in the directory, unless a link is followed there. -/
theorem walkLinks_name {name : Bytes} (proper : Path.IsName name)
    (plain : ending.followsLink = false ∨
      ∀ target, t.node? (place ++ [name]) ≠ some (.link target))
    (reached : t.walkLinks ending links place [name] = .ok goal) :
    t.node? place = some .directory ∧ goal = place ++ [name] := by
  have came : t.walk ending place [name] = .arrived goal ∨
      ∃ inside target rest, t.walk ending place [name] = .diverted inside target rest := by
    rcases walkLinks_eq_ok.mp reached with arrived | ⟨inside, target, rest, _, -, diverted, -⟩
    · exact .inl arrived
    · exact .inr ⟨inside, target, rest, diverted⟩
  have loud : isSilent name = false := by simp [isSilent, proper.ne_nil, proper.ne_dot]
  rcases walk_cases t ending place name [] with
    blocked | ⟨dir, silent⟩ | ⟨dir, rfl⟩ | ⟨dir, loud, down, refused⟩ | ⟨dir, step, allowed⟩
  · obtain ⟨cause, stuck⟩ := walk_stuck ending name [] blocked
    simp [stuck] at came
  · simp [loud] at silent
  · exact absurd rfl proper.ne_dots
  · obtain ⟨cause, stuck, -⟩ := walk_refused _ _ dir loud down refused
    simp [stuck] at came
  · refine ⟨dir, ?_⟩
    rw [walk_step dir step allowed, found] at came
    cases here : t.node? (place ++ [name]) with
    | none =>
      by_cases gap : ending.mayBeMissing = true
      · simpa [here, gap, eq_comm] using came
      · simp [here, gap] at came
    | some node =>
      cases node with
      | directory => simpa [here, walk, eq_comm] using came
      | file content executable => simpa [here, walk, eq_comm] using came
      | link target =>
        have stays : ending.followsLink = false :=
          plain.resolve_right fun direct => direct target here
        simpa [here, stays, eq_comm] using came

/-- Where the names in what `path` stands for are: in the directory it leads to, or in the
current one for the empty path. -/
def Houses (t : FileTree) (path : Path) (place : Location) : Prop :=
  path.bytes = [] ∧ place = t.current ∨ t.locate .existing path = .ok place

/-- A name in a directory is walked to from there. -/
theorem locate_join_eq {name : Bytes} (ending : Ending) (proper : Path.IsName name)
    (houses : t.Houses path place) (checked : checkPath (path.join ⟨name⟩) = .ok ()) :
    ∃ left, t.locate ending (path.join ⟨name⟩) = t.walkLinks ending left place [name] := by
  obtain ⟨front, split, whenEmpty, whenFull⟩ := Path.splitSlashes_join path proper
  have from_same : origin t.current (path.join ⟨name⟩) = origin t.current path := by
    simp [origin, Path.isAbsolute_join proper]
  have may : MayFollow ending [name] := .inr ⟨name, by simp, proper.ne_nil⟩
  rw [locate, locateParts, checked, split, from_same]
  rcases houses with ⟨empty, rfl⟩ | located
  · have relative : origin t.current path = t.current := by
      simp [origin, Path.isAbsolute, empty]
    rw [whenEmpty empty, relative]
    exact ⟨linkLimit, rfl⟩
  · obtain ⟨checked, led⟩ := locateParts_eq_ok.mp located
    have full : path.bytes ≠ [] := by
      intro empty
      simp [checkPath, empty] at checked
    have reached_front : t.walkLinks .existing linkLimit (origin t.current path) front =
        .ok place := by
      rcases whenFull full with same | same
      · rw [← same]
        exact led
      · rw [same] at led
        exact walkLinks_without_empties (by simp) led
    exact walkLinks_append may reached_front

theorem locate_join {name : Bytes} (proper : Path.IsName name) (houses : t.Houses path place)
    (plain : ending.followsLink = false ∨
      ∀ target, t.node? (place ++ [name]) ≠ some (.link target))
    (reached : t.locate ending (path.join ⟨name⟩) = .ok goal) :
    t.node? place = some .directory ∧ goal = place ++ [name] := by
  obtain ⟨checked, -⟩ := locateParts_eq_ok.mp reached
  obtain ⟨left, same⟩ := locate_join_eq ending proper houses checked
  rw [same] at reached
  exact walkLinks_name proper plain reached

/-- A directory in a directory can be walked to, if the path is fit to be walked at all. -/
theorem lookUp_join {name : Bytes} (proper : Path.IsName name) (small : base.Houses path place)
    (large : t.Houses path place) (dir : base.node? place = some .directory)
    (there : base.node? (place ++ [name]) = some .directory)
    (reached : t.locate .existing (path.join ⟨name⟩) = .ok goal) :
    base.lookUp .existing (path.join ⟨name⟩) = .ok (place ++ [name], .directory) := by
  obtain ⟨checked, -⟩ := locateParts_eq_ok.mp reached
  obtain ⟨left, walked⟩ := locate_join_eq .existing proper large checked
  obtain ⟨left', same⟩ := locate_join_eq .existing proper small checked
  rw [walked] at reached
  have unstuck : ∀ cause, t.walk .existing place [name] ≠ .stuck cause := by
    intro cause stuck
    rw [walkLinks, stuck] at reached
    cases reached
  have loud : isSilent name = false := by simp [isSilent, proper.ne_nil, proper.ne_dot]
  have short : name.length ≤ nameLimit := by
    by_contra long
    by_cases dir' : t.node? place = some .directory
    · obtain ⟨cause, stuck, -⟩ :=
        walk_refused .existing [] dir' loud proper.ne_dots (.inr (Nat.lt_of_not_le long))
      exact unstuck cause stuck
    · obtain ⟨cause, stuck⟩ := walk_stuck .existing name [] dir'
      exact unstuck cause stuck
  have step : IsStep name := ⟨loud, proper.ne_dots, short⟩
  refine lookUp_eq_ok.mpr ⟨same.trans (walkLinks_of_arrived ?_), there⟩
  rw [walk_step dir step rfl, found, there]
  rfl

theorem checkPath_of_join {name : Bytes} (full : path.bytes ≠ [])
    (plain : Path.isAbsolute ⟨name⟩ = false)
    (checked : checkPath (path.join ⟨name⟩) = .ok ()) : checkPath path = .ok () := by
  obtain ⟨more, whole⟩ : ∃ more, (path.join ⟨name⟩).bytes = path.bytes ++ more := by
    rw [Path.join, plain]
    split
    · contradiction
    · split
      · exact ⟨name, rfl⟩
      · exact ⟨Path.slash :: name, rfl⟩
  rw [checkPath, whole] at checked
  rw [checkPath]
  split at checked
  · cases checked
  · rename_i zero
    split at checked
    · cases checked
    · split at checked
      · cases checked
      · rename_i length
        have nonzero : 0 ∉ path.bytes := by
          simp only [List.contains_iff_mem, List.mem_append, not_or] at zero
          exact zero.1
        have short : ¬ path.bytes.length > pathLimit := by
          simp only [List.length_append] at length
          omega
        simp [nonzero, full, short]

/-- The directory in which a name is looked for is there. -/
theorem houses_of_locate_join {name : Bytes} (proper : Path.IsName name)
    (reached : t.locate ending (path.join ⟨name⟩) = .ok goal) : ∃ place, t.Houses path place := by
  by_cases empty : path.bytes = []
  · exact ⟨t.current, .inl ⟨empty, rfl⟩⟩
  obtain ⟨front, split, -, whenFull⟩ := Path.splitSlashes_join path proper
  obtain ⟨checked, walked⟩ := locateParts_eq_ok.mp reached
  have from_same : origin t.current (path.join ⟨name⟩) = origin t.current path := by
    simp [origin, Path.isAbsolute_join proper]
  have may : MayFollow ending [name] := .inr ⟨name, by simp, proper.ne_nil⟩
  rw [split, from_same] at walked
  obtain ⟨place, led⟩ := walkLinks_front may walked
  obtain ⟨left, on⟩ := walkLinks_append may led
  have dir : t.node? place = some .directory := by
    by_contra other
    obtain ⟨cause, stuck⟩ := walk_stuck ending name [] other
    rw [on] at walked
    rcases walkLinks_eq_ok.mp walked with arrived | ⟨_, _, _, _, -, diverted, -⟩
    · simp [stuck] at arrived
    · simp [stuck] at diverted
  refine ⟨place, .inr (locateParts_eq_ok.mpr
    ⟨checkPath_of_join empty (Path.isAbsolute_eq_false proper.1) checked, ?_⟩)⟩
  rcases whenFull empty with same | same
  · rw [same]
    exact led
  · have may : MayFollow .existing [[]] := .inl rfl
    obtain ⟨left, on⟩ := walkLinks_append may led
    rw [same, on]
    exact walkLinks_empties dir (by simp)

end SlideConverter.FileTree
