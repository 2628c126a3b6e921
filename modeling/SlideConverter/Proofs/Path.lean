import Mathlib.Data.List.Lex
import SlideConverter.FileTree.Walk
import SlideConverter.Proofs.Text.Utf8

/-!
# The parts of paths

How the stretches between slashes come out of joining, of the bytes of a file name, and
of leaving out the slashes at the end; that any two paths are in order; and which paths are what
they are shown as.
-/

namespace SlideConverter

open Text

namespace Path

variable {bytes name : Bytes} {path base : Path}

/-- A stretch of a path that leads down. -/
def IsName (name : Bytes) : Prop := slash ∉ name ∧ innerComponent name = some (.name name)

instance (name : Bytes) : Decidable (IsName name) := inferInstanceAs (Decidable (_ ∧ _))

theorem IsName.ne_nil (h : IsName name) : name ≠ [] := by
  rintro rfl
  simp [IsName, innerComponent] at h

theorem IsName.ne_dot (h : IsName name) : name ≠ [dot] := by
  rintro rfl
  simp [IsName, innerComponent] at h

theorem IsName.ne_dots (h : IsName name) : name ≠ [dot, dot] := by
  rintro rfl
  simp [IsName, innerComponent] at h

theorem isName_of_ne (plain : slash ∉ name) (notEmpty : name ≠ []) (notDot : name ≠ [dot])
    (notDots : name ≠ [dot, dot]) : IsName name := by
  simp [IsName, innerComponent, plain, notEmpty, notDot, notDots]

theorem splitSlashes_ne_nil (bytes : Bytes) : splitSlashes bytes ≠ [] := by
  cases bytes with
  | nil => simp [splitSlashes]
  | cons b rest =>
    rw [splitSlashes]
    split
    · simp
    · split <;> simp

theorem splitSlashes_cons (b : UInt8) (rest : Bytes) (other : b ≠ slash) :
    ∃ part parts, splitSlashes rest = part :: parts ∧
      splitSlashes (b :: rest) = (b :: part) :: parts := by
  cases split : splitSlashes rest with
  | nil => exact absurd split (splitSlashes_ne_nil rest)
  | cons part parts => exact ⟨part, parts, rfl, by rw [splitSlashes, if_neg other, split]⟩

theorem slash_notMem_of_mem (part : Bytes) (there : part ∈ splitSlashes bytes) : slash ∉ part := by
  induction bytes generalizing part with
  | nil =>
    simp only [splitSlashes, List.mem_singleton] at there
    simp [there]
  | cons b rest ih =>
    by_cases same : b = slash
    · rw [splitSlashes, if_pos same] at there
      rcases List.mem_cons.mp there with rfl | there
      · simp
      · exact ih part there
    · obtain ⟨first, parts, split, split'⟩ := splitSlashes_cons b rest same
      rw [split'] at there
      rcases List.mem_cons.mp there with rfl | there
      · have plain := ih first (by simp [split])
        simp [plain, Ne.symm same]
      · exact ih part (by simp [split, there])

theorem splitSlashes_of_plain (plain : slash ∉ bytes) : splitSlashes bytes = [bytes] := by
  induction bytes with
  | nil => rfl
  | cons b rest ih =>
    have other : b ≠ slash := by
      rintro rfl
      simp at plain
    have rest_plain : slash ∉ rest := fun there => plain (List.mem_cons_of_mem b there)
    rw [splitSlashes, if_neg other, ih rest_plain]

theorem splitSlashes_append (front last : Bytes) :
    splitSlashes (front ++ slash :: last) = splitSlashes front ++ splitSlashes last := by
  induction front with
  | nil => simp [splitSlashes]
  | cons b rest ih =>
    by_cases same : b = slash
    · rw [List.cons_append, splitSlashes, if_pos same, ih, splitSlashes, if_pos same]
      rfl
    · obtain ⟨part, parts, split, split'⟩ := splitSlashes_cons b rest same
      rw [List.cons_append, splitSlashes, if_neg same, ih, split, split']
      rfl

theorem isAbsolute_eq_false (plain : slash ∉ path.bytes) : path.isAbsolute = false := by
  obtain ⟨bytes⟩ := path
  cases bytes with
  | nil => rfl
  | cons b rest =>
    have other : b ≠ slash := by
      rintro rfl
      simp at plain
    simp [isAbsolute, other]

/-- The parts of a name in a directory are those of the directory, but for the empty one behind
a slash at its end, and the name. -/
theorem splitSlashes_join (base : Path) (proper : IsName name) : ∃ front,
    splitSlashes (base.join ⟨name⟩).bytes = front ++ [name] ∧
      (base.bytes = [] → front = []) ∧
      (base.bytes ≠ [] → splitSlashes base.bytes = front ∨
        splitSlashes base.bytes = front ++ [[]]) := by
  have relative : Path.isAbsolute ⟨name⟩ = false := isAbsolute_eq_false proper.1
  have single := splitSlashes_of_plain proper.1
  by_cases empty : base.bytes = []
  · refine ⟨[], ?_, fun _ => rfl, fun full => absurd empty full⟩
    simp [join, relative, empty, single]
  · by_cases ends : base.bytes.getLast? = some slash
    · obtain ⟨front, whole⟩ := List.getLast?_eq_some_iff.mp ends
      refine ⟨splitSlashes front, ?_, fun none => absurd none empty, fun _ => .inr ?_⟩
      · simp [join, relative, whole, splitSlashes_append, single]
      · rw [whole, splitSlashes_append]
        rfl
    · refine ⟨splitSlashes base.bytes, ?_, fun none => absurd none empty, fun _ => .inl rfl⟩
      simp [join, relative, empty, ends, splitSlashes_append, single]

theorem isAbsolute_join (proper : IsName name) :
    (base.join ⟨name⟩).isAbsolute = base.isAbsolute := by
  obtain ⟨plain, -⟩ := id proper
  have name_ne := proper.ne_nil
  cases name with
  | nil => exact absurd rfl name_ne
  | cons b rest =>
    have other : b ≠ slash := by
      rintro rfl
      simp at plain
    cases whole : base.bytes with
    | nil => simp [join, isAbsolute, other, whole]
    | cons first more =>
      by_cases ends : (first :: more).getLast? = some slash <;>
        simp [join, isAbsolute, other, whole, ends]

theorem eq_nil_of_splitSlashes {bytes : Bytes} (single : splitSlashes bytes = [[]]) :
    bytes = [] := by
  cases bytes with
  | nil => rfl
  | cons b rest =>
    by_cases same : b = slash
    · rw [splitSlashes, if_pos same] at single
      exact absurd (List.cons.inj single).2 (splitSlashes_ne_nil rest)
    · obtain ⟨part, parts, -, split⟩ := splitSlashes_cons b rest same
      rw [split] at single
      cases single

theorem innerComponent_nil : innerComponent [] = none := rfl

/-- What is put below a directory comes after the components of the directory. -/
theorem components_join (base : Path) (proper : IsName name) :
    (base.join ⟨name⟩).components = base.components ++ [.name name] := by
  obtain ⟨front, joined, alone, apart⟩ := splitSlashes_join base proper
  have absolute : (base.join ⟨name⟩).isAbsolute = base.isAbsolute := isAbsolute_join proper
  by_cases empty : base.bytes = []
  · have relative : base.isAbsolute = false := by simp [isAbsolute, empty]
    simp [components, joined, alone empty, absolute, relative, firstComponent, proper.ne_dot,
      proper.2, empty, splitSlashes, innerComponent_nil]
  · have some_front : front ≠ [] := by
      rintro rfl
      rcases apart empty with whole | whole
      · exact splitSlashes_ne_nil _ whole
      · exact empty (eq_nil_of_splitSlashes whole)
    obtain ⟨part, parts, rfl⟩ := List.exists_cons_of_ne_nil some_front
    rcases apart empty with whole | whole <;> cases rooted : base.isAbsolute <;>
      simp [components, joined, whole, absolute, rooted, proper.2, innerComponent_nil]

theorem innerComponent_eq_name {part : Bytes} (h : innerComponent part = some (.name name)) :
    part = name := by
  simp only [innerComponent] at h
  split at h
  · cases h
  · split at h
    · cases h
    · split at h
      · cases h
      · simpa using h

theorem isName_of_mem_components (there : .name name ∈ path.components) : IsName name := by
  have inner : ∀ part ∈ splitSlashes path.bytes, innerComponent part = some (.name name) →
      IsName name := by
    intro part within h
    have same := innerComponent_eq_name h
    rw [same] at within h
    exact ⟨slash_notMem_of_mem name within, h⟩
  rw [components] at there
  cases split : splitSlashes path.bytes with
  | nil => exact absurd split (splitSlashes_ne_nil _)
  | cons first rest =>
    have later : .name name ∈ rest.filterMap innerComponent → IsName name := by
      intro found
      obtain ⟨part, within, h⟩ := List.mem_filterMap.mp found
      exact inner part (by simp [split, within]) h
    simp only [split] at there
    split at there
    · rcases List.mem_cons.mp there with none | found
      · cases none
      · exact later found
    · rcases List.mem_append.mp there with found | found
      · have h : firstComponent first = some (.name name) := by simpa using found
        rw [firstComponent] at h
        split at h
        · cases h
        · exact inner first (by simp [split]) h
      · exact later found

/-- A file name is a name. -/
theorem isName_of_fileName (named : path.fileName = some name) : IsName name := by
  rw [fileName] at named
  split at named
  · rename_i last
    cases named
    exact isName_of_mem_components (List.mem_of_getLast? last)
  · cases named

/-! ## Entries of a directory -/

theorem fileName_join (proper : IsName name) : (base.join ⟨name⟩).fileName = some name := by
  rw [fileName, components_join base proper, List.getLast?_concat]

/-! ## Extensions -/

variable {sep : UInt8} {before after : Bytes}

theorem splitLast_eq_none : splitLast sep bytes = none ↔ sep ∉ bytes := by
  induction bytes with
  | nil => simp [splitLast]
  | cons b rest ih =>
    rw [splitLast]
    cases within : splitLast sep rest with
    | some parts =>
      have there : sep ∈ rest := by
        by_contra absent
        rw [ih.mpr absent] at within
        cases within
      simp [there]
    | none =>
      have absent : sep ∉ rest := ih.mp within
      by_cases same : b = sep
      · simp [same]
      · simp [same, absent, Ne.symm same]

theorem splitLast_append (before : Bytes) (last : sep ∉ after) :
    splitLast sep (before ++ sep :: after) = some (before, after) := by
  induction before with
  | nil =>
    rw [List.nil_append, splitLast, splitLast_eq_none.mpr last]
    exact if_pos rfl
  | cons b rest ih => rw [List.cons_append, splitLast, ih]

theorem le_iff {p q : Path} : p.le q = true ↔ p.orderKey ≤ q.orderKey := by
  have later : List.lex q.orderKey p.orderKey Nat.blt = true ↔ q.orderKey < p.orderKey := by
    rw [List.lex_eq_true_iff_lex]
    simp only [Nat.blt_eq]
    rfl
  rw [le, Bool.not_eq_true', ← Bool.not_eq_true, later, not_lt]

protected theorem le_total (p q : Path) : p.le q = true ∨ q.le p = true := by
  rw [le_iff, le_iff]
  exact le_total _ _

protected theorem le_refl (p : Path) : p.le p = true := or_self_iff.mp (Path.le_total p p)

protected theorem le_trans {p q o : Path} (first : p.le q = true) (second : q.le o = true) :
    p.le o = true := by
  rw [le_iff] at *
  exact le_trans first second

/-! ## Where they lead -/

/-- The components without the `.` at the beginning, which leads nowhere. -/
def steps (path : Path) : List Component := path.components.filter (· ≠ .current)

theorem innerComponent_ne_current {part : Bytes} {c : Component}
    (inner : innerComponent part = some c) : c ≠ .current := by
  rintro rfl
  simp only [innerComponent] at inner
  split at inner
  · cases inner
  · split at inner
    · cases inner
    · split at inner <;> cases inner

theorem filter_filterMap_innerComponent (parts : List Bytes) :
    (parts.filterMap innerComponent).filter (· ≠ .current) = parts.filterMap innerComponent := by
  refine List.filter_eq_self.mpr fun c there => ?_
  obtain ⟨part, -, inner⟩ := List.mem_filterMap.mp there
  simpa using innerComponent_ne_current inner

theorem filter_firstComponent (part : Bytes) :
    (firstComponent part).toList.filter (· ≠ .current) = [part].filterMap innerComponent := by
  by_cases here : part = [dot]
  · rw [here]
    decide
  · rw [firstComponent, if_neg here, ← filter_filterMap_innerComponent]
    cases inner : innerComponent part <;> simp [inner]

theorem steps_eq (path : Path) : path.steps = (if path.isAbsolute then [.root] else []) ++
    (splitSlashes path.bytes).filterMap innerComponent := by
  cases split : splitSlashes path.bytes with
  | nil => exact absurd split (splitSlashes_ne_nil _)
  | cons part parts =>
    have later := filter_filterMap_innerComponent parts
    cases rooted : path.isAbsolute with
    | true =>
      have first : part = [] := by
        obtain ⟨rest, whole⟩ : ∃ rest, path.bytes = slash :: rest := by
          simpa [isAbsolute, List.head?_eq_some_iff] using rooted
        rw [whole, splitSlashes, if_pos rfl] at split
        exact (List.cons.inj split).1.symm
      simp only [steps, components, split, rooted, if_true, first, List.filterMap_cons,
        innerComponent_nil, List.filter_cons, later]
      rfl
    | false =>
      simp only [steps, components, split, rooted, Bool.false_eq_true, if_false, List.nil_append,
        List.filter_append, filter_firstComponent, later]
      rw [← List.filterMap_append, List.singleton_append]

/-- A path is put behind the one slash at the end of a directory, which is added if need be. -/
theorem join_of_relative (base : Path) {p : Path} (relative : p.isAbsolute = false) :
    (base.bytes = [] ∧ base.join p = p) ∨
      ∃ front, (base.bytes = front ∨ base.bytes = front ++ [slash]) ∧ base.bytes ≠ [] ∧
        (base.join p).bytes = front ++ slash :: p.bytes := by
  by_cases empty : base.bytes = []
  · exact .inl ⟨empty, by simp [join, relative, empty]⟩
  · by_cases ends : base.bytes.getLast? = some slash
    · obtain ⟨front, whole⟩ := List.getLast?_eq_some_iff.mp ends
      exact .inr ⟨front, .inr whole, empty, by simp [join, relative, whole]⟩
    · exact .inr ⟨base.bytes, .inl rfl, empty, by simp [join, relative, empty, ends]⟩

/-- What is seen from a directory lies beyond it. -/
theorem steps_join {p : Path} (relative : p.isAbsolute = false) :
    (base.join p).steps = base.steps ++ p.steps := by
  have nowhere : (splitSlashes []).filterMap innerComponent = [] := rfl
  rw [steps_eq, steps_eq base, steps_eq p, relative]
  rcases join_of_relative base relative with ⟨empty, same⟩ | ⟨front, ends, full, joined⟩
  · have relative' : base.isAbsolute = false := by simp [isAbsolute, empty]
    rw [same, relative, relative', empty, nowhere]
    rfl
  · have rooted : (base.join p).isAbsolute = base.isAbsolute := by
      rw [isAbsolute, isAbsolute, joined]
      rcases ends with whole | whole <;> rw [whole] at full ⊢ <;> cases front <;> simp at full ⊢
    have beyond : (splitSlashes (base.join p).bytes).filterMap innerComponent =
        (splitSlashes base.bytes).filterMap innerComponent ++
          (splitSlashes p.bytes).filterMap innerComponent := by
      rw [joined, splitSlashes_append, List.filterMap_append]
      rcases ends with whole | whole
      · rw [whole]
      · rw [whole, splitSlashes_append, List.filterMap_append, nowhere, List.append_nil]
    rw [rooted, beyond]
    simp

/-! ## What they are shown as -/

/-- Written in UTF-8. -/
def IsText (p : Path) : Prop := Utf8.IsText p.bytes

instance (p : Path) : Decidable p.IsText := inferInstanceAs (Decidable (Utf8.IsText p.bytes))

theorem isText_ofString (s : String) : (ofString s).IsText := Utf8.isText_encode s

theorem isText_join {name : Bytes} (first : base.IsText) (second : Utf8.IsText name) :
    (base.join ⟨name⟩).IsText := by
  have slash : Utf8.IsText [slash] := by decide
  rw [join]
  split
  · exact second
  · split
    · exact Utf8.IsText.append first second
    · exact Utf8.IsText.append first (Utf8.IsText.append slash second)

/-- A path can be read back from what it is shown as just where it is text. -/
theorem ofString_display : ofString path.display = path ↔ path.IsText := by
  constructor
  · intro same
    rw [← same]
    exact isText_ofString _
  · intro text
    obtain ⟨s, read⟩ := Option.isSome_iff_exists.mp text
    have shown : path.display = s := by
      simp [display, Utf8.decodeLossy, Utf8.decode?_eq_some.mp read, Function.comp_def]
    rw [shown, ofString, Utf8.encode_of_decode? read]

end Path

namespace FileTree

open SlideConverter.Path

variable {path : Path}

/-- What is left out at the end of a path are empty parts. -/
theorem withoutTrailing_append (path : Path) : ∃ empties,
    splitSlashes path.bytes = (withoutTrailing path).1 ++ empties ∧
      ∀ part ∈ empties, part = [] := by
  refine ⟨((splitSlashes path.bytes).reverse.takeWhile (·.isEmpty)).reverse, ?_, ?_⟩
  · rw [withoutTrailing, ← List.reverse_append, List.takeWhile_append_dropWhile,
      List.reverse_reverse]
  · intro part there
    have empty := List.all_eq_true.mp List.all_takeWhile _ (List.mem_reverse.mp there)
    simpa using empty

theorem withoutTrailing_of_none (none : (withoutTrailing path).2 = false) :
    (withoutTrailing path).1 = splitSlashes path.bytes := by
  obtain ⟨empties, split, -⟩ := withoutTrailing_append path
  have short : ¬ (withoutTrailing path).1.length < (splitSlashes path.bytes).length :=
    of_decide_eq_false none
  rw [split, List.length_append] at short
  have nothing : empties = [] := List.eq_nil_of_length_eq_zero (by omega)
  rw [split, nothing, List.append_nil]

/-- The last part that is left is not empty. -/
theorem ne_nil_of_withoutTrailing {front : List Bytes} {name : Bytes}
    (kept : (withoutTrailing path).1 = front ++ [name]) : name ≠ [] := by
  rintro rfl
  have reversed := congrArg List.reverse kept
  simp only [withoutTrailing, List.reverse_reverse, List.reverse_append, List.reverse_singleton,
    List.singleton_append] at reversed
  have dropped := List.head?_dropWhile_not (p := fun part : Bytes => part.isEmpty)
    (splitSlashes path.bytes).reverse
  simp [reversed] at dropped

/-- Nothing is left only of a path of slashes, and of the empty one. -/
theorem isAbsolute_of_withoutTrailing (kept : (withoutTrailing path).1 = [])
    (path_ne : path.bytes ≠ []) : path.isAbsolute = true := by
  obtain ⟨empties, split, empty⟩ := withoutTrailing_append path
  rw [kept, List.nil_append] at split
  cases whole : path.bytes with
  | nil => exact absurd whole path_ne
  | cons b rest =>
    by_cases same : b = slash
    · simp [isAbsolute, whole, same]
    · obtain ⟨part, parts, -, split'⟩ := splitSlashes_cons b rest same
      rw [whole, split'] at split
      have gone := empty (b :: part) (by simp [← split])
      cases gone

end FileTree

end SlideConverter
