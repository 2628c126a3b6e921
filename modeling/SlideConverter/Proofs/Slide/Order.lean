import SlideConverter.Proofs.Conversion.Conduct
import SlideConverter.Proofs.Slide
import SlideConverter.Rehearsal.Obliging

/-!
# The order of slides

The slides of a directory are its frames, each as often as it is listed, by key and then by name.
Frames that agree in both stay as they are listed, so the listing alone decides where every slide
stands. There are none where stem and extension make a pattern that cannot be compiled.
-/

namespace SlideConverter

open Text

/-- Elements that count as the same keep their order when they are sorted. -/
theorem filter_mergeSort {α : Type} {le : α → α → Bool} {p : α → Bool}
    (trans : ∀ a b c, le a b = true → le b c = true → le a c = true)
    (total : ∀ a b, (le a b || le b a) = true)
    (alike : ∀ a b, p a = true → p b = true → le a b = true) (l : List α) :
    (l.mergeSort le).filter p = l.filter p := by
  have sorted : (l.filter p).Pairwise fun a b => le a b = true := by
    apply List.pairwise_of_forall_mem_list
    intro a ha b hb
    exact alike a b (List.of_mem_filter ha) (List.of_mem_filter hb)
  have kept : (l.filter p).Sublist (l.mergeSort le) :=
    List.sublist_mergeSort trans total sorted List.filter_sublist
  have within : (l.filter p).Sublist ((l.mergeSort le).filter p) := by
    simpa using kept.filter p
  have lengths := ((List.mergeSort_perm l le).filter p).length_eq
  exact (within.eq_of_length lengths.symm).symm

namespace SlideCollection

/-- The extension is the image extension up to ASCII case, and the file name is text. -/
structure IsFrame (options : PipelineOptions) (p : Path) : Prop where
  image : ∃ e, p.extensionText = some e ∧ sameIgnoringAsciiCase e options.imageExtension = true
  named : ∃ name, p.fileName = some name ∧ Utf8.IsText name

/-- What places a frame: its key, and then the bytes of its name. -/
def place (options : PipelineOptions) (p : Path) : Nat × Bytes :=
  let name := p.fileName.getD []
  (((Utf8.decode? name).map (framePattern options).key).getD 0, name)

def PlaceLe (a b : Nat × Bytes) : Prop := a.1 < b.1 ∨ a.1 = b.1 ∧ a.2 ≤ b.2

instance (a b : Nat × Bytes) : Decidable (PlaceLe a b) := inferInstanceAs (Decidable (_ ∨ _ ∧ _))

variable {options : PipelineOptions} {p q : Path} {entries : List Path}

theorem isFrame_iff : IsFrame options p ↔
    options.isImage p = true ∧ ∃ name, p.fileName = some name ∧ Utf8.IsText name := by
  have image : options.isImage p = true ↔ ∃ e, p.extensionText = some e ∧
      sameIgnoringAsciiCase e options.imageExtension = true := by
    rw [PipelineOptions.isImage]
    cases p.extensionText <;> simp
  constructor
  · rintro ⟨extended, named⟩
    exact ⟨image.mpr extended, named⟩
  · rintro ⟨imaged, named⟩
    exact ⟨image.mp imaged, named⟩

instance (options : PipelineOptions) (p : Path) : Decidable (IsFrame options p) :=
  decidable_of_iff (options.isImage p = true ∧ p.fileName.any (Utf8.IsText ·) = true) <| by
    rw [isFrame_iff]
    cases p.fileName <;> simp

/-- The slides made of the entries of a directory: its frames, arranged by their places. -/
structure Arranged (options : PipelineOptions) (entries : List Path) (c : SlideCollection) :
    Prop where
  /-- Each frame is there as often as it is listed. -/
  frames : (c.slides.map (·.imagePath)).Perm (entries.filter (IsFrame options ·))
  ordered : (c.slides.map (·.imagePath)).Pairwise fun p q =>
    PlaceLe (place options p) (place options q)
  /-- Frames that have the same place are in the order of the listing. -/
  stable : ∀ there, (c.slides.map (·.imagePath)).filter (place options · = there) =
    (entries.filter (IsFrame options ·)).filter (place options · = there)
  numbered : c.slides.map (·.displayIndex) = List.range' 1 c.slides.length

/-! ## Frames as they are sorted -/

/-- A frame with its place. -/
def framed (options : PipelineOptions) (p : Path) : Frame :=
  ⟨(place options p).1, (place options p).2, p⟩

theorem le_framed : (framed options p).le (framed options q) = true ↔
    PlaceLe (place options p) (place options q) :=
  Frame.le_iff

theorem frame?_eq (options : PipelineOptions) (p : Path) :
    frame? options p = if IsFrame options p then some (framed options p) else none := by
  by_cases image : options.isImage p = true
  · cases named : p.fileName with
    | none => simp [frame?, isFrame_iff, image, named]
    | some name =>
      cases read : Utf8.decode? name with
      | none => simp [frame?, isFrame_iff, image, named, Utf8.IsText, read]
      | some text =>
        simp [frame?, isFrame_iff, image, named, Utf8.IsText, read, framed, place]
  · simp [frame?, isFrame_iff, image]

theorem filterMap_frame? (options : PipelineOptions) (entries : List Path) :
    entries.filterMap (frame? options) =
      (entries.filter (IsFrame options ·)).map (framed options) := by
  induction entries with
  | nil => rfl
  | cons p rest ih =>
    rw [List.filterMap_cons, frame?_eq, ih]
    by_cases there : IsFrame options p <;> simp [there]

theorem map_imagePath_ofEntries (options : PipelineOptions) (entries : List Path) :
    (ofEntries options entries).slides.map (·.imagePath) =
      (entries.filter (IsFrame options ·)).mergeSort
        fun p q => (framed options p).le (framed options q) := by
  have paths : (ofEntries options entries).slides.map (·.imagePath) =
      ((entries.filterMap (frame? options)).mergeSort Frame.le).map (·.path) := by
    apply List.ext_getElem <;> simp [ofEntries]
  have sorted := List.map_mergeSort (f := framed options) (s := Frame.le)
    (l := entries.filter (IsFrame options ·)) fun _ _ _ _ => rfl
  rw [paths, filterMap_frame?, ← sorted, List.map_map]
  exact List.map_id _

theorem ofEntries_arranged (options : PipelineOptions) (entries : List Path) :
    Arranged options entries (ofEntries options entries) := by
  have trans : ∀ p q r, (framed options p).le (framed options q) = true →
      (framed options q).le (framed options r) = true →
      (framed options p).le (framed options r) = true := fun _ _ _ => Frame.le_trans
  have total : ∀ p q,
      ((framed options p).le (framed options q) || (framed options q).le (framed options p)) =
        true := by
    intro p q
    simpa using Frame.le_total (framed options p) (framed options q)
  constructor
  · rw [map_imagePath_ofEntries]
    exact List.mergeSort_perm _ _
  · rw [map_imagePath_ofEntries]
    exact (List.pairwise_mergeSort trans total _).imp le_framed.mp
  · intro there
    rw [map_imagePath_ofEntries]
    apply filter_mergeSort trans total
    intro p q hp hq
    have same : place options p = place options q := by simp_all
    rw [le_framed, same]
    exact .inr ⟨rfl, List.le_refl _⟩
  · apply List.ext_getElem <;> simp [ofEntries, Nat.add_comm]

end SlideCollection

namespace PatternCompiler

/-! ## Patterns that are too large -/

theorem foldl_footprint (chars : List Char) (bytes : Nat) :
    chars.foldl (fun bytes c => bytes + footprint c) bytes =
      bytes + chars.foldl (fun bytes c => bytes + footprint c) 0 := by
  induction chars generalizing bytes with
  | nil => rfl
  | cons c rest ih =>
    rw [List.foldl_cons, List.foldl_cons, ih, ih (0 + footprint c)]
    omega

theorem size_append (s t : String) : size (s ++ t) = size s + size t := by
  rw [size, String.toList_append, List.foldl_append, foldl_footprint]
  rfl

theorem size_replicate (c : Char) (n : Nat) :
    size (String.ofList (List.replicate n c)) = n * footprint c := by
  rw [size, String.toList_ofList]
  induction n with
  | zero => simp
  | succ n ih =>
    rw [List.replicate_succ, List.foldl_cons, foldl_footprint, ih, Nat.succ_mul]
    omega

theorem size_le_escape (s : String) : size s ≤ size (SlidePattern.escape s) := by
  rw [size, size, SlidePattern.escape, String.toList_ofList]
  induction s.toList with
  | nil => exact le_rfl
  | cons c rest ih =>
    rw [List.foldl_cons, foldl_footprint rest, List.flatMap_cons, List.foldl_append,
      foldl_footprint (rest.flatMap _)]
    refine Nat.add_le_add ?_ ih
    split <;> simp

/-- A stem that is too large by itself makes a pattern that is. -/
theorem isSome_refuses?_standard {p : SlidePattern} (large : sizeLimit < size p.stem) :
    (standard.refuses? p).isSome = true := by
  have whole : size p.stem ≤ size p.expression := by
    refine (size_le_escape p.stem).trans ?_
    rw [SlidePattern.expression, size_append, size_append, size_append, size_append]
    omega
  rw [refuses?, Option.isSome_map, standard]
  dsimp only
  rw [if_pos (large.trans_le whole), Option.isSome_some]

end PatternCompiler

namespace Converter

open SlideCollection

/-- Every directory is listed with the names that the surroundings have. -/
theorem eq_of_asked_obliging {α : Type} {d : Act α} {names : List Bytes} {time : Duration}
    {dir : Path} {answer : Reply (List Path)}
    (asked : (d.perform (Rehearsal.obliging names time) ()).events =
      [.asked (.listDir dir) answer]) : answer = .ok (names.map (dir.join ⟨·⟩)) := by
  have answers := Respondent.answers_perform (Rehearsal.obliging names time) d ()
  rw [asked] at answers
  exact answers.1.symm

variable {σ : Type} {r : Surroundings σ} {s : σ} {c : Converter} {job : Job}

/-- The slides of a job that has finished are asked for with one listing, and the listing is all
that they are made of. -/
theorem collectSlides_of_finished (current : c.job = some job) (finished : job.state = .finished)
    (matched : c.patternRefusal? = none) :
    let p := (c.collectSlides job.handle).perform r s
    ∃ answer, p.events = [.asked (.listDir job.workDir) answer] ∧
      ((∃ error, p.value = .error error) ↔ ∃ cause, answer = .error cause) ∧
      ∀ entries, answer = .ok entries → p.value = .ok (ofEntries c.config.pipeline entries) := by
  intro p
  have collect : Collect c job.handle p.events p.value :=
    collect_course ((c.collectSlides job.handle).perform_course r s)
  generalize p.events = events at collect
  generalize p.value = value at collect
  cases collect with
  | unknown absent =>
    rw [find?_eq_some.mpr ⟨current, rfl⟩] at absent
    cases absent
  | early known other =>
    obtain ⟨current', -⟩ := find?_eq_some.mp known
    rw [current] at current'
    cases current'
    exact absurd finished other
  | unmatched _ _ refused =>
    rw [matched] at refused
    cases refused
  | unlistable known _ _ cause =>
    obtain ⟨current', -⟩ := find?_eq_some.mp known
    rw [current] at current'
    cases current'
    refine ⟨_, rfl, iff_of_true ⟨_, rfl⟩ ⟨cause, rfl⟩, ?_⟩
    rintro entries ⟨⟩
  | collected known _ _ entries =>
    obtain ⟨current', -⟩ := find?_eq_some.mp known
    rw [current] at current'
    cases current'
    refine ⟨_, rfl, iff_of_false ?_ ?_, ?_⟩
    · rintro ⟨_, ⟨⟩⟩
    · rintro ⟨_, ⟨⟩⟩
    · rintro _ ⟨⟩
      rfl

/-- Without a pattern nothing is asked. -/
theorem collectSlides_of_unmatched {cause : ErrorChain} (current : c.job = some job)
    (finished : job.state = .finished) (refused : c.patternRefusal? = some cause) :
    c.collectSlides job.handle = pure (.error (.filesystem cause)) := by
  rw [collectSlides, find?_eq_some.mpr ⟨current, rfl⟩]
  dsimp only
  rw [if_pos finished, refused]

/-- The slides cannot be told just when there is no pattern for the names of frames, and then the
directory is not looked at, or when the directory cannot be listed; otherwise they are the frames
listed, arranged by key and name and numbered from 1. -/
theorem collected_slides_arranged {σ : Type} (r : Surroundings σ) (s : σ) (c : Converter)
    (job : Job) (current : c.job = some job) (finished : job.state = .finished) :
    let p := (c.collectSlides job.handle).perform r s
    (∀ cause, c.patternRefusal? = some cause →
      p.events = [] ∧ p.value = .error (.filesystem cause)) ∧
    (c.patternRefusal? = none → ∃ answer, p.events = [.asked (.listDir job.workDir) answer] ∧
      ((∃ error, p.value = .error error) ↔ ∃ cause, answer = .error cause) ∧
      ∀ entries, answer = .ok entries →
        ∃ slides, p.value = .ok slides ∧ Arranged c.config.pipeline entries slides) := by
  intro p
  constructor
  · intro cause refused
    simp only [p, collectSlides_of_unmatched current finished refused]
    exact ⟨rfl, rfl⟩
  · intro matched
    obtain ⟨answer, asked, fails, collected⟩ :=
      collectSlides_of_finished (r := r) (s := s) current finished matched
    refine ⟨answer, asked, fails, ?_⟩
    intro entries listed
    exact ⟨_, collected entries listed, ofEntries_arranged c.config.pipeline entries⟩

/-- A listing with a frame that has no number, one listed twice, one whose name is no text, and an
entry of another extension. -/
theorem rehearsed_slides_arranged :
    let names := Utf8.encode "slide-10.jpg" :: [0xFF, 0x2E, 0x6A, 0x70, 0x67] ::
      ["slide-9.jpg", "cover.JPG", "notes.txt", "slide-9.jpg"].map Utf8.encode
    let work := Path.ofString "work"
    let entries := names.map (work.join ⟨·⟩)
    let job : Job :=
      { handle := ⟨1⟩, source := .ofString "talk.odp", workDir := work, state := .finished,
        running := none, intermediate := none, skippedIntermediate := false, stages := [] }
    let p := (Converter.collectSlides { config := {}, job := some job } ⟨1⟩).perform
      (Rehearsal.obliging names ⟨0⟩) ()
    entries.map (place {} ·) = [(10, names[0]), (0, [0xFF, 0x2E, 0x6A, 0x70, 0x67]), (9, names[2]),
      (0, names[3]), (0, names[4]), (9, names[5])] ∧
    entries.map (fun p => decide (IsFrame {} p)) = [true, false, true, true, false, true] ∧
    ∃ slides, p.value = .ok slides ∧ Arranged {} entries slides ∧ slides.slides.length = 4 := by
  intro names work entries job p
  have places : entries.map (place {} ·) = [(10, names[0]), (0, [0xFF, 0x2E, 0x6A, 0x70, 0x67]),
      (9, names[2]), (0, names[3]), (0, names[4]), (9, names[5])] := by decide +kernel
  have kept : entries.map (fun p => decide (IsFrame {} p)) =
      [true, false, true, true, false, true] := by decide +kernel
  have four : (entries.filter (IsFrame {} ·)).length = 4 := by decide +kernel
  obtain ⟨-, listed⟩ := collected_slides_arranged (Rehearsal.obliging names ⟨0⟩) ()
    { config := {}, job := some job } job rfl rfl
  obtain ⟨answer, asked, -, arranged⟩ := listed (by decide +kernel)
  have same : answer = .ok entries := eq_of_asked_obliging asked
  obtain ⟨slides, value, result⟩ := arranged entries same
  refine ⟨places, kept, slides, value, result, ?_⟩
  have count := result.frames.length_eq
  rwa [List.length_map, four] at count

/-- With a stem that is too large nothing is collected, and nothing is asked. -/
theorem collectSlides_of_large_stem (current : c.job = some job) (finished : job.state = .finished)
    (compiled : c.compiler = .standard)
    (large : PatternCompiler.sizeLimit < PatternCompiler.size c.config.pipeline.slideStem) :
    let p := (c.collectSlides job.handle).perform r s
    p.events = [] ∧ ∃ error, p.value = .error error := by
  intro p
  have refused := PatternCompiler.isSome_refuses?_standard
    (p := framePattern c.config.pipeline) large
  rw [← compiled] at refused
  obtain ⟨cause, refused⟩ := Option.isSome_iff_exists.mp refused
  simp only [p, collectSlides_of_unmatched current finished refused]
  exact ⟨rfl, _, rfl⟩

/-- A job that has finished, under a configuration with that stem. -/
def rehearsedStem (stem : String) : Converter where
  config := { pipeline := { slideStem := stem } }
  job := some
    { handle := ⟨1⟩, source := .ofString "talk.pdf", workDir := .ofString "work",
      state := .finished, running := none, intermediate := none, skippedIntermediate := true,
      stages := [] }

/-- A stem of 140000 letters: the slides cannot be told, although the directory can be listed. -/
theorem long_stem_not_collected :
    let c := rehearsedStem (String.ofList (List.replicate 140000 'k'))
    let r := Rehearsal.obliging [Utf8.encode "slide-0.jpg"] ⟨0⟩
    let p := (c.collectSlides ⟨1⟩).perform r ()
    p.events = [] ∧ (∃ error, p.value = .error error) ∧
      ¬ ∃ cause, (r.answer (.listDir (.ofString "work")) ()).1 = .error cause := by
  have large : PatternCompiler.sizeLimit <
      PatternCompiler.size (String.ofList (List.replicate 140000 'k')) :=
    lt_of_lt_of_eq (by decide) (PatternCompiler.size_replicate 'k' 140000).symm
  obtain ⟨silent, failed⟩ := collectSlides_of_large_stem
    (c := rehearsedStem (String.ofList (List.replicate 140000 'k'))) rfl rfl rfl large
  refine ⟨silent, failed, ?_⟩
  rintro ⟨cause, unlisted⟩
  cases unlisted

end Converter

end SlideConverter
