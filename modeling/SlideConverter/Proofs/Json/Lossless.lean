import SlideConverter.Proofs.Config.Form
import SlideConverter.Proofs.Conversion.Form
import SlideConverter.Proofs.Json.Reader
import SlideConverter.Proofs.Slide.Form

/-!
# JSON without loss

Every value is read back from its JSON text, and from the text of any of its forms: the fields of
a record may stand in any order and among unknown ones, and those that are null may be left out.
-/

namespace SlideConverter.Json

variable {α : Type} {tree : α → Tree} {ofTree? : Tree → Option α} {Form : α → Tree → Prop} {a : α}

/-- The value that a text spells. -/
def decode? (ofTree? : Tree → Option α) (text : String) : Option α := (parse? text).bind ofTree?

/-- A value is read back wherever it is written in one of its forms. -/
structure Lossless (tree : α → Tree) (ofTree? : Tree → Option α) (Form : α → Tree → Prop) (a : α) :
    Prop where
  own : Form a (tree a)
  printed : ∃ text, print? (tree a) = some text ∧ decode? ofTree? text = some a
  /-- Every form that has a text at all, whatever unknown fields are in it. -/
  forms : ∀ t, Form a t → t.Writable → ∃ text, print? t = some text ∧ decode? ofTree? text = some a
  /-- However the text of a form is laid out. -/
  spelled : ∀ t text, Form a t → parse? text = some t → decode? ofTree? text = some a

theorem lossless_of_readBack (back : ReadBack tree ofTree? Form a) :
    Lossless tree ofTree? Form a := by
  have spelled : ∀ t text, Form a t → parse? text = some t → decode? ofTree? text = some a := by
    intro t text form parsed
    rw [decode?, parsed, Option.bind_some, back.reads t form]
  have forms : ∀ t, Form a t → t.Writable →
      ∃ text, print? t = some text ∧ decode? ofTree? text = some a := by
    intro t form writable
    obtain ⟨text, printed, parsed⟩ := parse?_print? writable
    exact ⟨text, printed, spelled t text form parsed⟩
  exact ⟨back.own, forms _ back.own back.writable, forms, spelled⟩

/-- Nothing is lost in JSON, of slides as far as their paths are text and their indices numbers of
64 bits. -/
theorem json_values_read_back :
    (∀ i, Lossless Invocation.tree Invocation.ofTree? Invocation.Form i) ∧
    (∀ e, Lossless ToolExit.tree ToolExit.ofTree? ToolExit.Form e) ∧
    (∀ d, Lossless ToolDiagnosis.tree ToolDiagnosis.ofTree? ToolDiagnosis.Form d) ∧
    (∀ f, Lossless Failure.tree Failure.ofTree? Failure.Form f) ∧
    (∀ s, Lossless JobState.tree JobState.ofTree? JobState.Form s) ∧
    (∀ r, Lossless PollResult.tree PollResult.ofTree? PollResult.Form r) ∧
    (∀ r, Lossless StageReport.tree StageReport.ofTree? StageReport.Form r) ∧
    (∀ r, Lossless JobReport.tree JobReport.ofTree? JobReport.Form r) ∧
    (∀ c, Lossless Config.tree (Config.ofTree? false) Config.Form c) ∧
    (∀ s : Slide, s.IsText → Lossless Slide.tree Slide.ofTree? Slide.Form s) ∧
    (∀ c : SlideCollection, (∀ s ∈ c.slides, s.IsText) →
      Lossless SlideCollection.tree SlideCollection.ofTree? SlideCollection.Form c) := by
  refine ⟨?invocation, ?exit, ?diagnosis, ?failure, ?state, ?result, ?stage, ?job, ?config, ?slide,
    ?slides⟩
  case invocation => exact fun i => lossless_of_readBack i.readBack
  case exit => exact fun e => lossless_of_readBack e.readBack
  case diagnosis => exact fun d => lossless_of_readBack d.readBack
  case failure => exact fun f => lossless_of_readBack f.readBack
  case state => exact fun s => lossless_of_readBack s.readBack
  case result => exact fun r => lossless_of_readBack r.readBack
  case stage => exact fun r => lossless_of_readBack r.readBack
  case job => exact fun r => lossless_of_readBack r.readBack
  case config => exact fun c => lossless_of_readBack (c.readBack false)
  case slide => exact fun s isText => lossless_of_readBack (Slide.readBack isText)
  case slides => exact fun c areText => lossless_of_readBack (SlideCollection.readBack areText)

/-- Slides with their fields the other way round, an unknown field in front. -/
theorem shuffled_slides_read_back :
    let slides : SlideCollection := ⟨[⟨.ofString "work/slide-0.jpg", 1⟩]⟩
    let text := "\x7b\"taken\":[1.5e3,null],\"slides\":[\x7b\"display_index\":1," ++
      "\"image_path\":\"work/slide-0.jpg\"\x7d]\x7d"
    (∀ s ∈ slides.slides, s.IsText) ∧ decode? SlideCollection.ofTree? text = some slides := by
  intro slides text
  have areText : ∀ s ∈ slides.slides, s.IsText := by
    intro s there
    obtain rfl := List.mem_singleton.mp there
    exact ⟨by decide +kernel, by decide⟩
  let slide : Tree :=
    .record [("display_index", .integer 1), ("image_path", .string "work/slide-0.jpg")]
  let taken : Tree := .list [.other "1.5e3", .null]
  have form : slides.Form (.record [("taken", taken), ("slides", .list [slide])]) := by
    have none : ∀ e ∈ ([] : List (String × Tree)), e.1 ∉ Slide.schema.fields.map (·.name) := by simp
    have unknown : ∀ e ∈ [("taken", taken)], e.1 ∉ SlideCollection.schema.fields.map (·.name) := by
      decide
    have first : Slide.Form ⟨.ofString "work/slide-0.jpg", 1⟩ slide :=
      .mk (.there rfl (.there rfl .nil)) none (.swap _ _ [])
    exact .mk (.there (.mk (.cons first .nil)) .nil) unknown (.swap _ _ [])
  have writable : (Tree.record [("taken", taken), ("slides", .list [slide])]).Writable := by
    have fraction : (Tree.other "1.5e3").Writable := .other _ rfl
    have first : slide.Writable :=
      .record _ (by simp [Tree.Writable.integer, Tree.Writable.string])
    have unknown : taken.Writable := .list _ (by simp [fraction, Tree.Writable.null])
    exact .record _ (by simp [unknown, first, Tree.Writable.list])
  have printed : print? (.record [("taken", taken), ("slides", .list [slide])]) = some text := by
    decide +kernel
  obtain ⟨-, -, -, -, -, -, -, -, -, -, lossless⟩ := json_values_read_back
  obtain ⟨text', printed', decoded⟩ := (lossless slides areText).forms _ form writable
  rw [printed] at printed'
  cases printed'
  exact ⟨areText, decoded⟩

end SlideConverter.Json
