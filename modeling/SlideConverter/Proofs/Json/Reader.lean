import SlideConverter.Json.Reader
import SlideConverter.Proofs.Json.Number
import SlideConverter.Proofs.Json.Token

/-!
# JSON text that is read back

The text of a tree is read as the tree: each value is put where it belongs, whatever containers
are open around it. The induction is on the tree; a list and a table go item by item.
-/

namespace SlideConverter

/-- A tree whose strings are text and whose numbers are written as JSON writes them. -/
inductive Tree.Writable : Tree → Prop
  | null : Writable .null
  | bool (b : Bool) : Writable (.bool b)
  | integer (n : Int) : Writable (.integer n)
  | other (written : String)
      (number : Json.word? written.toList = some (.other written)) : Writable (.other written)
  | string (s : String) : Writable (.string s)
  | list (items : List Tree) (all : ∀ t ∈ items, Writable t) : Writable (.list items)
  | record (entries : List (String × Tree)) (all : ∀ e ∈ entries, Writable e.2) :
    Writable (.record entries)

theorem Tree.writable_option {α : Type} {write : α → Tree} (writes : ∀ a, (write a).Writable)
    (value : Option α) : (option write value).Writable := by
  cases value with
  | none => exact .null
  | some a => exact writes a

theorem Tree.writable_list_map {α : Type} {write : α → Tree} {values : List α}
    (writes : ∀ a ∈ values, (write a).Writable) : (Tree.list (values.map write)).Writable := by
  apply Writable.list
  rintro _ there
  obtain ⟨a, listed, rfl⟩ := List.mem_map.mp there
  exact writes a listed

namespace Json

variable {text : List Char} {texts : List (List Char)} {t : Tree} {items : List Tree}
  {entries : List (String × Tree)} {w gap : List Char} {tokens : List Token}
  {layout : Layout} {level : Nat}

theorem takeAll_append (s : State) (tokens more : List Token) :
    takeAll s (tokens ++ more) = (takeAll s tokens).bind (takeAll · more) := by
  induction tokens generalizing s with
  | nil => rfl
  | cons token tokens ih => simp [takeAll, ih, Option.bind_assoc]

/-- Where a value has to come, `text` is read as the value `t`. -/
def Reads (text : List Char) (t : Tree) : Prop :=
  ∃ tokens, Gives text tokens ∧
    ∀ orEnd stack, takeAll ⟨.value orEnd, stack⟩ tokens = some (put t stack)

/-- Where a field has to come, `text` is read as the field `e`. -/
def ReadsField (text : List Char) (e : String × Tree) : Prop :=
  ∃ tokens, Gives text tokens ∧ ∀ fields orEnd stack,
    takeAll ⟨.key fields orEnd, stack⟩ tokens =
      some ⟨.afterValue, .table ((some e.1, e.2) :: fields) (some e.1) :: stack⟩

/-! ## Single values -/

theorem reads_word (nonempty : w ≠ []) (inside : w.all isWordChar = true)
    (known : word? w = some t) : Reads w t := by
  refine ⟨_, gives_word nonempty (List.all_eq_true.mp inside), ?_⟩
  intro orEnd stack
  simp [takeAll, take, known]

theorem reads_bool (b : Bool) : Reads (toString b).toList (.bool b) := by
  cases b
  all_goals exact reads_word (by decide) rfl rfl

theorem reads_integer (n : Int) : Reads (toString n).toList (.integer n) := by
  apply reads_word
  · intro nothing
    have known := word?_toString n
    rw [nothing] at known
    cases known
  · exact List.all_eq_true.mpr fun _ there => isWordChar_of_mem_toString there
  · exact word?_toString n

theorem reads_string (s : String) : Reads (quote s) (.string s) :=
  ⟨_, (spells_quote s).gives, fun _ _ => rfl⟩

/-! ## Containers -/

theorem gives_nil : Gives [] [] := (Spells.nil .between).gives

/-- A mark in front of what is cut into tokens. -/
theorem Gives.behind {mark : Char} {token : Token}
    (spoken : advance .between mark = some ([token], .between)) (gives : Gives text tokens) :
    Gives (mark :: text) (token :: tokens) := by
  intro rest closes
  rw [List.cons_append, scan, spoken]
  simp [gives rest closes, Function.comp_def]

/-- A mark with more behind it is where a word ends. -/
theorem Gives.then {mark : Char} {token : Token} {rest : List Char} {more : List Token}
    (first : Gives text tokens) (ends : isWordChar mark = false)
    (spoken : advance .between mark = some ([token], .between)) (second : Gives rest more) :
    Gives (text ++ mark :: rest) (tokens ++ token :: more) := by
  intro behind closes
  have closed : Closes (mark :: rest ++ behind) := by
    rintro c ⟨⟩
    exact ends
  rw [List.append_assoc, first _ closed, second.behind spoken behind closes]
  simp [Function.comp_def]

/-- The items of a list, where the first one has to come. -/
theorem reads_items (blank : IsGap gap) (each : List.Forall₂ Reads texts items)
    (nonempty : items ≠ []) :
    ∃ tokens, Gives (separate (',' :: gap) texts) tokens ∧ ∀ orEnd before stack,
      takeAll ⟨.value orEnd, .list before :: stack⟩ tokens =
        some ⟨.afterValue, .list (items.reverse ++ before) :: stack⟩ := by
  induction each with
  | nil => exact absurd rfl nonempty
  | @cons text t texts items first others ih =>
    obtain ⟨tokens, gives, read⟩ := first
    cases others with
    | nil => exact ⟨tokens, gives, fun orEnd before stack => read orEnd (.list before :: stack)⟩
    | cons second others =>
      obtain ⟨more, given, reads⟩ := ih (by simp)
      refine ⟨tokens ++ .comma :: more, ?_, ?_⟩
      · rw [separate, List.append_assoc]
        exact gives.then rfl rfl (given.behindGap blank)
        simp
      · intro orEnd before stack
        rw [takeAll_append, read]
        simp [takeAll, take, put, reads]

/-- The fields of a table, where the first one has to come. -/
theorem reads_fields (blank : IsGap gap) (each : List.Forall₂ ReadsField texts entries)
    (nonempty : entries ≠ []) :
    ∃ tokens, Gives (separate (',' :: gap) texts) tokens ∧ ∀ before orEnd stack, ∃ key,
      takeAll ⟨.key before orEnd, stack⟩ tokens = some ⟨.afterValue,
        .table ((entries.map fun (key, value) => (some key, value)).reverse ++ before) key ::
          stack⟩ := by
  induction each with
  | nil => exact absurd rfl nonempty
  | @cons text e texts entries first others ih =>
    obtain ⟨tokens, gives, read⟩ := first
    cases others with
    | nil => exact ⟨tokens, gives, fun before orEnd stack => ⟨_, read before orEnd stack⟩⟩
    | cons second others =>
      obtain ⟨more, given, reads⟩ := ih (by simp)
      refine ⟨tokens ++ .comma :: more, ?_, ?_⟩
      · rw [separate, List.append_assoc]
        exact gives.then rfl rfl (given.behindGap blank)
        simp
      · intro before orEnd stack
        obtain ⟨key, later⟩ := reads ((some e.1, e.2) :: before) false stack
        refine ⟨key, ?_⟩
        rw [takeAll_append, read]
        simp [takeAll, take, later]

theorem Layout.block_of_forall₂ {α : Type} {R : List Char → α → Prop} {items : List α}
    {opening closing : Char} (each : List.Forall₂ R texts items) (nonempty : items ≠ []) :
    layout.block level opening closing texts = opening :: (layout.newline (level + 1) ++
      separate (',' :: layout.newline (level + 1)) texts ++ layout.newline level) ++ [closing] := by
  cases each with
  | nil => exact absurd rfl nonempty
  | cons => rfl

theorem reads_list (blank : layout.Blank) (each : List.Forall₂ Reads texts items) :
    Reads (layout.block level '[' ']' texts) (.list items) := by
  by_cases nonempty : items = []
  · subst nonempty
    cases each
    exact ⟨_, .behind rfl (.behind rfl gives_nil), fun _ _ => rfl⟩
  · obtain ⟨tokens, gives, read⟩ := reads_items (blank.newline (level + 1)) each nonempty
    have inside := (gives.behindGap (blank.newline (level + 1))).beforeGap (blank.newline level)
    rw [Layout.block_of_forall₂ each nonempty]
    refine ⟨_, .behind rfl (inside.then rfl rfl gives_nil), ?_⟩
    intro orEnd stack
    simp [takeAll, take, takeAll_append, read]

theorem reads_record (blank : layout.Blank) (each : List.Forall₂ ReadsField texts entries) :
    Reads (layout.block level '\x7b' '\x7d' texts) (.record entries) := by
  by_cases nonempty : entries = []
  · subst nonempty
    cases each
    exact ⟨_, .behind rfl (.behind rfl gives_nil), fun _ _ => rfl⟩
  · obtain ⟨tokens, gives, read⟩ := reads_fields (blank.newline (level + 1)) each nonempty
    have inside := (gives.behindGap (blank.newline (level + 1))).beforeGap (blank.newline level)
    rw [Layout.block_of_forall₂ each nonempty]
    refine ⟨_, .behind rfl (inside.then rfl rfl gives_nil), ?_⟩
    intro orEnd stack
    obtain ⟨key, read⟩ := read [] true stack
    simp [takeAll, take, takeAll_append, read, Tree.record]

theorem readsField_of_reads (key : String) (blank : IsGap gap) (reads : Reads text t) :
    ReadsField (quote key ++ ':' :: (gap ++ text)) (key, t) := by
  obtain ⟨tokens, gives, read⟩ := reads
  refine ⟨_, (spells_quote key).gives.then rfl rfl (gives.behindGap blank), ?_⟩
  intro fields orEnd stack
  simp [takeAll, take, read, put]

/-! ## Trees -/

theorem exists_texts_of_items
    (all : ∀ t ∈ items, ∃ text, layout.write? level t = some text ∧ Reads text t) :
    ∃ texts, layout.writeItems? level items = some texts ∧ List.Forall₂ Reads texts items := by
  induction items with
  | nil => exact ⟨[], rfl, .nil⟩
  | cons t items ih =>
    obtain ⟨first, others⟩ := List.forall_mem_cons.mp all
    obtain ⟨text, written, reads⟩ := first
    obtain ⟨texts, written', reads'⟩ := ih others
    exact ⟨text :: texts, by simp [Layout.writeItems?, written, written'], .cons reads reads'⟩

theorem exists_texts_of_fields (blank : layout.Blank)
    (all : ∀ e ∈ entries, ∃ text, layout.write? level e.2 = some text ∧ Reads text e.2) :
    ∃ texts, layout.writeFields? level (entries.map fun (key, value) => (some key, value)) =
        some texts ∧ List.Forall₂ ReadsField texts entries := by
  induction entries with
  | nil => exact ⟨[], rfl, .nil⟩
  | cons e entries ih =>
    obtain ⟨first, others⟩ := List.forall_mem_cons.mp all
    obtain ⟨text, written, reads⟩ := first
    obtain ⟨texts, written', reads'⟩ := ih others
    refine ⟨(quote e.1 ++ ':' :: (layout.afterColon ++ text)) :: texts, ?_,
      .cons (readsField_of_reads e.1 blank.afterColon reads) reads'⟩
    simp [Layout.writeFields?, quote?, written, written']

/-- A writable tree has a text, and the text is read as the tree. -/
theorem exists_text_of_writable (blank : layout.Blank) (writable : t.Writable) (level : Nat) :
    ∃ text, layout.write? level t = some text ∧ Reads text t := by
  induction writable generalizing level with
  | null => exact ⟨_, rfl, reads_word (by decide) rfl rfl⟩
  | bool b => exact ⟨_, rfl, reads_bool b⟩
  | integer n => exact ⟨_, rfl, reads_integer n⟩
  | other written number =>
    refine ⟨_, rfl, reads_word ?_ ?_ number⟩
    · intro nothing
      rw [nothing] at number
      cases number
    · exact all_number? (number?_of_word? number)
  | string s => exact ⟨_, rfl, reads_string s⟩
  | list items all ih =>
    obtain ⟨texts, written, each⟩ := exists_texts_of_items fun t there => ih t there (level + 1)
    refine ⟨layout.block level '[' ']' texts, ?_, reads_list blank each⟩
    rw [Layout.write?, written]
    rfl
  | record entries all ih =>
    obtain ⟨texts, written, each⟩ :=
      exists_texts_of_fields blank fun e there => ih e there (level + 1)
    refine ⟨layout.block level '\x7b' '\x7d' texts, ?_, reads_record blank each⟩
    rw [Tree.record, Layout.write?, written]
    rfl

/-- The text of a writable tree is read as the tree, with blanks behind it or without. -/
theorem Layout.Blank.parse?_write? (blank : layout.Blank) (writable : t.Writable) :
    ∃ text, layout.write? 0 t = some text ∧
      ∀ gap, IsGap gap → parse? (String.ofList (text ++ gap)) = some t := by
  obtain ⟨text, written, tokens, gives, read⟩ := exists_text_of_writable blank writable 0
  refine ⟨text, written, fun gap behind => ?_⟩
  have scanned : scan .between (text ++ gap) = some tokens := by
    simpa [scan] using gives.beforeGap behind [] (by simp [Closes])
  rw [parse?, String.toList_ofList, tokens?, scanned, Option.bind_some, ofTokens?, read]
  rfl

theorem parse?_print? (writable : t.Writable) :
    ∃ text, print? t = some text ∧ parse? text = some t := by
  obtain ⟨text, written, parsed⟩ := Layout.blank_compact.parse?_write? writable
  refine ⟨String.ofList text, by rw [print?, written]; rfl, ?_⟩
  simpa using parsed [] (by simp [IsGap])

/-- Over several lines, the last of which is ended as well. -/
theorem parse?_printPretty? (writable : t.Writable) :
    ∃ text, printPretty? t = some text ∧ parse? (text ++ "\n") = some t := by
  obtain ⟨text, written, parsed⟩ := Layout.blank_pretty.parse?_write? writable
  refine ⟨String.ofList text, by rw [printPretty?, written]; rfl, ?_⟩
  have ended := parsed ['\n'] (by simp [IsGap, enter])
  rwa [String.ofList_append] at ended

end Json

end SlideConverter
