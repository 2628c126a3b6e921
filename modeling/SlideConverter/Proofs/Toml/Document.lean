import SlideConverter.Proofs.Toml.Quotation
import SlideConverter.Proofs.Toml.Scalar
import SlideConverter.Toml.Reader

/-!
# Documents that are read back

A value is read back from its text, a line adds one field to the table of its header, and a
section adds one table to the document.
-/

namespace SlideConverter.Toml

variable {s s' s'' : State} {t : Tree} {text : List Char} {tokens : List Token}

/-! ## Values -/

theorem takeAll_append (s : State) (tokens more : List Token) :
    takeAll s (tokens ++ more) = (takeAll s tokens).bind (takeAll · more) := by
  induction tokens generalizing s with
  | nil => rfl
  | cons token tokens ih => simp [takeAll, ih, Option.bind_assoc]

/-- With nothing open, at `position`. -/
def State.at (s : State) (position : Position) : State := { s with position, stack := [] }

/-- In a list that is all that is open, with `items` in reverse. -/
def State.inList (s : State) (position : Position) (items : List Tree) : State :=
  { s with position, stack := [.list items] }

/-- The key has its value, and the next line begins. -/
def finish (s : State) (t : Tree) : Option State :=
  (within (insert t false .header s.key) s.current s.root).map fun root =>
    { s with position := .start, root, key := [], stack := [] }

theorem finish_eq {root : Entries}
    (inside : within (insert t false .header s.key) s.current s.root = some root) :
    finish s t = some { s with position := .start, root, key := [], stack := [] } := by
  rw [finish, inside, Option.map_some]

/-- What comes behind a value has only to end its line. -/
theorem put_bind {k : State → Option State} (s : State) (position : Position) (t : Tree)
    (ends : ∀ root, k { s with position := .lineEnd, root, key := [], stack := [] } =
      some { s with position := .start, root, key := [], stack := [] }) :
    (put (s.at position) t).bind k = finish s t := by
  show Option.bind (Option.map _ (within (insert t false .header s.key) s.current s.root)) _ = _
  rw [finish]
  cases within (insert t false .header s.key) s.current s.root with
  | none => rfl
  | some root => exact ends root

/-- At the end of a line `text` is read as the value `t`. -/
def Writes (text : List Char) (t : Tree) : Prop :=
  ∃ tokens, Gives text tokens ∧
    ∀ s : State, takeAll (s.at .value) (tokens ++ [.newline]) = finish s t

theorem writes_string (x : String) : Writes (string x) (.string x) :=
  ⟨_, gives_string x, fun s => put_bind s .value (.string x) fun _ => rfl⟩

theorem writes_scalar (gives : Gives text [.word text]) (known : scalar? text = some t) :
    Writes text t := by
  refine ⟨_, gives, ?_⟩
  intro s
  have ended : endScalar (s.at (.scalar text)) text .newline = finish s t := by
    rw [endScalar, known, Option.bind_some]
    exact put_bind s (.scalar text) t fun _ => rfl
  show (endScalar (s.at (.scalar text)) text .newline).bind some = _
  rw [ended, Option.bind_fun_some]

theorem writes_bool (b : Bool) : Writes (bool b) (.bool b) :=
  writes_scalar (gives_bool b) (scalar?_bool b)

theorem writes_number (n : UInt64) : Writes (number n) (.ofUInt64 n) :=
  writes_scalar (gives_number n) (scalar?_number n)

/-! ## Lists -/

theorem commaSeparated_cons (item : List Char) (items : List (List Char)) :
    commaSeparated (item :: items) = item ++ items.flatMap fun i => ',' :: ' ' :: i := by
  induction items generalizing item with
  | nil => simp [commaSeparated]
  | cons next items ih => simp [commaSeparated, ih]

/-- An item behind another one. -/
def nextItem (x : String) : List Token := [.comma, .blank [' '], printedToken x]

theorem scans_nextItems (items : List String) {rest : List Char} {more : List Token} {last : Mode}
    (scanned : Scans .between (']' :: rest) more last) :
    ∃ c behind, (items.flatMap fun x => ',' :: ' ' :: string x) ++ ']' :: rest = c :: behind ∧
      Closes c ∧ Scans .between (c :: behind) (items.flatMap nextItem ++ more) last := by
  induction items with
  | nil => exact ⟨']', rest, rfl, by simp [Closes], scanned⟩
  | cons x items ih =>
    obtain ⟨c, behind, same, closes, others⟩ := ih
    refine ⟨',', ' ' :: (string x ++ c :: behind), ?_, by simp [Closes], ?_⟩
    · rw [List.flatMap_cons, List.append_assoc, same]
      rfl
    · exact .speak rfl ((gives_string x).blank closes others)

def itemTokens : List String → List Token
  | [] => []
  | x :: items => printedToken x :: items.flatMap nextItem

theorem gives_strings (items : List String) :
    Gives (strings items) (.openBracket :: (itemTokens items ++ [.closeBracket])) where
  shown := by
    rintro c ⟨⟩
    rfl
  scans {c rest more last} closes scanned := by
    have closing : Scans .between (']' :: c :: rest) (.closeBracket :: more) last :=
      .speak rfl scanned
    have whole : strings items ++ c :: rest =
        '[' :: (commaSeparated (items.map string) ++ ']' :: c :: rest) := by simp [strings]
    have said : .openBracket :: (itemTokens items ++ [.closeBracket]) ++ more =
        .openBracket :: (itemTokens items ++ .closeBracket :: more) := by simp
    rw [whole, said]
    refine .speak rfl ?_
    cases items with
    | nil => exact closing
    | cons x items =>
      obtain ⟨d, behind, same, follows, others⟩ := scans_nextItems items closing
      rw [List.map_cons, commaSeparated_cons, List.flatMap_map, List.append_assoc, same]
      exact (gives_string x).scans follows others

theorem takeAll_nextItems (s : State) (items : List String) (before : List Tree) :
    takeAll (s.inList .afterItem before) (items.flatMap nextItem) =
      some (s.inList .afterItem ((items.map .string).reverse ++ before)) := by
  induction items generalizing before with
  | nil => rfl
  | cons x items ih =>
    rw [List.flatMap_cons, takeAll_append, List.map_cons, List.reverse_cons, List.append_assoc]
    exact ih (.string x :: before)

theorem writes_strings (items : List String) :
    Writes (strings items) (.list (items.map .string)) := by
  refine ⟨_, gives_strings items, ?_⟩
  intro s
  show takeAll (s.inList .item []) (itemTokens items ++ [.closeBracket] ++ [.newline]) = _
  cases items with
  | nil => exact put_bind s .item (.list []) fun _ => rfl
  | cons x items =>
    show takeAll (s.inList .afterItem [.string x]) (items.flatMap nextItem ++ [.closeBracket] ++
      [.newline]) = _
    have whole : ((items.map Tree.string).reverse ++ [Tree.string x]).reverse =
        (x :: items).map Tree.string := by simp
    rw [List.append_assoc, takeAll_append, takeAll_nextItems, Option.bind_some, ← whole]
    exact put_bind (k := (takeAll · [.newline])) s .afterItem _ fun _ => rfl

/-! ## Entries -/

variable {key name : String} {node : Node} {entries root : Entries}

theorem lookup_fresh (fresh : ∀ e ∈ entries, e.1 ≠ key) : entries.lookup key = none := by
  rw [List.lookup_eq_none_iff]
  intro e there
  simpa using (fresh e there).symm

theorem lookup_last (fresh : ∀ e ∈ entries, e.1 ≠ key) :
    (entries ++ [(key, node)]).lookup key = some node := by
  rw [List.lookup_append, lookup_fresh fresh, List.lookup_cons_self]
  rfl

theorem putEntry_fresh (fresh : ∀ e ∈ entries, e.1 ≠ key) :
    putEntry key node entries = entries ++ [(key, node)] := by
  induction entries with
  | nil => rfl
  | cons e entries ih =>
    obtain ⟨first, others⟩ := List.forall_mem_cons.mp fresh
    rw [putEntry, if_neg first, ih others, List.cons_append]

theorem putEntry_last {old : Node} (fresh : ∀ e ∈ entries, e.1 ≠ key) :
    putEntry key node (entries ++ [(key, old)]) = entries ++ [(key, node)] := by
  induction entries with
  | nil => simp [putEntry]
  | cons e entries ih =>
    obtain ⟨first, others⟩ := List.forall_mem_cons.mp fresh
    rw [List.cons_append, putEntry, if_neg first, ih others, List.cons_append]

theorem entryTrees_eq_map (entries : Entries) :
    entryTrees entries = entries.map fun e => (some e.1, e.2.tree) := by
  induction entries with
  | nil => rfl
  | cons e entries ih => rw [entryTrees, ih, List.map_cons]

/-! ## Lines -/

/-- `text` is whole lines and takes the reader from one state to the other. -/
def Reads (text : List Char) (s s' : State) : Prop :=
  ∃ tokens, Scans .between text tokens .between ∧ takeAll s tokens = some s'

namespace Reads

theorem nil : Reads [] s s := ⟨[], .nil, rfl⟩

theorem append {rest : List Char} (first : Reads text s s') (second : Reads rest s' s'') :
    Reads (text ++ rest) s s'' := by
  obtain ⟨tokens, scanned, taken⟩ := first
  obtain ⟨more, scanned', taken'⟩ := second
  refine ⟨tokens ++ more, scanned.append scanned', ?_⟩
  rw [takeAll_append, taken, Option.bind_some, taken']

end Reads

/-- At the beginning of a line; statements go to the table `current`. -/
def lineStart (root : Entries) (current : List String) : State :=
  { position := .start, root, current, key := [], stack := [] }

theorem reads_newline (root : Entries) (current : List String) :
    Reads ['\n'] (lineStart root current) (lineStart root current) :=
  ⟨[.newline], .speak rfl .nil, rfl⟩

/-- A key that needs no quotation marks. -/
def IsBare (key : String) : Prop := key.toList ≠ [] ∧ key.toList.all isKeyChar = true

instance (key : String) : Decidable (IsBare key) := inferInstanceAs (Decidable (_ ∧ _))

theorem IsBare.endsWord (bare : IsBare key) : ∀ c ∈ key.toList, endsWord c = false :=
  fun c there => endsWord_eq_false (p := isKeyChar) (by decide) (List.all_eq_true.mp bare.2 c there)

theorem IsBare.keyOf? (bare : IsBare key) : keyOf? (.word key.toList) = some key := by
  rw [Toml.keyOf?, if_pos bare.2, String.ofList_toList]

theorem reads_header (bare : IsBare name) (fresh : ∀ e ∈ root, e.1 ≠ name)
    (current : List String) :
    Reads ('[' :: name.toList ++ [']', '\n']) (lineStart root current)
      (lineStart (root ++ [(name, .table .header [])]) [name]) := by
  have closing : Scans .between [']', '\n'] [.closeBracket, .newline] .between :=
    .speak rfl (.speak rfl .nil)
  have opened : openTable name root = some (root ++ [(name, .table .header [])]) := by
    rw [openTable, lookup_fresh fresh]
    exact congrArg some (putEntry_fresh fresh)
  refine ⟨_, .speak rfl (.word bare.1 bare.endsWord rfl closing), ?_⟩
  show ((Toml.keyOf? (.word name.toList)).map fun k =>
    { lineStart root current with position := .afterKeyPart .tableHeader [k] }).bind
      (takeAll · [.closeBracket, .newline]) = _
  rw [bare.keyOf?]
  show (Option.map _ (openTable name root)).bind (takeAll · [.newline]) = _
  rw [opened]
  rfl

theorem scans_fieldLine {text : List Char} (bare : IsBare key) (gives : Gives text tokens) :
    Scans .between (fieldLine (key, text))
      (.word key.toList :: .blank [' '] :: .equals :: .blank [' '] :: (tokens ++ [.newline]))
      .between := by
  have ending : Scans .between ['\n'] [.newline] .between := .speak rfl .nil
  have value := gives.blank (c := '\n') (by simp [Closes]) ending
  have equals : Scans .between (' ' :: '=' :: ' ' :: (text ++ ['\n']))
      (.blank [' '] :: .equals :: .blank [' '] :: (tokens ++ [.newline])) .between := by
    refine .blank (by simp) ?_ (.speak rfl value)
    rintro c ⟨⟩
    rfl
  have whole : fieldLine (key, text) = key.toList ++ ' ' :: '=' :: ' ' :: (text ++ ['\n']) := by
    simp [fieldLine]
  rw [whole]
  exact .word bare.1 bare.endsWord rfl equals

/-- A new key of the last table gets its value. -/
theorem within_last {before : Entries} (fresh : ∀ e ∈ before, e.1 ≠ name)
    (absent : ∀ e ∈ entries, e.1 ≠ key) (t : Tree) :
    within (insert t false .header [key]) [name] (before ++ [(name, .table .header entries)]) =
      some (before ++ [(name, .table .header (entries ++ [(key, .value t)]))]) := by
  have assigned : insert t false .header [key] entries = some (entries ++ [(key, .value t)]) := by
    rw [insert, assign, if_neg (by decide), lookup_fresh absent]
    exact congrArg some (putEntry_fresh absent)
  rw [within, lookup_last fresh]
  dsimp only
  rw [within, assigned, Option.map_some, putEntry_last fresh]

/-- A line adds a field to the last table. -/
theorem reads_field {before : Entries} {text : List Char} (bare : IsBare key)
    (writes : Writes text t) (fresh : ∀ e ∈ before, e.1 ≠ name)
    (absent : ∀ e ∈ entries, e.1 ≠ key) :
    Reads (fieldLine (key, text)) (lineStart (before ++ [(name, .table .header entries)]) [name])
      (lineStart (before ++ [(name, .table .header (entries ++ [(key, .value t)]))]) [name]) := by
  obtain ⟨tokens, gives, taken⟩ := writes
  let s : State :=
    { lineStart (before ++ [(name, .table .header entries)]) [name] with key := [key] }
  have finished : finish s t =
      some (lineStart (before ++ [(name, .table .header (entries ++ [(key, .value t)]))]) [name]) :=
    finish_eq (s := s) (within_last fresh absent t)
  refine ⟨_, scans_fieldLine bare gives, ?_⟩
  show ((Toml.keyOf? (.word key.toList)).map fun k =>
    { lineStart (before ++ [(name, .table .header entries)]) [name] with
      position := .afterKeyPart .statement [k] }).bind
      (takeAll · (.blank [' '] :: .equals :: .blank [' '] :: (tokens ++ [.newline]))) = _
  rw [bare.keyOf?]
  show takeAll (s.at .value) (tokens ++ [.newline]) = _
  rw [taken, finished]

/-! ## Sections -/

/-- A field and its text. -/
def FieldWrites (field : String × List Char) (entry : String × Tree) : Prop :=
  field.1 = entry.1 ∧ IsBare field.1 ∧ Writes field.2 entry.2

def valueEntries (fields : List (String × Tree)) : Entries :=
  fields.map fun (key, t) => (key, .value t)

theorem entryTrees_valueEntries (fields : List (String × Tree)) :
    entryTrees (valueEntries fields) = fields.map fun (key, t) => (some key, t) := by
  rw [entryTrees_eq_map, valueEntries, List.map_map]
  rfl

theorem reads_fields {before : Entries} {lines : List (String × List Char)}
    {fields : List (String × Tree)} (done : List (String × Tree))
    (writes : List.Forall₂ FieldWrites lines fields)
    (distinct : ((done ++ fields).map Prod.fst).Nodup) (fresh : ∀ e ∈ before, e.1 ≠ name) :
    Reads (lines.flatMap fieldLine)
      (lineStart (before ++ [(name, .table .header (valueEntries done))]) [name])
      (lineStart (before ++ [(name, .table .header (valueEntries (done ++ fields)))]) [name]) := by
  induction writes generalizing done with
  | nil =>
    rw [List.append_nil]
    exact .nil
  | @cons line field lines fields first others ih =>
    obtain ⟨key, text⟩ := line
    obtain ⟨key', t⟩ := field
    obtain ⟨same, bare, writes⟩ := first
    obtain rfl : key = key' := same
    have absent : ∀ e ∈ valueEntries done, e.1 ≠ key := by
      rw [List.map_append, List.nodup_append] at distinct
      intro e there
      obtain ⟨d, old, rfl⟩ := List.mem_map.mp there
      exact distinct.2.2 _ (List.mem_map_of_mem old) _ List.mem_cons_self
    have rest := ih (done ++ [(key, t)]) (by rwa [List.append_assoc])
    rw [List.append_assoc, valueEntries, List.map_append] at rest
    exact (reads_field bare writes fresh absent).append rest

/-- The text of the section is that of the table, field by field. -/
structure Section.Holds (s : Section) (fields : List (String × Tree)) : Prop where
  bare : IsBare s.name
  writes : List.Forall₂ FieldWrites s.fields fields
  distinct : (fields.map Prod.fst).Nodup

theorem reads_section {sec : Section} {fields : List (String × Tree)} (holds : sec.Holds fields)
    (fresh : ∀ e ∈ root, e.1 ≠ sec.name) (current : List String) :
    Reads sec.text (lineStart root current)
      (lineStart (root ++ [(sec.name, .table .header (valueEntries fields))]) [sec.name]) := by
  have opening := reads_header holds.bare fresh current
  have lines := reads_fields [] holds.writes holds.distinct fresh
  have whole : sec.text =
      ('[' :: sec.name.toList ++ [']', '\n']) ++ sec.fields.flatMap fieldLine := by
    simp [Section.text]
  rw [whole]
  exact opening.append lines

/-! ## Documents -/

/-- The section is the table, by its name and by its text. -/
def Section.Writes (s : Section) (entry : String × Tree) : Prop :=
  s.name = entry.1 ∧ ∃ fields, entry.2 = .record fields ∧ s.Holds fields

/-- Sections, each with a number of blank lines behind it. -/
def spaced (sections : List (Section × Nat)) : List Char :=
  sections.flatMap fun (s, blankLines) => s.text ++ List.replicate blankLines '\n'

theorem reads_newlines (root : Entries) (current : List String) (n : Nat) :
    Reads (List.replicate n '\n') (lineStart root current) (lineStart root current) := by
  induction n with
  | zero => exact .nil
  | succ n ih => exact (reads_newline root current).append ih

theorem reads_spaced {sections : List (Section × Nat)} {tables : List (String × Tree)}
    (writes : List.Forall₂ (fun s table => s.1.Writes table) sections tables)
    (root : Entries) (distinct : (root.map Prod.fst ++ tables.map Prod.fst).Nodup)
    (current : List String) : ∃ more last,
      entryTrees more = tables.map (fun table => (some table.1, table.2)) ∧
      Reads (spaced sections) (lineStart root current) (lineStart (root ++ more) last) := by
  induction writes generalizing root current with
  | nil =>
    refine ⟨[], current, rfl, ?_⟩
    rw [List.append_nil]
    exact .nil
  | @cons first entry sections tables written others ih =>
    obtain ⟨sec, blankLines⟩ := first
    obtain ⟨name, t⟩ := entry
    obtain ⟨named, fields, same, holds⟩ := written
    obtain rfl : sec.name = name := named
    obtain rfl : t = .record fields := same
    let node : Node := .table .header (valueEntries fields)
    have fresh : ∀ e ∈ root, e.1 ≠ sec.name := by
      rw [List.nodup_append] at distinct
      intro e there
      exact distinct.2.2 _ (List.mem_map_of_mem there) _ List.mem_cons_self
    obtain ⟨more, last, trees, rest⟩ := ih (root ++ [(sec.name, node)])
      (by simpa using distinct) [sec.name]
    refine ⟨(sec.name, node) :: more, last, ?_, ?_⟩
    · rw [entryTrees, trees, List.map_cons]
      show (some sec.name, Tree.table (entryTrees (valueEntries fields))) :: _ = _
      rw [entryTrees_valueEntries]
      rfl
    · have lines := (reads_section holds fresh current).append (reads_newlines _ _ blankLines)
      have text := lines.append rest
      rw [List.append_assoc root] at text
      exact text

theorem parse?_of_reads {text : List Char} {last : List String}
    (unmarked : text.head? ≠ some '\uFEFF') (reads : Reads text initial (lineStart root last)) :
    parse? (String.ofList text) = some (.table (entryTrees root)) := by
  obtain ⟨tokens, scanned, taken⟩ := reads
  have whole : tokens? text = some tokens := by
    unfold tokens?
    split
    · exact absurd rfl unmarked
    · rw [scanned.scan_eq, Toml.conclude, Option.map_some, List.append_nil]
  have read : takeAll initial (tokens ++ [.newline]) = some (lineStart root last) := by
    rw [takeAll_append, taken]
    rfl
  rw [parse?, String.toList_ofList, whole, Option.bind_some, ofTokens?, read]
  rfl

/-- Sections are read back as the tables they are, whatever their order and however many lines are
left blank between them. -/
theorem parse?_spaced {sections : List (Section × Nat)} {tables : List (String × Tree)}
    (writes : List.Forall₂ (fun s table => s.1.Writes table) sections tables)
    (distinct : (tables.map Prod.fst).Nodup) :
    parse? (String.ofList (spaced sections)) = some (.record tables) := by
  obtain ⟨root, last, trees, reads⟩ := reads_spaced writes [] distinct []
  have unmarked : (spaced sections).head? ≠ some '\uFEFF' := by
    cases sections with
    | nil => simp [spaced]
    | cons first sections => simp [spaced, Section.text]
  rw [parse?_of_reads unmarked reads, List.nil_append, trees]
  rfl

end SlideConverter.Toml
