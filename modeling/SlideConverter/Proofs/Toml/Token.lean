import SlideConverter.Toml.Token

/-!
# Scanning piece by piece

The tokens of a piece of text, and the mode behind it, depend only on the mode in front of it. So
the tokens of a document are those of its pieces, one after the other.
-/

namespace SlideConverter.Toml

variable {mode next last : Mode} {c : Char} {text rest : List Char} {tokens more : List Token}

theorem enter_of_not_endsWord (inside : endsWord c = false) : enter c = ([], .word [c]) := by
  unfold enter
  split <;> first | rfl | cases inside

/-- From `mode` on, `text` gives `tokens` and leads to the last mode. -/
inductive Scans : Mode → List Char → List Token → Mode → Prop
  | nil {mode : Mode} : Scans mode [] [] mode
  | cons {mode next last : Mode} {c : Char} {text : List Char} {tokens more : List Token}
      (advanced : advance mode c = some (tokens, next)) (rest : Scans next text more last) :
    Scans mode (c :: text) (tokens ++ more) last

namespace Scans

theorem append (first : Scans mode text tokens next) (second : Scans next rest more last) :
    Scans mode (text ++ rest) (tokens ++ more) last := by
  induction first with
  | nil => exact second
  | cons advanced _ ih =>
    rw [List.cons_append, List.append_assoc]
    exact .cons advanced (ih second)

theorem scan_eq (scanned : Scans mode text tokens last) :
    scan mode text = (conclude last).map (tokens ++ ·) := by
  induction scanned with
  | nil => simp [scan]
  | cons advanced _ ih => simp [scan, advanced, ih, Function.comp_def]

/-- A character that gives no token. -/
theorem silent (advanced : advance mode c = some ([], next)) (rest : Scans next text tokens last) :
    Scans mode (c :: text) tokens last :=
  .cons advanced rest

/-- A character that gives one token. -/
theorem speak {token : Token} (advanced : advance mode c = some ([token], next))
    (rest : Scans next text tokens last) : Scans mode (c :: text) (token :: tokens) last :=
  .cons advanced rest

theorem of_nil (scanned : Scans mode [] tokens last) : tokens = [] ∧ last = mode := by
  cases scanned
  exact ⟨rfl, rfl⟩

/-- Where a character ends one token and begins what would have begun there anyway. -/
theorem behind {token : Token} (closes : advance mode c = some (behind token c))
    (scanned : Scans .between (c :: text) tokens last) :
    Scans mode (c :: text) (token :: tokens) last := by
  cases scanned with
  | cons advanced rest =>
    have begins : enter c = _ := Option.some.inj advanced
    rw [Toml.behind, begins] at closes
    exact .cons closes rest

/-- Where a character goes on as it does in another mode. -/
theorem as (same : advance mode c = advance next c) (scanned : Scans next (c :: text) tokens last) :
    Scans mode (c :: text) tokens last := by
  cases scanned with
  | cons advanced rest => exact .cons (same.trans advanced) rest

/-! ## Blanks and words -/

theorem blank (nonempty : text ≠ []) (shown : ∀ c ∈ text.head?, isBlank c = false)
    (scanned : Scans .between text tokens last) :
    Scans .between (' ' :: text) (.blank [' '] :: tokens) last := by
  cases text with
  | nil => exact absurd rfl nonempty
  | cons c text =>
    refine .silent rfl (scanned.behind ?_)
    simp [advance, shown c rfl]

theorem inside_word {before : List Char} (inside : ∀ c ∈ text, endsWord c = false) :
    Scans (.word before) text [] (.word (text.reverse ++ before)) := by
  induction text generalizing before with
  | nil => exact .nil
  | cons c text ih =>
    obtain ⟨first, others⟩ := List.forall_mem_cons.mp inside
    rw [List.reverse_cons, List.append_assoc]
    refine .silent ?_ (ih others)
    rw [advance, first]
    rfl

theorem word {w : List Char} (nonempty : w ≠ []) (inside : ∀ c ∈ w, endsWord c = false)
    (closes : endsWord c = true) (scanned : Scans .between (c :: text) tokens last) :
    Scans .between (w ++ c :: text) (.word w :: tokens) last := by
  cases w with
  | nil => exact absurd rfl nonempty
  | cons d w =>
    obtain ⟨first, others⟩ := List.forall_mem_cons.mp inside
    have begins : advance .between d = some ([], .word [d]) := by
      rw [advance, enter_of_not_endsWord first]
    have ends : Scans (.word (w.reverse ++ [d])) (c :: text) (.word (d :: w) :: tokens) last := by
      refine scanned.behind ?_
      rw [advance, if_pos closes]
      simp
    exact .silent begins ((inside_word others).append ends)

end Scans

/-- What never holds of a character that ends words. -/
theorem endsWord_eq_false {p : Char → Bool} (never : [' ', '\t', '\n', '\r', '#', '[', ']', '\x7b',
    '\x7d', ',', '=', '.', '"', '\''].all (!p ·) = true) (holds : p c = true) :
    endsWord c = false := by
  cases ends : endsWord c with
  | false => rfl
  | true =>
    have not := List.all_eq_true.mp never c (List.contains_iff_mem.mp ends)
    rw [holds] at not
    cases not

theorem endsWord_of_isBlank (blank : isBlank c = true) : endsWord c = true := by
  simp only [isBlank, Bool.or_eq_true, decide_eq_true_eq] at blank
  obtain rfl | rfl := blank <;> rfl

/-! ## Values -/

/-- What may stand behind a value that is printed. -/
def Closes (c : Char) : Prop := c ∈ [',', ']', '\n']

theorem Closes.cases {P : Char → Prop} (closes : Closes c) (comma : P ',') (bracket : P ']')
    (newline : P '\n') : P c := by
  simp only [Closes, List.mem_cons, List.not_mem_nil, or_false] at closes
  rcases closes with rfl | rfl | rfl
  · exact comma
  · exact bracket
  · exact newline

theorem Closes.endsWord (closes : Closes c) : endsWord c = true :=
  closes.cases (P := (Toml.endsWord · = true)) rfl rfl rfl

theorem Closes.isBlank (closes : Closes c) : isBlank c = false :=
  closes.cases (P := (Toml.isBlank · = false)) rfl rfl rfl

/-- Wherever it stands in front of what may stand behind a value, `text` gives `tokens`. -/
structure Gives (text : List Char) (tokens : List Token) : Prop where
  shown : ∀ c ∈ text.head?, isBlank c = false
  scans : ∀ {c : Char} {rest : List Char} {more : List Token} {last : Mode}, Closes c →
    Scans .between (c :: rest) more last → Scans .between (text ++ c :: rest) (tokens ++ more) last

/-- A value behind a blank. -/
theorem Gives.blank (gives : Gives text tokens) (closes : Closes c)
    (scanned : Scans .between (c :: rest) more last) :
    Scans .between (' ' :: (text ++ c :: rest)) (.blank [' '] :: (tokens ++ more)) last := by
  refine .blank (by simp) ?_ (gives.scans closes scanned)
  cases text with
  | nil =>
    rintro d ⟨⟩
    exact closes.isBlank
  | cons d text => exact gives.shown

end SlideConverter.Toml
