import Mathlib.Tactic.SplitIfs
import SlideConverter.Json.Printer
import SlideConverter.Json.Token

/-!
# JSON text by pieces

What a piece of text is cut into depends on the mode in front of it alone, so pieces are scanned
one after the other. A string is collected as the codes of its characters, none of which is half a
surrogate pair. Only a word counts on what comes behind it, since nothing else says where it ends.
-/

namespace SlideConverter.Json

variable {mode next last : Mode} {c : Char} {text rest s gap : List Char} {tokens more : List Token}

/-- From `mode` on, `text` is cut into `tokens`, and `next` is the mode behind it. -/
def Spells (mode : Mode) (text : List Char) (tokens : List Token) (next : Mode) : Prop :=
  ∀ rest, scan mode (text ++ rest) = (scan next rest).map (tokens ++ ·)

namespace Spells

theorem nil (mode : Mode) : Spells mode [] [] mode := by
  intro rest
  simp

theorem append (first : Spells mode text tokens next) (second : Spells next rest more last) :
    Spells mode (text ++ rest) (tokens ++ more) last := by
  intro behind
  rw [List.append_assoc, first, second, Option.map_map]
  simp [Function.comp_def]

theorem cons (advanced : advance mode c = some (tokens, next))
    (rest : Spells next text more last) : Spells mode (c :: text) (tokens ++ more) last := by
  intro behind
  rw [List.cons_append, scan, advanced]
  simp [rest behind, Function.comp_def]

theorem single (advanced : advance mode c = some (tokens, next)) : Spells mode [c] tokens next := by
  simpa using cons advanced (nil next)

/-- A character that ends no token. -/
theorem silent (advanced : advance mode c = some ([], next))
    (rest : Spells next text tokens last) : Spells mode (c :: text) tokens last :=
  cons advanced rest

end Spells

/-! ## Strings -/

theorem hexValue?_hexDigits : ∀ n < 0x20, (Digest.Sha256.hexDigits 4 n).map hexValue? =
    [some 0, some 0, some (n / 16), some (n % 16)] := by
  decide +kernel

theorem advance_hex {units : List Nat} {owed value digit : Nat} (more : 1 < owed)
    (known : hexValue? c = some digit) : advance (.hex units owed value) c =
      some ([], .hex units (owed - 1) (value * 16 + digit)) := by
  have due : ¬ owed ≤ 1 := by omega
  simp [advance, known, due]

theorem spells_escaped {units : List Nat} {d : Char} (known : escapedUnit? d = some c.toNat)
    (other : d ≠ 'u') : Spells (.quoted units) ['\\', d] [] (.quoted (c.toNat :: units)) := by
  refine .silent rfl (.silent ?_ (.nil _))
  simp [advance, other, known]

theorem spells_escapedControl {units : List Nat} (control : c.toNat < 0x20) :
    Spells (.quoted units) ('\\' :: 'u' :: Digest.Sha256.hexDigits 4 c.toNat) []
      (.quoted (c.toNat :: units)) := by
  have digits := hexValue?_hexDigits _ control
  obtain ⟨d₁, more, same, v₁, digits⟩ := List.map_eq_cons_iff.mp digits
  obtain ⟨d₂, more, rfl, v₂, digits⟩ := List.map_eq_cons_iff.mp digits
  obtain ⟨d₃, more, rfl, v₃, digits⟩ := List.map_eq_cons_iff.mp digits
  obtain ⟨d₄, more, rfl, v₄, digits⟩ := List.map_eq_cons_iff.mp digits
  obtain rfl := List.map_eq_nil_iff.mp digits
  have value : c.toNat / 16 * 16 + c.toNat % 16 = c.toNat := by omega
  rw [same]
  refine .silent rfl (.silent rfl (.silent (advance_hex (by decide) v₁)
    (.silent (advance_hex (by decide) v₂) (.silent (advance_hex (by decide) v₃)
      (.silent ?_ (.nil _))))))
  simp [advance, v₄, value]

/-- However it is escaped, a character adds its code. -/
theorem spells_escapeChar (units : List Nat) (c : Char) :
    Spells (.quoted units) (escapeChar c) [] (.quoted (c.toNat :: units)) := by
  unfold escapeChar
  split_ifs with mark backslash newline carriage tab backspace feed control
  · subst mark
    exact spells_escaped rfl (by decide)
  · subst backslash
    exact spells_escaped rfl (by decide)
  · subst newline
    exact spells_escaped rfl (by decide)
  · subst carriage
    exact spells_escaped rfl (by decide)
  · subst tab
    exact spells_escaped rfl (by decide)
  · subst backspace
    exact spells_escaped rfl (by decide)
  · subst feed
    exact spells_escaped rfl (by decide)
  · exact spells_escapedControl control
  · apply Spells.single
    simp [advance, mark, backslash, control]

theorem spells_escapeChars (units : List Nat) (s : List Char) :
    Spells (.quoted units) (s.flatMap escapeChar) []
      (.quoted ((s.map (·.toNat)).reverse ++ units)) := by
  induction s generalizing units with
  | nil => exact .nil _
  | cons c s ih =>
    have rest := ih (c.toNat :: units)
    rw [List.flatMap_cons, List.map_cons, List.reverse_cons, List.append_assoc]
    exact (spells_escapeChar units c).append rest

/-- No character has the code of half a surrogate pair. -/
theorem toNat_not_surrogate (c : Char) : ¬ (0xD800 ≤ c.toNat ∧ c.toNat ≤ 0xDFFF) := by
  have valid : c.toNat < 0xD800 ∨ 0xDFFF < c.toNat ∧ c.toNat < 0x110000 := c.valid
  omega

theorem charsOfUnits_map_toNat (s : List Char) : charsOfUnits (s.map (·.toNat)) = some s := by
  induction s with
  | nil => rfl
  | cons c s ih =>
    have whole := toNat_not_surrogate c
    cases s with
    | nil => simp [charsOfUnits, whole]
    | cons d s =>
      have not_high : ¬ (0xD800 ≤ c.toNat ∧ c.toNat ≤ 0xDBFF) := by omega
      have not_low : ¬ (0xDC00 ≤ c.toNat ∧ c.toNat ≤ 0xDFFF) := by omega
      rw [List.map_cons, List.map_cons, charsOfUnits, if_neg not_high, if_neg not_low]
      rw [List.map_cons] at ih
      rw [ih, Option.map_some, Char.ofNat_toNat]

theorem spells_quote (s : String) :
    Spells .between (quote s) [.string (some s)] .between := by
  have body := spells_escapeChars [] s.toList
  have closing : advance (.quoted ((s.toList.map (·.toNat)).reverse ++ [])) '"' =
      some ([.string (some s)], .between) := by
    simp [advance, charsOfUnits_map_toNat]
  exact .silent rfl (body.append (.single closing))

/-! ## Words -/

/-- Nothing that would go on with a word. -/
def Closes (rest : List Char) : Prop := ∀ c ∈ rest.head?, isWordChar c = false

/-- Wherever no word goes on behind it, `text` is cut into `tokens`. -/
def Gives (text : List Char) (tokens : List Token) : Prop :=
  ∀ rest, Closes rest → scan .between (text ++ rest) = (scan .between rest).map (tokens ++ ·)

theorem Spells.gives (spelled : Spells .between text tokens .between) : Gives text tokens :=
  fun rest _ => spelled rest

theorem enter_of_isWordChar (inside : isWordChar c = true) : enter c = some ([], .word [c]) := by
  unfold enter
  split <;> first | cases inside | exact if_pos inside

theorem spells_word {before : List Char} (inside : ∀ c ∈ text, isWordChar c = true) :
    Spells (.word before) text [] (.word (text.reverse ++ before)) := by
  induction text generalizing before with
  | nil => exact .nil _
  | cons c text ih =>
    obtain ⟨first, others⟩ := List.forall_mem_cons.mp inside
    rw [List.reverse_cons, List.append_assoc]
    refine .silent ?_ (ih others)
    simp [advance, first]

theorem scan_word (before : List Char) (closes : Closes rest) :
    scan (.word before) rest = (scan .between rest).map ([.word before.reverse] ++ ·) := by
  cases rest with
  | nil => rfl
  | cons c rest =>
    have ends : isWordChar c = false := closes c rfl
    simp only [scan, advance, ends]
    cases enter c with
    | none => rfl
    | some entered => simp [Function.comp_def]

theorem gives_word (nonempty : text ≠ []) (inside : ∀ c ∈ text, isWordChar c = true) :
    Gives text [.word text] := by
  cases text with
  | nil => exact absurd rfl nonempty
  | cons c text =>
    obtain ⟨first, others⟩ := List.forall_mem_cons.mp inside
    intro rest closes
    have spelled : Spells .between (c :: text) [] (.word (text.reverse ++ [c])) :=
      .silent (enter_of_isWordChar first) (spells_word others)
    rw [spelled, scan_word _ closes]
    simp [Function.comp_def]

/-! ## Blanks -/

/-- Nothing but blanks, as they stand between tokens. -/
def IsGap (gap : List Char) : Prop := ∀ c ∈ gap, enter c = some ([], .between)

theorem spells_gap (blank : IsGap gap) : Spells .between gap [] .between := by
  induction gap with
  | nil => exact .nil _
  | cons c gap ih =>
    obtain ⟨first, others⟩ := List.forall_mem_cons.mp blank
    exact .silent first (ih others)

theorem Gives.behindGap (blank : IsGap gap) (gives : Gives text tokens) :
    Gives (gap ++ text) tokens := by
  intro rest closes
  rw [List.append_assoc, spells_gap blank, gives rest closes, Option.map_map]
  rfl

/-- A blank is where a word ends. -/
theorem Gives.beforeGap (blank : IsGap gap) (gives : Gives text tokens) :
    Gives (text ++ gap) tokens := by
  intro rest closes
  have closed : Closes (gap ++ rest) := by
    cases gap with
    | nil => exact closes
    | cons c gap =>
      rintro c ⟨⟩
      cases inside : isWordChar c with
      | false => rfl
      | true => cases (enter_of_isWordChar inside).symm.trans (blank c List.mem_cons_self)
  rw [List.append_assoc, gives _ closed, spells_gap blank]
  simp

/-- Only blanks are put between tokens. -/
structure Layout.Blank (layout : Layout) : Prop where
  newline : ∀ level, IsGap (layout.newline level)
  afterColon : IsGap layout.afterColon

theorem Layout.blank_compact : Layout.compact.Blank where
  newline level c there := by cases there
  afterColon c there := by cases there

theorem Layout.blank_pretty : Layout.pretty.Blank where
  newline level c there := by
    rcases List.mem_cons.mp there with rfl | blank
    · rfl
    · obtain ⟨-, rfl⟩ := List.mem_replicate.mp blank
      rfl
  afterColon c there := by
    obtain rfl := List.mem_singleton.mp there
    rfl

end SlideConverter.Json
