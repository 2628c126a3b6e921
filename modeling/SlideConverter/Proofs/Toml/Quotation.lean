import Mathlib.Tactic.SplitIfs
import SlideConverter.Proofs.Toml.Token
import SlideConverter.Toml.Printer

/-!
# Strings between quotation marks

Whatever style a string is printed in, it is read back as it was. The styles differ in what they
escape and in whether a newline behind the opening marks is text; all of them count on no more
than two marks in a row before the three that close a string of several lines.
-/

namespace SlideConverter.Toml

variable {mode : Mode} {multiline : Bool} {c : Char} {s text body held : List Char}
  {quote : Quote} {marks : Nat}

/-! ## Characters -/

theorem charOf?_toNat (c : Char) : charOf? c.toNat = some c := by
  have valid : c.toNat.isValidChar := c.valid
  rw [charOf?, if_pos valid, Char.ofNat_toNat]

theorem hexValue?_upperHex : ∀ n < 128,
    (upperHex 4 n).map Json.hexValue? = [some 0, some 0, some (n / 16), some (n % 16)] := by
  decide +kernel

theorem toNat_lt_of_isControl (control : isControl c = true) : c.toNat < 128 := by
  simp only [isControl, Bool.or_eq_true, decide_eq_true_eq] at control
  omega

theorem advance_hex {owed value digit : Nat} (more : 1 < owed)
    (known : Json.hexValue? c = some digit) : advance (.hex multiline text owed value) c =
      some ([], .hex multiline text (owed - 1) (value * 16 + digit)) := by
  have due : ¬ owed ≤ 1 := by omega
  simp [advance, inHex, known, due]

/-- In `mode` a basic string is read that has `text` so far. -/
structure InBasic (mode : Mode) (multiline : Bool) (text : List Char) : Prop where
  escape : advance mode '\\' = some ([], .escape multiline text)
  plain : ∀ c, isPrintable c = true → c ≠ '"' → c ≠ '\\' →
    advance mode c = some ([], resume multiline (c :: text))

namespace InBasic

theorem openedOnce : InBasic (.openedOnce .basic) false [] where
  escape := rfl
  plain c shown mark backslash := by
    simp [advance, inLine, Quote.mark, shown, mark, backslash, resume]

theorem line : InBasic (.line .basic text) false text where
  escape := rfl
  plain c shown mark backslash := by
    simp [advance, inLine, Quote.mark, shown, mark, backslash, resume]

theorem lines (few : marks ≤ 2) :
    InBasic (.lines .basic text marks) true (List.replicate marks '"' ++ text) where
  escape := by
    have open' : ¬ 3 ≤ marks := by omega
    simp [advance, afterMarks, inLines, Quote.mark, open']
  plain c shown mark backslash := by
    have open' : ¬ 3 ≤ marks := by omega
    have carriage : c ≠ '\r' := by
      rintro rfl
      cases shown
    simp [advance, afterMarks, inLines, Quote.mark, open', shown, mark, backslash, carriage, resume]

theorem escaped (inside : InBasic mode multiline text) {d : Char}
    (known : afterBackslash multiline text d = some ([], resume multiline (c :: text))) :
    Scans mode ['\\', d] [] (resume multiline (c :: text)) :=
  .silent inside.escape (.silent known .nil)

theorem escapedControl (inside : InBasic mode multiline text) (control : isControl c = true) :
    Scans mode ('\\' :: 'u' :: upperHex 4 c.toNat) [] (resume multiline (c :: text)) := by
  have digits := hexValue?_upperHex _ (toNat_lt_of_isControl control)
  obtain ⟨d₁, more, same, v₁, digits⟩ := List.map_eq_cons_iff.mp digits
  obtain ⟨d₂, more, rfl, v₂, digits⟩ := List.map_eq_cons_iff.mp digits
  obtain ⟨d₃, more, rfl, v₃, digits⟩ := List.map_eq_cons_iff.mp digits
  obtain ⟨d₄, more, rfl, v₄, digits⟩ := List.map_eq_cons_iff.mp digits
  obtain rfl := List.map_eq_nil_iff.mp digits
  have value : c.toNat / 16 * 16 + c.toNat % 16 = c.toNat := by omega
  rw [same]
  refine .silent inside.escape (.silent rfl (.silent (advance_hex (by decide) v₁)
    (.silent (advance_hex (by decide) v₂) (.silent (advance_hex (by decide) v₃)
      (.silent ?_ .nil)))))
  simp [advance, inHex, v₄, value, charOf?_toNat]

theorem escapeChar (inside : InBasic mode multiline text) (mark : c ≠ '"') :
    Scans mode (escapeChar c) [] (resume multiline (c :: text)) := by
  unfold Toml.escapeChar
  split_ifs with backslash backspace tab feed carriage control
  · subst backslash
    exact inside.escaped rfl
  · subst backspace
    exact inside.escaped rfl
  · subst tab
    exact inside.escaped rfl
  · subst feed
    exact inside.escaped rfl
  · subst carriage
    exact inside.escaped rfl
  · exact inside.escapedControl control
  · have shown : isPrintable c = true := by simp [isPrintable, control]
    exact .silent (inside.plain c shown mark backslash) .nil

end InBasic

/-! ## Strings on one line -/

theorem Closes.ne_mark (closes : Closes c) (quote : Quote) : c ≠ quote.mark := by
  refine closes.cases (P := (· ≠ quote.mark)) ?_ ?_ ?_ <;> cases quote <;> decide

theorem advance_mark (quote : Quote) :
    advance .between quote.mark = some ([], .openedOnce quote) := by
  cases quote <;> rfl

theorem isBlank_mark (quote : Quote) : isBlank quote.mark = false := by
  cases quote <;> rfl

theorem advance_openedOnce (quote : Quote) :
    advance (.openedOnce quote) quote.mark = some ([], .openedTwice quote) := if_pos rfl

/-- Between two marks stands what is read as the string. -/
theorem gives_line (quote : Quote) (starts : ∀ c ∈ body.head?, c ≠ quote.mark)
    (reads : Scans (.line quote []) body [] (.line quote s.reverse)) :
    Gives (quote.mark :: body ++ [quote.mark]) [.string false (String.ofList s)] where
  shown := by
    rintro c ⟨⟩
    exact isBlank_mark quote
  scans {c rest more last} closes scanned := by
    have token : stringToken false s.reverse = .string false (String.ofList s) := by
      rw [stringToken, List.reverse_reverse]
    have closing : Scans (.line quote s.reverse) (quote.mark :: c :: rest)
        (.string false (String.ofList s) :: more) last := by
      refine .speak ?_ scanned
      rw [advance, inLine, if_pos rfl, token]
    rw [List.append_assoc, List.cons_append]
    refine .silent (advance_mark quote) ?_
    cases body with
    | nil =>
      obtain ⟨-, same⟩ := reads.of_nil
      have empty : s.reverse = [] := (Mode.line.inj same).2
      refine .silent (advance_openedOnce quote) (scanned.behind ?_)
      rw [advance, if_neg (closes.ne_mark quote), ← token, empty]
    | cons d body =>
      have other : d ≠ quote.mark := starts d rfl
      refine Scans.as ?_ (reads.append closing)
      rw [advance, if_neg other]
      rfl

theorem escapeChar_eq_cons (mark : c ≠ '"') : ∃ d rest, escapeChar c = d :: rest ∧ d ≠ '"' ∧
    d ≠ '\n' ∧ d ≠ '\r' := by
  unfold escapeChar
  split_ifs with backslash backspace tab feed carriage control
  iterate 6 exact ⟨'\\', _, rfl, by decide⟩
  refine ⟨c, [], rfl, mark, ?_, carriage⟩
  rintro rfl
  exact control rfl

theorem escapeLine_eq_cons (c : Char) : ∃ d rest, escapeLine c = d :: rest ∧ d ≠ '"' := by
  unfold escapeLine
  split_ifs with mark newline
  · exact ⟨'\\', _, rfl, by decide⟩
  · exact ⟨'\\', _, rfl, by decide⟩
  · obtain ⟨d, rest, same, mark, -⟩ := escapeChar_eq_cons mark
    exact ⟨d, rest, same, mark⟩

theorem scans_escapeLine (text : List Char) :
    Scans (.line .basic text) (s.flatMap escapeLine) [] (.line .basic (s.reverse ++ text)) := by
  induction s generalizing text with
  | nil => exact .nil
  | cons c s ih =>
    rw [List.flatMap_cons, List.reverse_cons, List.append_assoc]
    have first : Scans (.line .basic text) (escapeLine c) [] (.line .basic (c :: text)) := by
      unfold escapeLine
      split_ifs with mark newline
      · subst mark
        exact InBasic.line.escaped rfl
      · subst newline
        exact InBasic.line.escaped rfl
      · exact InBasic.line.escapeChar mark
    exact first.append (ih (c :: text))

theorem gives_basicLine (s : List Char) :
    Gives ('"' :: s.flatMap escapeLine ++ ['"']) [.string false (String.ofList s)] := by
  have starts : ∀ d ∈ (s.flatMap escapeLine).head?, d ≠ '"' := by
    cases s with
    | nil => simp
    | cons c s =>
      obtain ⟨e, rest, same, mark⟩ := escapeLine_eq_cons c
      rw [List.flatMap_cons, same]
      rintro d ⟨⟩
      exact mark
  have reads := scans_escapeLine (s := s) []
  rw [List.append_nil] at reads
  exact gives_line .basic starts reads

theorem isPrintable_of_not_hasControl (free : hasControl s = false) (there : c ∈ s)
    (newline : c ≠ '\n') : isPrintable c = true := by
  have all := List.any_eq_false.mp free c there
  simpa [newline] using all

/-- Characters that stand in literal strings on one line as they are. -/
theorem scans_literalLine (text : List Char) (shown : ∀ c ∈ s, isPrintable c = true ∧ c ≠ '\'') :
    Scans (.line .literal text) s [] (.line .literal (s.reverse ++ text)) := by
  induction s generalizing text with
  | nil => exact .nil
  | cons c s ih =>
    obtain ⟨⟨first, mark⟩, others⟩ := List.forall_mem_cons.mp shown
    rw [List.reverse_cons, List.append_assoc]
    refine .silent ?_ (ih (c :: text) others)
    simp [advance, inLine, Quote.mark, first, mark]

theorem gives_literalLine (fits : fitsLine .literal s = true) :
    Gives ('\'' :: s ++ ['\'']) [.string false (String.ofList s)] := by
  have shown : ∀ c ∈ s, isPrintable c = true ∧ c ≠ '\'' := by
    intro c there
    simp only [fitsLine, Bool.and_eq_true, Bool.not_eq_true'] at fits
    obtain ⟨⟨⟨controls, newlines⟩, marks⟩, -⟩ := fits
    have newline : c ≠ '\n' := by
      rintro rfl
      simp [hasNewline, there] at newlines
    refine ⟨isPrintable_of_not_hasControl controls there newline, ?_⟩
    rintro rfl
    simp [Quote.mark, there] at marks
  have starts : ∀ c ∈ s.head?, c ≠ '\'' := by
    intro c first
    exact (shown c (List.mem_of_mem_head? first)).2
  have reads := scans_literalLine [] shown
  rw [List.append_nil] at reads
  exact gives_line .literal starts reads

/-! ## Strings of several lines -/

/-- From `mode` on, `body` is read in a string of several lines and makes it hold `held`; it ends in
no more than two marks. -/
def Leads (quote : Quote) (mode : Mode) (body held : List Char) : Prop :=
  ∃ text marks, marks ≤ 2 ∧ List.replicate marks quote.mark ++ text = held ∧
    Scans mode body [] (.lines quote text marks)

namespace Leads

theorem nil (few : marks ≤ 2) :
    Leads quote (.lines quote text marks) [] (List.replicate marks quote.mark ++ text) :=
  ⟨text, marks, few, rfl, .nil⟩

theorem append {next : Mode} (first : Scans mode text [] next)
    (second : Leads quote next body held) : Leads quote mode (text ++ body) held := by
  obtain ⟨text', marks, few, whole, reads⟩ := second
  exact ⟨text', marks, few, whole, first.append reads⟩

theorem silent {next : Mode} (advanced : advance mode c = some ([], next))
    (rest : Leads quote next body held) : Leads quote mode (c :: body) held :=
  append (.silent advanced .nil) rest

theorem mark (quote : Quote) (few : marks < 2)
    (rest : Leads quote (.lines quote text (marks + 1)) body held) :
    Leads quote (.lines quote text marks) (quote.mark :: body) held := by
  have open' : marks ≠ 5 := by omega
  refine silent ?_ rest
  rw [advance, afterMarks, if_pos rfl, if_neg open']

theorem other (few : marks ≤ 2) (mark : c ≠ quote.mark)
    (there : inLines quote (List.replicate marks quote.mark ++ text) c =
      some ([], .lines quote (c :: (List.replicate marks quote.mark ++ text)) 0))
    (rest : Leads quote (.lines quote (c :: (List.replicate marks quote.mark ++ text)) 0)
      body held) :
    Leads quote (.lines quote text marks) (c :: body) held := by
  have open' : ¬ marks ≥ 3 := by omega
  refine silent ?_ rest
  rw [advance, afterMarks, if_neg mark, if_neg open', there]

end Leads

theorem leads_escapeLines (text : List Char) (few : marks ≤ 2) :
    Leads .basic (.lines .basic text marks) (escapeLines marks s)
      (s.reverse ++ (List.replicate marks '"' ++ text)) := by
  induction s generalizing text marks with
  | nil => exact .nil few
  | cons c s ih =>
    rw [List.reverse_cons, List.append_assoc]
    unfold escapeLines
    split_ifs with mark two newline
    · subst mark two
      exact .append ((InBasic.lines few).escaped rfl) (ih _ (Nat.zero_le 2))
    · subst mark
      exact .mark .basic (by omega) (ih text (by omega))
    · subst newline
      exact .other few (by decide) rfl (ih _ (Nat.zero_le 2))
    · exact .append ((InBasic.lines few).escapeChar mark) (ih _ (Nat.zero_le 2))

theorem le_longestRow (mark : Char) (row : Nat) (s : List Char) : row ≤ longestRow mark row s := by
  induction s generalizing row with
  | nil => exact Nat.le_refl row
  | cons c s ih =>
    rw [longestRow]
    split_ifs with same
    · have := ih (row + 1)
      omega
    · exact Nat.le_max_left _ _

theorem inLines_literal (free : hasControl s = false) (there : c ∈ s) (text : List Char) :
    inLines .literal text c = some ([], .lines .literal (c :: text) 0) := by
  by_cases newline : c = '\n'
  · subst newline
    rfl
  · have shown := isPrintable_of_not_hasControl free there newline
    have carriage : c ≠ '\r' := by
      rintro rfl
      cases shown
    simp [inLines, shown, carriage]

/-- Characters that stand in literal strings of several lines as they are. -/
theorem leads_literal (text : List Char) (free : hasControl s = false)
    (rows : longestRow '\'' marks s ≤ 2) :
    Leads .literal (.lines .literal text marks) s
      (s.reverse ++ (List.replicate marks '\'' ++ text)) := by
  induction s generalizing text marks with
  | nil => exact .nil rows
  | cons c s ih =>
    have others : hasControl s = false := by
      simp only [hasControl, List.any_cons, Bool.or_eq_false_iff] at free
      exact free.2
    rw [List.reverse_cons, List.append_assoc]
    rw [longestRow] at rows
    split_ifs at rows with mark
    · subst mark
      have more := le_longestRow '\'' (marks + 1) s
      exact .mark .literal (by omega) (ih text others rows)
    · obtain ⟨few, rows⟩ := Nat.max_le.mp rows
      exact .other few mark (inLines_literal free List.mem_cons_self _) (ih _ others rows)

theorem scans_opening (quote : Quote) :
    Scans .between (List.replicate 3 quote.mark) [] (.fresh quote) := by
  have third : advance (.openedTwice quote) quote.mark = some ([], .fresh quote) := if_pos rfl
  exact .silent (advance_mark quote) (.silent (advance_openedOnce quote) (.silent third .nil))

theorem scans_closing {rest : List Char} {more : List Token} {last : Mode} (few : marks ≤ 2)
    (closes : Closes c) (scanned : Scans .between (c :: rest) more last) :
    Scans (.lines quote text marks) (List.replicate 3 quote.mark ++ c :: rest)
      (stringToken true (List.replicate marks quote.mark ++ text) :: more) last := by
  have mark : ∀ m ≤ 4, advance (.lines quote text m) quote.mark =
      some ([], .lines quote text (m + 1)) := by
    intro m few
    have open' : m ≠ 5 := by omega
    rw [advance, afterMarks, if_pos rfl, if_neg open']
  refine .silent (mark marks (by omega)) (.silent (mark (marks + 1) (by omega))
    (.silent (mark (marks + 2) (by omega)) (scanned.behind ?_)))
  have closed : marks + 2 + 1 ≥ 3 := by omega
  rw [advance, afterMarks, if_neg (closes.ne_mark quote), if_pos closed, closeLines]
  rfl

/-- Between the opening marks and the closing ones stands what is read as the string. -/
theorem gives_lines (quote : Quote) (reads : Leads quote (.lines quote [] 0) body s.reverse)
    (starts : hasNewline s = false → ∀ c ∈ body.head?, c ≠ '\n' ∧ c ≠ '\r') :
    Gives ((if hasNewline s then List.replicate 3 quote.mark ++ ['\n']
      else List.replicate 3 quote.mark) ++ body ++ List.replicate 3 quote.mark)
      [.string true (String.ofList s)] where
  shown := by
    cases hasNewline s <;>
    · rintro c ⟨⟩
      exact isBlank_mark quote
  scans {c rest more last} closes scanned := by
    obtain ⟨text, marks, few, whole, reads⟩ := reads
    have token : stringToken true (List.replicate marks quote.mark ++ text) =
        .string true (String.ofList s) := by
      rw [whole, stringToken, List.reverse_reverse]
    have closing := reads.append (scans_closing few closes scanned)
    rw [token, List.nil_append] at closing
    rw [List.append_assoc, List.append_assoc]
    cases newline : hasNewline s with
    | true =>
      rw [if_pos rfl]
      exact ((scans_opening quote).append (.silent rfl .nil)).append closing
    | false =>
      rw [if_neg Bool.false_ne_true]
      refine (scans_opening quote).append ?_
      cases body with
      | nil => exact closing.as (by cases quote <;> rfl)
      | cons d body =>
        obtain ⟨notNewline, notCarriage⟩ := starts newline d rfl
        refine Scans.as ?_ closing
        rw [advance, afterFresh, if_neg notNewline, if_neg notCarriage]
        rfl

theorem gives_basicLines (s : List Char) :
    Gives (inStyle (.lines .basic) s) [.string true (String.ofList s)] := by
  have reads := leads_escapeLines (s := s) [] (Nat.zero_le 2)
  rw [List.replicate_zero, List.append_nil, List.append_nil] at reads
  refine gives_lines .basic reads ?_
  intro newlines d first
  cases s with
  | nil => cases first
  | cons c s =>
    have starts : (escapeLines 0 (c :: s)).head? = some d := first
    simp only [hasNewline, List.contains_cons, Bool.or_eq_false_iff,
      beq_eq_false_iff_ne] at newlines
    by_cases mark : c = '"'
    · rw [escapeLines, if_pos mark, if_neg (by decide)] at starts
      obtain rfl := Option.some.inj starts
      decide
    · obtain ⟨e, rest, same, -, notNewline, notCarriage⟩ := escapeChar_eq_cons mark
      rw [escapeLines, if_neg mark, if_neg newlines.1.symm, same] at starts
      obtain rfl := Option.some.inj starts
      exact ⟨notNewline, notCarriage⟩

theorem gives_literalLines (fits : fitsLines .literal s = true) :
    Gives (inStyle (.lines .literal) s) [.string true (String.ofList s)] := by
  simp only [fitsLines, Bool.and_eq_true, Bool.not_eq_true', decide_eq_true_eq] at fits
  obtain ⟨⟨free, rows⟩, -⟩ := fits
  have reads := leads_literal [] free rows
  rw [List.replicate_zero, List.append_nil, List.append_nil] at reads
  refine gives_lines .literal reads ?_
  intro newlines c first
  have there := List.mem_of_mem_head? first
  have newline : c ≠ '\n' := by
    rintro rfl
    simp [hasNewline, there] at newlines
  refine ⟨newline, ?_⟩
  rintro rfl
  cases isPrintable_of_not_hasControl free there newline

/-! ## All styles -/

theorem styleOf_cases (s : List Char) : styleOf s = .line .basic ∨ styleOf s = .lines .basic ∨
    styleOf s = .line .literal ∧ fitsLine .literal s = true ∨
    styleOf s = .lines .literal ∧ fitsLines .literal s = true := by
  unfold styleOf
  split_ifs with plain basic literal basics literals newline <;> simp [*]

def Style.isMultiline : Style → Bool
  | .line _ => false
  | .lines _ => true

/-- The token of a string that is printed. -/
def printedToken (s : String) : Token := .string (styleOf s.toList).isMultiline s

theorem gives_string (s : String) : Gives (string s) [printedToken s] := by
  have whole : String.ofList s.toList = s := String.ofList_toList
  rw [string, printedToken, ← whole, String.toList_ofList]
  obtain same | same | ⟨same, fits⟩ | ⟨same, fits⟩ := styleOf_cases s.toList
  · rw [same]
    exact gives_basicLine s.toList
  · rw [same]
    exact gives_basicLines s.toList
  · rw [same]
    exact gives_literalLine fits
  · rw [same]
    exact gives_literalLines fits

end SlideConverter.Toml
