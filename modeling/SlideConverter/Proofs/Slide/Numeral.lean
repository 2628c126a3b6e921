import Mathlib.Data.List.Basic
import SlideConverter.Proofs.Slide.Numbering

/-!
# Keys and numerals

The digits in a frame's name are a numeral of some script, and stand for a number in any of them.
Keys follow the numbers of ASCII numerals only: one with a digit of another script counts as too
large for a key, so that the frame of a small number stands behind those of larger ones.
-/

namespace SlideConverter

namespace Text

/-- The number that a digit stands for in its script. Each range begins with a zero. -/
def digitValue (c : Char) : Nat :=
  match decimalDigitRanges.find? fun (first, last) => first ≤ c.toNat && c.toNat ≤ last with
  | some (first, _) => (c.toNat - first) % 10
  | none => 0

/-- The number that digits of any scripts stand for, the last one for the ones. -/
def numeral (digits : List Char) : Nat := Nat.ofDigits 10 (digits.reverse.map digitValue)

def IsAscii (digits : List Char) : Prop := ∀ c ∈ digits, c.isDigit = true

instance (digits : List Char) : Decidable (IsAscii digits) :=
  decidable_of_iff (digits.all Char.isDigit = true) List.all_eq_true

variable {c : Char} {digits : List Char}

theorem digitValue_of_isDigit (digit : c.isDigit = true) : digitValue c = c.toNat - '0'.toNat := by
  obtain ⟨least, most⟩ := toNat_of_isDigit digit
  change 48 ≤ c.toNat at least
  change c.toNat ≤ 57 at most
  have found : decimalDigitRanges.find?
      (fun (first, last) => first ≤ c.toNat && c.toNat ≤ last) = some (48, 57) :=
    List.find?_cons_of_pos (by simp [least, most])
  rw [digitValue, found]
  change (c.toNat - 48) % 10 = c.toNat - 48
  omega

theorem numeral_of_isAscii (ascii : IsAscii digits) : numeral digits = decimalValue digits := by
  have values : digits.reverse.map digitValue =
      digits.reverse.map fun c => c.toNat - '0'.toNat :=
    List.map_congr_left fun c there => digitValue_of_isDigit (ascii c (List.mem_reverse.mp there))
  rw [numeral, values, decimalValue]

/-- Arabic, Tamil, fullwidth and mathematical digits. -/
example : ["٣١", "௩௧", "３1", "𝟑𝟙"].map (numeral ·.toList) = [31, 31, 31, 31] := by decide +kernel

theorem asciiNumber?_of_not_isAscii (foreign : ¬ IsAscii digits) : asciiNumber? digits = none := by
  have some_other : digits.all (·.isDigit) = false := by
    rw [← Bool.not_eq_true, List.all_eq_true]
    exact foreign
  rw [asciiNumber?, some_other]
  simp

end Text

open Text

namespace SlidePattern

variable {pattern : SlidePattern} {name : String} {cut : Cut}

theorem key_of_isCut (isCut : pattern.IsCut name cut) : pattern.key name =
    if IsAscii cut.digits.toList then min (numeral cut.digits.toList) largestKey
    else largestKey := by
  have found : pattern.digits? name = some cut.digits.toList :=
    digits?_eq_some_iff.mpr ⟨cut, isCut, rfl⟩
  have nonempty : cut.digits.toList ≠ [] := by simpa using isCut.nonempty
  split
  · rename_i ascii
    simp only [key, found, asciiNumber?_of_isDigit nonempty ascii, numeral_of_isAscii ascii]
  · rename_i foreign
    simp only [key, found, asciiNumber?_of_not_isAscii foreign]

end SlidePattern

namespace SlideCollection

variable {options : PipelineOptions} {p q : Path} {entries : List Path} {first second : String}

/-- Wherever `q` is among the slides, `p` is not behind it. -/
def Ahead (options : PipelineOptions) (entries : List Path) (p q : Path) : Prop :=
  ∀ front back, (ofEntries options entries).slides.map (·.imagePath) = front ++ q :: back →
    p ∉ back

theorem place_of_named (named : p.fileName = some (Utf8.encode first)) :
    place options p = ((framePattern options).key first, Utf8.encode first) := by
  simp only [place, named, Option.getD_some, Utf8.decode?_encode, Option.map_some]

/-- Frames of smaller keys are not behind those of larger ones. -/
theorem ahead_of_key_lt (named : p.fileName = some (Utf8.encode first))
    (named' : q.fileName = some (Utf8.encode second))
    (less : (framePattern options).key first < (framePattern options).key second) :
    Ahead options entries p q := by
  intro front back slides behind
  have ordered := (ofEntries_arranged options entries).ordered
  rw [slides, List.pairwise_append, List.pairwise_cons] at ordered
  obtain ⟨-, ⟨from_q, -⟩, -⟩ := ordered
  have le := from_q p behind
  rw [place_of_named named, place_of_named named'] at le
  rcases le with larger | ⟨same, -⟩
  · exact absurd larger (Nat.not_lt.mpr less.le)
  · exact absurd same less.ne'

end SlideCollection

namespace SlidePattern

open SlideCollection

/-- The key of a name is its number just in ASCII digits, and as far as keys go; other digits have
the largest key, whatever their number. So keys are in the order of the numbers unless the smaller
number is in other digits and the larger one has a key of its own, and then the frame of the
smaller number is behind that of the larger one. -/
theorem key_order_iff_ascii (pattern : SlidePattern) (first second : String)
    (cut cut' : Cut) (isCut : pattern.IsCut first cut) (isCut' : pattern.IsCut second cut') :
    let a := numeral cut.digits.toList
    let b := numeral cut'.digits.toList
    let largest := 2 ^ 64 - 1
    (IsAscii cut.digits.toList → pattern.key first = min a largest) ∧
    (pattern.key first = largest ↔ ¬ IsAscii cut.digits.toList ∨ largest ≤ a) ∧
    (a ≤ b → (pattern.key first ≤ pattern.key second ↔
      IsAscii cut.digits.toList ∨ ¬ IsAscii cut'.digits.toList ∨ largest ≤ b)) ∧
    ∀ options p q entries, framePattern options = pattern →
      p.fileName = some (Utf8.encode first) → q.fileName = some (Utf8.encode second) →
      (IsAscii cut.digits.toList → a < b → a < largest → Ahead options entries p q) ∧
      (¬ IsAscii cut.digits.toList → IsAscii cut'.digits.toList → b < largest →
        Ahead options entries q p) := by
  intro a b largest
  have key := key_of_isCut isCut
  have key' := key_of_isCut isCut'
  change pattern.key first = if _ then min a largest else largest at key
  change pattern.key second = if _ then min b largest else largest at key'
  refine ⟨?number, ?saturated, ?monotone, ?arranged⟩
  case number =>
    intro ascii
    rw [key, if_pos ascii]
  case saturated =>
    by_cases ascii : IsAscii cut.digits.toList
    · rw [key, if_pos ascii]
      simp [ascii]
    · rw [key, if_neg ascii]
      simp [ascii]
  case monotone =>
    intro le
    by_cases ascii : IsAscii cut.digits.toList
    · have le' : pattern.key first ≤ pattern.key second := by
        rw [key, key', if_pos ascii]
        split
        · exact min_le_min_right largest le
        · exact min_le_right a largest
      simp [ascii, le']
    · by_cases ascii' : IsAscii cut'.digits.toList
      · rw [key, key', if_neg ascii, if_pos ascii', le_min_iff]
        simp [ascii, ascii']
      · rw [key, key', if_neg ascii, if_neg ascii']
        simp [ascii']
  case arranged =>
    rintro options p q entries rfl named named'
    constructor
    · intro ascii less small
      apply ahead_of_key_lt named named'
      rw [key, key', if_pos ascii, min_eq_left small.le]
      split
      · exact lt_min less small
      · exact small
    · intro foreign ascii small
      apply ahead_of_key_lt named' named
      rw [key, key', if_neg foreign, if_pos ascii, min_eq_left small.le]
      exact small

/-- Three in Arabic digits, behind ten. -/
theorem arabic_three_sorted_after_ten :
    let options : PipelineOptions := {}
    let pattern := framePattern options
    let three := "slide-٣.jpg"
    let ten := "slide-10.jpg"
    let p := Path.join (.ofString "work") (.ofString three)
    let q := Path.join (.ofString "work") (.ofString ten)
    pattern.IsCut three ⟨"slide", "٣", "jpg"⟩ ∧ pattern.IsCut ten ⟨"slide", "10", "jpg"⟩ ∧
      numeral "٣".toList = 3 ∧ numeral "10".toList = 10 ∧
      pattern.key three = 2 ^ 64 - 1 ∧ pattern.key ten = 10 ∧
      ¬ pattern.key three ≤ pattern.key ten ∧ Ahead options [p, q] q p ∧
      ofEntries options [p, q] = ⟨[⟨q, 1⟩, ⟨p, 2⟩]⟩ := by
  intro options pattern three ten p q
  have decimal : ∀ c ∈ "٣".toList, isDecimalDigit c = true :=
    List.all_eq_true.mp (by decide +kernel)
  have decimal' : ∀ c ∈ "10".toList, isDecimalDigit c = true :=
    List.all_eq_true.mp (by decide +kernel)
  have isCut : pattern.IsCut three ⟨"slide", "٣", "jpg"⟩ := by
    refine ⟨by decide, ?_, by decide, decimal, ?_⟩ <;> decide +kernel
  have isCut' : pattern.IsCut ten ⟨"slide", "10", "jpg"⟩ := by
    refine ⟨by decide, ?_, by decide, decimal', ?_⟩ <;> decide +kernel
  have value : numeral "٣".toList = 3 := by decide +kernel
  have value' : numeral "10".toList = 10 := by decide +kernel
  have foreign : ¬ IsAscii "٣".toList := by decide
  have ascii : IsAscii "10".toList := by decide
  obtain ⟨-, saturated, monotone, arranged⟩ :=
    key_order_iff_ascii pattern three ten _ _ isCut isCut'
  obtain ⟨number, -⟩ := key_order_iff_ascii pattern ten three _ _ isCut' isCut
  rw [value, value'] at monotone
  rw [value'] at number
  have disordered : ¬ pattern.key three ≤ pattern.key ten := by
    rw [monotone (by decide)]
    decide
  obtain ⟨-, behind⟩ := arranged options p q [p, q] rfl (by decide +kernel) (by decide +kernel)
  have listed : [p, q].Perm ([q, p] ++ []) := .swap q p []
  have slides : ofEntries options [p, q] = ⟨[⟨q, 1⟩, ⟨p, 2⟩]⟩ :=
    ofEntries_eq_of_perm listed (by decide +kernel) (by simp) (by decide +kernel)
      (by decide +kernel)
  exact ⟨isCut, isCut', value, value', saturated.mpr (.inl foreign), number ascii, disordered,
    behind foreign ascii (by rw [value']; decide), slides⟩

end SlidePattern

end SlideConverter
