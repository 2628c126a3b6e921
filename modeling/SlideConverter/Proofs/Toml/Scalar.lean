import Mathlib.Data.List.Basic
import SlideConverter.Proofs.Text.Decimal
import SlideConverter.Proofs.Toml.Token
import SlideConverter.Toml.Printer
import SlideConverter.Toml.Scalar

/-!
# Numbers and truth values

Each is printed as one word, and the word is read as the value it was printed for. A number is
printed without a sign and without zeros in front, so that its text can be nothing else.
-/

namespace SlideConverter.Toml

variable {c : Char} {s : List Char}

theorem gives_word {w : List Char} (nonempty : w ≠ []) (inside : ∀ c ∈ w, endsWord c = false) :
    Gives w [.word w] where
  shown c first := by
    cases blank : isBlank c with
    | false => rfl
    | true =>
      have within := inside c (List.mem_of_mem_head? first)
      rw [endsWord_of_isBlank blank] at within
      cases within
  scans closes scanned := scanned.word nonempty inside closes.endsWord

theorem gives_bool (b : Bool) : Gives (bool b) [.word (bool b)] := by
  have inside : (bool b).all (!endsWord ·) = true := by cases b <;> decide
  refine gives_word (by cases b <;> decide) ?_
  intro c there
  simpa using List.all_eq_true.mp inside c there

theorem scalar?_bool (b : Bool) : scalar? (bool b) = some (.bool b) := by
  cases b <;> rfl

/-! ## Digits -/

theorem ne_of_isDigit {d : Char} (digit : c.isDigit = true) (other : d.isDigit = false) :
    c ≠ d := by
  rintro rfl
  rw [digit] at other
  cases other

theorem endsWord_of_isDigit (digit : c.isDigit = true) : endsWord c = false :=
  endsWord_eq_false (p := Char.isDigit) (by decide) digit

theorem hexValue?_of_isDigit (digit : c.isDigit = true) :
    Json.hexValue? c = some (c.toNat - '0'.toNat) := by
  have bounds : '0' ≤ c ∧ c ≤ '9' := by
    simp only [Char.isDigit, Bool.and_eq_true, decide_eq_true_eq] at digit
    exact digit
  rw [Json.hexValue?, if_pos bounds]

/-- There is nothing to be left out of digits. -/
theorem decimalDigits?_eq_self (nonempty : s ≠ []) (digits : ∀ c ∈ s, c.isDigit = true) :
    decimalDigits? s = some s := by
  unfold decimalDigits?
  induction s with
  | nil => exact absurd rfl nonempty
  | cons c s ih =>
    obtain ⟨first, others⟩ := List.forall_mem_cons.mp digits
    cases s with
    | nil => rw [digitsOf?, if_pos first]
    | cons d s =>
      have digit : d ≠ '_' := ne_of_isDigit (others d List.mem_cons_self) rfl
      rw [digitsOf?, if_pos first, ih (List.cons_ne_nil d s) others]
      · rfl
      · intro same
        cases same
      · intro rest same
        exact digit (List.cons.inj same).1

theorem valueOf_ten (digits : ∀ c ∈ s, c.isDigit = true) :
    valueOf 10 s = Nat.ofDigitChars 10 s 0 := by
  rw [valueOf, Nat.ofDigitChars]
  refine List.foldl_ext _ _ _ fun n c there => ?_
  rw [hexValue?_of_isDigit (digits c there), Nat.mul_comm]
  rfl

theorem number_eq (n : UInt64) : number n = Nat.toDigits 10 n.toNat := by
  rw [number, Nat.toString_eq_repr, Nat.toList_repr]

theorem isDigit_of_mem_number {n : UInt64} (there : c ∈ number n) : c.isDigit = true := by
  rw [number_eq] at there
  exact Text.isDigit_of_mem_toDigits there

theorem number_ne_nil (n : UInt64) : number n ≠ [] := by
  rw [number_eq]
  exact Nat.toDigits_ne_nil

theorem gives_number (n : UInt64) : Gives (number n) [.word (number n)] :=
  gives_word (number_ne_nil n) fun _ there => endsWord_of_isDigit (isDigit_of_mem_number there)

theorem not_mem_number {n : UInt64} (other : c.isDigit = false) : c ∉ number n :=
  fun there => ne_of_isDigit (isDigit_of_mem_number there) other rfl

/-- A number is decimal: no letter says of it that it is not. -/
theorem prefixed?_number (n : UInt64) : prefixed? (number n) = none := by
  unfold prefixed?
  split
  · rename_i same
    exact absurd (by rw [same]; simp) (not_mem_number (c := 'x') (n := n) rfl)
  · rename_i same
    exact absurd (by rw [same]; simp) (not_mem_number (c := 'o') (n := n) rfl)
  · rename_i same
    exact absurd (by rw [same]; simp) (not_mem_number (c := 'b') (n := n) rfl)
  · rfl

theorem sign_number (n : UInt64) : sign (number n) = (false, number n) := by
  unfold sign
  split
  · rename_i same
    exact absurd (by rw [same]; simp) (not_mem_number (c := '-') (n := n) rfl)
  · rename_i same
    exact absurd (by rw [same]; simp) (not_mem_number (c := '+') (n := n) rfl)
  · rfl

theorem wholePart?_number (n : UInt64) : wholePart? (number n) = some (number n) := by
  have digits : decimalDigits? (number n) = some (number n) :=
    decimalDigits?_eq_self (number_ne_nil n) fun _ there => isDigit_of_mem_number there
  rw [wholePart?, digits]
  split
  · rename_i same
    have front := Option.some.inj same
    rw [number_eq] at front
    have zero := Text.eq_zero_of_toDigits front
    rw [zero] at front
    cases front
  · rfl

theorem valueOf_number (n : UInt64) : valueOf 10 (number n) = n.toNat := by
  rw [valueOf_ten fun _ there => isDigit_of_mem_number there, number_eq,
    Nat.ofDigitChars_ten_toDigits]

theorem scalar?_number (n : UInt64) : scalar? (number n) = some (.ofUInt64 n) := by
  have notTrue : number n ≠ "true".toList := by
    intro same
    exact not_mem_number (c := 't') (n := n) rfl (by rw [same]; decide)
  have notFalse : number n ≠ "false".toList := by
    intro same
    exact not_mem_number (c := 'f') (n := n) rfl (by rw [same]; decide)
  have fits : n.toNat < Nat.pow 2 128 :=
    Nat.lt_of_lt_of_le n.toNat_lt (Nat.pow_le_pow_right (by decide) (by decide))
  rw [scalar?, if_neg notTrue, if_neg notFalse, prefixed?_number, decimalInteger?, sign_number]
  dsimp only
  rw [wholePart?_number, Option.bind_some, valueOf_number, integerTree?,
    if_neg Bool.false_ne_true, if_pos fits]
  rfl

end SlideConverter.Toml
