import Mathlib.Data.List.TakeWhile
import SlideConverter.Json.Reader
import SlideConverter.Proofs.Text.Decimal

/-!
# Numbers in JSON text

An integer is printed so that it is read as itself: it has no zero in front and is no minus zero.
Whatever is read as a number, be it an integer or not, is made of the characters of words.
-/

namespace SlideConverter.Json

open Text

variable {c : Char} {w s : List Char} {t : Tree} {n : Nat}

/-! ## Integers -/

theorem isWordChar_of_isDigit (digit : c.isDigit = true) : isWordChar c = true := by
  simp [isWordChar, Char.isAlphanum, digit]

theorem digits_toDigits (n : Nat) : digits (Nat.toDigits 10 n) = (Nat.toDigits 10 n, []) := by
  have all : ∀ c ∈ Nat.toDigits 10 n, c.isDigit = true := fun _ => isDigit_of_mem_toDigits
  rw [digits, List.takeWhile_eq_self_iff.mpr all, List.dropWhile_eq_nil_iff.mpr all]

/-- A number without sign, as it is printed, has no zero in front. -/
theorem canonical_toDigits (n : Nat) : ((Nat.toDigits 10 n).isEmpty ||
    ((Nat.toDigits 10 n).length > 1 && (Nat.toDigits 10 n).head? == some '0')) = false := by
  cases written : Nat.toDigits 10 n with
  | nil => exact absurd written Nat.toDigits_ne_nil
  | cons c rest =>
    by_cases zero : c = '0'
    · subst zero
      have none := eq_zero_of_toDigits written
      subst none
      have alone : Nat.toDigits 10 0 = ['0'] := rfl
      obtain ⟨-, rfl⟩ := List.cons.inj (written.symm.trans alone)
      rfl
    · simp [zero]

theorem valueOfDigits_toDigits (n : Nat) : valueOfDigits (Nat.toDigits 10 n) = n := foldl_toDigits n

theorem number?_toDigits (n : Nat) : number? (Nat.toDigits 10 n) = some (.integer n) := by
  have unsigned : ∀ rest, Nat.toDigits 10 n ≠ '-' :: rest := by
    intro rest same
    have digit := isDigit_of_mem_toDigits (n := n) (c := '-') (by simp [same])
    cases digit
  have canonical := canonical_toDigits n
  unfold number?
  split
  · rename_i parts
    split at parts
    · rename_i same
      exact absurd same (unsigned _)
    · cases parts
      simp [digits_toDigits, canonical, numberTail?, valueOfDigits_toDigits]

theorem number?_negative (n : Nat) :
    number? ('-' :: Nat.toDigits 10 (n + 1)) = some (.integer (-(n + 1 : Nat))) := by
  have canonical := canonical_toDigits (n + 1)
  simp [number?, digits_toDigits, canonical, numberTail?, valueOfDigits_toDigits]

theorem toList_toString_int (n : Int) : (toString n).toList =
    if n < 0 then '-' :: Nat.toDigits 10 n.natAbs else Nat.toDigits 10 n.natAbs := by
  cases n with
  | ofNat n =>
    have unsigned : ¬ Int.ofNat n < 0 := by simp
    rw [if_neg unsigned]
    exact Nat.toList_repr
  | negSucc n =>
    rw [if_pos (Int.negSucc_lt_zero n)]
    show ("-" ++ Nat.repr (n + 1)).toList = _
    rw [String.toList_append, Nat.toList_repr]
    rfl

/-- What a number begins with is no letter, so it is not mistaken for a name. -/
theorem word?_of_number {first : Char} (number : number? (first :: s) = some t)
    (begins : first.isDigit = true ∨ first = '-') : word? (first :: s) = some t := by
  have other : ∀ letter rest, letter.isDigit = false → letter ≠ '-' →
      first :: s ≠ letter :: rest := by
    rintro _ rest plain dash ⟨⟩
    rcases begins with digit | rfl
    · rw [digit] at plain
      cases plain
    · exact dash rfl
  have not_null : first :: s ≠ "null".toList := other 'n' _ rfl (by decide)
  have not_true : first :: s ≠ "true".toList := other 't' _ rfl (by decide)
  have not_false : first :: s ≠ "false".toList := other 'f' _ rfl (by decide)
  rw [word?, if_neg not_null, if_neg not_true, if_neg not_false, number]

theorem word?_toString (n : Int) : word? (toString n).toList = some (.integer n) := by
  rw [toList_toString_int]
  by_cases negative : n < 0
  · obtain ⟨m, rfl⟩ := Int.eq_negSucc_of_lt_zero negative
    rw [if_pos negative]
    exact word?_of_number (number?_negative m) (.inr rfl)
  · obtain ⟨m, rfl⟩ := Int.eq_ofNat_of_zero_le (Int.not_lt.mp negative)
    rw [if_neg negative, Int.natAbs_natCast]
    have number := number?_toDigits m
    cases written : Nat.toDigits 10 m with
    | nil => exact absurd written Nat.toDigits_ne_nil
    | cons first rest =>
      rw [written] at number
      have digit : first.isDigit = true :=
        isDigit_of_mem_toDigits (by rw [written]; exact List.mem_cons_self)
      exact word?_of_number number (.inl digit)

theorem isWordChar_of_mem_toString {n : Int} (there : c ∈ (toString n).toList) :
    isWordChar c = true := by
  rw [toList_toString_int] at there
  split at there
  · rcases List.mem_cons.mp there with rfl | digit
    · rfl
    · exact isWordChar_of_isDigit (isDigit_of_mem_toDigits digit)
  · exact isWordChar_of_isDigit (isDigit_of_mem_toDigits there)

/-! ## Characters of numbers -/

def withoutSign (s : List Char) : List Char :=
  match s with
  | '+' :: r => r
  | '-' :: r => r
  | r => r

/-- What may stand behind the digits and the fraction of a number. -/
def exponent? (s : List Char) (fraction : Bool) : Option Bool :=
  match s with
  | [] => some fraction
  | e :: power =>
    if e = 'e' ∨ e = 'E' then
      let digits := digits (withoutSign power)
      if digits.1.isEmpty || !digits.2.isEmpty then none else some true
    else none

theorem numberTail?_point (s : List Char) : numberTail? ('.' :: s) =
    if (digits s).1.isEmpty then none else exponent? (digits s).2 true := rfl

theorem numberTail?_plain (other : ∀ rest, s ≠ '.' :: rest) :
    numberTail? s = exponent? s false := by
  unfold numberTail?
  split
  · exact absurd rfl (other _)
  · rfl

theorem all_digits (rest : (digits s).2.all isWordChar = true) : s.all isWordChar = true := by
  have whole : (digits s).1 ++ (digits s).2 = s := List.takeWhile_append_dropWhile
  have front : (digits s).1.all isWordChar = true :=
    List.all_eq_true.mpr fun _ there => isWordChar_of_isDigit (List.mem_takeWhile_imp there)
  rw [← whole, List.all_append, front, rest]
  rfl

theorem all_withoutSign (unsigned : (withoutSign s).all isWordChar = true) :
    s.all isWordChar = true := by
  unfold withoutSign at unsigned
  split at unsigned
  · simpa [isWordChar] using unsigned
  · simpa [isWordChar] using unsigned
  · exact unsigned

theorem all_exponent? {fraction found : Bool} (tail : exponent? s fraction = some found) :
    s.all isWordChar = true := by
  cases s with
  | nil => rfl
  | cons e power =>
    rw [exponent?] at tail
    by_cases letter : e = 'e' ∨ e = 'E'
    · rw [if_pos letter] at tail
      by_cases whole : (digits (withoutSign power)).2 = []
      · have all : power.all isWordChar = true := by
          apply all_withoutSign
          apply all_digits
          rw [whole]
          rfl
        rcases letter with rfl | rfl <;> rwa [List.all_cons]
      · simp [whole] at tail
    · rw [if_neg letter] at tail
      cases tail

theorem all_numberTail? {fraction : Bool} (tail : numberTail? s = some fraction) :
    s.all isWordChar = true := by
  by_cases point : ∃ rest, s = '.' :: rest
  · obtain ⟨rest, rfl⟩ := point
    rw [numberTail?_point] at tail
    split at tail
    · cases tail
    · have behind := all_digits (all_exponent? tail)
      rw [List.all_cons, behind]
      rfl
  · rw [numberTail?_plain fun rest same => point ⟨rest, same⟩] at tail
    exact all_exponent? tail

def withoutMinus (w : List Char) : List Char :=
  match w with
  | '-' :: rest => rest
  | rest => rest

theorem isSome_numberTail? (number : number? w = some t) :
    (numberTail? (digits (withoutMinus w)).2).isSome = true := by
  by_contra none
  have nothing : numberTail? (digits (withoutMinus w)).2 = Option.none := by simpa using none
  have refused : number? w = Option.none := by
    unfold number?
    split
    rename_i parts
    split at parts <;> cases parts <;> simp_all [withoutMinus]
  rw [refused] at number
  cases number

/-- All of a number is made of the characters that words are made of. -/
theorem all_number? (number : number? w = some t) : w.all isWordChar = true := by
  obtain ⟨fraction, tail⟩ := Option.isSome_iff_exists.mp (isSome_numberTail? number)
  have all := all_digits (all_numberTail? tail)
  unfold withoutMinus at all
  split at all
  · simpa [isWordChar] using all
  · exact all

/-- What is neither a name nor an integer is a number. -/
theorem number?_of_word? {written : String} (known : word? w = some (.other written)) :
    number? w = some (.other written) := by
  unfold word? at known
  split at known
  · cases known
  · split at known
    · cases known
    · split at known
      · cases known
      · exact known

end SlideConverter.Json
