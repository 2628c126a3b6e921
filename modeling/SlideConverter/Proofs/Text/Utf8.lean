import SlideConverter.Text.Utf8

/-!
# Reading UTF-8 back

What a text is encoded as is read back as the text. Where one text has been read, what
comes behind it is read as if it stood alone. No other bytes are read as a text than those
it is encoded as, since a character has one encoding only.
-/

namespace SlideConverter.Text.Utf8

variable {a b : Bytes} {s t : String} {chars : List Char}

/-- Bytes that spell a text. -/
def IsText (bytes : Bytes) : Prop := (decode? bytes).isSome = true

instance (bytes : Bytes) : Decidable (IsText bytes) := inferInstanceAs (Decidable (_ = true))

theorem toNat_ofNat_of_lt {m : Nat} (small : m < 256) : (UInt8.ofNat m).toNat = m := by
  rw [UInt8.toNat_ofNat', Nat.mod_eq_of_lt small]

/-! ## What is encoded is read -/

/-- A byte that may come next is six more bits of the character. -/
theorem piecesFrom_tail {value owed x : Nat} {low high : UInt8} (rest : Bytes)
    (above : low.toNat ≤ x + 0x80) (below : x + 0x80 ≤ high.toNat) :
    piecesFrom (some { value, owed, low, high }) (UInt8.ofNat (x + 0x80) :: rest) =
      if owed ≤ 1 then some (Char.ofNat (value * 64 + x)) :: piecesFrom none rest
      else piecesFrom (some { value := value * 64 + x, owed := owed - 1 }) rest := by
  have here : (UInt8.ofNat (x + 0x80)).toNat = x + 0x80 := by
    have := high.toNat_lt
    exact toNat_ofNat_of_lt (by omega)
  have within : low ≤ UInt8.ofNat (x + 0x80) ∧ UInt8.ofNat (x + 0x80) ≤ high := by
    simp only [UInt8.le_iff_toNat_le, here]
    omega
  have extended : Pending.extend { value, owed, low, high } (UInt8.ofNat (x + 0x80)) =
      value * 64 + x := by
    unfold Pending.extend
    rw [here, Nat.add_sub_cancel]
  rw [piecesFrom, if_pos within, extended]

theorem piecesFrom_lead {b : UInt8} {p : Pending} (rest : Bytes)
    (first : lead b = .unfinished p) : piecesFrom none (b :: rest) = piecesFrom (some p) rest := by
  rw [piecesFrom, first]

/-- What the first byte of a character may be, by its number. -/
theorem lead_ofNat {m : Nat} (small : m < 256) : lead (UInt8.ofNat m) =
    if m < 0x80 then .complete (Char.ofNat m)
    else if m < 0xC2 then .broken
    else if m < 0xE0 then .unfinished { value := m - 0xC0, owed := 1 }
    else if m = 0xE0 then .unfinished { value := 0, owed := 2, low := 0xA0 }
    else if m = 0xED then .unfinished { value := 0xD, owed := 2, high := 0x9F }
    else if m < 0xF0 then .unfinished { value := m - 0xE0, owed := 2 }
    else if m = 0xF0 then .unfinished { value := 0, owed := 3, low := 0x90 }
    else if m < 0xF4 then .unfinished { value := m - 0xF0, owed := 3 }
    else if m = 0xF4 then .unfinished { value := 4, owed := 3, high := 0x8F }
    else .broken := by
  have here := toNat_ofNat_of_lt small
  simp only [lead, UInt8.lt_iff_toNat_lt, ← UInt8.toNat_inj, here]
  rfl

/-- The first byte of a character of three bytes, and the bounds for the second one. -/
theorem lead_three {m : Nat} (high : m < 16) : ∃ least most : UInt8,
    lead (UInt8.ofNat (m + 0xE0)) =
        .unfinished { value := m, owed := 2, low := least, high := most } ∧
      (∀ x < 64, 32 ≤ m * 64 + x → ¬ (0x360 ≤ m * 64 + x ∧ m * 64 + x < 0x380) →
        least.toNat ≤ x + 0x80 ∧ x + 0x80 ≤ most.toNat) := by
  have first := lead_ofNat (m := m + 0xE0) (by omega)
  rw [if_neg (by omega), if_neg (by omega), if_neg (by omega)] at first
  by_cases zero : m = 0
  · subst zero
    refine ⟨0xA0, 0xBF, first, ?_⟩
    intro x _ _ _
    exact ⟨show 0xA0 ≤ _ by omega, show _ ≤ 0xBF by omega⟩
  by_cases surrogate : m = 13
  · subst surrogate
    refine ⟨0x80, 0x9F, first, ?_⟩
    intro x _ _ _
    exact ⟨show 0x80 ≤ _ by omega, show _ ≤ 0x9F by omega⟩
  · rw [if_neg (by omega), if_neg (by omega), if_pos (by omega)] at first
    refine ⟨0x80, 0xBF, by simpa using first, ?_⟩
    intro x _ _ _
    exact ⟨show 0x80 ≤ _ by omega, show _ ≤ 0xBF by omega⟩

/-- The first byte of a character of four bytes, and the bounds for the second one. -/
theorem lead_four {m : Nat} (high : m < 5) : ∃ least most : UInt8,
    lead (UInt8.ofNat (m + 0xF0)) =
        .unfinished { value := m, owed := 3, low := least, high := most } ∧
      (∀ x < 64, 16 ≤ m * 64 + x → m * 64 + x < 0x110 →
        least.toNat ≤ x + 0x80 ∧ x + 0x80 ≤ most.toNat) := by
  have first := lead_ofNat (m := m + 0xF0) (by omega)
  rw [if_neg (by omega), if_neg (by omega), if_neg (by omega), if_neg (by omega), if_neg (by omega),
    if_neg (by omega)] at first
  by_cases zero : m = 0
  · subst zero
    refine ⟨0x90, 0xBF, first, ?_⟩
    intro x _ _ _
    exact ⟨show 0x90 ≤ _ by omega, show _ ≤ 0xBF by omega⟩
  by_cases last : m = 4
  · subst last
    refine ⟨0x80, 0x8F, first, ?_⟩
    intro x _ _ _
    exact ⟨show 0x80 ≤ _ by omega, show _ ≤ 0x8F by omega⟩
  · rw [if_neg (by omega), if_pos (by omega)] at first
    refine ⟨0x80, 0xBF, by simpa using first, ?_⟩
    intro x _ _ _
    exact ⟨show 0x80 ≤ _ by omega, show _ ≤ 0xBF by omega⟩

theorem piecesFrom_utf8EncodeChar (c : Char) (rest : Bytes) :
    piecesFrom none (String.utf8EncodeChar c ++ rest) = some c :: piecesFrom none rest := by
  have valid : c.val.toNat < 0xD800 ∨ 0xDFFF < c.val.toNat ∧ c.val.toNat < 0x110000 := c.valid
  have same : Char.ofNat c.val.toNat = c := Char.ofNat_toNat c
  have tail : ∀ x < 64, UInt8.toNat 0x80 ≤ x + 0x80 ∧ x + 0x80 ≤ UInt8.toNat 0xBF :=
    fun x _ => ⟨show 0x80 ≤ _ by omega, show _ ≤ 0xBF by omega⟩
  rw [String.utf8EncodeChar]
  generalize c.val.toNat = v at same valid
  have last := tail (v % 64) (by omega)
  have middle := tail (v / 64 % 64) (by omega)
  by_cases one : v ≤ 0x7F
  · have first := lead_ofNat (m := v) (by omega)
    rw [if_pos (by omega)] at first
    simp only [if_pos one, List.singleton_append, piecesFrom, first, same]
  by_cases two : v ≤ 0x7FF
  · have first := lead_ofNat (m := v / 64 % 32 + 192) (by omega)
    rw [if_neg (by omega), if_neg (by omega), if_pos (by omega), Nat.add_sub_cancel] at first
    have whole : v / 64 % 32 * 64 + v % 64 = v := by omega
    simp only [if_neg one, if_pos two, List.cons_append, List.nil_append]
    rw [piecesFrom_lead _ first, piecesFrom_tail _ last.1 last.2, if_pos (by decide), whole, same]
  by_cases three : v ≤ 0xFFFF
  · obtain ⟨least, most, first, bounds⟩ := lead_three (m := v / 4096 % 16) (by omega)
    have second := bounds (v / 64 % 64) (by omega) (by omega) (by omega)
    have whole : (v / 4096 % 16 * 64 + v / 64 % 64) * 64 + v % 64 = v := by omega
    simp only [if_neg one, if_neg two, if_pos three, List.cons_append, List.nil_append]
    rw [piecesFrom_lead _ first, piecesFrom_tail _ second.1 second.2, if_neg (by decide),
      piecesFrom_tail _ last.1 last.2, if_pos (by decide), whole, same]
  · obtain ⟨least, most, first, bounds⟩ := lead_four (m := v / 262144 % 8) (by omega)
    have second := bounds (v / 4096 % 64) (by omega) (by omega) (by omega)
    have whole : ((v / 262144 % 8 * 64 + v / 4096 % 64) * 64 + v / 64 % 64) * 64 + v % 64 = v := by
      omega
    simp only [if_neg one, if_neg two, if_neg three, List.cons_append, List.nil_append]
    rw [piecesFrom_lead _ first, piecesFrom_tail _ second.1 second.2, if_neg (by decide),
      piecesFrom_tail _ middle.1 middle.2, if_neg (by decide), piecesFrom_tail _ last.1 last.2,
      if_pos (by decide), whole, same]

theorem pieces_encodeChars (chars : List Char) : pieces (encodeChars chars) = chars.map some := by
  induction chars with
  | nil => rfl
  | cons c rest ih =>
    rw [pieces] at ih
    rw [encodeChars, List.flatMap_cons, pieces, piecesFrom_utf8EncodeChar, List.map_cons]
    exact congrArg (some c :: ·) ih

theorem mapM_id_eq_some {α : Type} {l : List (Option α)} {values : List α} :
    l.mapM id = some values ↔ l = values.map some := by
  induction l generalizing values with
  | nil => cases values <;> simp
  | cons first rest ih =>
    cases first with
    | none => cases values <;> simp
    | some a => cases values with
      | nil => simp [Option.bind_eq_some_iff]
      | cons value values => simpa [Option.bind_eq_some_iff, ih] using and_comm

theorem decode?_eq_some : decode? a = some s ↔ pieces a = s.toList.map some := by
  rw [decode?, Option.map_eq_some_iff]
  constructor
  · rintro ⟨chars, read, rfl⟩
    rw [String.toList_ofList]
    exact mapM_id_eq_some.mp read
  · intro spelled
    exact ⟨s.toList, mapM_id_eq_some.mpr spelled, String.ofList_toList⟩

/-- A text is read back from its bytes. -/
theorem decode?_encode (s : String) : decode? (encode s) = some s := by
  rw [decode?_eq_some, encode, pieces_encodeChars]

theorem isText_encode (s : String) : IsText (encode s) := by
  rw [IsText, decode?_encode]
  rfl

/-! ## Texts one behind the other -/

/-- Nothing in a text runs on into what comes behind it. -/
theorem piecesFrom_append {p : Option Pending} (whole : none ∉ piecesFrom p a) :
    piecesFrom p (a ++ b) = piecesFrom p a ++ piecesFrom none b := by
  induction a generalizing p with
  | nil =>
    cases p with
    | none => rfl
    | some p => simp [piecesFrom] at whole
  | cons first rest ih =>
    cases p with
    | none =>
      rw [piecesFrom] at whole
      rw [List.cons_append, piecesFrom, piecesFrom]
      cases begins : lead first <;> simp_all
    | some p =>
      rw [piecesFrom] at whole
      rw [List.cons_append, piecesFrom, piecesFrom]
      by_cases within : p.low ≤ first ∧ first ≤ p.high
      · by_cases last : p.owed ≤ 1
        · simp_all
        · rw [if_pos within, if_neg last] at whole
          rw [if_pos within, if_pos within, if_neg last, if_neg last]
          exact ih whole
      · cases begins : lead first <;> simp_all

theorem decode?_append (first : decode? a = some s) (second : decode? b = some t) :
    decode? (a ++ b) = some (s ++ t) := by
  rw [decode?_eq_some] at *
  have whole : none ∉ pieces a := by simp [first]
  rw [pieces, piecesFrom_append whole, String.toList_append, List.map_append]
  rw [← first, ← second]
  rfl

theorem IsText.append (first : IsText a) (second : IsText b) : IsText (a ++ b) := by
  obtain ⟨s, hs⟩ := Option.isSome_iff_exists.mp first
  obtain ⟨t, ht⟩ := Option.isSome_iff_exists.mp second
  rw [IsText, decode?_append hs ht]
  rfl

/-! ## What is read is encoded -/

/-- What the first byte of a character, by its number, leaves to be read. -/
inductive Begins (m : Nat) : Pending → Prop
  | two (least : 0xC2 ≤ m) (most : m < 0xE0) : Begins m { value := m - 0xC0, owed := 1 }
  | three {low high : UInt8} (least : 0xE0 ≤ m) (most : m < 0xF0) (above : 0x80 ≤ low.toNat)
      (below : high.toNat ≤ 0xBF) (long : m = 0xE0 → 0xA0 ≤ low.toNat)
      (plain : m = 0xED → high.toNat ≤ 0x9F) :
    Begins m { value := m - 0xE0, owed := 2, low, high }
  | four {low high : UInt8} (least : 0xF0 ≤ m) (most : m < 0xF5) (above : 0x80 ≤ low.toNat)
      (below : high.toNat ≤ 0xBF) (long : m = 0xF0 → 0x90 ≤ low.toNat)
      (inside : m = 0xF4 → high.toNat ≤ 0x8F) :
    Begins m { value := m - 0xF0, owed := 3, low, high }

theorem lead_cases {m : Nat} (small : m < 256) :
    m < 0x80 ∧ lead (UInt8.ofNat m) = .complete (Char.ofNat m) ∨
      lead (UInt8.ofNat m) = .broken ∨
      ∃ p, lead (UInt8.ofNat m) = .unfinished p ∧ Begins m p := by
  rw [lead_ofNat small]
  by_cases one : m < 0x80
  · exact .inl ⟨one, if_pos one⟩
  rw [if_neg one]
  apply Or.inr
  by_cases lone : m < 0xC2
  · exact .inl (if_pos lone)
  rw [if_neg lone]
  by_cases two : m < 0xE0
  · exact .inr ⟨_, if_pos two, .two (by omega) two⟩
  rw [if_neg two]
  by_cases e0 : m = 0xE0
  · subst e0
    refine .inr ⟨_, rfl, .three ?_ ?_ ?_ ?_ ?_ ?_⟩ <;> decide
  rw [if_neg e0]
  by_cases ed : m = 0xED
  · subst ed
    refine .inr ⟨_, rfl, .three ?_ ?_ ?_ ?_ ?_ ?_⟩ <;> decide
  rw [if_neg ed]
  by_cases three : m < 0xF0
  · refine .inr ⟨_, if_pos three, .three ?_ three ?_ ?_ ?_ ?_⟩ <;> first | omega | decide
  rw [if_neg three]
  by_cases f0 : m = 0xF0
  · subst f0
    refine .inr ⟨_, rfl, .four ?_ ?_ ?_ ?_ ?_ ?_⟩ <;> decide
  rw [if_neg f0]
  by_cases f4 : m = 0xF4
  · subst f4
    refine .inr ⟨_, rfl, .four ?_ ?_ ?_ ?_ ?_ ?_⟩ <;> decide
  by_cases four : m < 0xF4
  · refine .inr ⟨_, if_pos four, .four ?_ ?_ ?_ ?_ ?_ ?_⟩ <;> first | omega | decide
  · exact .inl (by rw [if_neg four, if_neg f4])

/-- In a text, a byte that may come next does come next. -/
theorem tail_of_piecesFrom {value owed : Nat} {low high : UInt8} (above : 0x80 ≤ low.toNat)
    (read : piecesFrom (some { value, owed, low, high }) a = chars.map some) :
    ∃ x rest, a = UInt8.ofNat (x + 0x80) :: rest ∧ low.toNat ≤ x + 0x80 ∧
      x + 0x80 ≤ high.toNat ∧
      (if owed ≤ 1 then some (Char.ofNat (value * 64 + x)) :: piecesFrom none rest
      else piecesFrom (some { value := value * 64 + x, owed := owed - 1 }) rest) =
        chars.map some := by
  cases a with
  | nil => cases chars <;> simp [piecesFrom] at read
  | cons b rest =>
    by_cases within : low ≤ b ∧ b ≤ high
    · simp only [UInt8.le_iff_toNat_le] at within
      have whole : b.toNat - 0x80 + 0x80 = b.toNat := by omega
      have byte : b = UInt8.ofNat (b.toNat - 0x80 + 0x80) := by rw [whole, UInt8.ofNat_toNat]
      refine ⟨b.toNat - 0x80, rest, by rw [← byte], by omega, by omega, ?_⟩
      rwa [byte, piecesFrom_tail rest (by omega) (by omega)] at read
    · rw [piecesFrom, if_neg within] at read
      cases chars <;> cases begins : lead b <;> simp [begins] at read

/-- The last byte of a character leaves the character and what comes behind it. -/
theorem last_of_piecesFrom {value : Nat}
    (read : piecesFrom (some { value, owed := 1 }) a = chars.map some) :
    ∃ x rest later, a = UInt8.ofNat (x + 0x80) :: rest ∧ x < 64 ∧
      chars = Char.ofNat (value * 64 + x) :: later ∧ piecesFrom none rest = later.map some := by
  obtain ⟨x, rest, bytes, -, below, read⟩ := tail_of_piecesFrom (by decide) read
  change x + 0x80 ≤ 0xBF at below
  rw [if_pos (Nat.le_refl 1)] at read
  cases chars with
  | nil => simp at read
  | cons c later =>
    simp only [List.map_cons, List.cons.injEq, Option.some.injEq] at read
    exact ⟨x, rest, later, bytes, by omega, by rw [read.1], read.2⟩

theorem toNat_val_ofNat {n : Nat} (valid : n < 0xD800 ∨ 0xDFFF < n ∧ n < 0x110000) :
    (Char.ofNat n).val.toNat = n := by
  have valid : n.isValidChar := valid
  rw [Char.ofNat, dif_pos valid]
  rfl

/-- What is read off a text begins with a character, encoded. -/
theorem first_of_piecesFrom {b : UInt8} (read : piecesFrom none (b :: a) = chars.map some) :
    ∃ c later rest, chars = c :: later ∧ b :: a = String.utf8EncodeChar c ++ rest ∧
      piecesFrom none rest = later.map some := by
  obtain ⟨m, small, rfl⟩ : ∃ m < 256, b = UInt8.ofNat m :=
    ⟨b.toNat, b.toNat_lt, (UInt8.ofNat_toNat).symm⟩
  obtain ⟨one, first⟩ | first | ⟨p, first, begins⟩ := lead_cases small
  · rw [piecesFrom, first] at read
    cases chars with
    | nil => simp at read
    | cons c later =>
      simp only [List.map_cons, List.cons.injEq, Option.some.injEq] at read
      refine ⟨c, later, a, rfl, ?_, read.2⟩
      have number : c.val.toNat = m := by rw [← read.1, toNat_val_ofNat (by omega)]
      rw [String.utf8EncodeChar, number]
      simp only [if_pos (show m ≤ 0x7F by omega), List.singleton_append]
  · rw [piecesFrom, first] at read
    cases chars <;> simp at read
  · rw [piecesFrom_lead _ first] at read
    cases begins with
    | two least most =>
      obtain ⟨x, rest, later, rfl, below, rfl, onward⟩ := last_of_piecesFrom read
      refine ⟨_, later, rest, rfl, ?_, onward⟩
      rw [String.utf8EncodeChar, toNat_val_ofNat (by omega)]
      generalize number : (m - 0xC0) * 64 + x = v
      have first : m = v / 64 % 32 + 192 := by omega
      have last : x = v % 64 := by omega
      simp only [if_neg (show ¬ v ≤ 0x7F by omega), if_pos (show v ≤ 0x7FF by omega),
        List.cons_append, List.nil_append, ← first, ← last]
    | three least most above below long plain =>
      obtain ⟨y, a, rfl, low, high, read⟩ := tail_of_piecesFrom above read
      rw [if_neg (by decide)] at read
      obtain ⟨x, rest, later, rfl, small, rfl, onward⟩ := last_of_piecesFrom read
      refine ⟨_, later, rest, rfl, ?_, onward⟩
      rw [String.utf8EncodeChar, toNat_val_ofNat (by omega)]
      generalize number : ((m - 0xE0) * 64 + y) * 64 + x = v
      have first : m = v / 4096 % 16 + 224 := by omega
      have second : y = v / 64 % 64 := by omega
      have last : x = v % 64 := by omega
      simp only [if_neg (show ¬ v ≤ 0x7F by omega), if_neg (show ¬ v ≤ 0x7FF by omega),
        if_pos (show v ≤ 0xFFFF by omega), List.cons_append, List.nil_append, ← first, ← second,
        ← last]
    | four least most above below long inside =>
      obtain ⟨z, a, rfl, low, high, read⟩ := tail_of_piecesFrom above read
      rw [if_neg (by decide)] at read
      obtain ⟨y, a, rfl, low', high', read⟩ := tail_of_piecesFrom (by decide) read
      change y + 0x80 ≤ 0xBF at high'
      rw [if_neg (by decide)] at read
      obtain ⟨x, rest, later, rfl, small, rfl, onward⟩ := last_of_piecesFrom read
      refine ⟨_, later, rest, rfl, ?_, onward⟩
      rw [String.utf8EncodeChar, toNat_val_ofNat (by omega)]
      generalize number : (((m - 0xF0) * 64 + z) * 64 + y) * 64 + x = v
      have first : m = v / 262144 % 8 + 240 := by omega
      have second : z = v / 4096 % 64 := by omega
      have third : y = v / 64 % 64 := by omega
      have last : x = v % 64 := by omega
      simp only [if_neg (show ¬ v ≤ 0x7F by omega), if_neg (show ¬ v ≤ 0x7FF by omega),
        if_neg (show ¬ v ≤ 0xFFFF by omega), List.cons_append, List.nil_append, ← first, ← second,
        ← third, ← last]

theorem encodeChars_of_piecesFrom (read : piecesFrom none a = chars.map some) :
    encodeChars chars = a := by
  induction len : a.length using Nat.strongRecOn generalizing a chars with
  | ind n ih =>
    cases a with
    | nil =>
      cases chars with
      | nil => rfl
      | cons => simp [piecesFrom] at read
    | cons b a =>
      obtain ⟨c, later, rest, rfl, bytes, read⟩ := first_of_piecesFrom read
      have shorter : rest.length < n := by
        have : 0 < (String.utf8EncodeChar c).length := by
          rw [String.length_utf8EncodeChar]
          exact c.utf8Size_pos
        rw [← len, bytes, List.length_append]
        omega
      rw [bytes, encodeChars, List.flatMap_cons]
      exact congrArg _ (ih _ shorter read rfl)

/-- Bytes that are read as a text are the text encoded. -/
theorem encode_of_decode? (read : decode? a = some s) : encode s = a :=
  encodeChars_of_piecesFrom (decode?_eq_some.mp read)

theorem encode_append (s t : String) : encode (s ++ t) = encode s ++ encode t := by
  rw [encode, String.toList_append, encodeChars, List.flatMap_append]
  rfl

end SlideConverter.Text.Utf8
