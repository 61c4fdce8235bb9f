import LivePages.Json.Printer
import LivePages.Json.Reader

/-!
# Written numbers and strings read back

Digits are read as far as they go, so behind a number something has to follow that
is neither a digit nor another part of a number.  A string ends at its quote,
whatever follows.
-/

namespace LivePages.Json

/-- What stands behind a value in a text without blanks: nothing, or the end of an
item. -/
def EndsValue (rest : List Char) : Prop :=
  ∀ c ∈ rest.head?, c = ',' ∨ c = ']' ∨ c = '\x7d'

/-! ## Numbers -/

theorem le_ofDigitChars (ds : List Char) (n : Nat) : n ≤ Nat.ofDigitChars 10 ds n := by
  induction ds generalizing n with
  | nil => exact Nat.le_refl n
  | cons c ds inductionHypothesis =>
      rw [Nat.ofDigitChars_cons]
      have later := inductionHypothesis (10 * n + (c.toNat - '0'.toNat))
      omega

theorem takeDigits_append {ds rest : List Char} (digits : ∀ c ∈ ds, c.isDigit = true)
    (ends : EndsValue rest) (n count : Nat)
    (fits : Nat.ofDigitChars 10 ds n < 0x10000000000000000) :
    takeDigits n count (ds ++ rest) =
      (Nat.ofDigitChars 10 ds n, count + ds.length, rest) := by
  induction ds generalizing n count with
  | nil =>
      cases rest with
      | nil => rfl
      | cons c rest =>
          have noDigit : c.isDigit = false := by
            rcases ends c rfl with rfl | rfl | rfl <;> decide
          rw [List.nil_append, takeDigits, noDigit]
          rfl
  | cons c ds inductionHypothesis =>
      rw [Nat.ofDigitChars_cons] at fits ⊢
      have small := Nat.lt_of_le_of_lt (le_ofDigitChars ds _) fits
      have digit := digits c List.mem_cons_self
      have later : ∀ d ∈ ds, d.isDigit = true :=
        fun d member => digits d (List.mem_cons_of_mem c member)
      rw [List.cons_append, takeDigits, digit, if_pos (by simpa using small),
        inductionHypothesis later _ _ fits, List.length_cons, Nat.add_right_comm,
        Nat.add_assoc]

/-- The digits of a positive number start with another digit than zero. -/
theorem toDigits_of_pos {n : Nat} (positive : 0 < n) :
    ∃ c ds, Nat.toDigits 10 n = c :: ds ∧ c.isDigit = true ∧ c ≠ '0' := by
  induction n using Nat.strongRecOn with
  | _ n inductionHypothesis =>
      by_cases small : n < 10
      · refine ⟨n.digitChar, [], Nat.toDigits_of_lt_base small, ?_, ?_⟩
        · rw [Nat.isDigit_digitChar]
          exact decide_eq_true small
        · rw [Ne, Nat.digitChar_eq_zero]
          omega
      · obtain ⟨c, ds, written, digit, notZero⟩ :=
          inductionHypothesis (n / 10) (by omega) (by omega)
        refine ⟨c, ds ++ [(n % 10).digitChar], ?_, digit, notZero⟩
        rw [Nat.toDigits_of_base_le (by decide) (by omega), written]
        rfl

theorem readTail_of_ends {rest : List Char} (ends : EndsValue rest)
    (negative : Bool) (n count : Nat) :
    readTail negative n count rest = some (integerNumber negative n, rest) := by
  cases rest with
  | nil => rfl
  | cons c rest =>
      rcases ends c rfl with rfl | rfl | rfl <;> simp [readTail]

/-- With or without a sign, digits other than a zero in front are taken as far as
they go. -/
theorem readNumber?_cons {c : Char} (digit : c.isDigit = true) (notZero : c ≠ '0')
    {cs rest : List Char} {n count : Nat} (taken : takeDigits 0 0 (c :: cs) = (n, count, rest)) :
    readNumber? (c :: cs) = readTail false n count rest ∧
      readNumber? ('-' :: c :: cs) = readTail true n count rest := by
  constructor
  · rw [readNumber?, if_pos digit, taken]
    · exact notZero
    · rintro more same
      cases same
      contradiction
  · rw [readNumber?, if_pos digit, taken]
    exact notZero

/-- The digits of a number are read to their end. -/
theorem readNumber?_digits {rest : List Char} (ends : EndsValue rest) {n : Nat}
    (fits : n < 0x10000000000000000) :
    readNumber? (Nat.toDigits 10 n ++ rest) = some (integerNumber false n, rest) ∧
      readNumber? ('-' :: (Nat.toDigits 10 n ++ rest)) =
        some (integerNumber true n, rest) := by
  by_cases zero : n = 0
  · subst zero
    exact ⟨readTail_of_ends ends false 0 0, readTail_of_ends ends true 0 0⟩
  · obtain ⟨c, ds, written, digit, notZero⟩ := toDigits_of_pos (Nat.pos_of_ne_zero zero)
    have value : Nat.ofDigitChars 10 (c :: ds) 0 = n := by
      rw [← written]
      exact Nat.ofDigitChars_toDigits (by decide) (by decide)
    have digits : ∀ d ∈ c :: ds, d.isDigit = true := by
      rw [← written]
      exact fun d member => Nat.isDigit_of_mem_toDigits (by decide) (by decide) member
    have taken := takeDigits_append digits ends 0 0 (by rwa [value])
    rw [value] at taken
    obtain ⟨unsigned, signed⟩ := readNumber?_cons digit notZero taken
    rw [readTail_of_ends ends] at unsigned signed
    rw [written]
    exact ⟨unsigned, signed⟩

/-- Integers of 64 bits, with or without a sign. -/
def IsInteger (n : Int) : Prop := -0x8000000000000000 ≤ n ∧ n < 0x10000000000000000

instance (n : Int) : Decidable (IsInteger n) :=
  inferInstanceAs (Decidable (_ ∧ _))

theorem numberText_ofNat (n : Nat) :
    numberText (.int (.ofNat n)) = Nat.toDigits 10 n := by
  rw [numberText, Int.toString_eq_repr, Int.repr, Nat.repr_eq_ofList_toDigits,
    String.toList_ofList]

theorem numberText_negSucc (n : Nat) :
    numberText (.int (.negSucc n)) = '-' :: Nat.toDigits 10 (n + 1) := by
  rw [numberText, Int.toString_eq_repr, Int.repr, Nat.repr_eq_ofList_toDigits,
    String.toList_append, String.toList_ofList, String.toList_ofList]
  rfl

theorem numberText_head (n : Int) :
    ∃ c rest, numberText (.int n) = c :: rest ∧ (c.isDigit = true ∨ c = '-') := by
  cases n with
  | ofNat n =>
      rw [numberText_ofNat]
      cases written : Nat.toDigits 10 n with
      | nil => exact absurd written Nat.toDigits_ne_nil
      | cons c ds =>
          have member : c ∈ Nat.toDigits 10 n := written ▸ List.mem_cons_self
          exact ⟨c, ds, rfl,
            .inl (Nat.isDigit_of_mem_toDigits (by decide) (by decide) member)⟩
  | negSucc n => exact ⟨'-', _, numberText_negSucc n, .inr rfl⟩

theorem readNumber?_write {n : Int} (isInteger : IsInteger n) {rest : List Char}
    (ends : EndsValue rest) :
    readNumber? (numberText (.int n) ++ rest) = some (.int n, rest) := by
  obtain ⟨low, high⟩ := isInteger
  cases n with
  | ofNat n =>
      have fits : n < 0x10000000000000000 := Int.ofNat_lt.1 high
      rw [numberText_ofNat, (readNumber?_digits ends fits).1]
      rfl
  | negSucc n =>
      have fits : n + 1 < 0x10000000000000000 := by omega
      have inRange : ¬ (n + 1 = 0 ∨ 0x8000000000000000 < n + 1) := by omega
      have isInt : integerNumber true (n + 1) = .int (.negSucc n) := by
        rw [integerNumber, Bool.not_true, if_neg Bool.false_ne_true, if_neg inRange]
        rfl
      rw [numberText_negSucc, List.cons_append, (readNumber?_digits ends fits).2, isInt]

/-! ## Strings -/

theorem hexUnit?_of_control :
    ∀ n < 32, hexUnit? '0' '0' (hexDigit (n / 16)) (hexDigit (n % 16)) = some n := by
  decide

theorem readChars?_escapeChar (c : Char) (rest : List Char) :
    readChars? (escapeChar c ++ rest) = put c (readChars? rest) := by
  unfold escapeChar
  split
  iterate 7 rfl
  by_cases control : c.toNat < 32
  · have unit := hexUnit?_of_control c.toNat control
    have basic : c.toNat < 0xD800 ∨ 0xE000 ≤ c.toNat := .inl (by omega)
    rw [if_pos control]
    simp only [List.cons_append, List.nil_append]
    rw [readChars?, unit]
    dsimp only
    rw [if_pos basic, Char.ofNat_toNat]
  · rename_i noQuote noBackslash _ _ _ _ _
    have plain : ¬ (c = '\\' ∨ c < ' ') := by
      rintro (same | low)
      · exact noBackslash same
      · exact control low
    rw [if_neg control, List.singleton_append, readChars?, if_neg plain]
    · exact noQuote
    · exact fun _ _ _ _ _ same => (noBackslash same).elim
    · exact fun _ _ same => (noBackslash same).elim

theorem readString?_quote (s : String) (rest : List Char) :
    readString? (s.toList.flatMap escapeChar ++ '"' :: rest) = some (s, rest) := by
  have chars : ∀ cs : List Char,
      readChars? (cs.flatMap escapeChar ++ '"' :: rest) = some (cs, rest) := by
    intro cs
    induction cs with
    | nil => rfl
    | cons c cs inductionHypothesis =>
        rw [List.flatMap_cons, List.append_assoc, readChars?_escapeChar,
          inductionHypothesis]
        rfl
  rw [readString?, chars, Option.map_some]
  dsimp only
  rw [String.ofList_toList]

end LivePages.Json
