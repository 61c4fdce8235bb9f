/-! Decimal texts as floats, rounded to the nearest. -/

namespace LivePages.Decimal

/-- The number a list of decimal digits stands for. -/
def natOfDigits (cs : List Char) : Nat :=
  cs.foldl (fun n c => 10 * n + (c.toNat - '0'.toNat)) 0

/-- The float nearest to `digits · 10 ^ exponent`. Sizes that no float reaches are cut off before
any power is formed. -/
def nearest (digits : Nat) (exponent : Int) : Float :=
  let size := (Nat.toDigits 10 digits).length + exponent
  if digits = 0 ∨ size < -400 then 0
  else if 400 < size then 1.0 / 0.0
  else if 0 ≤ exponent then Float.ofScientific digits false exponent.toNat
  else Float.ofScientific digits true (-exponent).toNat

private def readSign : List Char → Bool × List Char
  | '+' :: rest => (false, rest)
  | '-' :: rest => (true, rest)
  | rest => (false, rest)

/-- An exponent at the end of a number: nothing, or a mark, a sign and digits. -/
private def readExponent? : List Char → Option Int
  | [] => some 0
  | c :: rest =>
    let (negative, digits) := readSign rest
    if (c = 'e' ∨ c = 'E') ∧ digits ≠ [] ∧ digits.all Char.isDigit then
      let n : Int := natOfDigits digits
      some (if negative then -n else n)
    else none

private def readUnsigned? (cs : List Char) : Option Float :=
  match String.ofList (cs.map Char.toLower) with
  | "inf" | "infinity" => some (1.0 / 0.0)
  | "nan" => some (0.0 / 0.0)
  | _ =>
    let whole := cs.takeWhile Char.isDigit
    let rest := cs.dropWhile Char.isDigit
    let (places, tail) :=
      match rest with
      | '.' :: more => (more.takeWhile Char.isDigit, more.dropWhile Char.isDigit)
      | _ => ([], rest)
    if whole = [] ∧ places = [] then none
    else
      (readExponent? tail).map fun e => nearest (natOfDigits (whole ++ places)) (e - places.length)

/-- Reads a decimal number: a sign, digits with at most one point among or around them, an exponent.
The words for infinity and for `NaN` are numbers too. -/
def read? (cs : List Char) : Option Float :=
  let (negative, rest) := readSign cs
  (readUnsigned? rest).map fun f => if negative then -f else f

/-- Reads a natural number below `2 ^ 64`: digits after at most one plus sign. -/
def readIndex? (cs : List Char) : Option Nat :=
  let digits :=
    match cs with
    | '+' :: rest => rest
    | _ => cs
  if digits ≠ [] ∧ digits.all Char.isDigit ∧ natOfDigits digits < 0x10000000000000000 then
    some (natOfDigits digits)
  else none

/-! ## Digits and points -/

private theorem toLower_eq_self {c : Char} (digitOrPoint : c.isDigit = true ∨ c = '.') :
    c.toLower = c := by
  rcases digitOrPoint with digit | rfl
  · have outside : ¬ (c.val ≥ 'A'.val ∧ c.val ≤ 'Z'.val) := by
      simp only [Char.isDigit, Bool.and_eq_true, decide_eq_true_eq, UInt32.le_iff_toNat_le,
        ge_iff_le] at digit ⊢
      have nine : '9'.val.toNat < 'A'.val.toNat := by decide
      have last : c.val.toNat ≤ '9'.val.toNat := digit.2
      omega
    exact dif_neg outside
  · rfl

private theorem notWord {cs : List Char} (run : ∀ c ∈ cs, c.isDigit = true ∨ c = '.')
    (word : List Char) (spelled : word.any fun c => !c.isDigit && c != '.') :
    String.ofList (cs.map Char.toLower) ≠ String.ofList word := by
  intro same
  obtain ⟨c, member, foreign⟩ := List.any_eq_true.1 spelled
  have unchanged : cs.map Char.toLower = cs :=
    (List.map_congr_left fun c inside => toLower_eq_self (run c inside)).trans (List.map_id cs)
  rw [← String.ofList_injective same, unchanged] at member
  rcases run c member with digit | rfl
  · simp [digit] at foreign
  · simp at foreign

private theorem count_takeWhile_isDigit (cs : List Char) :
    (cs.takeWhile Char.isDigit).count '.' = 0 := by
  rw [List.count_eq_zero]
  intro member
  have isDigit := List.all_eq_true.1 List.all_takeWhile _ member
  exact absurd isDigit (by decide)

/-- Digits, behind which there is nothing or a point. -/
private theorem exists_digits {cs : List Char} (run : ∀ c ∈ cs, c.isDigit = true ∨ c = '.') :
    ∃ digits rest, cs = digits ++ rest ∧ cs.takeWhile Char.isDigit = digits ∧
      cs.dropWhile Char.isDigit = rest ∧ digits.count '.' = 0 ∧
      (rest = [] ∨ ∃ more, rest = '.' :: more ∧ ∀ c ∈ more, c.isDigit = true ∨ c = '.') := by
  refine ⟨_, _, List.takeWhile_append_dropWhile.symm, rfl, rfl,
    count_takeWhile_isDigit cs, ?_⟩
  induction cs with
  | nil => exact .inl rfl
  | cons c cs inductionHypothesis =>
      obtain ⟨first, later⟩ := List.forall_mem_cons.1 run
      rcases first with digit | rfl
      · rw [List.dropWhile_cons_of_pos digit]
        exact inductionHypothesis later
      · exact .inr ⟨cs, rfl, later⟩

private theorem isSome_readExponent?_iff {tail : List Char}
    (ends : tail = [] ∨ ∃ more, tail = '.' :: more ∧ ∀ c ∈ more, c.isDigit = true ∨ c = '.') :
    (readExponent? tail).isSome = true ↔ tail.count '.' = 0 := by
  rcases ends with rfl | ⟨more, rfl, -⟩
  · simp [readExponent?]
  · simp [readExponent?]

/-- Digits with points among them are a number if there is at most one point and a digit. -/
theorem isSome_read?_iff {cs : List Char} (run : ∀ c ∈ cs, c.isDigit = true ∨ c = '.')
    (digit : ∃ c ∈ cs, c.isDigit = true) : (read? cs).isSome = true ↔ cs.count '.' ≤ 1 := by
  have unsigned : readSign cs = (false, cs) := by
    unfold readSign
    split
    · simpa using run '+' List.mem_cons_self
    · simpa using run '-' List.mem_cons_self
    · rfl
  rw [read?, unsigned, Option.isSome_map, readUnsigned?]
  split
  · rename_i word
    exact absurd word (notWord run ['i', 'n', 'f'] (by decide))
  · rename_i word
    exact absurd word (notWord run "infinity".toList (by decide))
  · rename_i word
    exact absurd word (notWord run ['n', 'a', 'n'] (by decide))
  · obtain ⟨whole, rest, rfl, isWhole, isRest, noPoint, ends⟩ := exists_digits run
    rw [isWhole, isRest, List.count_append, noPoint]
    rcases ends with rfl | ⟨more, rfl, run'⟩
    · have filled : whole ≠ [] := by
        rintro rfl
        simp at digit
      simp [filled, readExponent?]
    · obtain ⟨places, tail, rfl, isPlaces, isTail, noPoint', ends⟩ := exists_digits run'
      simp only [isPlaces, isTail, List.count_cons_self, List.count_append, noPoint']
      by_cases bare : whole = [] ∧ places = []
      · obtain ⟨rfl, rfl⟩ := bare
        rcases ends with rfl | ⟨last, rfl, -⟩
        · simp at digit
        · simp
      · rw [if_neg bare, Option.isSome_map, isSome_readExponent?_iff ends]
        omega

end LivePages.Decimal
