import LivePages.Text.Basic

/-!
# Trimmed texts

Trimming takes the blanks from both ends of a text and nothing else: what is left starts
and ends with characters that are no blanks, and only blanks stood around it.
-/

namespace LivePages.Text

/-! ## Solid texts -/

theorem trimStart_cons_of_solid {c : Char} (solid : isBlank c = false) (cs : List Char) :
    trimStart (c :: cs) = c :: cs := by
  simp [trimStart, solid]

theorem trimStart_of_head {cs : List Char} (solid : ∀ c ∈ cs.head?, isBlank c = false) :
    trimStart cs = cs := by
  cases cs with
  | nil => rfl
  | cons c cs => exact trimStart_cons_of_solid (solid c rfl) cs

theorem trimStart_append_of_blank {blanks : List Char}
    (blank : ∀ c ∈ blanks, isBlank c = true) (cs : List Char) :
    trimStart (blanks ++ cs) = trimStart cs :=
  List.dropWhile_append_of_pos blank

/-! ## The specification -/

/-- Whether `inner` is `cs` without the blanks at both ends. -/
structure Trims (cs inner : List Char) : Prop where
  around : ∃ front back, cs = front ++ inner ++ back ∧
    (∀ c ∈ front, isBlank c = true) ∧ ∀ c ∈ back, isBlank c = true
  first : ∀ c ∈ inner.head?, isBlank c = false
  last : ∀ c ∈ inner.getLast?, isBlank c = false

theorem exists_blanks (cs : List Char) :
    ∃ front, cs = front ++ trimStart cs ∧ ∀ c ∈ front, isBlank c = true := by
  refine ⟨cs.takeWhile isBlank, ?_, List.all_eq_true.1 List.all_takeWhile⟩
  exact List.takeWhile_append_dropWhile.symm

theorem head_trimStart (cs : List Char) : ∀ c ∈ (trimStart cs).head?, isBlank c = false := by
  intro c first
  have stop := List.head?_dropWhile_not isBlank cs
  rw [← trimStart, Option.mem_def.1 first] at stop
  exact stop

theorem trims_trim (cs : List Char) : Trims cs (trim cs) := by
  obtain ⟨front, shape, frontBlank⟩ := exists_blanks cs
  obtain ⟨turned, turnedShape, turnedBlank⟩ := exists_blanks (trimStart cs).reverse
  have inside : trimStart cs = trim cs ++ turned.reverse := by
    rw [trim, trimEnd, ← List.reverse_append, ← turnedShape, List.reverse_reverse]
  constructor
  · refine ⟨front, turned.reverse, ?_, frontBlank, ?_⟩
    · rw [List.append_assoc, ← inside]
      exact shape
    · intro c member
      exact turnedBlank c (List.mem_reverse.1 member)
  · intro c first
    apply head_trimStart cs
    rw [inside, List.head?_append, Option.mem_def.1 first]
    rfl
  · rw [trim, trimEnd, List.getLast?_reverse]
    exact head_trimStart _

/-- There is one way to trim a text. -/
theorem trim_eq_iff {cs inner : List Char} : trim cs = inner ↔ Trims cs inner := by
  constructor
  · rintro rfl
    exact trims_trim cs
  · rintro ⟨⟨front, back, rfl, frontBlank, backBlank⟩, first, last⟩
    have turnedBlank : ∀ c ∈ back.reverse, isBlank c = true :=
      fun c member => backBlank c (List.mem_reverse.1 member)
    have turned : ∀ c ∈ inner.reverse.head?, isBlank c = false := by
      rw [List.head?_reverse]
      exact last
    rw [trim, trimEnd, List.append_assoc, trimStart_append_of_blank frontBlank]
    cases inner with
    | nil =>
        have nothing : trimStart (back ++ []) = [] := trimStart_append_of_blank backBlank []
        rw [List.nil_append, ← List.append_nil back, nothing]
        rfl
    | cons c inner =>
        rw [List.cons_append, trimStart_cons_of_solid (first c rfl), ← List.cons_append,
          List.reverse_append, trimStart_append_of_blank turnedBlank,
          trimStart_of_head turned, List.reverse_reverse]

/-- A text without blanks is left as it is. -/
theorem trim_of_solid {cs : List Char} (solid : ∀ c ∈ cs, isBlank c = false) :
    trim cs = cs := by
  refine trim_eq_iff.2 ⟨⟨[], [], by simp, by simp, by simp⟩, ?_, ?_⟩
  · exact fun c first => solid c (List.mem_of_mem_head? first)
  · exact fun c last => solid c (List.mem_of_mem_getLast? last)

/-! ## Texts that are written -/

/-- Blanks are trimmed from a text that is written character by character, if blanks are
written as they are and nothing else starts with one. -/
theorem trimStart_flatMap {write : Char → List Char}
    (blank : ∀ c, isBlank c = true → write c = [c])
    (solid : ∀ c, isBlank c = false →
      ∃ first more, write c = first :: more ∧ isBlank first = false)
    (cs : List Char) :
    trimStart (cs.flatMap write) = (trimStart cs).flatMap write := by
  induction cs with
  | nil => rfl
  | cons c cs inductionHypothesis =>
      cases kind : isBlank c with
      | true =>
          have shorter : ∀ rest, trimStart (c :: rest) = trimStart rest := by
            simp [trimStart, kind]
          rw [List.flatMap_cons, blank c kind, List.singleton_append, shorter, shorter,
            inductionHypothesis]
      | false =>
          obtain ⟨first, more, written, firstSolid⟩ := solid c kind
          rw [trimStart_cons_of_solid kind, List.flatMap_cons, written,
            List.cons_append, trimStart_cons_of_solid firstSolid]

/-- Trimming leaves all the characters that are no blanks. -/
theorem count_trim {mark : Char} (solid : isBlank mark = false) (cs : List Char) :
    (trim cs).count mark = cs.count mark := by
  have absent : ∀ {blanks : List Char}, (∀ c ∈ blanks, isBlank c = true) →
      blanks.count mark = 0 := by
    intro blanks blank
    rw [List.count_eq_zero]
    intro member
    rw [blank mark member] at solid
    cases solid
  obtain ⟨front, back, shape, frontBlank, backBlank⟩ := (trims_trim cs).around
  have parts : cs.count mark = front.count mark + (trim cs).count mark + back.count mark := by
    rw [← List.count_append, ← List.count_append, ← shape]
  rw [parts, absent frontBlank, absent backBlank, Nat.zero_add, Nat.add_zero]

end LivePages.Text
