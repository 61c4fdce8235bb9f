import LivePages.Template

/-!
# Templates between texts

A text without a dollar sign that is put in front of a template or behind it stays a
text of its own: it neither starts nor ends an interpolation.  The one way in which the
two could join is a dollar sign at the end of the template and a brace right behind it.
-/

namespace LivePages.Template

variable {σ : Type} {cs : List Char}

/-! ## Looking for interpolations -/

theorem splitStart?_cons {c : Char} {rest : List Char}
    (noStart : c = '$' → rest.head? ≠ some '\x7b') :
    splitStart? (c :: rest) =
      (splitStart? rest).map fun (before, inside) => (c :: before, inside) := by
  rw [splitStart?]
  rintro inside rfl rfl
  exact noStart rfl rfl

theorem splitStart?_of_notMem (text : List Char) (noDollar : '$' ∉ text) :
    splitStart? text = none := by
  induction text with
  | nil => rfl
  | cons c text inductionHypothesis =>
      obtain ⟨other, later⟩ := not_or.1 (mt List.mem_cons.2 noDollar)
      rw [splitStart?_cons fun same => absurd same.symm other, inductionHypothesis later]
      rfl

/-- A text does not join what stands in front of it to an interpolation. -/
def Joins (cs text : List Char) : Prop :=
  cs.getLast? = some '$' → text.head? ≠ some '\x7b'

theorem Joins.of_suffix {after text : List Char} (joins : Joins cs text)
    (suffix : after <:+ cs) : Joins after text := by
  intro last
  apply joins
  obtain ⟨front, rfl⟩ := suffix
  rw [List.getLast?_append, last]
  rfl

/-- Behind a text without interpolations, the first one is looked for in what follows. -/
theorem splitStart?_append_joins (noStart : splitStart? cs = none) {text : List Char}
    (joins : Joins cs text) :
    splitStart? (cs ++ text) =
      (splitStart? text).map fun (before, inside) => (cs ++ before, inside) := by
  induction cs with
  | nil => simp
  | cons c cs inductionHypothesis =>
      have apart : c = '$' → cs.head? ≠ some '\x7b' := by
        rintro rfl brace
        cases cs with
        | nil => cases brace
        | cons d cs =>
            cases brace
            cases noStart
      rw [splitStart?_cons apart, Option.map_eq_none_iff] at noStart
      have later := inductionHypothesis noStart (joins.of_suffix (List.suffix_cons c cs))
      rw [List.cons_append, splitStart?_cons, later]
      · simp [Function.comp_def]
      · intro dollar
        cases cs with
        | nil => exact joins (by rw [dollar]; rfl)
        | cons d cs => exact apart dollar

theorem splitStart?_append_left {text : List Char} (noDollar : '$' ∉ text)
    (cs : List Char) :
    splitStart? (text ++ cs) =
      (splitStart? cs).map fun (before, inside) => (text ++ before, inside) := by
  apply splitStart?_append_joins (splitStart?_of_notMem text noDollar)
  intro last
  exact absurd (List.mem_of_getLast? last) noDollar

theorem splitStart?_append_of_none {text : List Char} (noDollar : '$' ∉ text)
    (joins : Joins cs text) (noStart : splitStart? cs = none) :
    splitStart? (cs ++ text) = none := by
  rw [splitStart?_append_joins noStart joins, splitStart?_of_notMem text noDollar]
  rfl

theorem splitStart?_append {before inside : List Char}
    (started : splitStart? cs = some (before, inside)) (text : List Char) :
    splitStart? (cs ++ text) = some (before, inside ++ text) := by
  fun_induction splitStart? cs generalizing before with
  | case1 => cases started
  | case2 rest =>
      cases started
      rfl
  | case3 c rest noStart inductionHypothesis =>
      obtain ⟨⟨front, after⟩, found, same⟩ := Option.map_eq_some_iff.1 started
      cases same
      rw [List.cons_append, splitStart?_cons, inductionHypothesis found]
      · rfl
      · rintro rfl brace
        cases rest with
        | nil => cases found
        | cons d rest =>
            cases brace
            exact noStart rest rfl rfl

theorem suffix_of_splitStart? {before inside : List Char}
    (started : splitStart? cs = some (before, inside)) : inside <:+ cs := by
  fun_induction splitStart? cs generalizing before with
  | case1 => cases started
  | case2 rest =>
      cases started
      exact ⟨['$', '\x7b'], rfl⟩
  | case3 c rest noStart inductionHypothesis =>
      obtain ⟨⟨front, after⟩, found, same⟩ := Option.map_eq_some_iff.1 started
      cases same
      exact (inductionHypothesis found).trans (List.suffix_cons c rest)

/-- What is looked for behind a character of an interpolation, unless the character
ends it. -/
def scan (depth : Nat) (quote : Option Char) (escaped : Bool) (c : Char) :
    Option (Nat × Option Char × Bool) :=
  match quote with
  | some q =>
    if escaped then some (depth, quote, false)
    else if c = '\\' then some (depth, quote, true)
    else some (depth, if c = q then none else quote, false)
  | none =>
    match c with
    | '\'' | '"' | '\x60' => some (depth, some c, false)
    | '\x7b' => some (depth + 1, none, false)
    | '\x7d' => if depth = 0 then none else some (depth - 1, none, false)
    | _ => some (depth, none, false)

theorem splitBody?_cons (depth : Nat) (quote : Option Char) (escaped : Bool) (c : Char)
    (rest : List Char) :
    splitBody? depth quote escaped (c :: rest) =
      match scan depth quote escaped c with
      | none => some ([], rest)
      | some (depth, quote, escaped) =>
        (splitBody? depth quote escaped rest).map fun (body, after) =>
          (c :: body, after) := by
  rw [splitBody?.eq_def, scan.eq_def]
  cases quote with
  | some q =>
      dsimp only
      split
      · rfl
      · split <;> rfl
  | none =>
      dsimp only
      split
      · rfl
      · rfl
      · rfl
      · rfl
      · split <;> rfl
      · simp_all

/-- What ends an interpolation does not depend on what follows. -/
theorem splitBody?_append {depth : Nat} {quote : Option Char} {escaped : Bool}
    {body after : List Char}
    (ended : splitBody? depth quote escaped cs = some (body, after)) (text : List Char) :
    splitBody? depth quote escaped (cs ++ text) = some (body, after ++ text) := by
  induction cs generalizing depth quote escaped body with
  | nil => cases ended
  | cons c cs inductionHypothesis =>
      rw [List.cons_append, splitBody?_cons]
      rw [splitBody?_cons] at ended
      cases next : scan depth quote escaped c with
      | none =>
          rw [next] at ended
          cases ended
          rfl
      | some state =>
          rw [next] at ended
          obtain ⟨⟨inside, behind⟩, found, same⟩ := Option.map_eq_some_iff.1 ended
          cases same
          dsimp only
          rw [inductionHypothesis found]
          rfl

theorem suffix_of_splitBody? {depth : Nat} {quote : Option Char} {escaped : Bool}
    {body after : List Char}
    (ended : splitBody? depth quote escaped cs = some (body, after)) : after <:+ cs := by
  induction cs generalizing depth quote escaped body with
  | nil => cases ended
  | cons c cs inductionHypothesis =>
      rw [splitBody?_cons] at ended
      cases next : scan depth quote escaped c with
      | none =>
          rw [next] at ended
          cases ended
          exact List.suffix_cons c after
      | some state =>
          rw [next] at ended
          obtain ⟨⟨inside, behind⟩, found, same⟩ := Option.map_eq_some_iff.1 ended
          cases same
          exact (inductionHypothesis found).trans (List.suffix_cons c cs)

/-! ## Segments -/

theorem segmentsOf_of_none (noStart : splitStart? cs = none) :
    segmentsOf cs = .ok (literals cs) := by
  rw [segmentsOf]
  split <;> simp_all

theorem segmentsOf_of_open {before inside : List Char}
    (started : splitStart? cs = some (before, inside))
    (noEnd : splitBody? 0 none false inside = none) :
    segmentsOf cs = .error (cs.drop before.length) := by
  rw [segmentsOf]
  split
  · simp_all
  · split <;> simp_all

theorem segmentsOf_of_some {before inside body after : List Char}
    (started : splitStart? cs = some (before, inside))
    (ended : splitBody? 0 none false inside = some (body, after)) :
    segmentsOf cs =
      (segmentsOf after).map fun more =>
        literals before ++
          .expr (String.ofList (Markup.decodeEntities (Text.trim body))) :: more := by
  rw [segmentsOf]
  split
  · simp_all
  · split <;> simp_all

section Rendering

variable (engine : Evaluator σ) (locals : Locals)

theorem render_append (first second : List Segment) :
    render engine locals ⟨first ++ second⟩ = do
      let a ← render engine locals ⟨first⟩
      let b ← render engine locals ⟨second⟩
      return a ++ b := by
  simp [render, List.mapM_append, String.join_append]

theorem render_literals (text : List Char) :
    render engine locals ⟨literals text⟩ = pure (String.ofList text) := by
  unfold literals
  cases text with
  | nil => rfl
  | cons c text => simp [render, Segment.render]

end Rendering

/-- Segments that emit what others emit, between two texts. -/
def Encloses (left right : List Char) (inner outer : List Segment) : Prop :=
  ∀ (σ : Type) (engine : Evaluator σ) (locals : Locals),
    render engine locals ⟨outer⟩ =
      (fun h => String.ofList left ++ h ++ String.ofList right) <$>
        render engine locals ⟨inner⟩

variable {text : List Char} {inner outer : List Segment}

theorem encloses_literals_left (text cs : List Char) :
    Encloses text [] (literals cs) (literals (text ++ cs)) := by
  intro σ engine locals
  simp [render_literals, String.ofList_append]

theorem encloses_literals_right (text cs : List Char) :
    Encloses [] text (literals cs) (literals (cs ++ text)) := by
  intro σ engine locals
  simp [render_literals, String.ofList_append]

theorem Encloses.behind (encloses : Encloses text [] inner outer)
    (more : List Segment) : Encloses text [] (inner ++ more) (outer ++ more) := by
  intro σ engine locals
  rw [render_append, render_append, encloses σ engine locals]
  simp only [map_eq_pure_bind, bind_assoc, pure_bind, String.ofList_nil,
    String.append_empty, String.append_assoc]

theorem Encloses.inFront (encloses : Encloses [] text inner outer)
    (more : List Segment) : Encloses [] text (more ++ inner) (more ++ outer) := by
  intro σ engine locals
  rw [render_append, render_append, encloses σ engine locals]
  simp [String.append_assoc]

theorem segmentsOf_append_left (noDollar : '$' ∉ text)
    (parsed : segmentsOf cs = .ok inner) :
    ∃ outer, segmentsOf (text ++ cs) = .ok outer ∧ Encloses text [] inner outer := by
  have start := splitStart?_append_left noDollar cs
  cases found : splitStart? cs with
  | none =>
      rw [segmentsOf_of_none found] at parsed
      cases parsed
      rw [found] at start
      exact ⟨_, segmentsOf_of_none start, encloses_literals_left text cs⟩
  | some split =>
      obtain ⟨before, inside⟩ := split
      rw [found] at start
      cases closed : splitBody? 0 none false inside with
      | none =>
          rw [segmentsOf_of_open found closed] at parsed
          cases parsed
      | some ended =>
          obtain ⟨body, after⟩ := ended
          have again := segmentsOf_of_some start closed
          rw [segmentsOf_of_some found closed] at parsed
          cases later : segmentsOf after with
          | error rest =>
              rw [later] at parsed
              cases parsed
          | ok more =>
              rw [later] at parsed again
              cases parsed
              exact ⟨_, again, (encloses_literals_left text before).behind _⟩

/-- By induction on the interpolations: the text comes behind the last of them. -/
theorem segmentsOf_append_right (noDollar : '$' ∉ text) (joins : Joins cs text)
    (parsed : segmentsOf cs = .ok inner) :
    ∃ outer, segmentsOf (cs ++ text) = .ok outer ∧ Encloses [] text inner outer := by
  induction cs using segmentsOf.induct generalizing inner with
  | case1 cs found =>
      rw [segmentsOf_of_none found] at parsed
      cases parsed
      have start := splitStart?_append_of_none noDollar joins found
      exact ⟨_, segmentsOf_of_none start, encloses_literals_right text cs⟩
  | case2 cs before inside found noEnd =>
      rw [segmentsOf_of_open found noEnd] at parsed
      cases parsed
  | case3 cs before inside found body after closed inductionHypothesis =>
      have again := segmentsOf_of_some (splitStart?_append found text)
        (splitBody?_append closed text)
      rw [segmentsOf_of_some found closed] at parsed
      cases later : segmentsOf after with
      | error rest =>
          rw [later] at parsed
          cases parsed
      | ok more =>
          rw [later] at parsed
          cases parsed
          have suffix := (suffix_of_splitBody? closed).trans (suffix_of_splitStart? found)
          obtain ⟨outer, read, encloses⟩ :=
            inductionHypothesis (joins.of_suffix suffix) later
          rw [read] at again
          exact ⟨_, again, (encloses.inFront [.expr _]).inFront (literals before)⟩

end LivePages.Template
