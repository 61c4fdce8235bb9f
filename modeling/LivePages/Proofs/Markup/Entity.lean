import LivePages.Markup.Entity

/-!
# Entities in one pass

The entities of a text are replaced one kind after the other.  No replacement makes or
breaks an entity of a kind that comes later: entities do not overlap, no two start at one
place, and only the last kind is replaced by a character that stands in entities.  So all
replacements together read the text once, from left to right, and nothing is decoded twice.
Each character of an escaped value is read back by itself.
-/

namespace LivePages.Markup

/-! ## Replacement -/

theorem replaceAll_start (first : Char) (more replacement rest : List Char) :
    replaceAll first more replacement (first :: (more ++ rest)) =
      replacement ++ replaceAll first more replacement rest := by
  rw [replaceAll]
  simp

theorem replaceAll_cons_of_absent {first c : Char} {more rest : List Char}
    (absent : ¬ first :: more <+: c :: rest) (replacement : List Char) :
    replaceAll first more replacement (c :: rest) =
      c :: replaceAll first more replacement rest := by
  rw [replaceAll, if_neg]
  rw [Bool.and_eq_true, decide_eq_true_eq, List.isPrefixOf_iff_prefix]
  rintro ⟨rfl, starts⟩
  exact absent ((List.prefix_cons_inj c).2 starts)

theorem replaceAll_cons_of_ne {first c : Char} (different : c ≠ first)
    (more replacement rest : List Char) :
    replaceAll first more replacement (c :: rest) =
      c :: replaceAll first more replacement rest :=
  replaceAll_cons_of_absent
    (fun starts => different (List.cons_prefix_cons.1 starts).1.symm) replacement

/-- A stretch without the first character of what is replaced stays. -/
theorem replaceAll_append {first : Char} {stretch : List Char} (free : first ∉ stretch)
    (more replacement rest : List Char) :
    replaceAll first more replacement (stretch ++ rest) =
      stretch ++ replaceAll first more replacement rest := by
  induction stretch with
  | nil => rfl
  | cons c stretch inductionHypothesis =>
      rw [List.mem_cons, not_or] at free
      rw [List.cons_append, replaceAll_cons_of_ne (Ne.symm free.1),
        inductionHypothesis free.2, List.cons_append]

/-- A text starts with the same stretches before and after a replacement, as far as they
hold neither the first character of what is replaced nor what it is replaced by. -/
theorem prefix_replaceAll_iff {first new : Char} {stretch : List Char}
    (free : first ∉ stretch) (unmade : new ∉ stretch) (more cs : List Char) :
    stretch <+: replaceAll first more [new] cs ↔ stretch <+: cs := by
  constructor
  · intro starts
    induction stretch generalizing cs with
    | nil => exact List.nil_prefix
    | cons p stretch inductionHypothesis =>
        rw [List.mem_cons, not_or] at free unmade
        cases cs with
        | nil =>
            rw [replaceAll] at starts
            exact starts
        | cons c rest =>
            by_cases found : first :: more <+: c :: rest
            · obtain ⟨behind, split⟩ := found
              rw [← split, List.cons_append, replaceAll_start] at starts
              exact absurd (List.cons_prefix_cons.1 starts).1 (Ne.symm unmade.1)
            · rw [replaceAll_cons_of_absent found] at starts
              obtain ⟨rfl, later⟩ := List.cons_prefix_cons.1 starts
              exact (List.prefix_cons_inj p).2
                (inductionHypothesis free.2 unmade.2 rest later)
  · rintro ⟨behind, rfl⟩
    rw [replaceAll_append free]
    exact List.prefix_append _ _

/-! ## Decoding in one pass -/

/-- Decodes the entities of a text in one pass from left to right. What an entity is
decoded to is not read again. -/
def decodeOnce : List Char → List Char
  | '&' :: 'q' :: 'u' :: 'o' :: 't' :: ';' :: rest => '"' :: decodeOnce rest
  | '&' :: '#' :: '3' :: '9' :: ';' :: rest => '\'' :: decodeOnce rest
  | '&' :: 'a' :: 'p' :: 'o' :: 's' :: ';' :: rest => '\'' :: decodeOnce rest
  | '&' :: 'l' :: 't' :: ';' :: rest => '<' :: decodeOnce rest
  | '&' :: 'g' :: 't' :: ';' :: rest => '>' :: decodeOnce rest
  | '&' :: 'a' :: 'm' :: 'p' :: ';' :: rest => '&' :: decodeOnce rest
  | c :: rest => c :: decodeOnce rest
  | [] => []

/-- A text that is cut into entities of a table and characters where none of them starts,
and what it is decoded to. -/
inductive Decodes (table : List (List Char × Char)) : List Char → List Char → Prop
  | nil : Decodes table [] []
  | entity {name : List Char} {c : Char} {rest out : List Char} :
      (name, c) ∈ table → Decodes table rest out →
      Decodes table ('&' :: (name ++ rest)) (c :: out)
  | plain {c : Char} {rest out : List Char} :
      (∀ entity ∈ table, ¬ '&' :: entity.1 <+: c :: rest) → Decodes table rest out →
      Decodes table (c :: rest) (c :: out)

/-- Whether an entity may be replaced everywhere before another one: they start at
different places, do not overlap, and the first is replaced by no part of the other. -/
structure Precedes (entity later : List Char × Char) : Prop where
  notBefore : ¬ entity.1 <+: later.1
  notBehind : ¬ later.1 <+: entity.1
  free : '&' ∉ later.1
  unmade : entity.2 ∉ '&' :: later.1

instance (entity later : List Char × Char) : Decidable (Precedes entity later) :=
  decidable_of_iff
    ((¬ entity.1 <+: later.1 ∧ ¬ later.1 <+: entity.1) ∧
      '&' ∉ later.1 ∧ entity.2 ∉ '&' :: later.1)
    ⟨fun ⟨⟨notBefore, notBehind⟩, free, unmade⟩ => ⟨notBefore, notBehind, free, unmade⟩,
      fun ⟨notBefore, notBehind, free, unmade⟩ => ⟨⟨notBefore, notBehind⟩, free, unmade⟩⟩

namespace Precedes

variable {entity later : List Char × Char} (precedes : Precedes entity later)

include precedes

theorem not_start (rest : List Char) :
    ¬ '&' :: entity.1 <+: '&' :: (later.1 ++ rest) := by
  intro starts
  rcases List.prefix_or_prefix_of_prefix ((List.prefix_cons_inj '&').1 starts)
      (List.prefix_append later.1 rest) with inside | inside
  · exact precedes.notBefore inside
  · exact precedes.notBehind inside

/-- What the first is replaced by does not start the other. -/
theorem not_prefix_made (rest : List Char) : ¬ '&' :: later.1 <+: entity.2 :: rest := by
  intro starts
  obtain ⟨same, -⟩ := List.cons_prefix_cons.1 starts
  exact precedes.unmade (same ▸ List.mem_cons_self)

/-- Where the other does not start, it does not start after the replacement. -/
theorem not_prefix_replaceAll {c : Char} {rest : List Char}
    (absent : ¬ '&' :: later.1 <+: c :: rest) :
    ¬ '&' :: later.1 <+: c :: replaceAll '&' entity.1 [entity.2] rest := by
  have unmade : entity.2 ∉ later.1 :=
    fun member => precedes.unmade (List.mem_cons_of_mem '&' member)
  rw [List.cons_prefix_cons, prefix_replaceAll_iff precedes.free unmade,
    ← List.cons_prefix_cons]
  exact absent

end Precedes

namespace Decodes

/-- Once the first entity of a table is replaced everywhere, a pass over the others does
what a pass over all of them did. -/
theorem replaceFirst {entity : List Char × Char} {table : List (List Char × Char)}
    (precedes : ∀ later ∈ table, Precedes entity later) {cs out : List Char}
    (decodes : Decodes (entity :: table) cs out) :
    Decodes table (replaceAll '&' entity.1 [entity.2] cs) out := by
  induction decodes with
  | nil =>
      rw [replaceAll]
      exact .nil
  | @entity name c rest out member _ inductionHypothesis =>
      rcases List.mem_cons.1 member with rfl | member
      · rw [replaceAll_start]
        exact .plain (fun later inside => (precedes later inside).not_prefix_made _)
          inductionHypothesis
      · have before := precedes (name, c) member
        rw [replaceAll_cons_of_absent (before.not_start rest),
          replaceAll_append before.free]
        exact .entity member inductionHypothesis
  | plain absent _ inductionHypothesis =>
      obtain ⟨first, others⟩ := List.forall_mem_cons.1 absent
      rw [replaceAll_cons_of_absent first]
      refine .plain (fun later inside => ?_) inductionHypothesis
      exact (precedes later inside).not_prefix_replaceAll (others later inside)

theorem eq_of_nil {cs out : List Char} (decodes : Decodes [] cs out) : cs = out := by
  induction decodes with
  | nil => rfl
  | entity member => cases member
  | plain _ _ inductionHypothesis => rw [inductionHypothesis]

/-- Replacing one entity after the other comes to one pass over the table. -/
theorem foldl {table : List (List Char × Char)} (ordered : table.Pairwise Precedes)
    {cs out : List Char} (decodes : Decodes table cs out) :
    table.foldl (fun text (name, c) => replaceAll '&' name [c] text) cs = out := by
  induction table generalizing cs with
  | nil => exact decodes.eq_of_nil
  | cons entity table inductionHypothesis =>
      obtain ⟨precedes, later⟩ := List.pairwise_cons.1 ordered
      exact inductionHypothesis later (decodes.replaceFirst precedes)

theorem decodeEntities_eq {cs out : List Char} (decodes : Decodes entities cs out) :
    decodeEntities cs = out :=
  decodes.foldl (by decide)

end Decodes

theorem decodes_decodeOnce (cs : List Char) : Decodes entities cs (decodeOnce cs) := by
  fun_induction decodeOnce cs with
  | case1 rest inductionHypothesis =>
      have quot : (['q', 'u', 'o', 't', ';'], '"') ∈ entities := by decide
      exact .entity quot inductionHypothesis
  | case2 rest inductionHypothesis =>
      have numeral : (['#', '3', '9', ';'], '\'') ∈ entities := by decide
      exact .entity numeral inductionHypothesis
  | case3 rest inductionHypothesis =>
      have apos : (['a', 'p', 'o', 's', ';'], '\'') ∈ entities := by decide
      exact .entity apos inductionHypothesis
  | case4 rest inductionHypothesis =>
      have lt : (['l', 't', ';'], '<') ∈ entities := by decide
      exact .entity lt inductionHypothesis
  | case5 rest inductionHypothesis =>
      have gt : (['g', 't', ';'], '>') ∈ entities := by decide
      exact .entity gt inductionHypothesis
  | case6 rest inductionHypothesis =>
      have amp : (['a', 'm', 'p', ';'], '&') ∈ entities := by decide
      exact .entity amp inductionHypothesis
  | case7 c rest noQuot noNumeral noApos noLt noGt noAmp inductionHypothesis =>
      refine .plain (fun entity member starts => ?_) inductionHypothesis
      obtain ⟨rfl, behind, rfl⟩ := List.cons_prefix_cons.1 starts
      simp only [entities, List.mem_cons, List.not_mem_nil, or_false] at member
      rcases member with rfl | rfl | rfl | rfl | rfl | rfl
      · exact noQuot behind rfl rfl
      · exact noNumeral behind rfl rfl
      · exact noApos behind rfl rfl
      · exact noLt behind rfl rfl
      · exact noGt behind rfl rfl
      · exact noAmp behind rfl rfl
  | case8 => exact .nil

/-! ## Escaping -/

/-- How a character of a value is written before its quotes are escaped. -/
def escapeAmpersand : Char → List Char
  | '&' => ['&', 'a', 'm', 'p', ';']
  | c => [c]

theorem replaceAll_ampersand (cs : List Char) :
    replaceAll '&' [] ['&', 'a', 'm', 'p', ';'] cs = cs.flatMap escapeAmpersand := by
  induction cs with
  | nil => rw [replaceAll, List.flatMap_nil]
  | cons c cs inductionHypothesis =>
      rw [List.flatMap_cons, ← inductionHypothesis, escapeAmpersand.eq_def]
      split
      · exact replaceAll_start '&' [] _ cs
      · rename_i noAmpersand
        exact replaceAll_cons_of_ne noAmpersand _ _ cs

theorem replaceAll_quote (cs : List Char) :
    replaceAll '"' [] ['&', 'q', 'u', 'o', 't', ';'] (cs.flatMap escapeAmpersand) =
      escapeAttribute cs := by
  induction cs with
  | nil => rw [List.flatMap_nil, replaceAll, escapeAttribute, List.flatMap_nil]
  | cons c cs inductionHypothesis =>
      rw [escapeAttribute, List.flatMap_cons, List.flatMap_cons, ← escapeAttribute,
        ← inductionHypothesis, escapeEntity.eq_def]
      split
      · exact replaceAll_append (by decide) _ _ _
      · exact replaceAll_start '"' [] _ _
      · rename_i noAmpersand noQuote
        have alone : escapeAmpersand c = [c] := by
          rw [escapeAmpersand]
          exact noAmpersand
        rw [alone]
        exact replaceAll_cons_of_ne noQuote _ _ _

/-- Escaping too comes to two replacements, of ampersands before quotes. -/
theorem escapeAttribute_eq_replaceAll (cs : List Char) :
    escapeAttribute cs =
      replaceAll '"' [] ['&', 'q', 'u', 'o', 't', ';']
        (replaceAll '&' [] ['&', 'a', 'm', 'p', ';'] cs) := by
  rw [replaceAll_ampersand, replaceAll_quote]

theorem decodes_escape (cs : List Char) : Decodes entities (escapeAttribute cs) cs := by
  induction cs with
  | nil => exact .nil
  | cons c cs inductionHypothesis =>
      rw [escapeAttribute, List.flatMap_cons, ← escapeAttribute, escapeEntity.eq_def]
      split
      · have amp : (['a', 'm', 'p', ';'], '&') ∈ entities := by decide
        exact .entity amp inductionHypothesis
      · have quot : (['q', 'u', 'o', 't', ';'], '"') ∈ entities := by decide
        exact .entity quot inductionHypothesis
      · rename_i noAmpersand _
        refine .plain (fun entity _ starts => ?_) inductionHypothesis
        exact noAmpersand (List.cons_prefix_cons.1 starts).1.symm

/-- Decoding undoes escaping. -/
theorem decode_escape (cs : List Char) :
    decodeEntities (escapeAttribute cs) = cs :=
  (decodes_escape cs).decodeEntities_eq

/-- Replacing the entities of a text one kind after the other decodes it in one pass, and
decodes an escaped value to what it was. -/
theorem entities_decoded_once :
    (∀ text, decodeEntities text = decodeOnce text) ∧
      ∀ value, decodeEntities (escapeAttribute value) = value :=
  ⟨fun text => (decodes_decodeOnce text).decodeEntities_eq, decode_escape⟩

example : decodeOnce "&amp;lt; &&gt;".toList = "&lt; &>".toList := by decide

end LivePages.Markup
