import Mathlib
import LivePages.Event.Index
import LivePages.Proofs.Decimal.Numeral

/-!
# Numbers for elements without an id

The numbers are given out in the order in which elements open.  Each is the next one
after the last whose numeral is not the id of a live element, so that they ascend and
leave out nothing else.  A tree before and after it is numbered is a relation of its
own: the two differ in the first `id` attribute of the numbered elements, and nowhere
else.
-/

namespace LivePages.EventIndex

open Markup
open Decimal (toList_toString_ne_nil toString_injective)

/-! ## The next free number -/

theorem toString_ne_empty (n : Nat) : toString n ≠ "" := by
  intro empty
  exact toList_toString_ne_nil n (congrArg String.toList empty)

/-- The first number after `last` whose numeral is not taken. -/
structure IsNext (taken : List String) (last n : Nat) : Prop where
  after : last < n
  free : toString n ∉ taken
  least : ∀ m, last < m → m < n → toString m ∈ taken

/-- The taken numerals are too few to fill the stretch that is searched. -/
theorem exists_free (taken : List String) (last : Nat) :
    ∃ i < taken.length + 1, toString (last + 1 + i) ∉ taken := by
  by_contra! allTaken
  have distinct :
      ((List.range (taken.length + 1)).map fun i => toString (last + 1 + i)).Nodup := by
    apply List.nodup_range.map
    intro i j same
    have equal := toString_injective same
    omega
  have inside :
      ((List.range (taken.length + 1)).map fun i => toString (last + 1 + i)) ⊆ taken := by
    intro numeral member
    obtain ⟨i, isSmall, rfl⟩ := List.mem_map.1 member
    exact allTaken i (List.mem_range.1 isSmall)
  have short := (List.subperm_of_subset distinct inside).length_le
  rw [List.length_map, List.length_range] at short
  omega

theorem isNext_freshNumber (taken : List String) (last : Nat) :
    IsNext taken last (freshNumber taken last) := by
  obtain ⟨i, isSmall, free⟩ := exists_free taken last
  unfold freshNumber
  dsimp only
  rw [List.find?_map]
  cases found : (List.range (taken.length + 1)).find?
      ((fun n => !taken.contains (toString n)) ∘ (last + 1 + ·)) with
  | none =>
      have isTaken := List.find?_eq_none.1 found i (List.mem_range.2 isSmall)
      exact absurd (by simpa using isTaken) free
  | some j =>
      obtain ⟨isFree, -, earlier⟩ := List.find?_range_eq_some.1 found
      rw [Option.map_some, Option.getD_some]
      refine ⟨by omega, by simpa using isFree, ?_⟩
      intro m above below
      have isTaken := earlier (m - (last + 1)) (by omega)
      have shape : last + 1 + (m - (last + 1)) = m := by omega
      simpa [shape] using isTaken

/-! ## One number after the other -/

/-- Counting on from `last` to `final`, each time to the next number that is free. -/
inductive CountsOn (taken : List String) : Nat → List Nat → Nat → Prop where
  | done (last : Nat) : CountsOn taken last [] last
  | next {last n final : Nat} {numbers : List Nat} (first : IsNext taken last n)
    (later : CountsOn taken n numbers final) : CountsOn taken last (n :: numbers) final

variable {taken : List String} {last middle final : Nat} {numbers more : List Nat}

theorem CountsOn.append (front : CountsOn taken last numbers middle)
    (back : CountsOn taken middle more final) :
    CountsOn taken last (numbers ++ more) final := by
  induction front with
  | done => exact back
  | next first _ inductionHypothesis => exact .next first (inductionHypothesis back)

theorem CountsOn.above (counts : CountsOn taken last numbers final) :
    ∀ n ∈ numbers, last < n := by
  induction counts with
  | done => exact fun _ member => nomatch member
  | next first _ inductionHypothesis =>
      intro n member
      rcases List.mem_cons.1 member with rfl | isLater
      · exact first.after
      · exact Nat.lt_trans first.after (inductionHypothesis n isLater)

theorem CountsOn.ascending (counts : CountsOn taken last numbers final) :
    numbers.Pairwise (· < ·) := by
  induction counts with
  | done => exact .nil
  | next _ later inductionHypothesis => exact .cons later.above inductionHypothesis

/-- What is counted, up to any of the numbers, is what is free. -/
theorem CountsOn.mem_iff (counts : CountsOn taken last numbers final) :
    ∀ n ∈ numbers, ∀ m, last < m → m ≤ n → (m ∈ numbers ↔ toString m ∉ taken) := by
  induction counts with
  | done => exact fun _ member => nomatch member
  | @next last first final numbers isNext later inductionHypothesis =>
      intro n member m above below
      rcases Nat.lt_trichotomy m first with before | rfl | behind
      · have isTaken := isNext.least m above before
        have notCounted : m ∉ first :: numbers := by
          intro counted
          rcases List.mem_cons.1 counted with rfl | isLater
          · exact Nat.lt_irrefl _ before
          · exact Nat.lt_asymm before (later.above m isLater)
        exact iff_of_false notCounted (not_not_intro isTaken)
      · exact iff_of_true List.mem_cons_self isNext.free
      · have isLater : n ∈ numbers := by
          rcases List.mem_cons.1 member with rfl | isLater
          · exact absurd below (Nat.not_le_of_lt behind)
          · exact isLater
        rw [List.mem_cons, or_iff_right (Nat.ne_of_gt behind)]
        exact inductionHypothesis n isLater m behind below

/-- Numbers that ascend from one on and leave out exactly those whose numerals are
taken. -/
structure SkipsTaken (taken : List String) (numbers : List Nat) : Prop where
  positive : ∀ n ∈ numbers, 0 < n
  ascending : numbers.Pairwise (· < ·)
  leavesOut : ∀ n ∈ numbers, ∀ m, 0 < m → m ≤ n → (m ∈ numbers ↔ toString m ∉ taken)

theorem CountsOn.skipsTaken (counts : CountsOn taken 0 numbers final) :
    SkipsTaken taken numbers :=
  ⟨counts.above, counts.ascending, counts.mem_iff⟩

theorem SkipsTaken.nodup (skips : SkipsTaken taken numbers) :
    (numbers.map toString).Nodup :=
  List.Nodup.map toString_injective (skips.ascending.imp Nat.ne_of_lt)

theorem SkipsTaken.free (skips : SkipsTaken taken numbers) :
    ∀ n ∈ numbers, toString n ∉ taken := by
  intro n member
  exact (skips.leavesOut n member n (skips.positive n member) (Nat.le_refl n)).1 member

/-- Only which numerals are taken matters. -/
theorem SkipsTaken.congr {others : List String} (skips : SkipsTaken taken numbers)
    (same : ∀ numeral, numeral ∈ taken ↔ numeral ∈ others) : SkipsTaken others numbers := by
  refine ⟨skips.positive, skips.ascending, fun n member m above below => ?_⟩
  rw [← same]
  exact skips.leavesOut n member m above below

/-! ## Numbered trees -/

/-- The attributes of an element before and after its turn, with the number it is
given, if any.  The number is written into the first `id` attribute, or behind the
others if there is none. -/
inductive Labels : List Attribute → List Nat → List Attribute → Prop where
  | kept {attributes : List Attribute} {id : String} (known : idOf? attributes = some id) :
    Labels attributes [] attributes
  | filled {front : List Attribute} {value : Option String} (back : List Attribute)
    (absent : ∀ a ∈ front, a.name ≠ "id") (empty : value.getD "" = "") (n : Nat) :
    Labels (front ++ ⟨"id", value⟩ :: back) [n]
      (front ++ ⟨"id", some (toString n)⟩ :: back)
  | added {attributes : List Attribute} (absent : ∀ a ∈ attributes, a.name ≠ "id")
    (n : Nat) : Labels attributes [n] (attributes ++ [⟨"id", some (toString n)⟩])

/-- A tree before and after its live elements without an id are numbered, with the
numbers in the order in which the elements open. -/
inductive Numbered : List Node → List Nat → List Node → Prop where
  | nil : Numbered [] [] []
  /-- A text or a comment. -/
  | other {node : Node} (noElement : ∀ tag attributes children,
      node ≠ .element tag attributes children) {rest after : List Node} {numbers : List Nat}
    (later : Numbered rest numbers after) : Numbered (node :: rest) numbers (node :: after)
  | inert {tag : String} {attributes changed : List Attribute} (children : List Node)
    {rest after : List Node} {own outer : List Nat} (closed : isInert tag = true)
    (labels : Labels attributes own changed) (later : Numbered rest outer after) :
    Numbered (.element tag attributes children :: rest) (own ++ outer)
      (.element tag changed children :: after)
  | live {tag : String} {attributes changed : List Attribute}
    {children inside rest after : List Node} {own inner outer : List Nat}
    (opened : isInert tag = false) (labels : Labels attributes own changed)
    (within : Numbered children inner inside) (later : Numbered rest outer after) :
    Numbered (.element tag attributes children :: rest) (own ++ (inner ++ outer))
      (.element tag changed inside :: after)

theorem idOf?_append_id {front : List Attribute} (absent : ∀ a ∈ front, a.name ≠ "id")
    (value : Option String) (back : List Attribute) :
    idOf? (front ++ ⟨"id", value⟩ :: back) =
      if value.getD "" = "" then none else some (value.getD "") := by
  have noId : front.find? (fun a => decide (a.name = "id")) = none := by
    simpa using absent
  rw [idOf?, attributeValue?, List.find?_append, noId, List.find?_cons_of_pos (by simp)]
  by_cases empty : value.getD "" = ""
  · simp [Attribute.valueOrEmpty, empty]
  · simp [Attribute.valueOrEmpty, empty]

theorem idOf?_of_absent {attributes : List Attribute}
    (absent : ∀ a ∈ attributes, a.name ≠ "id") : idOf? attributes = none := by
  have noId : attributes.find? (fun a => decide (a.name = "id")) = none := by
    simpa using absent
  rw [idOf?, attributeValue?, noId]
  rfl

theorem ne_empty_of_idOf? {attributes : List Attribute} {id : String}
    (known : idOf? attributes = some id) : id ≠ "" := by
  rw [idOf?, Option.filter_eq_some_iff] at known
  simpa using known.2

/-- An element has an id after its turn: the one it had, or the numeral it is given. -/
theorem Labels.exists_id {attributes changed : List Attribute} {own : List Nat}
    (labels : Labels attributes own changed) :
    ∃ id, idOf? changed = some id ∧
      own.map toString ++ (idOf? attributes).toList = [id] := by
  cases labels with
  | kept known => exact ⟨_, known, by rw [known]; rfl⟩
  | filled back absent empty n =>
      refine ⟨toString n, ?_, ?_⟩
      · rw [idOf?_append_id absent, Option.getD_some, if_neg (toString_ne_empty n)]
      · rw [idOf?_append_id absent, if_pos empty]
        rfl
  | added absent n =>
      refine ⟨toString n, ?_, ?_⟩
      · rw [idOf?_append_id absent, Option.getD_some, if_neg (toString_ne_empty n)]
      · rw [idOf?_of_absent absent]
        rfl

theorem idOf?_cons_of_ne {a : Attribute} (other : a.name ≠ "id")
    (attributes : List Attribute) : idOf? (a :: attributes) = idOf? attributes := by
  rw [idOf?, attributeValue?, List.find?_cons_of_neg (by simpa using other)]
  rfl

theorem Labels.cons {a : Attribute} {attributes changed : List Attribute} {own : List Nat}
    (other : a.name ≠ "id") (labels : Labels attributes own changed) :
    Labels (a :: attributes) own (a :: changed) := by
  cases labels with
  | kept known => exact .kept ((idOf?_cons_of_ne other attributes).trans known)
  | filled back absent empty n =>
      exact .filled back (List.forall_mem_cons.2 ⟨other, absent⟩) empty n
  | added absent n => exact .added (List.forall_mem_cons.2 ⟨other, absent⟩) n

theorem labels_setAttribute {attributes : List Attribute} (unknown : idOf? attributes = none)
    (n : Nat) : Labels attributes [n] (setAttribute "id" (toString n) attributes) := by
  induction attributes with
  | nil => exact .added (by simp) n
  | cons a attributes inductionHypothesis =>
      rw [setAttribute]
      by_cases same : a.name = "id"
      · obtain ⟨name, value⟩ := a
        cases same
        have empty : value.getD "" = "" := by
          by_contra filled
          rw [← List.nil_append (_ :: attributes), idOf?_append_id (by simp),
            if_neg filled] at unknown
          cases unknown
        rw [if_pos rfl]
        have nothing : ∀ b ∈ ([] : List Attribute), b.name ≠ "id" := by simp
        exact .filled attributes nothing empty n
      · rw [idOf?_cons_of_ne same] at unknown
        rw [if_neg same]
        exact (inductionHypothesis unknown).cons same

theorem Labels.eq_of_id {attributes changed : List Attribute} {own : List Nat} {id : String}
    (labels : Labels attributes own changed) (known : idOf? attributes = some id) :
    own = [] ∧ changed = attributes := by
  cases labels with
  | kept => exact ⟨rfl, rfl⟩
  | filled back absent empty n =>
      rw [idOf?_append_id absent, if_pos empty] at known
      cases known
  | added absent n =>
      rw [idOf?_of_absent absent] at known
      cases known

/-! ## Live elements -/

section LiveElements

variable {tag : String} (attributes : List Attribute) (children rest : List Node)

theorem liveElements_other {node : Node}
    (noElement : ∀ tag attributes children, node ≠ .element tag attributes children) :
    liveElements (node :: rest) = liveElements rest := by
  rw [liveElements]
  exact noElement

theorem liveElements_inert (closed : isInert tag = true) :
    liveElements (.element tag attributes children :: rest) =
      ⟨tag, attributes, children⟩ :: liveElements rest := by
  rw [liveElements, if_pos closed, List.nil_append]

theorem liveElements_live (opened : isInert tag = false) :
    liveElements (.element tag attributes children :: rest) =
      ⟨tag, attributes, children⟩ :: (liveElements children ++ liveElements rest) := by
  rw [liveElements, if_neg (by simp [opened])]

end LiveElements

theorem ids_cons (tag : String) (attributes : List Attribute) (children : List Node)
    (elements : List Element) :
    (Element.mk tag attributes children :: elements).filterMap Element.id? =
      (idOf? attributes).toList ++ elements.filterMap Element.id? := by
  cases known : idOf? attributes <;> simp [Element.id?, known]

/-- A fact about all trees, shown node by node: what stands inside an inert element is of
no account. -/
theorem liveInduction {P : List Node → Prop} (nil : P [])
    (other : ∀ node rest, (∀ tag attributes children, node ≠ .element tag attributes children) →
      P rest → P (node :: rest))
    (inert : ∀ tag attributes children rest, isInert tag = true → P rest →
      P (.element tag attributes children :: rest))
    (live : ∀ tag attributes children rest, isInert tag = false → P children → P rest →
      P (.element tag attributes children :: rest)) :
    (nodes : List Node) → P nodes
  | [] => nil
  | .text text :: rest => other _ _ (by simp) (liveInduction nil other inert live rest)
  | .comment text :: rest => other _ _ (by simp) (liveInduction nil other inert live rest)
  | .element tag attributes children :: rest =>
    if closed : isInert tag = true then
      inert tag attributes children rest closed (liveInduction nil other inert live rest)
    else
      live tag attributes children rest (by simpa using closed)
        (liveInduction nil other inert live children) (liveInduction nil other inert live rest)

theorem liveIds_eq (nodes : List Node) :
    liveIds nodes = (liveElements nodes).filterMap Element.id? := by
  induction nodes using liveInduction with
  | nil => rw [liveIds, liveElements, List.filterMap_nil]
  | other node rest noElement inductionHypothesis =>
      rw [liveIds, liveElements_other _ noElement, inductionHypothesis]
      exact noElement
  | inert tag attributes children rest closed inductionHypothesis =>
      rw [liveIds, if_pos closed, liveElements_inert _ _ _ closed, ids_cons, inductionHypothesis,
        List.nil_append]
  | live tag attributes children rest opened withinHypothesis laterHypothesis =>
      rw [liveIds, if_neg (by simp [opened]), liveElements_live _ _ _ opened, ids_cons,
        List.filterMap_append, withinHypothesis, laterHypothesis]

theorem liveIds_cons (node : Node) (rest : List Node) :
    liveIds (node :: rest) = liveIds [node] ++ liveIds rest := by
  cases node <;> simp [liveIds]

theorem mem_liveIds_pushAll {id : String} (nodes stack : List Node) :
    id ∈ liveIds (pushAll nodes stack) ↔ id ∈ liveIds nodes ∨ id ∈ liveIds stack := by
  induction nodes generalizing stack with
  | nil => simp [pushAll, liveIds]
  | cons node nodes inductionHypothesis =>
      rw [pushAll, inductionHypothesis, liveIds_cons node stack, liveIds_cons node nodes,
        List.mem_append, List.mem_append]
      exact or_left_comm.trans or_assoc.symm

/-- What is gathered from a stack is what a walk over it meets, in whatever order. -/
theorem mem_gatherIds {id : String} (stack : List Node) (ids : List String) :
    id ∈ gatherIds stack ids ↔ id ∈ ids ∨ id ∈ liveIds stack := by
  induction stack, ids using gatherIds.induct with
  | case1 ids => simp [gatherIds, liveIds]
  | case2 tag attributes children stack ids more inductionHypothesis =>
      have added : id ∈ more ↔ id ∈ ids ∨ id ∈ (idOf? attributes).toList := by
        unfold more
        cases idOf? attributes with
        | none => simp
        | some own => simp [or_comm]
      rw [dite_eq_ite] at inductionHypothesis
      rw [gatherIds]
      refine inductionHypothesis.trans ?_
      rw [added, liveIds]
      by_cases closed : isInert tag = true
      · simp [closed, or_assoc]
      · simp [closed, or_assoc, mem_liveIds_pushAll]
  | case3 node stack ids noElement inductionHypothesis =>
      rw [gatherIds, inductionHypothesis, liveIds]
      all_goals exact noElement

/-- The ids that are taken are those of the live elements, though the stack meets them in
another order. -/
theorem mem_authoredIds {nodes : List Node} {id : String} :
    id ∈ authoredIds nodes ↔ id ∈ liveIds nodes := by
  rw [authoredIds, mem_gatherIds, mem_liveIds_pushAll]
  simp [liveIds]

/-- The ids of elements, the first of which has been given its id. -/
theorem Labels.ids_cons {tag : String} {attributes changed : List Attribute} {own : List Nat}
    (labels : Labels attributes own changed) (children : List Node)
    (elements : List Element) :
    (Element.mk tag changed children :: elements).filterMap Element.id? =
      own.map toString ++ ((idOf? attributes).toList ++ elements.filterMap Element.id?) := by
  obtain ⟨id, known, shape⟩ := labels.exists_id
  rw [← List.append_assoc, shape, List.filterMap_cons, Element.id?, known]
  rfl

variable {nodes after : List Node}

/-- The ids afterwards are the numerals given out and the ids that were there. -/
theorem Numbered.liveIds_perm (numbered : Numbered nodes numbers after) :
    (liveIds after).Perm (numbers.map toString ++ liveIds nodes) := by
  simp only [liveIds_eq, List.perm_iff_count]
  induction numbered with
  | nil => exact fun _ => rfl
  | other noElement _ inductionHypothesis =>
      rwa [liveElements_other _ noElement, liveElements_other _ noElement]
  | inert children closed labels _ inductionHypothesis =>
      intro id
      rw [liveElements_inert _ _ _ closed, liveElements_inert _ _ _ closed,
        labels.ids_cons, ids_cons]
      have outer := inductionHypothesis id
      simp only [List.map_append, List.count_append] at outer ⊢
      omega
  | live opened labels _ _ withinHypothesis laterHypothesis =>
      intro id
      rw [liveElements_live _ _ _ opened, liveElements_live _ _ _ opened,
        labels.ids_cons, ids_cons]
      have inner := withinHypothesis id
      have outer := laterHypothesis id
      simp only [List.map_append, List.filterMap_append, List.count_append]
        at inner outer ⊢
      omega

theorem Numbered.exists_id (numbered : Numbered nodes numbers after) :
    ∀ e ∈ liveElements after, ∃ id, e.id? = some id := by
  induction numbered with
  | nil => simp [liveElements]
  | other noElement _ inductionHypothesis => rwa [liveElements_other _ noElement]
  | inert children closed labels _ inductionHypothesis =>
      obtain ⟨id, known, -⟩ := labels.exists_id
      rw [liveElements_inert _ _ _ closed]
      exact List.forall_mem_cons.2 ⟨⟨id, known⟩, inductionHypothesis⟩
  | live opened labels _ _ withinHypothesis laterHypothesis =>
      obtain ⟨id, known, -⟩ := labels.exists_id
      rw [liveElements_live _ _ _ opened]
      refine List.forall_mem_cons.2 ⟨⟨id, known⟩, ?_⟩
      exact List.forall_mem_append.2 ⟨withinHypothesis, laterHypothesis⟩

theorem Numbered.eq_of_ids (numbered : Numbered nodes numbers after)
    (named : ∀ e ∈ liveElements nodes, ∃ id, e.id? = some id) :
    numbers = [] ∧ after = nodes := by
  induction numbered with
  | nil => exact ⟨rfl, rfl⟩
  | other noElement _ inductionHypothesis =>
      rw [liveElements_other _ noElement] at named
      obtain ⟨rfl, rfl⟩ := inductionHypothesis named
      exact ⟨rfl, rfl⟩
  | inert children closed labels _ inductionHypothesis =>
      rw [liveElements_inert _ _ _ closed] at named
      obtain ⟨⟨id, known⟩, namedLater⟩ := List.forall_mem_cons.1 named
      obtain ⟨rfl, rfl⟩ := inductionHypothesis namedLater
      obtain ⟨rfl, rfl⟩ := labels.eq_of_id known
      exact ⟨rfl, rfl⟩
  | live opened labels _ _ withinHypothesis laterHypothesis =>
      rw [liveElements_live _ _ _ opened] at named
      obtain ⟨⟨id, known⟩, namedOthers⟩ := List.forall_mem_cons.1 named
      obtain ⟨namedWithin, namedLater⟩ := List.forall_mem_append.1 namedOthers
      obtain ⟨rfl, rfl⟩ := withinHypothesis namedWithin
      obtain ⟨rfl, rfl⟩ := laterHypothesis namedLater
      obtain ⟨rfl, rfl⟩ := labels.eq_of_id known
      exact ⟨rfl, rfl⟩

end LivePages.EventIndex
