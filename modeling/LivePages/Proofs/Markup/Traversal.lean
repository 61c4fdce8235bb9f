import LivePages.Proofs.Event.Focus
import LivePages.Proofs.Markup.Replacement

/-!
# Looking for live elements

Four functions go through a tree by themselves: the walk that changes attributes, the two
that collect ids, one of them from a stack, and the search for an id.  All of them meet
the same elements, which are those at places that no inert element is around.  What
stands at any other place makes no difference to them.
-/

namespace LivePages.Markup

open EventIndex

/-! ## Live places -/

def Element.node (e : Element) : Node := .element e.tag e.attributes e.children

namespace Frame

/-- Whether no inert element stands around the gap, near or far. -/
def isLive : Frame → Bool
  | here .. => true
  | inside _ tag _ inner _ => !isInert tag && inner.isLive

theorem isLive_behind (node : Node) (frame : Frame) :
    (frame.behind node).isLive = frame.isLive := by
  cases frame <;> rfl

end Frame

theorem liveElements_append (first second : List Node) :
    liveElements (first ++ second) = liveElements first ++ liveElements second := by
  induction first using liveInduction with
  | nil => rw [List.nil_append, liveElements, List.nil_append]
  | other node rest noElement inductionHypothesis =>
      rw [List.cons_append, liveElements_other _ noElement, liveElements_other _ noElement,
        inductionHypothesis]
  | inert tag attributes children rest closed inductionHypothesis =>
      rw [List.cons_append, liveElements_inert _ _ _ closed, liveElements_inert _ _ _ closed,
        inductionHypothesis, List.cons_append]
  | live tag attributes children rest opened _ laterHypothesis =>
      rw [List.cons_append, liveElements_live _ _ _ opened, liveElements_live _ _ _ opened,
        laterHypothesis, List.cons_append, List.append_assoc]

theorem mem_liveElements_self (e : Element) (rest : List Node) :
    e ∈ liveElements (e.node :: rest) := by
  rw [Element.node, liveElements]
  exact List.mem_cons_self

theorem Frame.mem_liveElements_fill {e : Element} {frame : Frame} (live : frame.isLive = true) :
    e ∈ liveElements (frame.fill [e.node]) := by
  induction frame with
  | here before after =>
      rw [fill, liveElements_append]
      exact List.mem_append_right _ (mem_liveElements_self e after)
  | inside before tag attributes inner after inductionHypothesis =>
      rw [isLive, Bool.and_eq_true, Bool.not_eq_true'] at live
      rw [fill, liveElements_append, liveElements_live _ _ _ live.1]
      apply List.mem_append_right
      apply List.mem_cons_of_mem
      exact List.mem_append_left _ (inductionHypothesis live.2)

theorem exists_frame {nodes : List Node} {e : Element} (member : e ∈ liveElements nodes) :
    ∃ frame : Frame, frame.isLive = true ∧ nodes = frame.fill [e.node] := by
  have behind : ∀ (node : Node) {rest : List Node},
      (∃ frame : Frame, frame.isLive = true ∧ rest = frame.fill [e.node]) →
        ∃ frame : Frame, frame.isLive = true ∧ node :: rest = frame.fill [e.node] := by
    rintro node _ ⟨frame, live, rfl⟩
    exact ⟨frame.behind node, (frame.isLive_behind node).trans live,
      (frame.fill_behind node _).symm⟩
  induction nodes using liveInduction with
  | nil =>
      rw [liveElements] at member
      cases member
  | other node rest noElement inductionHypothesis =>
      rw [liveElements_other _ noElement] at member
      exact behind node (inductionHypothesis member)
  | inert tag attributes children rest closed inductionHypothesis =>
      rw [liveElements_inert _ _ _ closed, List.mem_cons] at member
      rcases member with rfl | later
      · exact ⟨.here [] rest, rfl, rfl⟩
      · exact behind _ (inductionHypothesis later)
  | live tag attributes children rest opened withinHypothesis laterHypothesis =>
      rw [liveElements_live _ _ _ opened, List.mem_cons, List.mem_append] at member
      rcases member with rfl | within | later
      · exact ⟨.here [] rest, rfl, rfl⟩
      · obtain ⟨frame, live, rfl⟩ := withinHypothesis within
        exact ⟨.inside [] tag attributes frame rest, by simp [Frame.isLive, opened, live], rfl⟩
      · exact behind _ (laterHypothesis later)

theorem mem_liveElements_iff {nodes : List Node} {e : Element} :
    e ∈ liveElements nodes ↔
      ∃ frame : Frame, frame.isLive = true ∧ nodes = frame.fill [e.node] := by
  refine ⟨exists_frame, ?_⟩
  rintro ⟨frame, live, rfl⟩
  exact frame.mem_liveElements_fill live

/-! ## The walk -/

section Walk

variable {σ : Type} (change : String → List Attribute → σ → List Attribute × σ)

/-- What a visitor comes to that is shown elements one after the other. -/
def shown (elements : List Element) (s : σ) : σ :=
  elements.foldl (fun s e => (change e.tag e.attributes s).2) s

theorem mapLive_shown (nodes : List Node) (s : σ) :
    (mapLive change nodes s).2 = shown change (liveElements nodes) s := by
  induction nodes using liveInduction generalizing s with
  | nil => rw [mapLive, liveElements, shown, List.foldl_nil]
  | other node rest noElement inductionHypothesis =>
      rw [mapLive_other noElement, liveElements_other _ noElement]
      exact inductionHypothesis s
  | inert tag attributes children rest closed inductionHypothesis =>
      rw [mapLive_element rfl, if_pos closed, liveElements_inert _ _ _ closed]
      exact inductionHypothesis _
  | live tag attributes children rest opened withinHypothesis laterHypothesis =>
      rw [mapLive_element rfl, if_neg (by simp [opened]), liveElements_live _ _ _ opened]
      dsimp only
      rw [laterHypothesis, withinHypothesis, shown, shown, shown, List.foldl_cons,
        List.foldl_append]

theorem mapLive_append (first second : List Node) (s : σ) :
    mapLive change (first ++ second) s =
      let front := mapLive change first s
      let back := mapLive change second front.2
      (front.1 ++ back.1, back.2) := by
  induction first generalizing s with
  | nil =>
      rw [List.nil_append, mapLive]
      rfl
  | cons node first inductionHypothesis =>
      by_cases isElement : ∃ tag attributes children, node = .element tag attributes children
      · obtain ⟨tag, attributes, children, rfl⟩ := isElement
        rw [List.cons_append, mapLive_element rfl, mapLive_element rfl]
        dsimp only
        rw [inductionHypothesis]
        rfl
      · simp only [not_exists] at isElement
        rw [List.cons_append, mapLive_other isElement, mapLive_other isElement,
          inductionHypothesis]
        rfl

/-- A walk puts back what stands below an inert element, and is the same whatever it is. -/
theorem Frame.exists_walked {frame : Frame} (below : frame.isLive = false) (s : σ) :
    ∃ (around : Frame) (t : σ), ∀ nodes,
      mapLive change (frame.fill nodes) s = (around.fill nodes, t) := by
  induction frame generalizing s with
  | here before after => cases below
  | inside before tag attributes inner after inductionHypothesis =>
      rcases visited : change tag attributes (mapLive change before s).2 with ⟨changed, t⟩
      cases closed : isInert tag with
      | true =>
          refine ⟨.inside (mapLive change before s).1 tag changed inner (mapLive change after t).1,
            (mapLive change after t).2, fun nodes => ?_⟩
          rw [fill, mapLive_append]
          dsimp only
          rw [mapLive_element visited, if_pos closed]
          rfl
      | false =>
          have innerBelow : inner.isLive = false := by simpa [isLive, closed] using below
          obtain ⟨around, u, within⟩ := inductionHypothesis innerBelow t
          refine ⟨.inside (mapLive change before s).1 tag changed around (mapLive change after u).1,
            (mapLive change after u).2, fun nodes => ?_⟩
          rw [fill, mapLive_append]
          dsimp only
          rw [mapLive_element visited, if_neg (by simp [closed]), within]
          rfl

end Walk

/-! ## What cannot be seen -/

/-- What a walk shows of an element. -/
def Element.face (e : Element) : String × List Attribute := (e.tag, e.attributes)

/-- A visitor that notes the face of each element it is shown. -/
def noteFace (tag : String) (attributes : List Attribute)
    (faces : List (String × List Attribute)) :
    List Attribute × List (String × List Attribute) :=
  (attributes, faces ++ [(tag, attributes)])

theorem shown_noteFace (elements : List Element) (faces : List (String × List Attribute)) :
    shown noteFace elements faces = faces ++ elements.map Element.face := by
  induction elements generalizing faces with
  | nil => simp [shown]
  | cons e elements inductionHypothesis =>
      rw [shown, List.foldl_cons, ← shown, inductionHypothesis]
      simp [noteFace, Element.face]

/-- The faces of the live elements do not tell what stands below an inert one. -/
theorem Frame.exists_faces {frame : Frame} (below : frame.isLive = false) :
    ∃ faces, ∀ nodes, (liveElements (frame.fill nodes)).map Element.face = faces := by
  obtain ⟨around, faces, walked⟩ := frame.exists_walked noteFace below []
  refine ⟨faces, fun nodes => ?_⟩
  rw [← List.nil_append ((liveElements _).map _), ← shown_noteFace, ← mapLive_shown, walked]

theorem liveIds_eq_faces (nodes : List Node) :
    liveIds nodes = ((liveElements nodes).map Element.face).filterMap fun face => idOf? face.2 := by
  rw [liveIds_eq, List.filterMap_map]
  rfl

theorem findById?_face (id : String) (nodes : List Node) :
    (findById? id nodes).map Element.face =
      ((liveElements nodes).map Element.face).find? fun face => idOf? face.2 = some id := by
  rw [findById?_eq, List.find?_map]
  rfl

/-- Whether what stands in the gap makes no difference to a walk, which puts it back as it
was, nor to what is collected, nor to which element is found. -/
structure Frame.Hides (frame : Frame) : Prop where
  walk : ∀ {σ : Type} (change : String → List Attribute → σ → List Attribute × σ) (s : σ),
    ∃ (around : Frame) (t : σ), ∀ nodes,
      mapLive change (frame.fill nodes) s = (around.fill nodes, t)
  taken : ∃ ids : List String, ∀ nodes id, id ∈ authoredIds (frame.fill nodes) ↔ id ∈ ids
  listed : ∃ ids, ∀ nodes, liveIds (frame.fill nodes) = ids
  found : ∀ id, ∃ face?, ∀ nodes, (findById? id (frame.fill nodes)).map Element.face = face?

theorem Frame.hides {frame : Frame} (below : frame.isLive = false) : frame.Hides := by
  obtain ⟨faces, same⟩ := frame.exists_faces below
  have listed : ∀ nodes, liveIds (frame.fill nodes) = faces.filterMap fun face => idOf? face.2 := by
    intro nodes
    rw [liveIds_eq_faces, same]
  refine ⟨fun change s => frame.exists_walked change below s, ?_, ⟨_, listed⟩, fun id => ?_⟩
  · refine ⟨faces.filterMap fun face => idOf? face.2, fun nodes id => ?_⟩
    rw [mem_authoredIds, listed]
  · refine ⟨faces.find? fun face => idOf? face.2 = some id, fun nodes => ?_⟩
    rw [findById?_face, same]

/-! ## Ids -/

theorem Element.id?_eq_some_iff {e : Element} {id : String} :
    e.id? = some id ↔ id ≠ "" ∧ e.attribute? "id" = some id := by
  rw [Element.id?, idOf?, Option.filter_eq_some_iff, Element.attribute?]
  simp [and_comm]

theorem mem_liveIds_iff {nodes : List Node} {id : String} :
    id ∈ liveIds nodes ↔ ∃ e ∈ liveElements nodes, e.id? = some id := by
  rw [liveIds_eq, List.mem_filterMap]

/-- All that go through a tree agree.  A walk shows its visitor the live elements, which
are those at live places, in the order in which they open.  The ids that are taken are
the ids among them that are not empty, and all of these are listed in the same order.  An
element is found exactly for such an id, and it is the first that has it.  And nobody
sees what stands below an inert element, at whatever depth. -/
theorem traversals_agree (nodes : List Node) :
    (∀ {σ : Type} (change : String → List Attribute → σ → List Attribute × σ) (s : σ),
      (mapLive change nodes s).2 = shown change (liveElements nodes) s) ∧
    (∀ e, e ∈ liveElements nodes ↔
      ∃ frame : Frame, frame.isLive = true ∧ nodes = frame.fill [e.node]) ∧
    (∀ id, id ∈ authoredIds nodes ↔
      id ≠ "" ∧ ∃ e ∈ liveElements nodes, e.attribute? "id" = some id) ∧
    liveIds nodes = (liveElements nodes).filterMap Element.id? ∧
    (∀ id, (findById? id nodes).isSome = true ↔ id ≠ "" ∧ id ∈ liveIds nodes) ∧
    (∀ id e, findById? id nodes = some e → e.id? = some id ∧
      ∃ before after, liveElements nodes = before ++ e :: after ∧
        ∀ f ∈ before, f.id? ≠ some id) ∧
    ∀ frame : Frame, frame.isLive = false → frame.Hides := by
  refine ⟨fun change s => mapLive_shown change nodes s, fun e => mem_liveElements_iff,
    fun id => ?_, liveIds_eq nodes, fun id => ?_, fun id e found => ?_, fun frame => frame.hides⟩
  · simp only [mem_authoredIds, mem_liveIds_iff, Element.id?_eq_some_iff]
    exact ⟨fun ⟨e, member, filled, named⟩ => ⟨filled, e, member, named⟩,
      fun ⟨filled, e, member, named⟩ => ⟨e, member, filled, named⟩⟩
  · have filled : id ∈ liveIds nodes → id ≠ "" := by
      intro member
      obtain ⟨e, -, known⟩ := mem_liveIds_iff.1 member
      exact (Element.id?_eq_some_iff.1 known).1
    rw [and_iff_right_of_imp filled, findById?_eq, List.find?_isSome, mem_liveIds_iff]
    simp
  · rw [findById?_eq, List.find?_eq_some_iff_append] at found
    obtain ⟨known, before, after, shape, others⟩ := found
    exact ⟨by simpa using known, before, after, shape, by simpa using others⟩

/-- Of two elements with one id the first is found, and a template is found though what
stands in it is not. -/
example :
    let nodes : List Node :=
      [.element "template" [⟨"id", some "t"⟩]
          [.element "p" [] [.element "b" [⟨"id", some "x"⟩] []]],
        .element "p" [] [.element "i" [⟨"id", some "x"⟩] []], .element "u" [⟨"id", some "x"⟩] []]
    (findById? "x" nodes).map Element.tag = some "i" ∧ (findById? "t" nodes).isSome = true ∧
      liveIds nodes = ["t", "x", "x"] ∧ authoredIds nodes = ["t", "x"] := by
  decide +kernel

end LivePages.Markup
