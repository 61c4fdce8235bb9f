import LivePages.Proofs.Event.Indexing

/-!
# Documents and their focus

An element is looked up by its id among the live elements.  Indexing finds it again: the
numerals that are given out are the ids of no other elements, and the value of a field
only grows when elements inside it are numbered.  So the focus stays on a live element
and the caret inside its value, whatever is done to a document.
-/

namespace LivePages

/-! ## Elements by their ids -/

/-- The first live element with an id is found. -/
theorem Markup.findById?_eq (id : String) : (nodes : List Markup.Node) →
    Markup.findById? id nodes = (Markup.liveElements nodes).find? fun e => e.id? = some id
  | [] => by rw [findById?, liveElements, List.find?_nil]
  | .element tag attributes children :: rest => by
      rw [findById?]
      by_cases closed : isInert tag = true
      · rw [EventIndex.liveElements_inert _ _ _ closed, List.find?_cons, findById?_eq id rest]
        by_cases known : idOf? attributes = some id <;> simp [known, closed, Element.id?]
      · rw [EventIndex.liveElements_live _ _ _ (by simpa using closed), List.find?_cons,
          List.find?_append, findById?_eq id children, findById?_eq id rest, if_neg closed]
        generalize (liveElements children).find? (fun e => e.id? = some id) = inside
        by_cases known : idOf? attributes = some id
        · simp [known, Element.id?]
        · cases inside <;> simp [known, Element.id?]
  | .text _ :: rest => by
      rw [findById?, liveElements, findById?_eq id rest] <;> simp
  | .comment _ :: rest => by
      rw [findById?, liveElements, findById?_eq id rest] <;> simp

/-- The first live element with an id. -/
def Document.firstLive? (d : Document) (id : String) : Option Markup.Element :=
  (Markup.liveElements d.nodes).find? fun e => e.id? = some id

theorem Document.find?_eq (d : Document) (id : String) : d.find? id = d.firstLive? id :=
  Markup.findById?_eq id d.nodes

/-! ## Fields that are numbered -/

namespace EventIndex

open Markup

theorem Labels.length_le {attributes changed : List Attribute} {own : List Nat}
    (labels : Labels attributes own changed) :
    (attributes.flatMap writeAttribute).length ≤ (changed.flatMap writeAttribute).length := by
  cases labels with
  | kept => exact Nat.le_refl _
  | @filled front value back _ empty n =>
      have longer : (writeAttribute ⟨"id", value⟩).length ≤
          (writeAttribute ⟨"id", some (toString n)⟩).length := by
        cases value with
        | none => simp [writeAttribute]
        | some text =>
            obtain rfl : text = "" := empty
            simp [writeAttribute, escapeAttribute]
      simp only [List.flatMap_append, List.flatMap_cons, List.length_append]
      omega
  | added => simp

/-- Numbering writes nothing shorter. -/
theorem Numbered.length_writeAll_le {nodes after : List Node} {numbers : List Nat}
    (numbered : Numbered nodes numbers after) :
    (writeAll nodes).length ≤ (writeAll after).length := by
  induction numbered with
  | nil => exact Nat.le_refl _
  | other _ _ inductionHypothesis =>
      rw [writeAll, writeAll, List.length_append, List.length_append]
      exact Nat.add_le_add_left inductionHypothesis _
  | @inert tag _ _ children _ _ _ _ _ labels _ inductionHypothesis =>
      have longer := labels.length_le
      simp only [writeAll, write, List.length_append, List.length_cons]
      omega
  | @live tag _ _ _ _ _ _ _ _ _ _ labels _ _ withinHypothesis laterHypothesis =>
      have longer := labels.length_le
      simp only [writeAll, write, List.length_append, List.length_cons]
      by_cases alone : isVoid tag = true
      · rw [if_pos alone, if_pos alone]
        omega
      · rw [if_neg alone, if_neg alone]
        simp only [List.length_append, List.length_cons]
        omega

/-- An element behind another one that has the same tag and no longer value. -/
structure Outgrows (e f : Element) : Prop where
  tag : f.tag = e.tag
  value : e.fieldValue.length ≤ f.fieldValue.length

theorem Outgrows.refl (e : Element) : Outgrows e e := ⟨rfl, Nat.le_refl _⟩

theorem outgrows_of_numbered {children inside : List Node} {numbers : List Nat}
    (within : Numbered children numbers inside) (tag : String) (attributes : List Attribute) :
    Outgrows ⟨tag, attributes, children⟩ ⟨tag, attributes, inside⟩ := by
  refine ⟨rfl, ?_⟩
  rw [Element.fieldValue, Element.fieldValue]
  dsimp only
  by_cases area : tag = "textarea"
  · rw [if_pos area, if_pos area, Element.innerHtml, Element.innerHtml, toHtml, toHtml,
      String.length_ofList, String.length_ofList]
    exact within.length_writeAll_le
  · rw [if_neg area, if_neg area]
    exact Nat.le_refl _

/-- An id that is not given out is there afterwards exactly if it was before. -/
theorem Labels.known_iff {attributes changed : List Attribute} {own : List Nat} {id : String}
    (labels : Labels attributes own changed) (notNew : id ∉ own.map toString) :
    idOf? changed = some id ↔ idOf? attributes = some id := by
  obtain ⟨found, known, shape⟩ := labels.exists_id
  have member : id ∈ own.map toString ++ (idOf? attributes).toList ↔ id ∈ [found] := by
    rw [shape]
  rw [List.mem_append, or_iff_right notNew, Option.mem_toList, List.mem_singleton] at member
  rw [known, Option.some.injEq, eq_comm, ← member]

theorem rel_or {R : Element → Element → Prop} {first second first' second' : Option Element}
    (front : Option.Rel R first first') (back : Option.Rel R second second') :
    Option.Rel R (first.or second) (first'.or second') := by
  cases front with
  | none => exact back
  | some related => exact .some related

theorem find?_id_cons (e : Element) (others : List Element) (id : String) :
    ((e :: others).find? fun e => e.id? = some id) =
      if idOf? e.attributes = some id then some e else others.find? fun e => e.id? = some id := by
  rw [List.find?_cons]
  by_cases known : idOf? e.attributes = some id <;> simp [known, Element.id?]

/-- An element that has the id keeps its attributes, and one that has not does not get it. -/
theorem Labels.find?_rel {tag id : String} {attributes changed : List Attribute} {own : List Nat}
    {children inside : List Node} {others others' : List Element}
    (labels : Labels attributes own changed) (notNew : id ∉ own.map toString)
    (outgrows : Outgrows ⟨tag, attributes, children⟩ ⟨tag, attributes, inside⟩)
    (later : Option.Rel Outgrows (others.find? fun e => e.id? = some id)
      (others'.find? fun e => e.id? = some id)) :
    Option.Rel Outgrows
      ((Element.mk tag attributes children :: others).find? fun e => e.id? = some id)
      ((Element.mk tag changed inside :: others').find? fun e => e.id? = some id) := by
  rw [find?_id_cons, find?_id_cons]
  dsimp only
  by_cases known : idOf? attributes = some id
  · obtain ⟨-, rfl⟩ := labels.eq_of_id known
    rw [if_pos known, if_pos known]
    exact .some outgrows
  · rw [if_neg known, if_neg ((labels.known_iff notNew).not.2 known)]
    exact later

/-- The first element with an id stays the first one, unless the id is given out. -/
theorem Numbered.find?_rel {nodes after : List Node} {numbers : List Nat} {id : String}
    (numbered : Numbered nodes numbers after) (notNew : id ∉ numbers.map toString) :
    Option.Rel Outgrows ((liveElements nodes).find? fun e => e.id? = some id)
      ((liveElements after).find? fun e => e.id? = some id) := by
  induction numbered with
  | nil =>
      rw [liveElements]
      exact .none
  | other noElement _ inductionHypothesis =>
      rw [liveElements_other _ noElement, liveElements_other _ noElement]
      exact inductionHypothesis notNew
  | inert children closed labels _ inductionHypothesis =>
      simp only [List.map_append, List.mem_append, not_or] at notNew
      rw [liveElements_inert _ _ _ closed, liveElements_inert _ _ _ closed]
      exact labels.find?_rel notNew.1 (.refl _) (inductionHypothesis notNew.2)
  | live opened labels within _ withinHypothesis laterHypothesis =>
      simp only [List.map_append, List.mem_append, not_or] at notNew
      rw [liveElements_live _ _ _ opened, liveElements_live _ _ _ opened]
      refine labels.find?_rel notNew.1 (outgrows_of_numbered within _ _) ?_
      rw [List.find?_append, List.find?_append]
      exact rel_or (withinHypothesis notNew.2.1) (laterHypothesis notNew.2.2)

end EventIndex

/-! ## Where the focus is -/

theorem Document.setCaret?_eq {d : Document} {e : Markup.Element}
    (found : d.focused.bind d.find? = some e) (offset : Nat) :
    d.setCaret? offset =
      if e.isSelectable then some { d with caret := some (min offset e.fieldValue.length) }
      else none := by
  rw [setCaret?, found]

/-- Whether nothing is focused. -/
def Document.Unfocused (d : Document) : Prop := d.focused = none ∧ d.caret = none

/-- Whether the focus is on the element with an id, if there is one, and the caret where
it was asked for, or at the end of a field that is shorter. -/
def Document.FocusedOn (d : Document) (id : String) (caret : Option Nat) : Prop :=
  match d.firstLive? id with
  | some e =>
    d.focused = some id ∧
      d.caret = if e.isSelectable then caret.map (min · e.fieldValue.length) else none
  | none => d.Unfocused

/-- Whether the focus is where it was asked for, if at all. -/
def Document.Follows (focus : Option FocusTarget) (d : Document) : Prop :=
  match focus with
  | some target => d.FocusedOn target.elementId target.caret
  | none => d.Unfocused

namespace EventIndex

theorem focusOn_focusedOn (target : FocusTarget) {d : Document} (unfocused : d.Unfocused) :
    (focusOn target d).FocusedOn target.elementId target.caret := by
  have same : (focusOn target d).firstLive? target.elementId = d.find? target.elementId := by
    rw [Document.firstLive?, nodes_focusOn, Document.find?_eq, Document.firstLive?]
  rw [Document.FocusedOn, same, focusOn, Document.focus?]
  cases found : d.find? target.elementId with
  | none => exact unfocused
  | some e =>
      rw [Option.map_some]
      dsimp only
      cases target.caret with
      | none => simp
      | some offset =>
          have caret : ({ d with focused := some target.elementId, caret := none } :
              Document).setCaret? offset =
                if e.isSelectable then some
                  { d with
                    focused := some target.elementId
                    caret := some (min offset e.fieldValue.length) }
                else none := by
            apply Document.setCaret?_eq
            exact found
          dsimp only
          rw [caret]
          by_cases selectable : e.isSelectable = true <;> simp [selectable]

/-- Where the focus is in a document that has been indexed. -/
theorem index_focused (settings : BindingSettings) (focus : Option FocusTarget) (markup : String)
    (d : Document) : (index settings focus (d.replaceMarkup markup)).2.Follows focus := by
  cases focus with
  | none => exact ⟨rfl, rfl⟩
  | some target => exact focusOn_focusedOn target ⟨rfl, rfl⟩

end EventIndex

/-! ## Focus that is valid -/

/-- The focus is on a live element.  A caret is in the first live element with the id that
is focused, which is a field with a caret, and inside its value. -/
structure Document.FocusValid (d : Document) : Prop where
  focus : ∀ id, d.focused = some id → ∃ e ∈ Markup.liveElements d.nodes, e.id? = some id
  caret : ∀ n, d.caret = some n → ∃ id e, d.focused = some id ∧ d.firstLive? id = some e ∧
    (e.tag = "input" ∨ e.tag = "textarea") ∧ n ≤ e.fieldValue.length

/-- What can be done to a document, with whatever arguments. -/
inductive Document.Edit where
  | replaceMarkup (markup : String)
  | focus (id : String)
  | blur
  | setCaret (offset : Nat)
  | index (settings : BindingSettings) (target : Option FocusTarget)

namespace Document

/-- A document behind an edit.  What cannot be focused, or has no caret, leaves it as it is. -/
def Edit.run (d : Document) : Edit → Document
  | replaceMarkup markup => d.replaceMarkup markup
  | focus id => (d.focus? id).getD d
  | blur => d.blur
  | setCaret offset => (d.setCaret? offset).getD d
  | index settings target => (EventIndex.index settings target d).2

def afterEdits (d : Document) (edits : List Edit) : Document := edits.foldl Edit.run d

variable {d shown : Document} {id : String}

theorem isSome_firstLive?_iff :
    (d.firstLive? id).isSome = true ↔ ∃ e ∈ Markup.liveElements d.nodes, e.id? = some id := by
  rw [firstLive?, List.find?_isSome]
  simp

theorem Unfocused.focusValid (unfocused : d.Unfocused) : d.FocusValid where
  focus id focused := by
    rw [unfocused.1] at focused
    cases focused
  caret n caret := by
    rw [unfocused.2] at caret
    cases caret

theorem focusValid_of_focus? (focused : d.focus? id = some shown) : shown.FocusValid := by
  obtain ⟨e, found, rfl⟩ := Option.map_eq_some_iff.1 focused
  rw [find?_eq] at found
  refine ⟨fun other same => ?_, fun n caret => nomatch caret⟩
  cases same
  exact isSome_firstLive?_iff.1 (Option.isSome_iff_exists.2 ⟨e, found⟩)

theorem FocusValid.setCaret? {offset : Nat} (valid : d.FocusValid)
    (placed : d.setCaret? offset = some shown) : shown.FocusValid := by
  cases focusedElement : d.focused.bind d.find? with
  | none =>
      rw [Document.setCaret?, focusedElement] at placed
      cases placed
  | some e =>
      rw [setCaret?_eq focusedElement, Option.ite_none_right_eq_some] at placed
      obtain ⟨selectable, same⟩ := placed
      cases same
      obtain ⟨id, focused, found⟩ := Option.bind_eq_some_iff.1 focusedElement
      rw [find?_eq] at found
      refine ⟨valid.focus, fun n caret => ?_⟩
      cases caret
      refine ⟨id, e, focused, found, ?_, Nat.min_le_right _ _⟩
      simpa [Markup.Element.isSelectable] using selectable

/-- Numbering moves neither the focus nor the caret. -/
theorem FocusValid.numbered {numbers : List Nat} (valid : d.FocusValid)
    (numbered : EventIndex.Numbered d.nodes numbers shown.nodes)
    (free : ∀ n ∈ numbers, toString n ∉ Markup.liveIds d.nodes)
    (sameFocus : shown.focused = d.focused) (sameCaret : shown.caret = d.caret) :
    shown.FocusValid := by
  have stays : ∀ id e, d.firstLive? id = some e →
      ∃ f, shown.firstLive? id = some f ∧ EventIndex.Outgrows e f := by
    intro id e found
    obtain ⟨old, isLive, known⟩ := isSome_firstLive?_iff.1 (Option.isSome_iff_exists.2 ⟨e, found⟩)
    have isOld : id ∈ Markup.liveIds d.nodes := by
      rw [EventIndex.liveIds_eq]
      exact List.mem_filterMap.2 ⟨old, isLive, known⟩
    have notNew : ∀ numeral ∈ numbers.map toString, numeral ∉ Markup.liveIds d.nodes :=
      List.forall_mem_map.2 free
    have related := numbered.find?_rel fun isNew => notNew id isNew isOld
    generalize foundAfter : shown.firstLive? id = after
    rw [firstLive?] at found foundAfter
    rw [found, foundAfter] at related
    cases related with
    | some outgrows => exact ⟨_, rfl, outgrows⟩
  constructor
  · intro id focused
    rw [sameFocus] at focused
    obtain ⟨e, found⟩ := Option.isSome_iff_exists.1
      (isSome_firstLive?_iff.2 (valid.focus id focused))
    obtain ⟨f, foundAfter, -⟩ := stays id e found
    exact isSome_firstLive?_iff.1 (Option.isSome_iff_exists.2 ⟨f, foundAfter⟩)
  · intro n caret
    rw [sameCaret] at caret
    obtain ⟨id, e, focused, found, selectable, inside⟩ := valid.caret n caret
    obtain ⟨f, foundAfter, outgrows⟩ := stays id e found
    refine ⟨id, f, sameFocus.trans focused, foundAfter, ?_, Nat.le_trans inside outgrows.value⟩
    rwa [outgrows.tag]

theorem FocusValid.focusOn (valid : d.FocusValid) (target : FocusTarget) :
    (EventIndex.focusOn target d).FocusValid := by
  unfold EventIndex.focusOn
  cases focused : d.focus? target.elementId with
  | none => exact valid
  | some shown =>
      have onTarget := focusValid_of_focus? focused
      cases target.caret with
      | none => exact onTarget
      | some offset =>
          dsimp only
          cases placed : shown.setCaret? offset with
          | none => exact onTarget
          | some final => exact onTarget.setCaret? placed

theorem FocusValid.index (valid : d.FocusValid) (settings : BindingSettings)
    (target : Option FocusTarget) : (EventIndex.index settings target d).2.FocusValid := by
  obtain ⟨numbers, indexed⟩ := EventIndex.exists_indexes settings none d
  have unmoved := valid.numbered indexed.numbered indexed.skips.free rfl rfl
  cases target with
  | none => exact unmoved
  | some target => exact unmoved.focusOn target

theorem FocusValid.run (valid : d.FocusValid) (edit : Edit) : (edit.run d).FocusValid := by
  cases edit with
  | replaceMarkup markup => exact Unfocused.focusValid ⟨rfl, rfl⟩
  | focus id =>
      rw [Edit.run]
      cases focused : d.focus? id with
      | none => exact valid
      | some shown => exact focusValid_of_focus? focused
  | blur => exact Unfocused.focusValid ⟨rfl, rfl⟩
  | setCaret offset =>
      rw [Edit.run]
      cases placed : d.setCaret? offset with
      | none => exact valid
      | some shown => exact valid.setCaret? placed
  | index settings target => exact valid.index settings target

/-- Whatever is done to a document that was empty, its focus is valid. -/
theorem afterEdits_focusValid (edits : List Edit) : (empty.afterEdits edits).FocusValid := by
  have start : empty.FocusValid := Unfocused.focusValid ⟨rfl, rfl⟩
  unfold afterEdits
  induction edits using List.reverseRecOn with
  | nil => exact start
  | append_singleton edits edit inductionHypothesis =>
      rw [List.foldl_append]
      exact inductionHypothesis.run edit

/-- The caret stays where the value ended, which has grown. -/
example :
    let d := empty.afterEdits [.replaceMarkup "<textarea id=f><b>x</b></textarea>", .focus "f",
      .setCaret 99, .index {} none]
    d.caret = some 8 ∧
      (d.firstLive? "f").map Markup.Element.fieldValue = some "<b id=\"1\">x</b>" := by
  decide +kernel

end Document

end LivePages
