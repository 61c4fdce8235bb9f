import LivePages.Proofs.Program.Depth
import LivePages.Table

/-!
# Content in the slot of a layout

A page that is content in a layout shows the markup of the layout with the shown content
in place of the slot.  Wrappers of directives count only where they stand among the
siblings that are compiled, so content with wrappers has to end up there: the slot must
stand inside no element of the layout.
-/

namespace LivePages

open Markup (Node Attribute Frame writeAll tagsOf)
open Instruction (Encloses)

/-- Whether a node is the wrapper element of a directive. -/
def isWrapper : Node → Bool
  | .element tag _ _ => tag = Directive.tag
  | _ => false

/-- Whether a node is a wrapper that is skipped with its content. -/
def isSkipped : Node → Bool
  | .element tag [] _ => tag = Directive.tag
  | _ => false

/-- The nodes that are not skipped. -/
def unskipped (nodes : List Node) : List Node := nodes.filter fun node => !isSkipped node

theorem not_isWrapper_of_notMem {nodes : List Node} (absent : Directive.tag ∉ tagsOf nodes) :
    ∀ node ∈ nodes, isWrapper node = false := by
  induction nodes with
  | nil => exact nofun
  | cons node nodes inductionHypothesis =>
      cases node with
      | text text =>
          simp only [tagsOf] at absent
          exact List.forall_mem_cons.2 ⟨rfl, inductionHypothesis absent⟩
      | comment text =>
          simp only [tagsOf] at absent
          exact List.forall_mem_cons.2 ⟨rfl, inductionHypothesis absent⟩
      | element tag attributes children =>
          simp only [tagsOf, List.mem_cons, List.mem_append, not_or] at absent
          obtain ⟨other, -, later⟩ := absent
          refine List.forall_mem_cons.2 ⟨?_, inductionHypothesis later⟩
          exact decide_eq_false (Ne.symm other)

theorem unskipped_of_ordinary {nodes : List Node}
    (ordinary : ∀ node ∈ nodes, isWrapper node = false) : unskipped nodes = nodes := by
  apply List.filter_eq_self.2
  intro node member
  have notWrapper := ordinary node member
  cases node with
  | element tag attributes children =>
      cases attributes with
      | nil => simpa [isSkipped, isWrapper] using notWrapper
      | cons a attributes => rfl
  | text text => rfl
  | comment text => rfl

namespace Sibling

variable {β : Type}

theorem suffix_of_nextArm? {ss rest : List (Sibling β)} {arm : Option String × β}
    (found : nextArm? ss = some (arm, rest)) : rest <:+ ss := by
  have behindGap : ss.dropWhile isGap <:+ ss := List.dropWhile_suffix isGap
  unfold nextArm? at found
  split at found
  · rename_i shape
    rw [shape] at behindGap
    cases found
    exact (List.suffix_cons _ _).trans behindGap
  · cases found

theorem suffix_of_arms (ss : List (Sibling β)) : (arms ss).2.2 <:+ ss := by
  induction ss using arms.induct with
  | case1 ss found =>
      rw [arms_of_none found]
  | case2 ss body rest found =>
      rw [arms_of_fallback found]
      exact suffix_of_nextArm? found
  | case3 ss condition body rest found _ _ _ _ inductionHypothesis =>
      rw [arms_of_condition found]
      exact inductionHypothesis.trans (suffix_of_nextArm? found)

/-- A sibling that leaves instructions of its own starts an item. -/
theorem outline_cons_item {s : Sibling β} (notSkipped : s ≠ .skipped)
    (notPlain : ∀ node, s ≠ .plain node) (ss : List (Sibling β)) :
    ∃ item later, outline (s :: ss) = .item [] item (outline later) ∧ later <:+ ss := by
  cases s with
  | skipped => exact absurd rfl notSkipped
  | plain node => exact absurd rfl (notPlain node)
  | opening condition body => exact ⟨_, _, by rw [outline], suffix_of_arms ss⟩
  | continuing condition body => exact ⟨_, _, by rw [outline], List.suffix_refl ss⟩
  | loop header body => exact ⟨_, _, by rw [outline], List.suffix_refl ss⟩
  | layout name body => exact ⟨_, _, by rw [outline], List.suffix_refl ss⟩
  | inPlace body => exact ⟨_, _, by rw [outline], List.suffix_refl ss⟩

theorem ofWrapper_cons_ne (a : Attribute) (attributes : List Attribute) {body : β}
    {expand : String → β} :
    ofWrapper (a :: attributes) body expand ≠ .skipped ∧
      ∀ node, ofWrapper (a :: attributes) body expand ≠ .plain node := by
  unfold ofWrapper
  dsimp only
  split <;> simp

end Sibling

namespace LayoutSource

variable {σ ε : Type} {source : LayoutSource σ ε}
  {expand : String → List Node → ExceptT ε (StateM σ) (List Instruction)}

theorem siblings_of_ordinary {nodes : List Node}
    (ordinary : ∀ node ∈ nodes, isWrapper node = false) :
    source.siblings expand nodes = nodes.map .plain := by
  induction nodes with
  | nil => rw [siblings, List.map_nil]
  | cons node nodes inductionHypothesis =>
      obtain ⟨first, later⟩ := List.forall_mem_cons.1 ordinary
      cases node with
      | element tag attributes children =>
          have other : tag ≠ "template" := of_decide_eq_false first
          rw [siblings, if_neg other, inductionHypothesis later]
          rfl
      | text text => simp [siblings, inductionHypothesis later]
      | comment text => simp [siblings, inductionHypothesis later]

theorem siblings_append (first second : List Node) :
    source.siblings expand (first ++ second) =
      source.siblings expand first ++ source.siblings expand second := by
  induction first with
  | nil => simp [siblings]
  | cons node first inductionHypothesis =>
      cases node <;> simp [siblings, inductionHypothesis]

/-- What becomes of a node among its siblings. -/
theorem siblings_cons (source : LayoutSource σ ε)
    (expand : String → List Node → ExceptT ε (StateM σ) (List Instruction))
    (node : Node) (nodes : List Node) :
    ∃ s, source.siblings expand (node :: nodes) = s :: source.siblings expand nodes ∧
      ((s = .skipped ∧ isSkipped node = true) ∨
        isSkipped node = false ∧ (s = .plain node ∨
          s ≠ .skipped ∧ ∀ other, s ≠ .plain other)) := by
  cases node with
  | text text => exact ⟨.plain (.text text), by simp [siblings], .inr ⟨rfl, .inl rfl⟩⟩
  | comment text => exact ⟨.plain (.comment text), by simp [siblings], .inr ⟨rfl, .inl rfl⟩⟩
  | element tag attributes children =>
      rw [siblings]
      refine ⟨_, rfl, ?_⟩
      by_cases wrapper : tag = "template"
      · rw [if_pos wrapper]
        cases attributes with
        | nil => exact .inl ⟨rfl, decide_eq_true wrapper⟩
        | cons a attributes => exact .inr ⟨rfl, .inr (Sibling.ofWrapper_cons_ne a attributes)⟩
      · rw [if_neg wrapper]
        cases attributes with
        | nil => exact .inr ⟨decide_eq_false wrapper, .inl rfl⟩
        | cons a attributes => exact .inr ⟨rfl, .inl rfl⟩

theorem exists_of_suffix_siblings {nodes : List Node}
    {ss : List (Sibling (ExceptT ε (StateM σ) (List Instruction)))}
    (suffix : ss <:+ source.siblings expand nodes) :
    ∃ later, later <:+ nodes ∧ source.siblings expand later = ss := by
  induction nodes with
  | nil =>
      rw [siblings] at suffix
      exact ⟨[], List.suffix_refl [], by rw [siblings, List.suffix_nil.1 suffix]⟩
  | cons node nodes inductionHypothesis =>
      obtain ⟨s, shape, -⟩ := siblings_cons source expand node nodes
      rw [shape] at suffix
      rcases List.suffix_cons_iff.1 suffix with rfl | suffix
      · exact ⟨node :: nodes, List.suffix_refl _, shape⟩
      · obtain ⟨later, inside, same⟩ := inductionHypothesis suffix
        exact ⟨later, inside.trans (List.suffix_cons node nodes), same⟩

/-- The last run holds the last of the nodes that are not skipped, and all of them if
there is no item in front of it. -/
theorem lastRun_siblings (source : LayoutSource σ ε)
    (expand : String → List Node → ExceptT ε (StateM σ) (List Instruction))
    (nodes : List Node) :
    (Sibling.outline (source.siblings expand nodes)).lastRun <:+ unskipped nodes ∧
      ∀ run, Sibling.outline (source.siblings expand nodes) = .run run →
        run = unskipped nodes := by
  induction length : nodes.length using Nat.strong_induction_on generalizing nodes with
  | h n inductionHypothesis =>
      subst length
      cases nodes with
      | nil =>
          rw [siblings, Sibling.outline]
          refine ⟨List.suffix_refl _, fun run same => ?_⟩
          cases same
          rfl
      | cons node nodes =>
          have earlier := inductionHypothesis _ (Nat.lt_succ_self _) nodes rfl
          obtain ⟨s, shape, kinds⟩ := siblings_cons source expand node nodes
          rw [shape]
          rcases kinds with ⟨rfl, skipped⟩ | ⟨kept, rfl | ⟨notSkipped, notPlain⟩⟩
          · rw [Sibling.outline, unskipped, List.filter_cons_of_neg (by simp [skipped])]
            exact earlier
          · have shown : unskipped (node :: nodes) = node :: unskipped nodes :=
              List.filter_cons_of_pos (by simp [kept])
            rw [Sibling.outline, shown]
            cases o : Sibling.outline (source.siblings expand nodes) with
            | run run =>
                rw [earlier.2 run o]
                refine ⟨List.suffix_refl _, fun run same => ?_⟩
                cases same
                rfl
            | item lead item rest =>
                rw [o] at earlier
                refine ⟨earlier.1.trans (List.suffix_cons _ _), fun run same => ?_⟩
                cases same
          · have shown : unskipped (node :: nodes) = node :: unskipped nodes :=
              List.filter_cons_of_pos (by simp [kept])
            obtain ⟨item, rest, outlined, suffix⟩ :=
              Sibling.outline_cons_item notSkipped notPlain (source.siblings expand nodes)
            obtain ⟨later, inside, rfl⟩ := exists_of_suffix_siblings suffix
            have shorter : later.length < (node :: nodes).length :=
              Nat.lt_succ_of_le inside.length_le
            rw [outlined, shown]
            refine ⟨?_, fun run same => by cases same⟩
            have behind := (inductionHypothesis _ shorter later rfl).1
            have inOrder : unskipped later <:+ unskipped nodes := inside.filter _
            exact behind.trans (inOrder.trans (List.suffix_cons _ _))

/-! ## Nodes in a frame -/

/-- Nodes without wrappers are one run. -/
theorem lower_of_ordinary {nodes : List Node}
    (ordinary : ∀ node ∈ nodes, isWrapper node = false) (depth : Nat) :
    source.lower depth nodes = source.check (runInstructions (Markup.toHtml nodes)) := by
  rw [lower_eq, siblings_of_ordinary ordinary, ← List.append_nil (nodes.map _),
    Sibling.outline_plain_append, Sibling.outline, Outline.prependAll, compileOutline,
    List.append_nil]

theorem compile_of_ordinary {markup : String} {nodes : List Node}
    (parsed : Markup.parse markup = .ok nodes)
    (ordinary : ∀ node ∈ nodes, isWrapper node = false) :
    source.compile markup = source.check (runInstructions (Markup.toHtml nodes)) := by
  rw [compile, parsed]
  exact lower_of_ordinary ordinary maxLayoutDepth

/-- Content in a frame compiles to what encloses the compiled content.  Inside an
element the frame is one run with its content, so there must be no wrapper in it. -/
theorem lower_fill {depth : Nat} {frame : Frame} {content : List Node}
    {inner : List Instruction} {s t : σ}
    (noWrapper : Directive.tag ∉ tagsOf (frame.fill [])) (isShown : frame.IsShown)
    (noDollar : '$' ∉ writeAll (frame.fill []))
    (placed : frame.isTop = true ∨ ∀ node ∈ content, isWrapper node = false)
    (joins : Template.Joins (writeAll (unskipped content)) frame.right)
    (compiled : source.lower depth content s = (.ok inner, t)) :
    ∃ outer, source.lower depth (frame.fill content) s = (.ok outer, t) ∧
      Encloses frame.left frame.right inner outer := by
  rw [Frame.writeAll_fill isShown, Markup.writeAll, List.nil_append, List.mem_append,
    not_or] at noDollar
  obtain ⟨notLeft, notRight⟩ := noDollar
  cases frame with
  | here before after =>
      rw [Frame.fill, List.nil_append, Markup.tagsOf_append, List.mem_append,
        not_or] at noWrapper
      obtain ⟨inBefore, inAfter⟩ := noWrapper
      rw [lower_eq] at compiled
      have lastJoins := joins.of_suffix (Markup.writeAll_suffix
        (lastRun_siblings source (source.expandAt depth) content).1)
      obtain ⟨middle, extended, behind⟩ :=
        compileOutline_extend notRight lastJoins compiled
      obtain ⟨outer, prepended, inFront⟩ := compileOutline_prependAll notLeft extended
      refine ⟨outer, ?_, behind.both inFront⟩
      rw [lower_eq, Frame.fill, siblings_append, siblings_append,
        siblings_of_ordinary (not_isWrapper_of_notMem inBefore),
        siblings_of_ordinary (not_isWrapper_of_notMem inAfter),
        Sibling.outline_plain_append, Sibling.outline_append_plain]
      exact prepended
  | inside before tag attributes frame after =>
      obtain top | ordinary := placed
      · cases top
      rw [unskipped_of_ordinary ordinary] at joins
      rw [lower_of_ordinary ordinary] at compiled
      obtain ⟨made, rfl⟩ := of_check compiled
      obtain ⟨middle, extended, behind⟩ := runInstructions_append_right notRight joins made
      obtain ⟨outer, prepended, inFront⟩ := runInstructions_append_left notLeft extended
      refine ⟨outer, ?_, behind.both inFront⟩
      have around : ∀ node ∈ before ++ .element tag attributes (frame.fill content) :: after,
          isWrapper node = false := by
        have empty := not_isWrapper_of_notMem noWrapper
        simp only [Frame.fill, List.forall_mem_append, List.forall_mem_cons] at empty ⊢
        exact empty
      rw [Frame.fill, lower_of_ordinary around, ← Frame.fill, Markup.toHtml,
        Frame.writeAll_fill isShown, prepended]
      rfl

/-- A page that is nothing but a layout has one instruction. -/
theorem lower_layout (depth : Nat) (name : String) (content : List Node) :
    source.lower depth [.element Directive.tag [⟨"layout", some name⟩] content] =
      (fun is => [.layout name is]) <$> source.expandAt depth name content := by
  have alone : source.siblings (source.expandAt depth)
      [.element Directive.tag [⟨"layout", some name⟩] content] =
        [.layout name (source.expandAt depth name content)] := by
    have wrapper : Directive.tag = "template" := rfl
    rw [siblings, siblings, if_pos wrapper]
    rfl
  have noRun : source.check (runInstructions (Markup.toHtml [])) = pure [] := rfl
  rw [lower_eq, alone, Sibling.outline, Sibling.outline, compileOutline, compileItem,
    compileOutline, noRun]
  simp

end LayoutSource

variable {σ ε : Type}

/-! ## Pages without bindings -/

/-- Surroundings in which no name is bound. -/
def Surroundings.empty : Surroundings Unit where
  lookup name _ := .error (.unknownBinding name)
  call name _ s := (.error (.notCallable name), s)
  assign name _ s := (.error (.unknownBinding name), s)

/-- What a page shows without any bindings, with layouts that stand in a list. -/
def expansion (layouts : Table String) (markup : String) : Option String :=
  match (LayoutSource.ofLookup layouts.get?).compile markup () with
  | (.ok program, _) => (program.render Surroundings.empty.evaluator ()).1.toOption
  | (.error _, _) => none

theorem expansion_of_compile {layouts : Table String} {markup : String}
    {program : Program}
    (compiled : (LayoutSource.ofLookup layouts.get?).compile markup () =
      (.ok program, ())) :
    expansion layouts markup =
      (program.render Surroundings.empty.evaluator ()).1.toOption := by
  rw [expansion, compiled]

theorem resolve_ofLookup {markup? : String → Option String} {name body : String}
    {nodes : List Node} (found : markup? name = some body)
    (parsed : Markup.parse body = .ok nodes) (s : σ) :
    (LayoutSource.ofLookup markup?).resolve name s = (.ok (some nodes), s) := by
  simp only [LayoutSource.ofLookup, found, parsed]
  rfl

theorem toOption_map {ε α β : Type} (f : α → β) (steps : ExceptT ε (StateM σ) α) (s : σ) :
    ((f <$> steps) s).1.toOption = (steps s).1.toOption.map f := by
  rw [map_eq_pure_bind, Keeps.bind_eq]
  rcases steps s with ⟨_ | _, _⟩ <;> rfl

/-! ## Pages in layouts -/

/-- The markup of a page that is content in a layout. -/
def layoutPage (name content : String) : String :=
  "<template" ++ String.ofList (Markup.writeAttribute ⟨"layout", some name⟩) ++ ">" ++
    content ++ "</template>"

/-- A page that is nothing but a layout is written like that. -/
theorem layoutPage_toHtml (name : String) (content : List Node) :
    layoutPage name (Markup.toHtml content) =
      Markup.toHtml [.element Directive.tag [⟨"layout", some name⟩] content] := by
  have notVoid : Markup.isVoid "template" = false := by decide
  apply String.toList_inj.1
  simp [layoutPage, Markup.toHtml, Markup.writeAll, Markup.write, Directive.tag, notVoid]

/-- The frame around the only slot of a layout without directives. -/
structure IsLayoutFrame (frame : Frame) : Prop where
  oneSlot : slotTag ∉ tagsOf (frame.fill [])
  noWrapper : Directive.tag ∉ tagsOf (frame.fill [])
  noDollar : '$' ∉ writeAll (frame.fill [])

/-- Compiling content in a layout is compiling the layout with the content in its
frame, and with one layout less to go. -/
theorem compile_layoutPage {source : LayoutSource σ ε} {name markup : String}
    {frame : Frame} {attributes : List Attribute} {fallback content : List Node}
    {s u t : σ} {is : List Instruction} (oneSlot : slotTag ∉ tagsOf (frame.fill []))
    (resolved : source.resolve name s =
      (.ok (some (frame.fill [.element slotTag attributes fallback])), u))
    (wrapped : Markup.parse (layoutPage name markup) =
      .ok [.element Directive.tag [⟨"layout", some name⟩] content])
    (filled : source.lower (maxLayoutDepth - 1) (frame.fill content) u = (.ok is, t)) :
    source.compile (layoutPage name markup) s = (.ok [.layout name is], t) := by
  rw [Frame.tagsOf_fill, List.mem_append, not_or] at oneSlot
  have expanded : source.expandAt (maxLayoutDepth - 1 + 1) name content s = (.ok is, t) := by
    rw [LayoutSource.expandAt, bind_of_ok resolved]
    dsimp only
    rw [Frame.replaceFirst?_fill content attributes fallback oneSlot.1]
    exact filled
  rw [LayoutSource.compile, wrapped]
  change source.lower maxLayoutDepth _ s = _
  rw [LayoutSource.lower_layout, map_eq_pure_bind]
  exact bind_of_ok expanded _

/-- Content in a layout is shown in place of the slot, just as it is shown by itself. -/
theorem render_layoutPage (source : LayoutSource σ ε) {name body markup : String}
    {frame : Frame} (isFrame : IsLayoutFrame frame) {attributes : List Attribute}
    {fallback content : List Node} {s u t : σ} {program : Program}
    (layout : Markup.parse body = .ok (frame.fill [.element slotTag attributes fallback]))
    (resolved : source.resolve name s =
      (.ok (some (frame.fill [.element slotTag attributes fallback])), u))
    (alone : Markup.parse markup = .ok content)
    (wrapped : Markup.parse (layoutPage name markup) =
      .ok [.element Directive.tag [⟨"layout", some name⟩] content])
    (placed : frame.isTop = true ∨ ∀ node ∈ content, isWrapper node = false)
    (joins : Template.Joins (writeAll (unskipped content)) frame.right)
    (compiled : source.compile markup u = (.ok program, t))
    (shallow : depthOfAll program < maxLayoutDepth) :
    ∃ whole, source.compile (layoutPage name markup) s = (.ok whole, t) ∧
      ∀ (τ : Type) (engine : Evaluator τ), whole.render engine =
        (fun h => Markup.toHtml (frame.fill [.text h])) <$> program.render engine := by
  have isShown : frame.IsShown :=
    Frame.isShown_of_fill (List.cons_ne_nil _ _) (Markup.areRead_of_parse layout).each
  have byItself : source.lower maxLayoutDepth content u = (.ok program, t) := by
    rw [LayoutSource.compile, alone] at compiled
    exact compiled
  have inside : source.lower (maxLayoutDepth - 1) content u = (.ok program, t) :=
    LayoutSource.lower_agrees (maxLayoutDepth - 1) content program u t byItself shallow
  obtain ⟨outer, filled, encloses⟩ := LayoutSource.lower_fill isFrame.noWrapper isShown
    isFrame.noDollar placed joins inside
  have compiledPage := compile_layoutPage isFrame.oneSlot resolved wrapped filled
  refine ⟨[.layout name outer], compiledPage, fun τ engine => ?_⟩
  have text : ∀ h, Markup.toHtml (frame.fill [.text h]) =
      String.ofList frame.left ++ h ++ String.ofList frame.right := by
    intro h
    simp [Markup.toHtml, Frame.writeAll_fill isShown, Markup.writeAll, Markup.write,
      String.ofList_append, String.append_assoc]
  simp only [text]
  rw [Program.render, Program.render, ← encloses τ engine []]
  simp [Instruction.renderAll, Instruction.render]

/-- A loop in content that stands right in front of a brace of the layout. -/
theorem render_layoutPage_loop :
    expansion [("main", "<h1>A</h1><slot>none</slot>\x7b")]
      (layoutPage "main" "<template :for=\"n of [1, 2]\"><i>$\x7bn\x7d</i></template>$ ") =
        some "<h1>A</h1><i>1</i><i>2</i>$ \x7b" := by
  let layouts : Table String := [("main", "<h1>A</h1><slot>none</slot>\x7b")]
  let markup := "<template :for=\"n of [1, 2]\"><i>$\x7bn\x7d</i></template>$ "
  let frame : Frame := .here [.element "h1" [] [.text "A"]] [.text "\x7b"]
  let content : List Node :=
    [.element Directive.tag [⟨":for", some "n of [1, 2]"⟩]
      [.element "i" [] [.text "$\x7bn\x7d"]], .text "$ "]
  let program : Program :=
    [.loop "n of [1, 2]" [.append ⟨[.literal "<i>", .expr "n", .literal "</i>"]⟩],
      .append ⟨[.literal "$ "]⟩]
  have isFrame : IsLayoutFrame frame := by
    constructor
    · simp [frame, Frame.fill, tagsOf, slotTag]
    · simp [frame, Frame.fill, tagsOf, Directive.tag]
    · decide
  have layout : Markup.parse "<h1>A</h1><slot>none</slot>\x7b" =
      .ok (frame.fill [.element slotTag [] [.text "none"]]) := by
    decide +kernel
  have resolved : (LayoutSource.ofLookup layouts.get?).resolve "main" () =
      (.ok (some (frame.fill [.element slotTag [] [.text "none"]])), ()) :=
    resolve_ofLookup rfl layout ()
  have alone : Markup.parse markup = .ok content := by
    decide +kernel
  have wrapped : Markup.parse (layoutPage "main" markup) =
      .ok [.element Directive.tag [⟨"layout", some "main"⟩] content] := by
    decide +kernel
  have joins : Template.Joins (writeAll (unskipped content)) frame.right := by
    intro last
    exact absurd last (by decide)
  have compiled : (LayoutSource.ofLookup layouts.get?).compile markup () =
      (.ok program, ()) := by
    rw [LayoutSource.compile, alone]
    change LayoutSource.lower _ 16 content () = _
    rw [LayoutSource.lower]
    simp only [content, LayoutSource.lowerWith]
    with_unfolding_all rfl
  have shown : (program.render Surroundings.empty.evaluator ()).1.toOption =
      some "<i>1</i><i>2</i>$ " := by
    decide +kernel
  obtain ⟨whole, made, shows⟩ := render_layoutPage _ isFrame layout resolved alone wrapped
    (.inl rfl) joins compiled (by decide)
  rw [expansion_of_compile made, shows, toOption_map, shown]
  with_unfolding_all rfl

/-! ## Where content in a layout differs -/

/-- Nodes inside as many layouts. -/
def nested (nodes : List Node) : Nat → List Node
  | 0 => nodes
  | n + 1 => [.element Directive.tag [⟨"layout", some "main"⟩] (nested nodes n)]

/-- What nested nodes compile to when the layout is nothing but its slot. -/
def layers (is : List Instruction) : Nat → List Instruction
  | 0 => is
  | n + 1 => [.layout "main" (layers is n)]

theorem render_layers (engine : Evaluator σ) (is : List Instruction) (n : Nat) :
    Program.render engine (layers is n) = Program.render engine is := by
  induction n with
  | zero => rfl
  | succ n inductionHypothesis =>
      rw [← inductionHypothesis]
      simp [layers, Program.render, Instruction.renderAll, Instruction.render]

section Nested

variable {source : LayoutSource σ ε} {nodes : List Node} {s : σ} {is : List Instruction}
  (resolved : source.resolve "main" s = (.ok (some [.element slotTag [] []]), s))

include resolved

theorem expandAt_bare (depth : Nat) (nodes : List Node) :
    source.expandAt (depth + 1) "main" nodes s = source.lower depth nodes s := by
  rw [LayoutSource.expandAt, bind_of_ok resolved]
  simp [Markup.replaceFirst?_element]

theorem lower_nested (compiled : ∀ depth, source.lower depth nodes s = (.ok is, s))
    {n depth : Nat} (fits : n ≤ depth) :
    source.lower depth (nested nodes n) s = (.ok (layers is n), s) := by
  induction n generalizing depth with
  | zero => exact compiled depth
  | succ n inductionHypothesis =>
      cases depth with
      | zero => cases fits
      | succ depth =>
          have inside := inductionHypothesis (Nat.le_of_succ_le_succ fits)
          rw [← expandAt_bare resolved] at inside
          rw [nested, LayoutSource.lower_layout, map_eq_pure_bind, bind_of_ok inside]
          rfl

/-- One layout more than the limit allows. -/
theorem lower_nested_full (depth : Nat) :
    source.lower depth (nested nodes (depth + 1)) s =
      (.error (source.report (.layoutDepthExceeded maxLayoutDepth)), s) := by
  induction depth with
  | zero =>
      rw [nested, LayoutSource.lower_layout]
      rfl
  | succ depth inductionHypothesis =>
      rw [← expandAt_bare resolved] at inductionHypothesis
      rw [nested, LayoutSource.lower_layout, map_eq_pure_bind, Keeps.bind_eq,
        inductionHypothesis]

end Nested

theorem expansion_of_run {layouts : Table String} {markup : String} {nodes : List Node}
    {program : Program} (parsed : Markup.parse markup = .ok nodes)
    (ordinary : ∀ node ∈ nodes, isWrapper node = false)
    (run : runInstructions (Markup.toHtml nodes) = .ok program) :
    expansion layouts markup =
      (program.render Surroundings.empty.evaluator ()).1.toOption := by
  apply expansion_of_compile
  rw [LayoutSource.compile_of_ordinary parsed ordinary, run]
  rfl

theorem expansion_layoutPage_of_run {layouts : Table String} {body markup : String}
    {frame : Frame} {content : List Node} {program : Program}
    (oneSlot : slotTag ∉ tagsOf (frame.fill [])) (found : layouts.get? "main" = some body)
    (layout : Markup.parse body = .ok (frame.fill [.element slotTag [] []]))
    (wrapped : Markup.parse (layoutPage "main" markup) =
      .ok [.element Directive.tag [⟨"layout", some "main"⟩] content])
    (ordinary : ∀ node ∈ frame.fill content, isWrapper node = false)
    (run : runInstructions (Markup.toHtml (frame.fill content)) = .ok program) :
    expansion layouts (layoutPage "main" markup) =
      (program.render Surroundings.empty.evaluator ()).1.toOption := by
  have resolved := resolve_ofLookup found layout ()
  have filled : (LayoutSource.ofLookup layouts.get?).lower (maxLayoutDepth - 1)
      (frame.fill content) () = (.ok program, ()) := by
    rw [LayoutSource.lower_of_ordinary ordinary, run]
    rfl
  rw [expansion_of_compile (compile_layoutPage oneSlot resolved wrapped filled)]
  simp [Program.render, Instruction.renderAll, Instruction.render]

section NestedPages

variable {layouts : Table String} {n : Nat}
  (found : layouts.get? "main" = some "<slot></slot>")

include found

theorem resolve_bare : (LayoutSource.ofLookup layouts.get?).resolve "main" () =
    (.ok (some [.element slotTag [] []]), ()) := by
  have bare : Markup.parse "<slot></slot>" = .ok [.element slotTag [] []] := by
    decide +kernel
  exact resolve_ofLookup found bare ()

/-- Layouts that are nothing but their slots change nothing. -/
theorem expansion_nested {nodes : List Node} {program : Program}
    (parsed : Markup.parse (Markup.toHtml (nested nodes n)) = .ok (nested nodes n))
    (ordinary : ∀ node ∈ nodes, isWrapper node = false)
    (run : runInstructions (Markup.toHtml nodes) = .ok program) (fits : n ≤ maxLayoutDepth) :
    expansion layouts (Markup.toHtml (nested nodes n)) =
      (program.render Surroundings.empty.evaluator ()).1.toOption := by
  have inside : ∀ depth, (LayoutSource.ofLookup layouts.get?).lower depth nodes () =
      (.ok program, ()) := by
    intro depth
    rw [LayoutSource.lower_of_ordinary ordinary, run]
    rfl
  have compiled : (LayoutSource.ofLookup layouts.get?).compile
      (Markup.toHtml (nested nodes n)) () = (.ok (layers program n), ()) := by
    rw [LayoutSource.compile, parsed]
    exact lower_nested (resolve_bare found) inside fits
  rw [expansion_of_compile compiled, render_layers]

theorem expansion_nested_full {nodes : List Node}
    (parsed : Markup.parse (Markup.toHtml (nested nodes (maxLayoutDepth + 1))) =
      .ok (nested nodes (maxLayoutDepth + 1))) :
    expansion layouts (Markup.toHtml (nested nodes (maxLayoutDepth + 1))) = none := by
  have refused : (LayoutSource.ofLookup layouts.get?).compile
      (Markup.toHtml (nested nodes (maxLayoutDepth + 1))) () =
        (.error (.layoutDepthExceeded maxLayoutDepth), ()) := by
    rw [LayoutSource.compile, parsed]
    exact lower_nested_full (resolve_bare found) maxLayoutDepth
  rw [expansion, refused]

end NestedPages

/-- Content in a layout can show something else than by itself: a directive inside an
element of the layout, a dollar sign in front of a brace, an element that takes in the
closing tag of the wrapper, and layouts that fill the limit. -/
theorem layoutPage_differs :
    (expansion [("main", "<main><slot></slot></main>")]
        "<template :if=\"true\">x</template>" = some "x" ∧
      expansion [("main", "<main><slot></slot></main>")]
        (layoutPage "main" "<template :if=\"true\">x</template>") =
          some "<main><template :if=\"true\">x</template></main>") ∧
    (expansion [("main", "<slot></slot>\x7bb\x7d")] "a$" = some "a$" ∧
      expansion [("main", "<slot></slot>\x7bb\x7d")] (layoutPage "main" "a$") = none) ∧
    (expansion [("main", "<slot></slot>")] "<script>x" = some "<script>x</script>" ∧
      expansion [("main", "<slot></slot>")] (layoutPage "main" "<script>x") =
        some "<script>x</template></script>") ∧
    expansion [("main", "<slot></slot>")] (Markup.toHtml (nested [.text "x"] 16)) = some "x" ∧
      expansion [("main", "<slot></slot>")]
        (layoutPage "main" (Markup.toHtml (nested [.text "x"] 16))) = none := by
  have inMain : Markup.parse "<main><slot></slot></main>" =
      .ok ((Frame.inside [] "main" [] (.here [] []) []).fill [.element slotTag [] []]) := by
    decide +kernel
  have beforeBrace : Markup.parse "<slot></slot>\x7bb\x7d" =
      .ok ((Frame.here [] [.text "\x7bb\x7d"]).fill [.element slotTag [] []]) := by
    decide +kernel
  have bare : Markup.parse "<slot></slot>" =
      .ok ((Frame.here [] []).fill [.element slotTag [] []]) := by
    decide +kernel
  refine ⟨⟨?_, ?_⟩, ⟨?_, ?_⟩, ⟨?_, ?_⟩, ?_, ?_⟩
  · have parsed : Markup.parse "<template :if=\"true\">x</template>" =
        .ok [.element Directive.tag [⟨":if", some "true"⟩] [.text "x"]] := by
      decide +kernel
    have compiled : (LayoutSource.ofLookup
        (Table.get? [("main", "<main><slot></slot></main>")])).compile
        "<template :if=\"true\">x</template>" () =
          (.ok [.branch [(some "true", [.append ⟨[.literal "x"]⟩])]], ()) := by
      rw [LayoutSource.compile, parsed]
      change LayoutSource.lower _ 16 _ () = _
      rw [LayoutSource.lower]
      simp only [LayoutSource.lowerWith]
      with_unfolding_all rfl
    rw [expansion_of_compile compiled]
    decide +kernel
  · have wrapped : Markup.parse (layoutPage "main" "<template :if=\"true\">x</template>") =
        .ok [.element Directive.tag [⟨"layout", some "main"⟩]
          [.element Directive.tag [⟨":if", some "true"⟩] [.text "x"]]] := by
      decide +kernel
    have run : runInstructions (Markup.toHtml
        ((Frame.inside [] "main" [] (.here [] []) []).fill
          [.element Directive.tag [⟨":if", some "true"⟩] [.text "x"]])) =
        .ok [.append ⟨[.literal "<main><template :if=\"true\">x</template></main>"]⟩] := by
      with_unfolding_all rfl
    rw [expansion_layoutPage_of_run (by simp [Frame.fill, tagsOf, slotTag]) rfl inMain wrapped
      (by decide) run]
    decide +kernel
  · have parsed : Markup.parse "a$" = .ok [.text "a$"] := by
      decide +kernel
    have run : runInstructions (Markup.toHtml [.text "a$"]) =
        .ok [.append ⟨[.literal "a$"]⟩] := by
      with_unfolding_all rfl
    rw [expansion_of_run parsed (by decide) run]
    decide +kernel
  · have wrapped : Markup.parse (layoutPage "main" "a$") =
        .ok [.element Directive.tag [⟨"layout", some "main"⟩] [.text "a$"]] := by
      decide +kernel
    have run : runInstructions (Markup.toHtml
        ((Frame.here [] [.text "\x7bb\x7d"]).fill [.text "a$"])) =
        .ok [.append ⟨[.literal "a", .expr "b"]⟩] := by
      with_unfolding_all rfl
    rw [expansion_layoutPage_of_run (by simp [Frame.fill, tagsOf]) rfl beforeBrace wrapped
      (by decide) run]
    decide +kernel
  · have parsed : Markup.parse "<script>x" = .ok [.element "script" [] [.text "x"]] := by
      decide +kernel
    have run : runInstructions (Markup.toHtml [.element "script" [] [.text "x"]]) =
        .ok [.append ⟨[.literal "<script>x</script>"]⟩] := by
      with_unfolding_all rfl
    rw [expansion_of_run parsed (by decide) run]
    decide +kernel
  · have wrapped : Markup.parse (layoutPage "main" "<script>x") =
        .ok [.element Directive.tag [⟨"layout", some "main"⟩]
          [.element "script" [] [.text "x</template>"]]] := by
      decide +kernel
    have run : runInstructions (Markup.toHtml
        ((Frame.here [] []).fill [.element "script" [] [.text "x</template>"]])) =
        .ok [.append ⟨[.literal "<script>x</template></script>"]⟩] := by
      with_unfolding_all rfl
    rw [expansion_layoutPage_of_run (by simp [Frame.fill, tagsOf]) rfl bare wrapped
      (by decide) run]
    decide +kernel
  · have parsed : Markup.parse (Markup.toHtml (nested [.text "x"] 16)) =
        .ok (nested [.text "x"] 16) := by
      rw [Markup.parse, Markup.toHtml, String.toList_ofList]
      decide +kernel
    have run : runInstructions (Markup.toHtml [.text "x"]) =
        .ok [.append ⟨[.literal "x"]⟩] := by
      with_unfolding_all rfl
    rw [expansion_nested rfl parsed (by decide) run (Nat.le_refl 16)]
    decide +kernel
  · have parsed : Markup.parse (Markup.toHtml (nested [.text "x"] 17)) =
        .ok (nested [.text "x"] 17) := by
      rw [Markup.parse, Markup.toHtml, String.toList_ofList]
      decide +kernel
    have wrapped : layoutPage "main" (Markup.toHtml (nested [.text "x"] 16)) =
        Markup.toHtml (nested [.text "x"] 17) := layoutPage_toHtml _ _
    rw [wrapped]
    exact expansion_nested_full rfl parsed

end LivePages
