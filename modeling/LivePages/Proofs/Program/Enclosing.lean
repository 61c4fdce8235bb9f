import LivePages.Program.Render
import LivePages.Proofs.Markup.Frame
import LivePages.Proofs.Program.Keeping
import LivePages.Proofs.Program.Lowering
import LivePages.Proofs.Template

/-!
# Siblings between plain nodes

Plain nodes in front of siblings and behind them go to the first and to the last run of
the outline; everything between stays as it is.  So the compiled whole emits what the
siblings alone emit, between the two markups, and looks up the same layouts.
-/

namespace LivePages

open Markup (Node writeAll toHtml)

namespace Instruction

variable {σ : Type} {left right text : List Char} {inner outer : List Instruction}

theorem renderAll_append (engine : Evaluator σ) (locals : Locals)
    (first second : List Instruction) :
    renderAll engine locals (first ++ second) = do
      let a ← renderAll engine locals first
      let b ← renderAll engine locals second
      return a ++ b := by
  induction first with
  | nil => simp only [List.nil_append, renderAll, pure_bind, String.empty_append, bind_pure]
  | cons i first inductionHypothesis =>
      simp only [List.cons_append, renderAll, inductionHypothesis, bind_assoc, pure_bind,
        String.append_assoc]

/-- Instructions that emit what others emit, between two texts. -/
def Encloses (left right : List Char) (inner outer : List Instruction) : Prop :=
  ∀ (σ : Type) (engine : Evaluator σ) (locals : Locals),
    renderAll engine locals outer =
      (fun h => String.ofList left ++ h ++ String.ofList right) <$>
        renderAll engine locals inner

theorem Encloses.behind (encloses : Encloses text [] inner outer)
    (more : List Instruction) : Encloses text [] (inner ++ more) (outer ++ more) := by
  intro σ engine locals
  rw [renderAll_append, renderAll_append, encloses σ engine locals]
  simp only [map_eq_pure_bind, bind_assoc, pure_bind, String.ofList_nil,
    String.append_empty, String.append_assoc]

theorem Encloses.inFront (encloses : Encloses [] text inner outer)
    (more : List Instruction) : Encloses [] text (more ++ inner) (more ++ outer) := by
  intro σ engine locals
  rw [renderAll_append, renderAll_append, encloses σ engine locals]
  simp [String.append_assoc]

theorem Encloses.both {middle : List Instruction}
    (behind : Encloses [] right inner middle) (inFront : Encloses left [] middle outer) :
    Encloses left right inner outer := by
  intro σ engine locals
  rw [inFront σ engine locals, behind σ engine locals]
  simp [String.append_assoc]

/-- Instructions that emit what a template emits. -/
def Emits (is : List Instruction) (segments : List Segment) : Prop :=
  ∀ (σ : Type) (engine : Evaluator σ) (locals : Locals),
    renderAll engine locals is = Template.render engine locals ⟨segments⟩

theorem emits_append (segments : List Segment) : Emits [.append ⟨segments⟩] segments := by
  intro σ engine locals
  simp [renderAll, render]

theorem Encloses.of_emits {first second : List Segment} (innerEmits : Emits inner first)
    (outerEmits : Emits outer second) (encloses : Template.Encloses left right first second) :
    Encloses left right inner outer := by
  intro σ engine locals
  rw [innerEmits σ engine locals, outerEmits σ engine locals, encloses σ engine locals]

end Instruction

open Instruction (Encloses Emits)

/-! ## One run -/

theorem runInstructions_of_segmentsOf {cs : List Char} {segments : List Segment}
    (parsed : Template.segmentsOf cs = .ok segments) :
    ∃ is, runInstructions (String.ofList cs) = .ok is ∧ Emits is segments := by
  cases cs with
  | nil =>
      rw [Template.segmentsOf_of_none rfl] at parsed
      cases parsed
      exact ⟨[], rfl, fun σ engine locals => rfl⟩
  | cons c cs =>
      have filled : String.ofList (c :: cs) ≠ "" := by
        intro empty
        cases String.ofList_eq_empty_iff.1 empty
      refine ⟨[.append ⟨segments⟩], ?_, Instruction.emits_append segments⟩
      rw [runInstructions, if_neg filled, Template.parse, String.toList_ofList, parsed]

theorem segmentsOf_of_runInstructions {cs : List Char} {is : List Instruction}
    (compiled : runInstructions (String.ofList cs) = .ok is) :
    ∃ segments, Template.segmentsOf cs = .ok segments ∧ Emits is segments := by
  cases parsed : Template.segmentsOf cs with
  | ok segments =>
      obtain ⟨again, same, emits⟩ := runInstructions_of_segmentsOf parsed
      rw [compiled] at same
      cases same
      exact ⟨segments, rfl, emits⟩
  | error rest =>
      cases cs with
      | nil =>
          rw [Template.segmentsOf_of_none rfl] at parsed
          cases parsed
      | cons c cs =>
          have filled : String.ofList (c :: cs) ≠ "" := by
            intro empty
            cases String.ofList_eq_empty_iff.1 empty
          rw [runInstructions, if_neg filled, Template.parse, String.toList_ofList,
            parsed] at compiled
          cases compiled

theorem runInstructions_append_left {text cs : List Char} (noDollar : '$' ∉ text)
    {inner : List Instruction}
    (compiled : runInstructions (String.ofList cs) = .ok inner) :
    ∃ outer, runInstructions (String.ofList (text ++ cs)) = .ok outer ∧
      Encloses text [] inner outer := by
  obtain ⟨first, parsed, innerEmits⟩ := segmentsOf_of_runInstructions compiled
  obtain ⟨second, parsed, encloses⟩ := Template.segmentsOf_append_left noDollar parsed
  obtain ⟨outer, compiled, outerEmits⟩ := runInstructions_of_segmentsOf parsed
  exact ⟨outer, compiled, .of_emits innerEmits outerEmits encloses⟩

theorem runInstructions_append_right {text cs : List Char} (noDollar : '$' ∉ text)
    (joins : Template.Joins cs text) {inner : List Instruction}
    (compiled : runInstructions (String.ofList cs) = .ok inner) :
    ∃ outer, runInstructions (String.ofList (cs ++ text)) = .ok outer ∧
      Encloses [] text inner outer := by
  obtain ⟨first, parsed, innerEmits⟩ := segmentsOf_of_runInstructions compiled
  obtain ⟨second, parsed, encloses⟩ :=
    Template.segmentsOf_append_right noDollar joins parsed
  obtain ⟨outer, compiled, outerEmits⟩ := runInstructions_of_segmentsOf parsed
  exact ⟨outer, compiled, .of_emits innerEmits outerEmits encloses⟩

/-! ## Outlines between plain nodes -/

namespace Outline

variable {β : Type}

/-- Puts nodes in front of the first run. -/
def prependAll (nodes : List Node) : Outline β → Outline β
  | run inner => run (nodes ++ inner)
  | item lead i rest => item (nodes ++ lead) i rest

/-- Puts nodes behind the last run. -/
def extend (nodes : List Node) : Outline β → Outline β
  | run inner => run (inner ++ nodes)
  | item lead i rest => item lead i (rest.extend nodes)

def lastRun : Outline β → List Node
  | run nodes => nodes
  | item _ _ rest => rest.lastRun

end Outline

namespace Sibling

variable {β : Type}

theorem outline_plain_append (nodes : List Node) (ss : List (Sibling β)) :
    outline (nodes.map plain ++ ss) = (outline ss).prependAll nodes := by
  induction nodes with
  | nil => cases h : outline ss <;> simp [h, Outline.prependAll]
  | cons node nodes inductionHypothesis =>
      rw [List.map_cons, List.cons_append, outline, inductionHypothesis]
      cases outline ss <;> rfl

theorem nextArm?_plain (nodes : List Node) :
    nextArm? (nodes.map (plain : Node → Sibling β)) = none := by
  induction nodes with
  | nil => rfl
  | cons node nodes inductionHypothesis =>
      rw [List.map_cons]
      cases node with
      | element tag attributes children =>
          exact nextArm?_cons_other _ rfl nofun
      | text text => rw [nextArm?_cons_gap _ rfl, inductionHypothesis]
      | comment text => rw [nextArm?_cons_gap _ rfl, inductionHypothesis]

theorem nextArm?_append_plain (ss : List (Sibling β)) (nodes : List Node) :
    nextArm? (ss ++ nodes.map plain) =
      (nextArm? ss).map fun (arm, rest) => (arm, rest ++ nodes.map plain) := by
  induction ss with
  | nil => exact nextArm?_plain nodes
  | cons s ss inductionHypothesis =>
      rw [List.cons_append]
      by_cases gap : s.isGap = true
      · rw [nextArm?_cons_gap _ gap, nextArm?_cons_gap _ gap, inductionHypothesis]
      · by_cases arm : ∃ condition body, s = .continuing condition body
        · obtain ⟨condition, body, rfl⟩ := arm
          rfl
        · have noGap : s.isGap = false := by
            simpa using gap
          have noArm : ∀ condition body, s ≠ .continuing condition body := by
            intro condition body equality
            exact arm ⟨condition, body, equality⟩
          rw [nextArm?_cons_other _ noGap noArm, nextArm?_cons_other _ noGap noArm]
          rfl

theorem arms_append_plain (ss : List (Sibling β)) (nodes : List Node) :
    arms (ss ++ nodes.map plain) =
      ((arms ss).1, (arms ss).2.1, (arms ss).2.2 ++ nodes.map plain) := by
  have next := nextArm?_append_plain ss nodes
  induction ss using arms.induct with
  | case1 ss found =>
      rw [found] at next
      rw [arms_of_none found, arms_of_none next]
  | case2 ss body rest found =>
      rw [found] at next
      rw [arms_of_fallback found, arms_of_fallback next]
  | case3 ss condition body rest found _ _ _ _ inductionHypothesis =>
      rw [found] at next
      rw [arms_of_condition found, arms_of_condition next,
        inductionHypothesis (nextArm?_append_plain rest nodes)]

theorem outline_append_plain (ss : List (Sibling β)) (nodes : List Node) :
    outline (ss ++ nodes.map plain) = (outline ss).extend nodes := by
  induction ss using outline.induct with
  | case1 =>
      rw [List.nil_append, ← List.append_nil (nodes.map plain), outline_plain_append,
        outline]
      simp [Outline.prependAll, Outline.extend]
  | case2 rest inductionHypothesis =>
      rw [List.cons_append, outline, outline, inductionHypothesis]
  | case3 node rest inductionHypothesis =>
      rw [List.cons_append, outline, outline, inductionHypothesis]
      cases outline rest <;> rfl
  | case4 condition body rest inductionHypothesis =>
      rw [List.cons_append, outline, outline, arms_append_plain, inductionHypothesis]
      rfl
  | case5 condition body rest inductionHypothesis =>
      rw [List.cons_append, outline, outline, inductionHypothesis]
      rfl
  | case6 header body rest inductionHypothesis =>
      rw [List.cons_append, outline, outline, inductionHypothesis]
      rfl
  | case7 name body rest inductionHypothesis =>
      rw [List.cons_append, outline, outline, inductionHypothesis]
      rfl
  | case8 body rest inductionHypothesis =>
      rw [List.cons_append, outline, outline, inductionHypothesis]
      rfl

end Sibling

/-! ## Steps that succeed -/

section Steps

variable {σ ε α β : Type}

theorem bind_of_ok {first : ExceptT ε (StateM σ) α} {s t : σ} {a : α}
    (done : first s = (.ok a, t)) (next : α → ExceptT ε (StateM σ) β) :
    (first >>= next) s = next a t := by
  rw [Keeps.bind_eq, done]

theorem LayoutSource.of_check {source : LayoutSource σ ε}
    {result : Except CompileError α} {s t : σ} {a : α}
    (done : source.check result s = (.ok a, t)) : result = .ok a ∧ t = s := by
  cases result with
  | error e => cases done
  | ok b =>
      cases done
      exact ⟨rfl, rfl⟩

end Steps

namespace LayoutSource

variable {σ ε : Type} {source : LayoutSource σ ε} {s t : σ}
  {nodes : List Node} {inner : List Instruction}

/-- What compiling does with a layout that a page includes. -/
def expandAt (source : LayoutSource σ ε) (depth : Nat) (name : String)
    (content : List Node) : ExceptT ε (StateM σ) (List Instruction) :=
  match depth with
  | 0 => throw (source.report (.layoutDepthExceeded maxLayoutDepth))
  | depth + 1 => do
    match ← source.resolve name with
    | none => throw (source.report (.unknownLayout name))
    | some layout =>
      source.lower depth ((Markup.replaceFirst? slotTag content layout).getD layout)

theorem lower_eq (depth : Nat) (nodes : List Node) :
    source.lower depth nodes =
      source.compileOutline (Sibling.outline (source.siblings (source.expandAt depth) nodes)) := by
  rw [← feedAll_empty, ← lowerWith_bind_finish]
  cases depth with
  | zero => rw [lower]; rfl
  | succ depth => rw [lower]; rfl

/-- The run in front of an item gives the first instructions, whatever it is. -/
theorem compileItem_relead {lead : String}
    {item : Item (ExceptT ε (StateM σ) (List Instruction))}
    (compiled : source.compileItem lead item s = (.ok inner, t)) :
    ∃ before more, runInstructions lead = .ok before ∧ inner = before ++ more ∧
      ∀ other first, runInstructions other = .ok first →
        source.compileItem other item s = (.ok (first ++ more), t) := by
  have behind : ∀ (body : ExceptT ε (StateM σ) (List Instruction))
      (make : List Instruction → List Instruction),
      (body >>= fun is => source.check (runInstructions lead) >>= fun before =>
          pure (before ++ make is)) s = (.ok inner, t) →
        ∃ before more, runInstructions lead = .ok before ∧ inner = before ++ more ∧
          ∀ other first, runInstructions other = .ok first →
            (body >>= fun is => source.check (runInstructions other) >>= fun before =>
              pure (before ++ make is)) s = (.ok (first ++ more), t) := by
    intro body make compiled
    obtain ⟨is, middle, made, behindBody⟩ := exists_of_bind compiled
    obtain ⟨before, _, checked, behindLead⟩ := exists_of_bind behindBody
    obtain ⟨led, rfl⟩ := of_check checked
    cases behindLead
    refine ⟨before, make is, led, rfl, fun other first again => ?_⟩
    rw [bind_of_ok made, again]
    rfl
  cases item with
  | chain chain =>
      obtain ⟨is, middle, made, behindBody⟩ := exists_of_bind compiled
      obtain ⟨before, _, checked, behindLead⟩ := exists_of_bind behindBody
      obtain ⟨led, rfl⟩ := of_check checked
      obtain ⟨more, _, rest, behindArms⟩ := exists_of_bind behindLead
      cases behindArms
      refine ⟨before, _, led, rfl, fun other first again => ?_⟩
      rw [compileItem, bind_of_ok made, again]
      exact bind_of_ok rest _
  | loop header body => exact behind body _ compiled
  | layout name body => exact behind body _ compiled
  | inPlace body => exact behind body id compiled
  | orphan directive body =>
      obtain ⟨_, _, _, thrown⟩ := exists_of_bind compiled
      cases thrown

theorem compileOutline_prependAll
    {o : Outline (ExceptT ε (StateM σ) (List Instruction))}
    (noDollar : '$' ∉ writeAll nodes)
    (compiled : source.compileOutline o s = (.ok inner, t)) :
    ∃ outer, source.compileOutline (o.prependAll nodes) s = (.ok outer, t) ∧
      Encloses (writeAll nodes) [] inner outer := by
  cases o with
  | run run =>
      obtain ⟨made, rfl⟩ := of_check compiled
      obtain ⟨outer, again, encloses⟩ := runInstructions_append_left noDollar made
      refine ⟨outer, ?_, encloses⟩
      rw [Outline.prependAll, compileOutline, toHtml, Markup.writeAll_append, again]
      rfl
  | item lead item rest =>
      obtain ⟨first, middle, made, behindItem⟩ := exists_of_bind compiled
      obtain ⟨later, _, others, behindRest⟩ := exists_of_bind behindItem
      cases behindRest
      obtain ⟨before, more, led, rfl, again⟩ := compileItem_relead made
      obtain ⟨outer, relead, encloses⟩ := runInstructions_append_left noDollar led
      rw [← Markup.writeAll_append] at relead
      have remade := again (toHtml (nodes ++ lead)) outer relead
      refine ⟨outer ++ more ++ later, ?_, (encloses.behind more).behind later⟩
      rw [Outline.prependAll, compileOutline, bind_of_ok remade, bind_of_ok others]
      rfl

/-- By induction on the items: the nodes come behind the last of them. -/
theorem compileOutline_extend {o : Outline (ExceptT ε (StateM σ) (List Instruction))}
    (noDollar : '$' ∉ writeAll nodes)
    (joins : Template.Joins (writeAll o.lastRun) (writeAll nodes))
    (compiled : source.compileOutline o s = (.ok inner, t)) :
    ∃ outer, source.compileOutline (o.extend nodes) s = (.ok outer, t) ∧
      Encloses [] (writeAll nodes) inner outer := by
  induction o generalizing inner s with
  | run run =>
      rw [Outline.lastRun] at joins
      obtain ⟨made, rfl⟩ := of_check compiled
      obtain ⟨outer, again, encloses⟩ :=
        runInstructions_append_right noDollar joins made
      refine ⟨outer, ?_, encloses⟩
      rw [Outline.extend, compileOutline, toHtml, Markup.writeAll_append, again]
      rfl
  | item lead item rest inductionHypothesis =>
      obtain ⟨first, middle, made, behindItem⟩ := exists_of_bind compiled
      obtain ⟨later, _, others, behindRest⟩ := exists_of_bind behindItem
      cases behindRest
      obtain ⟨outer, again, encloses⟩ := inductionHypothesis joins others
      refine ⟨first ++ outer, ?_, encloses.inFront first⟩
      rw [Outline.extend, compileOutline, bind_of_ok made, bind_of_ok again]
      rfl

end LayoutSource

end LivePages
