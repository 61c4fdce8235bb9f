import LivePages.Proofs.Program.Enclosing

/-!
# How deep layouts stand inside each other

The limit on layouts inside each other decides only whether compiling fails: a program
in which they stand less deep comes out the same with a lower limit.  The walk over
siblings never makes the program it has in hand less deep, so a bound on the result is
a bound on every content that was compiled on the way.
-/

namespace LivePages

open Markup (Node)

mutual

/-- How many layouts stand inside each other in an instruction. -/
def Instruction.depth : Instruction → Nat
  | .append _ => 0
  | .loop _ body => depthOfAll body
  | .branch arms => depthOfArms arms
  | .layout _ body => depthOfAll body + 1

def depthOfAll : List Instruction → Nat
  | [] => 0
  | i :: rest => max i.depth (depthOfAll rest)

def depthOfArms : List Arm → Nat
  | [] => 0
  | (_, body) :: rest => max (depthOfAll body) (depthOfArms rest)

end

theorem depthOfAll_append (first second : List Instruction) :
    depthOfAll (first ++ second) = max (depthOfAll first) (depthOfAll second) := by
  induction first with
  | nil => simp [depthOfAll]
  | cons i first inductionHypothesis =>
      simp [depthOfAll, inductionHypothesis, Nat.max_assoc]

theorem depthOfArms_append (first second : List Arm) :
    depthOfArms (first ++ second) = max (depthOfArms first) (depthOfArms second) := by
  induction first with
  | nil => simp [depthOfArms]
  | cons arm first inductionHypothesis =>
      simp [depthOfArms, inductionHypothesis, Nat.max_assoc]

namespace Emitter

/-- The depth of what is under construction. -/
def depth (e : Emitter) : Nat := max (depthOfAll e.instructions) (depthOfArms (e.chain.getD []))

variable {e f : Emitter}

theorem depth_closeChain (e : Emitter) : e.closeChain.depth = e.depth := by
  obtain ⟨is, markup, chain, pending⟩ := e
  cases chain with
  | none => rfl
  | some arms =>
      simp [closeChain, depth, depthOfAll_append, depthOfAll, depthOfArms, Instruction.depth]

/-- When no branch is open any more, the instructions have the whole depth. -/
theorem depth_settled (flushed : e.closeChain.flushMarkup = .ok f) :
    f.chain = none ∧ depthOfAll f.instructions = e.depth := by
  have closed : e.closeChain.chain = none := rfl
  have whole : depthOfAll e.closeChain.instructions = e.depth := by
    rw [← depth_closeChain e, depth, closed]
    simp [depthOfArms]
  unfold flushMarkup at flushed
  split at flushed
  · cases flushed
    exact ⟨closed, whole⟩
  · split at flushed
    · cases flushed
      simpa [depthOfAll_append, depthOfAll, Instruction.depth] using ⟨closed, whole⟩
    · cases flushed

theorem depth_addMarkup (node : Node) (e : Emitter) :
    (e.addMarkup node).depth = e.depth := by
  unfold addMarkup
  dsimp only
  split
  · exact depth_closeChain e
  · exact depth_closeChain e
  · rfl

theorem depth_addInstructions {is : List Instruction}
    (added : e.addInstructions is = .ok f) : f.depth = max e.depth (depthOfAll is) := by
  obtain ⟨g, flushed, rest⟩ := exists_of_bind_ok added
  cases rest
  obtain ⟨chain, whole⟩ := depth_settled flushed
  simp [depth, chain, whole, depthOfAll_append, depthOfArms]

theorem depth_openChain {arm : Arm} (opened : e.openChain arm = .ok f) :
    f.depth = max e.depth (depthOfAll arm.2) := by
  obtain ⟨g, flushed, rest⟩ := exists_of_bind_ok opened
  cases rest
  obtain ⟨chain, whole⟩ := depth_settled flushed
  simp [depth, whole, depthOfArms]

theorem depth_continueChain {directive : String} {arm : Arm}
    (continued : e.continueChain directive arm = .ok f) :
    f.depth = max e.depth (depthOfAll arm.2) := by
  unfold continueChain at continued
  split at continued
  · rename_i arms chain
    cases continued
    simp only [depth, chain, Option.getD_some, depthOfArms_append, depthOfArms]
    omega
  · cases continued

theorem depth_finish {is : List Instruction} (finished : e.finish = .ok is) :
    depthOfAll is = e.depth := by
  obtain ⟨g, flushed, rfl⟩ := exists_of_map finished
  exact (depth_settled flushed).2

end Emitter

/-- What a step makes at a depth below a bound, another step makes as well. -/
def AgreesBelow {σ ε : Type} (bound : Nat)
    (one other : ExceptT ε (StateM σ) (List Instruction)) : Prop :=
  ∀ is s t, one s = (.ok is, t) → depthOfAll is < bound → other s = (.ok is, t)

/-- Siblings of the same kind, whose contents agree below a bound.  The content of a
layout stands one level deeper. -/
inductive Sibling.Agrees {σ ε : Type} (bound : Nat) :
    Sibling (ExceptT ε (StateM σ) (List Instruction)) →
      Sibling (ExceptT ε (StateM σ) (List Instruction)) → Prop where
  | skipped : Agrees bound .skipped .skipped
  | plain (node : Node) : Agrees bound (.plain node) (.plain node)
  | opening (condition : String) {one other}
    (agree : AgreesBelow (bound + 1) one other) :
    Agrees bound (.opening condition one) (.opening condition other)
  | continuing (condition : Option String) {one other}
    (agree : AgreesBelow (bound + 1) one other) :
    Agrees bound (.continuing condition one) (.continuing condition other)
  | loop (header : String) {one other} (agree : AgreesBelow (bound + 1) one other) :
    Agrees bound (.loop header one) (.loop header other)
  | layout (name : String) {one other} (agree : AgreesBelow bound one other) :
    Agrees bound (.layout name one) (.layout name other)
  | inPlace {one other} (agree : AgreesBelow (bound + 1) one other) :
    Agrees bound (.inPlace one) (.inPlace other)

namespace LayoutSource

variable {σ ε : Type} {source : LayoutSource σ ε}

/-- Placing content that agrees. -/
theorem place_agrees {bound : Nat} {one other : ExceptT ε (StateM σ) (List Instruction)}
    (agree : AgreesBelow bound one other) {place : List Instruction → Except CompileError Emitter}
    {e f : Emitter} {s t : σ}
    (grows : ∀ is, place is = .ok f → e.depth ≤ f.depth ∧ depthOfAll is < bound)
    (placed : (one >>= fun is => source.check (place is)) s = (.ok f, t)) :
    e.depth ≤ f.depth ∧ (other >>= fun is => source.check (place is)) s = (.ok f, t) := by
  obtain ⟨is, middle, made, checked⟩ := exists_of_bind placed
  obtain ⟨done, same⟩ := of_check checked
  obtain ⟨outer, inner⟩ := grows is done
  refine ⟨outer, ?_⟩
  rw [bind_of_ok (agree is s middle made inner)]
  exact checked

theorem feedOne_fallback (e : Emitter) (body : ExceptT ε (StateM σ) (List Instruction)) :
    source.feedOne e (.continuing none body) =
      body >>= fun is => source.check
        ((e.continueChain Directive.otherwiseName (none, is)).map Emitter.closeChain) := by
  simp only [feedOne, check_map, map_eq_pure_bind]

theorem feedOne_agrees {bound : Nat}
    {one other : Sibling (ExceptT ε (StateM σ) (List Instruction))}
    (agrees : one.Agrees bound other) {e f : Emitter} {s t : σ}
    (fed : source.feedOne e one s = (.ok f, t)) (shallow : f.depth ≤ bound) :
    e.depth ≤ f.depth ∧ source.feedOne e other s = (.ok f, t) := by
  cases agrees with
  | skipped =>
      cases fed
      exact ⟨Nat.le_refl _, rfl⟩
  | plain node =>
      cases fed
      exact ⟨Nat.le_of_eq (Emitter.depth_addMarkup node e).symm, rfl⟩
  | opening condition agree =>
      refine place_agrees agree (fun is placed => ?_) fed
      have deep := Emitter.depth_openChain placed
      dsimp only at deep
      omega
  | continuing condition agree =>
      cases condition with
      | some condition =>
          refine place_agrees agree (fun is placed => ?_) fed
          have deep := Emitter.depth_continueChain placed
          dsimp only at deep
          omega
      | none =>
          rw [feedOne_fallback] at fed ⊢
          refine place_agrees agree (fun is placed => ?_) fed
          obtain ⟨g, continued, rfl⟩ := exists_of_map placed
          have deep := Emitter.depth_continueChain continued
          rw [Emitter.depth_closeChain] at shallow ⊢
          dsimp only at deep
          omega
  | loop header agree =>
      refine place_agrees agree (fun is placed => ?_) fed
      have deep := Emitter.depth_addInstructions placed
      simp only [depthOfAll, Instruction.depth] at deep
      omega
  | layout name agree =>
      refine place_agrees agree (fun is placed => ?_) fed
      have deep := Emitter.depth_addInstructions placed
      simp only [depthOfAll, Instruction.depth] at deep
      omega
  | inPlace agree =>
      refine place_agrees agree (fun is placed => ?_) fed
      have deep := Emitter.depth_addInstructions placed
      omega

/-- By induction on the siblings, from the bound on the result backwards. -/
theorem feedAll_agrees {bound : Nat}
    {ones others : List (Sibling (ExceptT ε (StateM σ) (List Instruction)))}
    (agree : List.Forall₂ (Sibling.Agrees bound) ones others) {e : Emitter} {s t : σ}
    {is : List Instruction} (fed : source.feedAll ones e s = (.ok is, t))
    (shallow : depthOfAll is ≤ bound) :
    e.depth ≤ depthOfAll is ∧ source.feedAll others e s = (.ok is, t) := by
  induction agree generalizing e s with
  | nil =>
      obtain ⟨finished, rfl⟩ := of_check fed
      exact ⟨Nat.le_of_eq (Emitter.depth_finish finished).symm, fed⟩
  | cons agrees _ inductionHypothesis =>
      obtain ⟨f, middle, first, later⟩ := exists_of_bind fed
      obtain ⟨laterDeep, later⟩ := inductionHypothesis later
      obtain ⟨firstDeep, first⟩ := feedOne_agrees agrees first (laterDeep.trans shallow)
      refine ⟨firstDeep.trans laterDeep, ?_⟩
      rw [feedAll, bind_of_ok first]
      exact later

theorem siblings_agree {bound : Nat}
    {expand other : String → List Node → ExceptT ε (StateM σ) (List Instruction)}
    (agree : ∀ name content, AgreesBelow bound (expand name content) (other name content)) :
    ∀ nodes : List Node, List.Forall₂ (Sibling.Agrees bound)
      (source.siblings expand nodes) (source.siblings other nodes)
  | [] => by
      rw [siblings, siblings]
      exact .nil
  | .text text :: rest => by
      simpa [siblings] using ⟨.plain _, siblings_agree agree rest⟩
  | .comment text :: rest => by
      simpa [siblings] using ⟨.plain _, siblings_agree agree rest⟩
  | .element tag attributes children :: rest => by
      have inside := siblings_agree agree children
      have content : AgreesBelow (bound + 1)
          (source.compileOutline (Sibling.outline (source.siblings expand children)))
          (source.compileOutline (Sibling.outline (source.siblings other children))) := by
        intro is s t made shallow
        rw [← feedAll_empty] at made ⊢
        exact (feedAll_agrees inside made (Nat.le_of_lt_succ shallow)).2
      rw [siblings, siblings]
      refine .cons ?_ (siblings_agree agree rest)
      by_cases wrapper : tag = "template"
      · rw [if_pos wrapper, if_pos wrapper, Sibling.ofWrapper_eq, Sibling.ofWrapper_eq]
        cases Directive.ofAttributes attributes with
        | loop header => exact .loop header content
        | conditional condition => exact .opening condition content
        | elseIf condition => exact .continuing _ content
        | otherwise => exact .continuing _ content
        | layout name => exact .layout name (agree name children)
        | passThrough => exact .inPlace content
        | malformed => exact .skipped
      · rw [if_neg wrapper, if_neg wrapper]
        exact .plain _

theorem lower_agrees_of_expand {depth : Nat}
    (agree : ∀ name content, AgreesBelow depth
      (source.expandAt (depth + 1) name content) (source.expandAt depth name content))
    (nodes : List Node) :
    AgreesBelow (depth + 1) (source.lower (depth + 1) nodes) (source.lower depth nodes) := by
  intro is s t made shallow
  rw [lower_eq, ← feedAll_empty] at made ⊢
  exact (feedAll_agrees (siblings_agree agree nodes) made (Nat.le_of_lt_succ shallow)).2

/-- With a limit that is lower by one, compiling makes the same of a program that does
not reach the limit. -/
theorem lower_agrees (depth : Nat) (nodes : List Node) :
    AgreesBelow (depth + 1) (source.lower (depth + 1) nodes) (source.lower depth nodes) := by
  induction depth generalizing nodes with
  | zero =>
      apply lower_agrees_of_expand
      intro name content is s t _ shallow
      cases shallow
  | succ depth inductionHypothesis =>
      apply lower_agrees_of_expand
      intro name content is s t made shallow
      obtain ⟨found, middle, resolved, behind⟩ := exists_of_bind made
      rw [expandAt, bind_of_ok resolved]
      cases found with
      | none => cases behind
      | some layout => exact inductionHypothesis _ is middle t behind shallow

end LayoutSource

end LivePages
