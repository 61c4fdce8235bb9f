import LivePages.Proofs.Program.Expansion

/-!
# A compiler that counts

A compiler that is used again and again keeps count of how deep it stands in layouts.
The count goes up in front of the markup of a layout and down behind it, whether the
markup is compiled or not, so between two uses it is always nought.  Nothing else in
the compiler stops an expansion; that every expansion comes to an end is shown with a
bound on how many inclusions may be under way at once.
-/

namespace LivePages

open Markup (Node)

namespace LayoutSource

variable {σ ε : Type}

/-- The source of a compiler that counts: its state is behind the count. -/
def counting (source : LayoutSource σ ε) : LayoutSource (Nat × σ) ε where
  resolve name := fun (count, s) =>
    let (found, s) := source.resolve name s
    (found, (count, s))
  report := source.report

/-- Includes a layout while counting. -/
def includeCounting (source : LayoutSource σ ε)
    (lower : List Node → ExceptT ε (StateM (Nat × σ)) (List Instruction))
    (name : String) (content : List Node) :
    ExceptT ε (StateM (Nat × σ)) (List Instruction) := fun (count, s) =>
  if count ≥ maxLayoutDepth then (.error source.tooDeep, (count, s))
  else
    match source.resolve name s with
    | (.error e, s) => (.error e, (count, s))
    | (.ok none, s) => (.error (source.report (.unknownLayout name)), (count, s))
    | (.ok (some layout), s) =>
      let filled := (Markup.replaceFirst? slotTag content layout).getD layout
      let (body, (inside, s)) := lower filled (count + 1, s)
      (body, (inside - 1, s))

/-- Compiles siblings while counting.  At most `fuel` lists of siblings are under way
at once; beyond that the compiler is stuck. -/
def lowerCounting (source : LayoutSource σ ε) (stuck : ε) :
    Nat → List Node → ExceptT ε (StateM (Nat × σ)) (List Instruction)
  | 0, _ => throw stuck
  | fuel + 1, nodes =>
    source.counting.lowerInside (source.includeCounting (source.lowerCounting stuck fuel)) nodes

/-- Compiles the markup of a page while counting. -/
def compileCounting (source : LayoutSource σ ε) (stuck : ε) (fuel : Nat) (markup : String) :
    ExceptT ε (StateM (Nat × σ)) Program := do
  let nodes ← source.counting.check ((Markup.parse markup).mapError .parse)
  source.lowerCounting stuck fuel nodes

/-- A compiler that has been used for some markup, with or without success. -/
def usedFor (source : LayoutSource σ ε) (stuck : ε) (fuel : Nat) (markups : List String)
    (state : Nat × σ) : Nat × σ :=
  markups.foldl (fun state markup => (source.compileCounting stuck fuel markup state).2) state

/-- A source whose answers depend on nothing but the name. -/
def AnswersByName (source : LayoutSource σ ε) : Prop :=
  ∀ name s t, (source.resolve name t).1 = (source.resolve name s).1

variable {source : LayoutSource σ ε} {stuck : ε}

/-- The compiler that counts does what a limit on the layouts still allowed does, and
the count is behind it as it was in front, whatever comes out.  By induction on the
inclusions that may be under way, which only need to be as many as are allowed. -/
theorem lowerCounting_relates {fuel count : Nat} (within : count ≤ maxLayoutDepth)
    (enough : maxLayoutDepth - count < fuel) (nodes : List Node) :
    LivePages.Relates (fun s state => state = (count, s))
      (source.lower (maxLayoutDepth - count) nodes)
      (source.lowerCounting stuck fuel nodes) := by
  induction fuel generalizing count nodes with
  | zero => cases enough
  | succ fuel inductionHypothesis =>
      have same : source.counting.report = source.report := rfl
      rw [lower_eq_lowerInside, lowerCounting, lowerInside, lowerInside]
      refine (lowerWith_relates same (fun name content => ?_) nodes _).bind
        fun e => check_relates same _
      rintro s state rfl
      rw [includeCounting]
      by_cases full : count ≥ maxLayoutDepth
      · rw [if_pos full, Nat.sub_eq_zero_of_le full]
        exact ⟨rfl, rfl⟩
      · have allowed : maxLayoutDepth - count = maxLayoutDepth - (count + 1) + 1 := by omega
        rw [if_neg full, allowed, expandAt, Keeps.bind_eq]
        rcases source.resolve name s with ⟨e | found, t⟩
        · exact ⟨rfl, rfl⟩
        · cases found with
          | none => exact ⟨rfl, rfl⟩
          | some layout =>
              obtain ⟨result, state⟩ := inductionHypothesis
                (by omega : count + 1 ≤ maxLayoutDepth) (by omega) ((Markup.replaceFirst? slotTag content layout).getD layout)
                t (count + 1, t) rfl
              have whole : source.lowerCounting stuck fuel
                  ((Markup.replaceFirst? slotTag content layout).getD layout) (count + 1, t) =
                    (_, _) := Prod.ext result state
              dsimp only
              rw [whole]
              exact ⟨rfl, rfl⟩

theorem compileCounting_relates {fuel : Nat} (enough : maxLayoutDepth < fuel)
    (markup : String) :
    LivePages.Relates (fun s state => state = (0, s)) (source.compile markup)
      (source.compileCounting stuck fuel markup) := by
  have same : source.counting.report = source.report := rfl
  rw [compile, compileCounting]
  exact (check_relates same _).bind fun nodes =>
    lowerCounting_relates (Nat.zero_le _) enough nodes

/-- Between two uses the count is nought. -/
theorem exists_usedFor {fuel : Nat} (enough : maxLayoutDepth < fuel)
    (markups : List String) (s : σ) :
    ∃ t, source.usedFor stuck fuel markups (0, s) = (0, t) := by
  induction markups generalizing s with
  | nil => exact ⟨s, rfl⟩
  | cons markup markups inductionHypothesis =>
      have back : (source.compileCounting stuck fuel markup (0, s)).2 =
          (0, (source.compile markup s).2) :=
        (compileCounting_relates enough markup s (0, s) rfl).2
      obtain ⟨t, later⟩ := inductionHypothesis (source.compile markup s).2
      exact ⟨t, by rw [usedFor, List.foldl_cons, back]; exact later⟩

/-- Compiling with a source that answers by name comes to the same from all states. -/
theorem AnswersByName.compile_eq (byName : source.AnswersByName) (markup : String)
    (s t : σ) : (source.compile markup t).1 = (source.compile markup s).1 :=
  (compile_relates (R := fun _ _ => True)
    ⟨fun name s t _ => ⟨byName name s t, trivial⟩, rfl⟩ markup s t trivial).1

/-- The expansion of layouts is bounded.  With room for one more list of siblings than
layouts may stand inside each other, a compiler is never stuck: what comes out does not
depend on what it would then report, and the count is nought again.  No program has
layouts nested deeper than the limit.  An expansion that comes to an inclusion beyond the
limit before any other error fails for that reason, and with a source that has no such
error of its own nothing else does.  And if the source answers by name, a compiler that
has been used for any markup, with whatever outcome, compiles like a new one. -/
theorem layout_expansion_bounded (source : LayoutSource σ ε) (stuck : ε) (fuel : Nat)
    (enough : maxLayoutDepth < fuel) :
    (∀ nodes s,
      let outcome := source.lower maxLayoutDepth nodes s
      source.lowerCounting stuck fuel nodes (0, s) = (outcome.1, (0, outcome.2)) ∧
      (∀ program, outcome.1 = .ok program → depthOfAll program ≤ maxLayoutDepth) ∧
      (source.Exceeds maxLayoutDepth nodes s →
        outcome.1 = .error (source.report (.layoutDepthExceeded maxLayoutDepth))) ∧
      (source.Distinct →
        outcome.1 = .error (source.report (.layoutDepthExceeded maxLayoutDepth)) →
          source.Exceeds maxLayoutDepth nodes s)) ∧
    (∀ markup s,
      source.compileCounting stuck fuel markup (0, s) =
        ((source.compile markup s).1, (0, (source.compile markup s).2))) ∧
    (source.AnswersByName → ∀ earlier markup s t,
      (source.compileCounting stuck fuel markup
          (source.usedFor stuck fuel earlier (0, s))).1 =
        (source.compileCounting stuck fuel markup (0, t)).1) := by
  have compiled (markup : String) (s : σ) :
      (source.compileCounting stuck fuel markup (0, s)).1 = (source.compile markup s).1 ∧
      (source.compileCounting stuck fuel markup (0, s)).2 =
        (0, (source.compile markup s).2) :=
    compileCounting_relates enough markup s (0, s) rfl
  refine ⟨fun nodes s => ⟨?_, fun program made => ?_, fun exceeds => ?_,
    fun distinct failed => ?_⟩, fun markup s => ?_, fun byName earlier markup s t => ?_⟩
  · have counted : LivePages.Relates _ (source.lower maxLayoutDepth nodes)
        (source.lowerCounting stuck fuel nodes) :=
      lowerCounting_relates (Nat.zero_le _) (by omega : maxLayoutDepth - 0 < fuel) nodes
    obtain ⟨result, state⟩ := counted s (0, s) rfl
    exact Prod.ext result state
  · exact lower_depth (Prod.ext made rfl)
  · obtain ⟨t, failed⟩ := exceeds.lower_eq
    exact congrArg Prod.fst failed
  · exact distinct.exceeds (Prod.ext failed rfl)
  · obtain ⟨result, state⟩ := compiled markup s
    exact Prod.ext result state
  · obtain ⟨u, used⟩ : ∃ u, source.usedFor stuck fuel earlier (0, s) = (0, u) :=
      exists_usedFor enough earlier s
    rw [used, (compiled markup u).1, (compiled markup t).1]
    exact byName.compile_eq markup t u

/-- The inclusion of a layout without content. -/
def mainInclusion : List Node := [.element Directive.tag [⟨"layout", some "main"⟩] []]

/-- A layout that includes itself. -/
def recursiveLayout : LayoutSource Unit CompileError where
  resolve name := pure (if name = "main" then some mainInclusion else none)
  report := id

theorem recursiveLayout_exceeds (depth : Nat) :
    recursiveLayout.Exceeds depth mainInclusion () := by
  have start (limit : Nat) : recursiveLayout.lowerWith (recursiveLayout.expandAt limit) []
      Emitter.empty () = (.ok Emitter.empty, ()) := by
    rw [lowerWith]
    rfl
  have unslotted : (Markup.replaceFirst? slotTag [] mainInclusion).getD mainInclusion =
      mainInclusion := by
    simp [mainInclusion, Markup.replaceFirst?_element, slotTag, Directive.tag]
  induction depth with
  | zero => exact .here (start 0) rfl
  | succ depth inductionHypothesis =>
      refine .deeper (start (depth + 1)) rfl rfl ?_
      rw [unslotted]
      exact inductionHypothesis

/-- It fails for going too deep, and the compiler goes on as if it were new. -/
theorem layout_expansion_bounded_recursive :
    maxLayoutDepth < 17 ∧ recursiveLayout.Exceeds maxLayoutDepth mainInclusion () ∧
      (recursiveLayout.lowerCounting default 17 mainInclusion (0, ())).1 =
        .error (.layoutDepthExceeded 16) ∧
      recursiveLayout.AnswersByName ∧
      ∀ markup,
        (recursiveLayout.compileCounting default 17 markup
            (recursiveLayout.usedFor default 17 ["<template layout=main></template>"]
              (0, ()))).1 =
          (recursiveLayout.compileCounting default 17 markup (0, ())).1 := by
  have enough : maxLayoutDepth < 17 := by decide
  have byName : recursiveLayout.AnswersByName := fun _ _ _ => rfl
  obtain ⟨expansion, -, again⟩ := layout_expansion_bounded recursiveLayout default 17 enough
  obtain ⟨counted, -, deep, -⟩ := expansion mainInclusion ()
  have exceeds := recursiveLayout_exceeds maxLayoutDepth
  refine ⟨enough, exceeds, ?_, byName, fun markup => again byName _ markup () ()⟩
  rw [counted]
  exact deep exceeds

end LayoutSource

end LivePages
