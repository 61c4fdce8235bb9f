import LivePages.Proofs.Program.Outline

/-!
# Compiling siblings from left to right

The walk over siblings keeps three things in hand: markup without an
instruction, the arms of an open branch, and the text behind the last of them.
Only two kinds of states come up.  Either no branch is open and no text waits,
or a branch is open and no markup is left in front of it.  From both the walk
does what the outline of the siblings ahead says.
-/

namespace LivePages

open Markup (toHtml)

theorem toHtml_cons (node : Markup.Node) (nodes : List Markup.Node) :
    toHtml (node :: nodes) = toHtml [node] ++ toHtml nodes := by
  simp [toHtml, Markup.writeAll]

theorem toHtml_nil : toHtml [] = "" :=
  rfl

namespace Emitter

/-- The state in which no branch is open. -/
def closed (is : List Instruction) (markup : String) : Emitter :=
  ⟨is, markup, none, ""⟩

/-- The state in which a branch may still go on. -/
def opened (is : List Instruction) (arms : List Arm) (pending : String) :
    Emitter :=
  ⟨is, "", some arms, pending⟩

@[simp]
theorem closeChain_closed (is : List Instruction) (markup : String) :
    (closed is markup).closeChain = closed is markup := by
  simp [closed, closeChain]

@[simp]
theorem closeChain_opened (is : List Instruction) (arms : List Arm)
    (pending : String) :
    (opened is arms pending).closeChain =
      closed (is ++ [.branch arms]) pending := by
  simp [opened, closed, closeChain]

theorem flushMarkup_closed (is : List Instruction) (markup : String) :
    (closed is markup).flushMarkup =
      (runInstructions markup).map fun before => closed (is ++ before) "" := by
  unfold flushMarkup runInstructions closed
  by_cases empty : markup = ""
  · simp [empty, Except.map]
  · cases Template.parse markup <;> simp [empty, Except.map]

theorem addMarkup_closed (node : Markup.Node) (is : List Instruction)
    (markup : String) :
    (closed is markup).addMarkup node = closed is (markup ++ toHtml [node]) := by
  cases node <;> simp [addMarkup, closed, closeChain]

end Emitter

/-- A wrapper is what its directive asks for. -/
theorem Sibling.ofWrapper_eq {β : Type} (attributes : List Markup.Attribute) (body : β)
    (expand : String → β) :
    ofWrapper attributes body expand =
      match Directive.ofAttributes attributes with
      | .loop header => .loop header body
      | .conditional condition => .opening condition body
      | .elseIf condition => .continuing (some condition) body
      | .otherwise => .continuing none body
      | .layout name => .layout name (expand name)
      | .passThrough => .inPlace body
      | .malformed => .skipped := by
  cases attributes with
  | nil => rfl
  | cons first rest =>
      unfold ofWrapper Directive.ofAttributes
      dsimp only
      -- One case for each name, and in the last one all the others are refused.
      split <;> simp_all [Directive.elseIfName, Directive.otherwiseName,
        Markup.Attribute.valueOrEmpty]

namespace LayoutSource

variable {σ ε : Type}

/-- Adds the instructions of one sibling to an emitter. -/
def feedOne (source : LayoutSource σ ε) (e : Emitter) :
    Sibling (ExceptT ε (StateM σ) (List Instruction)) →
      ExceptT ε (StateM σ) Emitter
  | .skipped => pure e
  | .plain node => pure (e.addMarkup node)
  | .opening condition body => do
    let is ← body
    source.check (e.openChain (some condition, is))
  | .continuing (some condition) body => do
    let is ← body
    source.check (e.continueChain Directive.elseIfName (some condition, is))
  | .continuing none body => do
    let is ← body
    let e ← source.check (e.continueChain Directive.otherwiseName (none, is))
    pure e.closeChain
  | .loop header body => do
    let is ← body
    source.check (e.addInstructions [.loop header is])
  | .layout name body => do
    let is ← body
    source.check (e.addInstructions [.layout name is])
  | .inPlace body => do
    let is ← body
    source.check (e.addInstructions is)

/-- The instructions that an emitter ends with after it was fed siblings. -/
def feedAll (source : LayoutSource σ ε) :
    List (Sibling (ExceptT ε (StateM σ) (List Instruction))) → Emitter →
      ExceptT ε (StateM σ) (List Instruction)
  | [], e => source.check e.finish
  | sibling :: rest, e => do
    let e ← source.feedOne e sibling
    source.feedAll rest e

/-- What an outline adds to instructions that stand already, behind markup
that none of them holds. -/
def compileBehind (source : LayoutSource σ ε) (is : List Instruction)
    (markup : String) :
    Outline (ExceptT ε (StateM σ) (List Instruction)) →
      ExceptT ε (StateM σ) (List Instruction)
  | .run nodes => do
    let last ← source.check (runInstructions (markup ++ toHtml nodes))
    return is ++ last
  | .item lead item rest => do
    let first ← source.compileItem (markup ++ toHtml lead) item
    let more ← source.compileOutline rest
    return is ++ (first ++ more)

variable (source : LayoutSource σ ε)

theorem check_map {α β : Type} (f : α → β) (result : Except CompileError α) :
    source.check (result.map f) = f <$> source.check result := by
  cases result with
  | error e => rfl
  | ok a => rfl

theorem compileBehind_prepend (is : List Instruction) (markup : String)
    (node : Markup.Node)
    (o : Outline (ExceptT ε (StateM σ) (List Instruction))) :
    source.compileBehind is markup (o.prepend node) =
      source.compileBehind is (markup ++ toHtml [node]) o := by
  cases o with
  | run nodes =>
      simp only [Outline.prepend, compileBehind, toHtml_cons node nodes,
        String.append_assoc]
  | item lead i rest =>
      simp only [Outline.prepend, compileBehind, toHtml_cons node lead,
        String.append_assoc]

theorem compileBehind_empty (is : List Instruction)
    (o : Outline (ExceptT ε (StateM σ) (List Instruction))) :
    source.compileBehind is "" o = (is ++ ·) <$> source.compileOutline o := by
  cases o <;> simp [compileBehind, compileOutline]

theorem compileArms_cons (condition : String)
    (body : ExceptT ε (StateM σ) (List Instruction))
    (further : List (String × ExceptT ε (StateM σ) (List Instruction)))
    (fallback : Option (ExceptT ε (StateM σ) (List Instruction))) :
    compileArms ((condition, body) :: further) fallback = do
      let is ← body
      let more ← compileArms further fallback
      return (some condition, is) :: more := by
  simp [compileArms]

/-! ## What the emitter does in its two states -/

theorem check_flush_closed (is : List Instruction) (markup : String) :
    source.check (Emitter.closed is markup).flushMarkup = do
      let before ← source.check (runInstructions markup)
      return Emitter.closed (is ++ before) "" := by
  rw [Emitter.flushMarkup_closed, check_map, map_eq_pure_bind]

theorem check_finish_closed (is : List Instruction) (markup : String) :
    source.check (Emitter.closed is markup).finish = do
      let last ← source.check (runInstructions markup)
      return is ++ last := by
  rw [Emitter.finish, Emitter.closeChain_closed, check_map, check_flush_closed]
  simp [Emitter.closed]

theorem check_bind {α β : Type} (result : Except CompileError α)
    (next : α → Except CompileError β) :
    source.check (result >>= next) =
      source.check result >>= fun a => source.check (next a) := by
  cases result with
  | error e => rfl
  | ok a => rfl

theorem check_pure {α : Type} (a : α) :
    source.check (pure a) = pure a :=
  rfl

theorem check_addInstructions_closed (is new : List Instruction)
    (markup : String) :
    source.check ((Emitter.closed is markup).addInstructions new) = do
      let before ← source.check (runInstructions markup)
      return Emitter.closed (is ++ (before ++ new)) "" := by
  rw [Emitter.addInstructions, Emitter.closeChain_closed, check_bind,
    check_flush_closed]
  simp [Emitter.closed, check_pure]

theorem check_openChain_closed (arm : Arm) (is : List Instruction)
    (markup : String) :
    source.check ((Emitter.closed is markup).openChain arm) = do
      let before ← source.check (runInstructions markup)
      return Emitter.opened (is ++ before) [arm] "" := by
  rw [Emitter.openChain, Emitter.closeChain_closed, check_bind,
    check_flush_closed]
  simp [Emitter.closed, Emitter.opened, check_pure]

theorem check_continueChain_closed (directive : String) (arm : Arm)
    (is : List Instruction) (markup : String) :
    source.check ((Emitter.closed is markup).continueChain directive arm) =
      throw (source.report (.orphanBranch directive)) :=
  rfl

theorem check_continueChain_opened (directive : String) (arm : Arm)
    (is : List Instruction) (before : List Arm) (pending : String) :
    source.check
        ((Emitter.opened is before pending).continueChain directive arm) =
      pure (Emitter.opened is (before ++ [arm]) "") :=
  rfl

/-! ## The walk over siblings -/

/-- From a state without a branch, the walk over `ss` does what their outline
says. -/
def WalksClosed
    (ss : List (Sibling (ExceptT ε (StateM σ) (List Instruction)))) : Prop :=
  ∀ is markup,
    source.feedAll ss (.closed is markup) =
      source.compileBehind is markup (Sibling.outline ss)

/-- From a state with a branch, the walk over `ss` first compiles the arms
ahead.  The waiting text counts only if there are none. -/
def WalksOpened
    (ss : List (Sibling (ExceptT ε (StateM σ) (List Instruction)))) : Prop :=
  ∀ is before pending,
    source.feedAll ss (.opened is before pending) = do
      let more ← compileArms (Sibling.arms ss).1 (Sibling.arms ss).2.1
      source.compileBehind (is ++ [.branch (before ++ more)])
        (if (Sibling.nextArm? ss).isNone then pending else "")
        (Sibling.outline (Sibling.arms ss).2.2)

variable {source}

theorem walksClosed_nil : source.WalksClosed [] := by
  intro is markup
  rw [feedAll, check_finish_closed, Sibling.outline, compileBehind]
  simp [toHtml, Markup.writeAll]

theorem walksClosed_cons {rest}
    (closed : source.WalksClosed rest) (opened : source.WalksOpened rest)
    (s : Sibling (ExceptT ε (StateM σ) (List Instruction))) :
    source.WalksClosed (s :: rest) := by
  intro is markup
  rw [feedAll]
  cases s with
  | skipped =>
      rw [Sibling.outline, ← closed]
      simp [feedOne]
  | plain node =>
      rw [Sibling.outline, compileBehind_prepend, ← closed]
      simp [feedOne, Emitter.addMarkup_closed]
  | opening condition body =>
      rw [Sibling.outline, compileBehind, compileItem, toHtml_nil]
      simp [feedOne, check_openChain_closed, opened _ _ _, compileBehind_empty]
  | continuing condition body =>
      rw [Sibling.outline, compileBehind, compileItem]
      cases condition with
      | none =>
          simp [feedOne, check_continueChain_closed, Sibling.armName,
            Directive.otherwiseName]
      | some condition =>
          simp [feedOne, check_continueChain_closed, Sibling.armName,
            Directive.elseIfName]
  | loop header body =>
      rw [Sibling.outline, compileBehind, compileItem, toHtml_nil]
      simp [feedOne, check_addInstructions_closed, closed _ _,
        compileBehind_empty]
  | layout name body =>
      rw [Sibling.outline, compileBehind, compileItem, toHtml_nil]
      simp [feedOne, check_addInstructions_closed, closed _ _,
        compileBehind_empty]
  | inPlace body =>
      rw [Sibling.outline, compileBehind, compileItem, toHtml_nil]
      simp [feedOne, check_addInstructions_closed, closed _ _,
        compileBehind_empty]

/-- A sibling that is neither a gap nor an arm closes an open branch first. -/
theorem feedOne_opened
    {s : Sibling (ExceptT ε (StateM σ) (List Instruction))}
    (noGap : s.isGap = false)
    (noArm : ∀ condition body, s ≠ .continuing condition body)
    (is : List Instruction) (before : List Arm) (pending : String) :
    source.feedOne (.opened is before pending) s =
      source.feedOne (.closed (is ++ [.branch before]) pending) s := by
  cases s with
  | skipped => cases noGap
  | plain node =>
      cases node with
      | element tag attributes children =>
          simp [feedOne, Emitter.addMarkup]
      | text text => cases noGap
      | comment text => cases noGap
  | continuing condition body => exact absurd rfl (noArm condition body)
  | opening condition body => simp [feedOne, Emitter.openChain]
  | loop header body => simp [feedOne, Emitter.addInstructions]
  | layout name body => simp [feedOne, Emitter.addInstructions]
  | inPlace body => simp [feedOne, Emitter.addInstructions]

/-- A gap behind an open branch only waits. -/
theorem feedOne_opened_gap
    {s : Sibling (ExceptT ε (StateM σ) (List Instruction))}
    (gap : s.isGap = true) (is : List Instruction) (before : List Arm)
    (pending : String) :
    ∃ extra,
      source.feedOne (.opened is before pending) s =
          pure (.opened is before (pending ++ extra)) ∧
        ∀ is markup rest,
          source.compileBehind is markup (Sibling.outline (s :: rest)) =
            source.compileBehind is (markup ++ extra)
              (Sibling.outline rest) := by
  cases s with
  | skipped => exact ⟨"", by simp [feedOne], by simp [Sibling.outline]⟩
  | plain node =>
      refine ⟨toHtml [node], ?_, ?_⟩
      · cases node with
        | element tag attributes children => cases gap
        | text text => simp [feedOne, Emitter.addMarkup, Emitter.opened]
        | comment text => simp [feedOne, Emitter.addMarkup, Emitter.opened]
      · intro is markup rest
        rw [Sibling.outline, compileBehind_prepend]
  | opening condition body => cases gap
  | continuing condition body => cases gap
  | loop header body => cases gap
  | layout name body => cases gap
  | inPlace body => cases gap

theorem walksOpened_nil : source.WalksOpened [] := by
  intro is before pending
  have done : Sibling.nextArm?
      ([] : List (Sibling (ExceptT ε (StateM σ) (List Instruction)))) = none :=
    rfl
  have closed : source.WalksClosed [] := walksClosed_nil
  have walked := closed (is ++ [.branch before]) pending
  simpa [feedAll, Emitter.finish, Sibling.arms_of_none done, done,
    compileArms] using walked

theorem walksOpened_cons_gap {rest}
    (opened : source.WalksOpened rest)
    {s : Sibling (ExceptT ε (StateM σ) (List Instruction))}
    (gap : s.isGap = true) :
    source.WalksOpened (s :: rest) := by
  intro is before pending
  obtain ⟨extra, fed, grouped⟩ :=
    feedOne_opened_gap gap is before pending
  have same := Sibling.nextArm?_cons_gap rest gap
  rw [feedAll, fed, pure_bind, opened]
  cases next : Sibling.nextArm? rest with
  | none =>
      rw [next] at same
      simp [Sibling.arms_of_none next, Sibling.arms_of_none same, same,
        compileArms, grouped]
  | some arm =>
      have found : Sibling.nextArm? rest ≠ none := by
        simp [next]
      rw [next] at same
      simp [Sibling.arms_cons_gap gap found, same]

theorem walksOpened_cons_continuing {rest}
    (closed : source.WalksClosed rest) (opened : source.WalksOpened rest)
    (condition : Option String)
    (body : ExceptT ε (StateM σ) (List Instruction)) :
    source.WalksOpened (.continuing condition body :: rest) := by
  intro is before pending
  have found := Sibling.nextArm?_cons_continuing condition body rest
  rw [feedAll]
  cases condition with
  | none =>
      rw [Sibling.arms_of_fallback found]
      simp [feedOne, found, check_continueChain_opened, compileArms, closed _ _]
  | some condition =>
      rw [Sibling.arms_of_condition found]
      simp [feedOne, found, check_continueChain_opened, compileArms_cons,
        opened _ _ _]

theorem walksOpened_cons {rest}
    (closed : source.WalksClosed rest) (opened : source.WalksOpened rest)
    (s : Sibling (ExceptT ε (StateM σ) (List Instruction))) :
    source.WalksOpened (s :: rest) := by
  by_cases gap : s.isGap = true
  · exact walksOpened_cons_gap opened gap
  · by_cases arm : ∃ condition body, s = .continuing condition body
    · obtain ⟨condition, body, rfl⟩ := arm
      exact walksOpened_cons_continuing closed opened condition body
    · have noGap : s.isGap = false := by
        simpa using gap
      have noArm : ∀ condition body, s ≠ .continuing condition body := by
        intro condition body equality
        exact arm ⟨condition, body, equality⟩
      have done := Sibling.nextArm?_cons_other rest noGap noArm
      intro is before pending
      have step := walksClosed_cons closed opened s
        (is ++ [.branch before]) pending
      rw [feedAll] at step ⊢
      rw [feedOne_opened noGap noArm, step]
      simp [Sibling.arms_of_none done, done, compileArms]

/-- Both kinds of states agree with the outline, by induction on the siblings
that are left. -/
theorem walks
    (ss : List (Sibling (ExceptT ε (StateM σ) (List Instruction)))) :
    source.WalksClosed ss ∧ source.WalksOpened ss := by
  induction ss with
  | nil => exact ⟨walksClosed_nil, walksOpened_nil⟩
  | cons s rest inductionHypothesis =>
      obtain ⟨closed, opened⟩ := inductionHypothesis
      exact ⟨walksClosed_cons closed opened s, walksOpened_cons closed opened s⟩

theorem feedAll_empty
    (ss : List (Sibling (ExceptT ε (StateM σ) (List Instruction)))) :
    source.feedAll ss Emitter.empty =
      source.compileOutline (Sibling.outline ss) := by
  have closed : source.WalksClosed ss := (walks ss).1
  have walked := closed [] ""
  rw [compileBehind_empty] at walked
  simpa [Emitter.empty, Emitter.closed] using walked

/-! ## Trees of nodes -/

/-- Compiling siblings is the walk over what they are.  The contents of
wrappers are compiled by their outlines, by induction on the tree. -/
theorem lowerWith_bind_finish
    (expand : String → List Markup.Node →
      ExceptT ε (StateM σ) (List Instruction)) :
    ∀ (nodes : List Markup.Node) (e : Emitter),
      (source.lowerWith expand nodes e >>= fun e => source.check e.finish) =
        source.feedAll (source.siblings expand nodes) e
  | [], e => by
      simp [lowerWith, siblings, feedAll]
  | .text text :: rest, e => by
      simpa [lowerWith, siblings, feedAll, feedOne] using
        lowerWith_bind_finish expand rest (e.addMarkup (.text text))
  | .comment text :: rest, e => by
      simpa [lowerWith, siblings, feedAll, feedOne] using
        lowerWith_bind_finish expand rest (e.addMarkup (.comment text))
  | .element tag attributes children :: rest, e => by
      have later := lowerWith_bind_finish expand rest
      have content :
          (source.lowerWith expand children Emitter.empty >>=
              fun e => source.check e.finish) =
            source.compileOutline
              (Sibling.outline (source.siblings expand children)) := by
        rw [lowerWith_bind_finish expand children Emitter.empty, feedAll_empty]
      rw [lowerWith, siblings]
      by_cases wrapper : tag = "template"
      · simp only [wrapper, Directive.tag, if_true, content, feedAll,
          Sibling.ofWrapper_eq]
        cases Directive.ofAttributes attributes <;> simp [feedOne, later]
      · simp only [wrapper, Directive.tag, if_false, later, feedAll, feedOne,
          pure_bind]

end LayoutSource

variable {σ ε : Type}

/-- Compiling siblings does what their outline says: the same instructions,
the same layouts looked up in the same order, and the same error. -/
theorem lower_eq_compileSiblings (source : LayoutSource σ ε) (depth : Nat)
    (nodes : List Markup.Node) :
    source.lower depth nodes = source.compileSiblings depth nodes := by
  induction depth generalizing nodes with
  | zero =>
      rw [LayoutSource.lower, LayoutSource.compileSiblings,
        LayoutSource.lowerWith_bind_finish]
      exact LayoutSource.feedAll_empty _
  | succ depth inductionHypothesis =>
      rw [LayoutSource.lower, LayoutSource.compileSiblings]
      simp only [inductionHypothesis]
      rw [LayoutSource.lowerWith_bind_finish]
      exact LayoutSource.feedAll_empty _

end LivePages
