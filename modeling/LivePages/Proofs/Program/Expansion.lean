import LivePages.Proofs.Program.Layout

/-!
# The expansion of layouts

Compiling siblings includes layouts, whose markup may include layouts again.  The
limit bounds how deep layouts stand inside each other in what comes out, and an
expansion that would go deeper fails for that reason.  A compiler that counts how
deep it stands comes to the same, for any markup and whatever it has compiled before:
the count is back where it was behind each layout, and as it grows towards the limit
there is an end to the expansion.
-/

namespace LivePages

open Markup (Node)

namespace LayoutSource

variable {σ ε : Type} {source : LayoutSource σ ε}
  {expand : String → List Node → ExceptT ε (StateM σ) (List Instruction)}

/-! ## One sibling at a time -/

/-- Compiles siblings on their own. -/
def lowerInside (source : LayoutSource σ ε)
    (expand : String → List Node → ExceptT ε (StateM σ) (List Instruction))
    (nodes : List Node) : ExceptT ε (StateM σ) (List Instruction) := do
  let e ← source.lowerWith expand nodes Emitter.empty
  source.check e.finish

/-- Puts the instructions of a wrapper into an emitter. -/
def place (e : Emitter) (is : List Instruction) :
    Directive → Except CompileError Emitter
  | .loop header => e.addInstructions [.loop header is]
  | .conditional condition => e.openChain (some condition, is)
  | .elseIf condition => e.continueChain Directive.elseIfName (some condition, is)
  | .otherwise =>
    (e.continueChain Directive.otherwiseName (none, is)).map Emitter.closeChain
  | .layout name => e.addInstructions [.layout name is]
  | .passThrough => e.addInstructions is
  | .malformed => .ok e

/-- Whether the content of a wrapper is compiled as it stands. -/
def Encloses : Directive → Bool
  | .layout _ | .malformed => false
  | _ => true

theorem lowerWith_plain {node : Node} (plain : isWrapper node = false) (rest : List Node)
    (e : Emitter) :
    source.lowerWith expand (node :: rest) e =
      source.lowerWith expand rest (e.addMarkup node) := by
  cases node with
  | element tag attributes children =>
      rw [lowerWith, if_neg (of_decide_eq_false plain)]
  | text text => rw [lowerWith]; simp
  | comment text => rw [lowerWith]; simp

theorem lowerWith_malformed {attributes : List Markup.Attribute}
    (malformed : Directive.ofAttributes attributes = .malformed) (children rest : List Node)
    (e : Emitter) :
    source.lowerWith expand (.element Directive.tag attributes children :: rest) e =
      source.lowerWith expand rest e := by
  rw [lowerWith, if_pos rfl, malformed]
  rfl

theorem lowerWith_layout {attributes : List Markup.Attribute} {name : String}
    (isLayout : Directive.ofAttributes attributes = .layout name)
    (children rest : List Node) (e : Emitter) :
    source.lowerWith expand (.element Directive.tag attributes children :: rest) e =
      expand name children >>= fun is =>
        source.check (place e is (.layout name)) >>= source.lowerWith expand rest := by
  rw [lowerWith, if_pos rfl, isLayout]
  simp [place]

theorem lowerWith_encloses {attributes : List Markup.Attribute}
    (encloses : Encloses (Directive.ofAttributes attributes) = true)
    (children rest : List Node) (e : Emitter) :
    source.lowerWith expand (.element Directive.tag attributes children :: rest) e =
      source.lowerInside expand children >>= fun is =>
        source.check (place e is (Directive.ofAttributes attributes)) >>=
          source.lowerWith expand rest := by
  rw [lowerWith, if_pos rfl]
  cases shape : Directive.ofAttributes attributes with
  | layout name => rw [shape] at encloses; cases encloses
  | malformed => rw [shape] at encloses; cases encloses
  | otherwise => simp [place, lowerInside, check_map]
  | _ => simp [place, lowerInside]

theorem lower_eq_lowerInside (depth : Nat) (nodes : List Node) :
    source.lower depth nodes = source.lowerInside (source.expandAt depth) nodes := by
  cases depth with
  | zero => rw [lower]; rfl
  | succ depth => rw [lower]; rfl

/-- An induction on trees by what compiling does with the first of the siblings. -/
theorem siblingsInduction {P : List Node → Prop} (nil : P [])
    (plain : ∀ node rest, isWrapper node = false → P rest → P (node :: rest))
    (malformed : ∀ attributes children rest,
      Directive.ofAttributes attributes = .malformed → P rest →
        P (.element Directive.tag attributes children :: rest))
    (layout : ∀ attributes children rest name,
      Directive.ofAttributes attributes = .layout name → P rest →
        P (.element Directive.tag attributes children :: rest))
    (encloses : ∀ attributes children rest,
      Encloses (Directive.ofAttributes attributes) = true → P children → P rest →
        P (.element Directive.tag attributes children :: rest)) :
    ∀ nodes, P nodes
  | [] => nil
  | .text text :: rest =>
      plain _ rest rfl (siblingsInduction nil plain malformed layout encloses rest)
  | .comment text :: rest =>
      plain _ rest rfl (siblingsInduction nil plain malformed layout encloses rest)
  | .element tag attributes children :: rest => by
      have later := siblingsInduction nil plain malformed layout encloses rest
      have within := siblingsInduction nil plain malformed layout encloses children
      by_cases wrapper : tag = Directive.tag
      · subst wrapper
        cases shape : Directive.ofAttributes attributes with
        | malformed => exact malformed attributes children rest shape later
        | layout name => exact layout attributes children rest name shape later
        | _ => exact encloses attributes children rest (by rw [shape]; rfl) within later
      · exact plain _ rest (decide_eq_false wrapper) later

/-! ## How deep layouts stand -/

/-- How many layouts a wrapper adds. -/
def levels : Directive → Nat
  | .layout _ => 1
  | _ => 0

theorem depth_place {e f : Emitter} {is : List Instruction} {d : Directive}
    (placed : place e is d = .ok f) : f.depth ≤ max e.depth (depthOfAll is + levels d) := by
  cases d with
  | loop header =>
      have deep := Emitter.depth_addInstructions placed
      simp only [depthOfAll, Instruction.depth] at deep
      omega
  | conditional condition =>
      have deep := Emitter.depth_openChain placed
      dsimp only at deep
      omega
  | elseIf condition =>
      have deep := Emitter.depth_continueChain placed
      dsimp only at deep
      omega
  | otherwise =>
      obtain ⟨g, continued, rfl⟩ := exists_of_map placed
      have deep := Emitter.depth_continueChain continued
      rw [Emitter.depth_closeChain]
      dsimp only at deep
      omega
  | layout name =>
      have deep := Emitter.depth_addInstructions placed
      simp only [depthOfAll, Instruction.depth] at deep
      simp only [levels]
      omega
  | passThrough =>
      have deep := Emitter.depth_addInstructions placed
      omega
  | malformed =>
      cases placed
      exact Nat.le_max_left _ _

/-- Contents that stand below a limit. -/
def Shallow (limit : Nat)
    (expand : String → List Node → ExceptT ε (StateM σ) (List Instruction)) : Prop :=
  ∀ name content is s t, expand name content s = (.ok is, t) → depthOfAll is < limit

theorem lowerWith_depth {limit : Nat} (shallow : Shallow limit expand) (nodes : List Node) :
    ∀ {e f : Emitter} {s t : σ}, e.depth ≤ limit →
      source.lowerWith expand nodes e s = (.ok f, t) → f.depth ≤ limit := by
  induction nodes using siblingsInduction with
  | nil =>
      intro e f s t within lowered
      rw [lowerWith] at lowered
      cases lowered
      exact within
  | plain node rest plain inductionHypothesis =>
      intro e f s t within lowered
      rw [lowerWith_plain plain] at lowered
      exact inductionHypothesis (Emitter.depth_addMarkup node e ▸ within) lowered
  | malformed attributes children rest malformed inductionHypothesis =>
      intro e f s t within lowered
      rw [lowerWith_malformed malformed] at lowered
      exact inductionHypothesis within lowered
  | layout attributes children rest name isLayout inductionHypothesis =>
      intro e f s t within lowered
      rw [lowerWith_layout isLayout] at lowered
      obtain ⟨is, middle, made, behind⟩ := exists_of_bind lowered
      obtain ⟨g, later, checked, goesOn⟩ := exists_of_bind behind
      have deep := depth_place (of_check checked).1
      have below := shallow name children is s middle made
      refine inductionHypothesis ?_ goesOn
      simp only [levels] at deep
      omega
  | encloses attributes children rest encloses inside inductionHypothesis =>
      intro e f s t within lowered
      rw [lowerWith_encloses encloses] at lowered
      obtain ⟨is, middle, made, behind⟩ := exists_of_bind lowered
      obtain ⟨g, later, checked, goesOn⟩ := exists_of_bind behind
      obtain ⟨inner, _, lowered, finished⟩ := exists_of_bind made
      have content : inner.depth ≤ limit := inside (e := .empty) (Nat.zero_le limit) lowered
      have deep := depth_place (of_check checked).1
      rw [Emitter.depth_finish (of_check finished).1] at deep
      have noLevel : levels (Directive.ofAttributes attributes) = 0 := by
        cases shape : Directive.ofAttributes attributes with
        | layout name => rw [shape] at encloses; cases encloses
        | _ => rfl
      refine inductionHypothesis ?_ goesOn
      omega

theorem lowerInside_depth {limit : Nat} (shallow : Shallow limit expand) {nodes : List Node}
    {is : List Instruction} {s t : σ}
    (lowered : source.lowerInside expand nodes s = (.ok is, t)) : depthOfAll is ≤ limit := by
  obtain ⟨e, middle, walked, finished⟩ := exists_of_bind lowered
  rw [Emitter.depth_finish (of_check finished).1]
  exact lowerWith_depth shallow nodes (e := .empty) (Nat.zero_le limit) walked

/-- In a program that comes out, layouts stand no deeper inside each other than the
limit allows. -/
theorem lower_depth {depth : Nat} {nodes : List Node} {is : List Instruction} {s t : σ}
    (lowered : source.lower depth nodes s = (.ok is, t)) : depthOfAll is ≤ depth := by
  induction depth generalizing nodes is s t with
  | zero =>
      rw [lower_eq_lowerInside] at lowered
      refine lowerInside_depth (fun name content is s t made => ?_) lowered
      cases made
  | succ depth inductionHypothesis =>
      rw [lower_eq_lowerInside] at lowered
      refine lowerInside_depth (fun name content is s t made => ?_) lowered
      obtain ⟨found, middle, resolved, behind⟩ := exists_of_bind made
      cases found with
      | none => cases behind
      | some layout => exact Nat.lt_succ_of_le (inductionHypothesis behind)

/-! ## Expansions that go too deep -/

/-- The error of an inclusion that is one too deep. -/
def tooDeep (source : LayoutSource σ ε) : ε :=
  source.report (.layoutDepthExceeded maxLayoutDepth)

/-- With `depth` more layouts allowed, the expansion of siblings comes to an inclusion
that is one too many, and there is no error in front of it. -/
inductive Exceeds (source : LayoutSource σ ε) : Nat → List Node → σ → Prop where
  | here {front content rest : List Node} {attributes : List Markup.Attribute}
    {name : String} {e : Emitter} {s t : σ}
    (reached : source.lowerWith (source.expandAt 0) front Emitter.empty s = (.ok e, t))
    (isLayout : Directive.ofAttributes attributes = .layout name) :
    Exceeds source 0 (front ++ .element Directive.tag attributes content :: rest) s
  /-- In the markup of a layout, with the content in its slot. -/
  | deeper {depth : Nat} {front content rest layout : List Node}
    {attributes : List Markup.Attribute} {name : String} {e : Emitter} {s t u : σ}
    (reached : source.lowerWith (source.expandAt (depth + 1)) front Emitter.empty s =
      (.ok e, t))
    (isLayout : Directive.ofAttributes attributes = .layout name)
    (found : source.resolve name t = (.ok (some layout), u))
    (exceeds : Exceeds source depth
      ((Markup.replaceFirst? slotTag content layout).getD layout) u) :
    Exceeds source (depth + 1)
      (front ++ .element Directive.tag attributes content :: rest) s
  /-- In the content of another wrapper. -/
  | inside {depth : Nat} {front children rest : List Node}
    {attributes : List Markup.Attribute} {e : Emitter} {s t : σ}
    (reached : source.lowerWith (source.expandAt depth) front Emitter.empty s = (.ok e, t))
    (encloses : Encloses (Directive.ofAttributes attributes) = true)
    (exceeds : Exceeds source depth children t) :
    Exceeds source depth (front ++ .element Directive.tag attributes children :: rest) s

theorem lowerWith_append (front rest : List Node) (e : Emitter) :
    source.lowerWith expand (front ++ rest) e =
      source.lowerWith expand front e >>= source.lowerWith expand rest := by
  induction front using siblingsInduction generalizing e with
  | nil => rw [lowerWith, pure_bind]; rfl
  | plain node front plain inductionHypothesis =>
      rw [List.cons_append, lowerWith_plain plain, lowerWith_plain plain,
        inductionHypothesis]
  | malformed attributes children front malformed inductionHypothesis =>
      rw [List.cons_append, lowerWith_malformed malformed, lowerWith_malformed malformed,
        inductionHypothesis]
  | layout attributes children front name isLayout inductionHypothesis =>
      rw [List.cons_append, lowerWith_layout isLayout, lowerWith_layout isLayout,
        funext inductionHypothesis]
      simp only [bind_assoc]
  | encloses attributes children front encloses _ inductionHypothesis =>
      rw [List.cons_append, lowerWith_encloses encloses, lowerWith_encloses encloses,
        funext inductionHypothesis]
      simp only [bind_assoc]

theorem bind_of_error {α β : Type} {first : ExceptT ε (StateM σ) α} {s t : σ} {e : ε}
    (failed : first s = (.error e, t)) (next : α → ExceptT ε (StateM σ) β) :
    (first >>= next) s = (.error e, t) := by
  rw [Keeps.bind_eq, failed]

/-- An expansion fails where the content of a sibling fails, if it gets there. -/
theorem lowerInside_of_reached {front rest children : List Node}
    {attributes : List Markup.Attribute} {e : Emitter} {s t u : σ} {cause : ε}
    {content : ExceptT ε (StateM σ) (List Instruction)}
    (reached : source.lowerWith expand front Emitter.empty s = (.ok e, t))
    (begins : ∃ next, source.lowerWith expand
      (.element Directive.tag attributes children :: rest) e = content >>= next)
    (failed : content t = (.error cause, u)) :
    source.lowerInside expand (front ++ .element Directive.tag attributes children :: rest) s =
      (.error cause, u) := by
  obtain ⟨next, begins⟩ := begins
  apply bind_of_error
  rw [lowerWith_append, bind_of_ok reached, begins]
  exact bind_of_error failed next

/-- An expansion that goes too deep fails for that reason. -/
theorem Exceeds.lower_eq {depth : Nat} {nodes : List Node} {s : σ}
    (exceeds : source.Exceeds depth nodes s) :
    ∃ t, source.lower depth nodes s = (.error source.tooDeep, t) := by
  induction exceeds with
  | @here _ _ _ _ _ _ _ t reached isLayout =>
      refine ⟨t, ?_⟩
      rw [lower_eq_lowerInside]
      exact lowerInside_of_reached reached ⟨_, lowerWith_layout isLayout ..⟩ rfl
  | deeper reached isLayout found _ inductionHypothesis =>
      obtain ⟨t, failed⟩ := inductionHypothesis
      refine ⟨t, ?_⟩
      rw [lower_eq_lowerInside]
      refine lowerInside_of_reached reached ⟨_, lowerWith_layout isLayout ..⟩ ?_
      rw [expandAt, bind_of_ok found]
      exact failed
  | inside reached encloses _ inductionHypothesis =>
      obtain ⟨t, failed⟩ := inductionHypothesis
      refine ⟨t, ?_⟩
      rw [lower_eq_lowerInside] at failed ⊢
      exact lowerInside_of_reached reached ⟨_, lowerWith_encloses encloses ..⟩ failed

/-- A source whose own errors are not taken for that of an inclusion too deep. -/
structure Distinct (source : LayoutSource σ ε) : Prop where
  report : ∀ e, source.report e = source.tooDeep → e = .layoutDepthExceeded maxLayoutDepth
  resolve : ∀ name s t, source.resolve name s ≠ (.error source.tooDeep, t)

theorem error_of_bind {α β : Type} {first : ExceptT ε (StateM σ) α}
    {next : α → ExceptT ε (StateM σ) β} {s t : σ} {e : ε}
    (failed : (first >>= next) s = (.error e, t)) :
    first s = (.error e, t) ∨
      ∃ a middle, first s = (.ok a, middle) ∧ next a middle = (.error e, t) := by
  rw [Keeps.bind_eq] at failed
  rcases result : first s with ⟨cause | a, middle⟩
  · rw [result] at failed
    cases failed
    exact .inl rfl
  · rw [result] at failed
    exact .inr ⟨a, middle, rfl, failed⟩

/-- The errors of the emitter are others. -/
theorem flushMarkup_error {e : Emitter} {cause : CompileError}
    (failed : e.flushMarkup = .error cause) : cause ≠ .layoutDepthExceeded maxLayoutDepth := by
  unfold Emitter.flushMarkup at failed
  split at failed
  · cases failed
  · split at failed
    · cases failed
    · cases failed
      exact nofun

theorem error_of_map {α β γ : Type} {f : α → β} {result : Except γ α} {cause : γ}
    (failed : f <$> result = .error cause) : result = .error cause := by
  cases result with
  | error e =>
      cases failed
      rfl
  | ok a => cases failed

theorem finish_error {e : Emitter} {cause : CompileError}
    (failed : e.finish = .error cause) : cause ≠ .layoutDepthExceeded maxLayoutDepth :=
  flushMarkup_error (error_of_map failed)

theorem addInstructions_error {e : Emitter} {is : List Instruction} {cause : CompileError}
    (failed : e.addInstructions is = .error cause) :
    cause ≠ .layoutDepthExceeded maxLayoutDepth := by
  rw [Emitter.addInstructions, ← map_eq_pure_bind] at failed
  exact flushMarkup_error (error_of_map failed)

theorem openChain_error {e : Emitter} {arm : Arm} {cause : CompileError}
    (failed : e.openChain arm = .error cause) :
    cause ≠ .layoutDepthExceeded maxLayoutDepth := by
  rw [Emitter.openChain, ← map_eq_pure_bind] at failed
  exact flushMarkup_error (error_of_map failed)

theorem continueChain_error {e : Emitter} {directive : String} {arm : Arm}
    {cause : CompileError} (failed : e.continueChain directive arm = .error cause) :
    cause ≠ .layoutDepthExceeded maxLayoutDepth := by
  unfold Emitter.continueChain at failed
  split at failed
  · cases failed
  · cases failed
    exact nofun

theorem place_error {e : Emitter} {is : List Instruction} {d : Directive}
    {cause : CompileError} (failed : place e is d = .error cause) :
    cause ≠ .layoutDepthExceeded maxLayoutDepth := by
  cases d with
  | loop header => exact addInstructions_error failed
  | conditional condition => exact openChain_error failed
  | elseIf condition => exact continueChain_error failed
  | otherwise => exact continueChain_error (error_of_map failed)
  | layout name => exact addInstructions_error failed
  | passThrough => exact addInstructions_error failed
  | malformed => cases failed

theorem Distinct.check_ne {source : LayoutSource σ ε} (distinct : source.Distinct)
    {α : Type} {result : Except CompileError α}
    (others : ∀ cause, result = .error cause → cause ≠ .layoutDepthExceeded maxLayoutDepth)
    (s t : σ) : source.check result s ≠ (.error source.tooDeep, t) := by
  intro failed
  cases result with
  | ok a => cases failed
  | error cause =>
      have same : (.error (source.report cause) : Except ε α) = .error source.tooDeep :=
        congrArg Prod.fst failed
      exact others cause rfl (distinct.report cause (Except.error.inj same))

/-- Siblings that fail for going too deep do so in one of them, and those in front of
it are compiled. -/
theorem Distinct.exceeds_of_lowerWith (distinct : source.Distinct) {depth : Nat}
    (within : ∀ name content s t,
      source.expandAt depth name content s = (.error source.tooDeep, t) →
        depth = 0 ∨ ∃ less layout u, depth = less + 1 ∧
          source.resolve name s = (.ok (some layout), u) ∧
          source.Exceeds less ((Markup.replaceFirst? slotTag content layout).getD layout) u)
    (nodes : List Node) :
    ∀ {front : List Node} {e : Emitter} {s t u : σ},
      source.lowerWith (source.expandAt depth) front Emitter.empty s = (.ok e, t) →
      source.lowerWith (source.expandAt depth) nodes e t = (.error source.tooDeep, u) →
        source.Exceeds depth (front ++ nodes) s := by
  induction nodes using siblingsInduction with
  | nil =>
      intro front e s t u _ failed
      rw [lowerWith] at failed
      cases failed
  | plain node rest plain inductionHypothesis =>
      intro front e s t u reached failed
      rw [List.append_cons]
      refine inductionHypothesis (e := e.addMarkup node) (t := t) (u := u) ?_ ?_
      · rw [lowerWith_append, bind_of_ok reached, lowerWith_plain plain, lowerWith]
        rfl
      · rwa [lowerWith_plain plain] at failed
  | malformed attributes children rest malformed inductionHypothesis =>
      intro front e s t u reached failed
      rw [List.append_cons]
      refine inductionHypothesis (e := e) (t := t) (u := u) ?_ ?_
      · rw [lowerWith_append, bind_of_ok reached, lowerWith_malformed malformed, lowerWith]
        rfl
      · rwa [lowerWith_malformed malformed] at failed
  | layout attributes children rest name isLayout inductionHypothesis =>
      intro front e s t u reached failed
      rw [lowerWith_layout isLayout] at failed
      rcases error_of_bind failed with content | ⟨is, middle, made, behind⟩
      · rcases within name children t u content with rfl | ⟨less, layout, v, rfl, found, deep⟩
        · exact .here reached isLayout
        · exact .deeper reached isLayout found deep
      · rcases error_of_bind behind with placing | ⟨g, later, placed, goesOn⟩
        · exact absurd placing (distinct.check_ne (fun _ => place_error) middle u)
        · rw [List.append_cons]
          refine inductionHypothesis (e := g) (t := later) ?_ goesOn
          rw [lowerWith_append, bind_of_ok reached, lowerWith_layout isLayout,
            bind_of_ok made, bind_of_ok placed, lowerWith]
          rfl
  | encloses attributes children rest encloses inside inductionHypothesis =>
      intro front e s t u reached failed
      rw [lowerWith_encloses encloses] at failed
      rcases error_of_bind failed with content | ⟨is, middle, made, behind⟩
      · have start : source.lowerWith (source.expandAt depth) [] Emitter.empty t =
            (.ok Emitter.empty, t) := by
          rw [lowerWith]
          rfl
        rcases error_of_bind content with walking | ⟨g, later, _, finishing⟩
        · exact .inside reached encloses (inside start walking)
        · exact absurd finishing (distinct.check_ne (fun _ => finish_error) later u)
      · rcases error_of_bind behind with placing | ⟨g, later, placed, goesOn⟩
        · exact absurd placing (distinct.check_ne (fun _ => place_error) middle u)
        · rw [List.append_cons]
          refine inductionHypothesis (e := g) (t := later) ?_ goesOn
          rw [lowerWith_append, bind_of_ok reached, lowerWith_encloses encloses,
            bind_of_ok made, bind_of_ok placed, lowerWith]
          rfl

/-- Nothing else fails for that reason. -/
theorem Distinct.exceeds (distinct : source.Distinct) {depth : Nat} {nodes : List Node}
    {s t : σ} (failed : source.lower depth nodes s = (.error source.tooDeep, t)) :
    source.Exceeds depth nodes s := by
  induction depth generalizing nodes s t with
  | zero =>
      rw [lower_eq_lowerInside] at failed
      rcases error_of_bind failed with walking | ⟨e, middle, _, finishing⟩
      · have start : source.lowerWith (source.expandAt 0) [] Emitter.empty s =
            (.ok Emitter.empty, s) := by
          rw [lowerWith]
          rfl
        exact distinct.exceeds_of_lowerWith (fun _ _ _ _ _ => .inl rfl) nodes start walking
      · exact absurd finishing (distinct.check_ne (fun _ => finish_error) middle t)
  | succ depth inductionHypothesis =>
      rw [lower_eq_lowerInside] at failed
      rcases error_of_bind failed with walking | ⟨e, middle, _, finishing⟩
      · have start : source.lowerWith (source.expandAt (depth + 1)) [] Emitter.empty s =
            (.ok Emitter.empty, s) := by
          rw [lowerWith]
          rfl
        refine distinct.exceeds_of_lowerWith (fun name content s t expanding => .inr ?_) nodes
          start walking
        rcases error_of_bind expanding with resolving | ⟨found, later, found?, behind⟩
        · exact absurd resolving (distinct.resolve name s t)
        · cases found with
          | none =>
              have unknown : source.check (α := List Instruction)
                  (.error (.unknownLayout name)) later = (.error source.tooDeep, t) := behind
              refine absurd unknown (distinct.check_ne (fun cause same clash => ?_) later t)
              cases same
              cases clash
          | some layout =>
              exact ⟨depth, layout, later, rfl, found?, inductionHypothesis behind⟩
      · exact absurd finishing (distinct.check_ne (fun _ => finish_error) middle t)

end LayoutSource

end LivePages
