import LivePages.Proofs.Client.Stage

/-!
# Passes

Modules run actions in several stages of a pass, and actions ask for renders.  While a
client is in a stage every such request is refused, so the client stays in the stage
until its work is done, and no pass begins within another.  However a pass ends, the
client is idle again.
-/

namespace LivePages

/-! ## Refusing renders -/

namespace Reactor

/-- A reactor that refuses every render.  To a client that is not in the given
state it does something else. -/
def refusing (state : RenderState) (astray : Client → Client)
    (set : StoreId → Value → Client → Client) : Reactor where
  set s v c := if c.state = state then set s v c else astray c
  render c := (false, if c.state = state then c else astray c)

/-- The reactor for chains of at most `n` changes that cause each other, for the
time a client is in the given state. -/
def within (state : RenderState) (astray : Client → Client) : Nat → Reactor
  | 0 => refusing state astray (level 0).set
  | n + 1 => refusing state astray (Client.setStore (within state astray n))

theorem refusing_agree {P : Client → Prop} {state : RenderState} {r : Reactor}
    {set : StoreId → Value → Client → Client} (inside : ∀ c, P c → c.state = state)
    (astray : Client → Client)
    (same : ∀ s v c, P c → set s v c = r.set s v c ∧ P (r.set s v c))
    (refused : ∀ c, P c → r.render c = (false, c)) :
    r.Agree (refusing state astray set) P where
  set s v c holds := by
    rw [refusing]
    dsimp only
    rw [if_pos (inside c holds)]
    exact same s v c holds
  render c holds := by
    rw [refusing, refused c holds]
    dsimp only
    rw [if_pos (inside c holds)]
    exact ⟨rfl, holds⟩

/-- While a client is in a state of a pass, every length of chain comes to the
same as if renders were refused. -/
theorem within_agree {P : Client → Prop} (endures : Endures P) {state : RenderState}
    (inside : ∀ c, P c → c.state = state) (busy : state ≠ .idle)
    (astray : Client → Client) (n : Nat) :
    (level n).Agree (within state astray n) P := by
  have busyInside : ∀ c, P c → c.state ≠ .idle := fun c holds => inside c holds ▸ busy
  have keeps := level_keeps_busy endures busyInside
  induction n with
  | zero =>
      refine refusing_agree inside astray (fun s v c holds => ?_) fun c holds => ?_
      · exact ⟨rfl, (keeps 0).set s v c holds⟩
      · rw [level]
        dsimp only
        rw [if_neg (busyInside c holds)]
  | succ n inductionHypothesis =>
      refine refusing_agree inside astray (fun s v c holds => ?_) fun c holds => ?_
      · exact Client.setStore_agree endures inductionHypothesis s v holds
      · rw [level]
        dsimp only
        rw [Client.requestRender_busy none (busyInside c holds)]
        rfl

end Reactor

namespace Client

variable {c : Client}

/-! ## Courses -/

/-- The course of a pass from a stage on: the states it goes through, and its end.
In each state the pass answers by another reactor. -/
inductive Course (r : RenderState → Reactor) :
    Stage → Client → List RenderState → Except PageError Route.Match × Client → Prop where
  | fails {stage : Stage} {c d : Client} {e : PageError}
      (work : stage.work (r stage.state) { c with state := stage.state } = (.error e, d)) :
      Course r stage c [stage.state] (.error e, d)
  | ends {stage : Stage} {c d : Client} {m : Route.Match}
      (work : stage.work (r stage.state) { c with state := stage.state } =
        (.ok (.inr m), d)) :
      Course r stage c [stage.state] (.ok m, d)
  | goesOn {stage next : Stage} {c d : Client} {trail : List RenderState}
      {outcome : Except PageError Route.Match × Client}
      (work : stage.work (r stage.state) { c with state := stage.state } =
        (.ok (.inl next), d))
      (rest : Course r next d trail outcome) :
      Course r stage c (stage.state :: trail) outcome

/-- A pass that is alone: its course is the same if in every stage renders are
refused, and whatever would happen if a listener or a render were asked for in
another state than that of the stage. -/
def PassesAlone (n : Nat) (stage : Stage) (c : Client)
    (outcome : Except PageError Route.Match × Client) : Prop :=
  ∃ trail, trail <+: stage.state.onward ∧
    ∀ astray, Course (fun state => .within state astray n) stage c trail outcome

/-- Every pass is alone. -/
theorem Stage.rest_passesAlone (n : Nat) (stage : Stage) (c : Client) :
    PassesAlone n stage c (stage.rest (.level n) c) := by
  -- The induction is on the number of states ahead; it goes down from stage to stage.
  induction ahead : stage.state.onward.length generalizing stage c with
  | zero => cases stage <;> cases ahead
  | succ k inductionHypothesis =>
      have first : [stage.state] <+: stage.state.onward := by
        cases stage <;> simp [state, RenderState.onward]
      have same : ∀ astray,
          stage.work (.within stage.state astray n) { c with state := stage.state } =
            stage.work (.level n) { c with state := stage.state } := by
        intro astray
        have agree := Reactor.within_agree (outlasts_state stage.state).toEndures
          (fun _ holds => holds) stage.state_ne_idle astray n
        exact (work_agree agree (outlasts_state stage.state) (fun _ _ _ holds => holds)
          stage _ rfl).1
      have course := congrFun (rest_eq (.level n) stage) c
      change stage.rest (.level n) c = (stage.work (.level n) >>= onward (.level n))
        { c with state := stage.state } at course
      rw [course, Keeps.bind_eq]
      rcases work : stage.work (.level n) { c with state := stage.state } with
        ⟨e | next | m, d⟩
      · exact ⟨_, first, fun astray => .fails ((same astray).trans work)⟩
      · have advances := next_of_work work
        have left : next.state.onward.length = k := by
          have lengths := congrArg List.length advances
          rw [List.length_cons] at lengths
          omega
        obtain ⟨trail, inOrder, goesOn⟩ := inductionHypothesis next d left
        refine ⟨stage.state :: trail, ?_, fun astray => ?_⟩
        · rw [advances]
          exact List.cons_prefix_cons.2 ⟨rfl, inOrder⟩
        · exact .goesOn ((same astray).trans work) (goesOn astray)
      · exact ⟨_, first, fun astray => .ends ((same astray).trans work)⟩

/-! ## Operations -/

theorem navigateWith_eq (r : Reactor) (path : String) (kind : NavigationKind) :
    navigateWith r path kind = (do
      let m ← untilIdle ((Stage.matching path).rest r)
      modify fun c => { c with history := c.history.record kind path }
      return m) :=
  rfl

/-- A navigation is a pass from its first stage on. -/
theorem navigateWith_passesAlone (n : Nat) (path : String) (kind : NavigationKind)
    (c : Client) :
    ∃ result d, PassesAlone n (.matching path) c (result, d) ∧
      navigateWith (.level n) path kind c = (result,
        { d with
          state := .idle
          history := if result.isOk then d.history.record kind path else d.history }) := by
  have alone := (Stage.matching path).rest_passesAlone n c
  rw [navigateWith_eq, Keeps.bind_eq, untilIdle]
  generalize (Stage.matching path).rest (.level n) c = outcome at alone ⊢
  obtain ⟨result, d⟩ := outcome
  refine ⟨result, d, alone, ?_⟩
  cases result with
  | ok m => rfl
  | error e => rfl

/-- A render is a pass from the third stage on, unless there is nothing to
render. -/
theorem requestRender_passesAlone (n : Nat) (focus : Option FocusTarget)
    (c : Client) :
    (∃ answer, requestRender (.level n) focus c = (answer, c)) ∨
      ∃ registry m body result d,
        c.state = .idle ∧ PassesAlone n (.compiling registry m body focus) c (result, d) ∧
        requestRender (.level n) focus c =
          (result.map fun _ => true, { d with state := .idle }) := by
  rcases requestRender_exits (.level n) focus c with
    dropped | ⟨m, registry, report, body, idle, -, -, -, ended⟩
  · exact .inl dropped
  · have alone := (Stage.compiling registry m body focus).rest_passesAlone n c
    rw [Stage.rest, Keeps.bind_eq] at alone
    rw [ended]
    generalize renderPass (.level n) registry body focus c = outcome at alone ⊢
    obtain ⟨result, d⟩ := outcome
    cases result with
    | ok _ => exact .inr ⟨registry, m, body, .ok m, d, idle, alone, rfl⟩
    | error e => exact .inr ⟨registry, m, body, .error e, d, idle, alone, rfl⟩

/-- Operations leave an idle client idle. -/
theorem after_idle (operations : List Operation) (idle : c.state = .idle) :
    (c.after operations).state = .idle := by
  have endures := (outlasts_state .idle).toEndures
  have renders : ∀ n focus, Keeps (fun d => d.state = .idle)
      (requestRender (.level n) focus) := by
    intro n focus d idle
    rcases requestRender_passesAlone n focus d with
      ⟨answer, same⟩ | ⟨_, _, _, _, _, _, _, ended⟩
    · rw [same]
      exact idle
    · rw [ended]
  have shows : ∀ path kind, Keeps (fun d => d.state = .idle) (navigate path kind) := by
    intro path kind d _
    obtain ⟨result, e, -, ended⟩ := navigateWith_passesAlone maxChain path kind d
    exact congrArg (fun outcome => outcome.2.state) ended
  have keeps := Reactor.level_keeps endures (fun n _ => renders n none) maxChain
  exact after_keeps (P := fun d => d.state = .idle) (fun operation d =>
    operation.run_keeps endures.toAllows keeps (renders maxChain) shows fun _ _ idle => idle)
    operations idle

/-- While a client is busy, what it displays stays, whatever else it is asked
for. -/
theorem run_unmoved (busy : c.state ≠ .idle) {operation : Operation}
    (staying : operation.navigates = false) :
    c.Unmoved (operation.run c) := by
  have endures := (outlasts_unmoved c).toEndures
  have busyOn : ∀ d, c.Unmoved d → d.state ≠ .idle :=
    fun d unmoved => unmoved.state ▸ busy
  have renders : ∀ focus, Keeps c.Unmoved (requestRender reactor focus) := by
    intro focus d unmoved
    rw [requestRender_busy focus (busyOn d unmoved)]
    exact unmoved
  exact Operation.run_keeps_of_not_navigates endures.toAllows
    (Reactor.level_keeps_busy endures busyOn maxChain) renders staying
    ⟨rfl, rfl, rfl, rfl⟩

theorem create_idle {host : Host} {number : Nat} {settings : Settings}
    {assets : AssetSource} {session : AreaId} {durable : Option AreaId}
    (created : create host number settings assets session durable = .ok c) :
    c.state = .idle := by
  obtain ⟨areas, origin, area, rfl⟩ := exists_of_create created
  rfl

/-- A client that has been created is idle after any operations, however they
end.  At any time a busy client refuses to render and goes on displaying what it
displays, while navigations and renders go through their stages in order and
without another pass within. -/
theorem passes_never_nest {host : Host} {number : Nat} {settings : Settings}
    {assets : AssetSource} {session : AreaId} {durable : Option AreaId}
    (created : create host number settings assets session durable = .ok c) :
    (∀ operations, (c.after operations).state = .idle) ∧
    ∀ d : Client,
      (d.state ≠ .idle → ∀ (r : Reactor) focus, d.requestRender r focus = (.ok false, d)) ∧
      (d.state ≠ .idle → ∀ operation : Operation, operation.navigates = false →
        d.Unmoved (operation.run d)) ∧
      (∀ n path kind, ∃ result e, PassesAlone n (.matching path) d (result, e) ∧
        navigateWith (.level n) path kind d = (result,
          { e with
            state := .idle
            history :=
              if result.isOk then e.history.record kind path else e.history })) ∧
      ∀ n focus,
        (∃ answer, requestRender (.level n) focus d = (answer, d)) ∨
        ∃ registry m body result e, d.state = .idle ∧
          PassesAlone n (.compiling registry m body focus) d (result, e) ∧
          requestRender (.level n) focus d =
            (result.map fun _ => true, { e with state := .idle }) := by
  refine ⟨fun operations => after_idle operations (create_idle created), fun d => ?_⟩
  refine ⟨fun busy r focus => requestRender_busy focus busy,
    fun busy operation staying => run_unmoved busy staying, ?_, ?_⟩
  · exact fun n path kind => navigateWith_passesAlone n path kind d
  · exact fun n focus => requestRender_passesAlone n focus d

/-! ## A page that is never at rest -/

/-- Sets a store, asks for a render, and notes the answer. -/
def poke (i : Instance) : Action :=
  .write ((i.stores.get? "count").getD 0) (.num (.int 1)) fun _ =>
    .render fun rendered => .note (.bool rendered) (.return .null)

/-- A site whose one page does so whenever it is bound or rendered.  Its markup is
broken. -/
def restlessSite : AssetSource where
  texts := .memory [("routes.json", "[]"), ("layouts.json", "[]"),
    ("slugs.json", "\x7b\x7d"),
    ("routes/index.html", "<!--")] []
  modules := [("routes/index.js", ⟨"routes/index.js",
    [("count", .store .any (.num (.int 0)) false false), ("poked", .computed poke)]⟩)]

def restless : Client :=
  new (Host.empty.addArea ⟨[], false⟩).2 0 {} none restlessSite 0 0

theorem passes_never_nest_restless :
    create Host.empty 0 {} restlessSite 0 none = .ok restless ∧
      (restless.after [.start, .setStore 0 (.num (.int 2))]).log.map Value.truthy =
        [false, false, false] ∧
      (∀ operations, (restless.after operations).state = .idle) ∧
      ({ restless with state := .rendering }).Unmoved
        (Operation.render.run { restless with state := .rendering }) := by
  have created : create Host.empty 0 {} restlessSite 0 none = .ok restless := rfl
  have refused : (restless.after [.start, .setStore 0 (.num (.int 2))]).log.map
      Value.truthy = [false, false, false] := by decide +kernel
  obtain ⟨idle, passes⟩ := passes_never_nest created
  have unmoved := (passes { restless with state := .rendering }).2.1 (by simp)
    Operation.render rfl
  exact ⟨created, refused, idle, unmoved⟩

end Client

end LivePages
