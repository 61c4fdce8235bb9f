import LivePages.Proofs.Client.Session

/-!
# Stages

A navigation passes through five stages, and a render through the last three of
them.  Each stage has work of its own, which leads to the next stage or to the end.
Whether work keeps a predicate, and whether two reactors can be told apart by it, is
said here stage by stage.
-/

namespace LivePages

/-- The states of a pass from a state on, in their order. -/
def RenderState.onward : RenderState → List RenderState
  | idle => []
  | matching => [matching, loading, compiling, rendering, indexing]
  | loading => [loading, compiling, rendering, indexing]
  | compiling => [compiling, rendering, indexing]
  | rendering => [rendering, indexing]
  | indexing => [indexing]

/-! ## Leaving a page -/

/-- A predicate that leaving a page for another does not break. -/
structure Outlasts (P : Client → Prop) : Prop extends Bears P where
  unsubscribe : ∀ (c : Client) s id, P c → P (c.onHost (Host.unsubscribe s id))
  unbind : ∀ (c : Client) name, P c → P (c.unbind name)
  install : ∀ (c : Client) scope current, P c → P { c with scope, current }
  load : ∀ (c : Client) loaded, P c → P { c with loaded }

theorem outlasts_state (state : RenderState) :
    Outlasts fun c => c.state = state where
  write _ _ _ holds := holds
  listen _ _ _ holds := holds
  forget _ _ _ holds := holds
  writeText _ _ _ _ holds := holds
  keep _ _ _ holds := holds
  exhaust _ holds := holds
  bindValue _ _ _ holds := holds
  bind _ _ _ holds := holds
  subscribe _ _ _ _ holds := holds
  instantiate _ _ holds := holds
  visit _ _ holds := holds
  unsubscribe _ _ _ holds := holds
  unbind _ _ holds := holds
  install _ _ _ holds := holds
  load _ _ holds := holds

namespace Host

variable (h : Host)

theorem history_subscribe (s : StoreId) (listener : Listener) :
    (h.subscribe s listener).2.history = h.history := by
  rw [subscribe_eq_onStore]
  rfl

theorem history_writeText (area : AreaId) (key text : String) :
    (h.writeText area key text).history = h.history := by
  obtain ⟨areas, file, shape, -⟩ := h.writeText_eq area key text
  rw [shape]

theorem history_instantiate (b : Blueprint) :
    (h.instantiate b).2.history = h.history := by
  obtain ⟨stores, made, shape⟩ := h.instantiate_eq b
  rw [shape]

end Host

/-- A client that is in the same state, displays the same and offers the same
listeners, at the same place in the history. -/
structure Client.Unmoved (before after : Client) : Prop where
  state : after.state = before.state
  document : after.document = before.document
  events : after.events = before.events
  history : after.history = before.history

theorem Client.Unmoved.host {c d : Client} (unmoved : c.Unmoved d) {h : Host}
    (history : h.history = d.history) : c.Unmoved { d with toHost := h } :=
  ⟨unmoved.state, unmoved.document, unmoved.events, history.trans unmoved.history⟩

/-- Leaving a page and binding another does not show. -/
theorem outlasts_unmoved (c : Client) : Outlasts c.Unmoved where
  write _ _ _ unmoved := unmoved.host rfl
  listen d s react unmoved := unmoved.host (d.history_subscribe s (.host react))
  forget _ _ _ unmoved := unmoved.host rfl
  writeText d area key text unmoved := unmoved.host (d.history_writeText area key text)
  keep _ _ _ unmoved := unmoved.host rfl
  exhaust _ unmoved := unmoved.host rfl
  bindValue _ _ _ unmoved := { unmoved with }
  bind _ _ _ unmoved := { unmoved with }
  subscribe d s listener _ unmoved := unmoved.host (d.history_subscribe s listener)
  instantiate d b unmoved := unmoved.host (d.history_instantiate b)
  visit _ _ unmoved := { unmoved with }
  unsubscribe _ _ _ unmoved := unmoved.host rfl
  unbind _ _ unmoved := { unmoved with }
  install _ _ _ unmoved := { unmoved with }
  load _ _ unmoved := { unmoved with }

namespace Client

variable {P : Client → Prop} {r other : Reactor} {c : Client}

section Leave

variable (outlasts : Outlasts P)

include outlasts

theorem unsubscribeAll_keeps (subscriptions : List (StoreId × ListenerId))
    (holds : P c) : P (unsubscribeAll subscriptions c) := by
  induction subscriptions generalizing c with
  | nil => exact holds
  | cons first rest inductionHypothesis =>
      exact inductionHypothesis (outlasts.unsubscribe c first.1 first.2 holds)

theorem unbindAll_keeps (names : List String) (holds : P c) :
    P (names.foldl (fun c name => c.unbind name) c) := by
  induction names generalizing c with
  | nil => exact holds
  | cons name names inductionHypothesis =>
      exact inductionHypothesis (outlasts.unbind c name holds)

theorem disposeVisit_keeps (holds : P c) : P c.disposeVisit := by
  unfold disposeVisit
  cases c.visit with
  | none => exact holds
  | some visit =>
      apply outlasts.visit
      apply outlasts.unbind
      apply unbindAll_keeps outlasts visit.bound
      exact unsubscribeAll_keeps outlasts visit.subscriptions holds

theorem loadedAssets_keeps : Keeps P loadedAssets := by
  intro c holds
  unfold loadedAssets
  rw [Keeps.get_bind]
  cases c.loaded with
  | some loaded => exact holds
  | none =>
      dsimp only
      cases AssetRegistry.load c.assets c.settings.assets with
      | ok loaded => exact outlasts.load c (some loaded) holds
      | error e => cases e <;> exact holds

theorem openPage_agree (agree : r.Agree other P) (registry : AssetRegistry)
    (m : Route.Match) (holds : P c) :
    c.openPage other registry m = c.openPage r registry m ∧
      P (c.openPage r registry m) := by
  have left := disposeVisit_keeps outlasts holds
  have installed : P (c.disposeVisit.installContext m) := by
    apply outlasts.install
    apply outlasts.bindValue
    exact outlasts.bindValue _ routeName _ left
  have made := instanceOf_keeps outlasts.instantiate (registry.routeModules.get? m.route)
    installed
  obtain ⟨same, kept⟩ := bindModule_agree
    (fun entry _ => outlasts.bearsExport entry.1) agree ⟨m.route, [], [], [], []⟩ made
  unfold openPage
  dsimp only
  rw [same]
  exact ⟨rfl, outlasts.visit _ _ kept⟩

end Leave

/-! ## Stages -/

theorem showPage_eq (r : Reactor) (registry : AssetRegistry) (m : Route.Match) :
    showPage r registry m = (do
      enter .loading
      match registry.routeBody m.route with
      | .error e => throw (.assetFetch e.path e.status)
      | .ok body => do
        modify (openPage r registry m)
        renderPass r registry body none) :=
  rfl

/-- A stage of a pass, with what the stages before it have found. -/
inductive Stage where
  | matching (path : String)
  | loading (registry : AssetRegistry) (m : Route.Match)
  | compiling (registry : AssetRegistry) (m : Route.Match) (body : String)
    (focus : Option FocusTarget)
  | rendering (m : Route.Match) (program : Program) (focus : Option FocusTarget)
  | indexing (m : Route.Match) (html : String) (focus : Option FocusTarget)

namespace Stage

/-- The state a client is in during a stage. -/
def state : Stage → RenderState
  | matching .. => .matching
  | loading .. => .loading
  | compiling .. => .compiling
  | rendering .. => .rendering
  | indexing .. => .indexing

theorem state_ne_idle (stage : Stage) : stage.state ≠ .idle := by
  cases stage <;> simp [state]

/-- What is done in a stage.  It leads to the next stage, or to the end. -/
def work (r : Reactor) : Stage → Showing (Stage ⊕ Route.Match)
  | matching path => do
    let registry ← loadedAssets
    match Route.resolve registry.routes path with
    | .error (.notFound path) =>
      modify showNotFound
      throw (.routeNotFound path)
    | .error e => throw (.manifest e)
    | .ok m => return .inl (loading registry m)
  | loading registry m =>
    match registry.routeBody m.route with
    | .error e => throw (.assetFetch e.path e.status)
    | .ok body => do
      modify (openPage r registry m)
      return .inl (compiling registry m body none)
  | compiling registry m body focus => do
    modify (refreshComputed r)
    modify (refreshLayouts r)
    let program ← (layoutSource r registry).compile body
    return .inl (rendering m program focus)
  | rendering m program focus => do
    let html ← evaluating (program.render (surroundings r).evaluator)
    return .inl (indexing m html focus)
  | indexing m html focus => do
    modify (showMarkup focus html)
    return .inr m

/-- A pass from a stage on. -/
def rest (r : Reactor) : Stage → Showing Route.Match
  | matching path => do
    enter .matching
    let registry ← loadedAssets
    match Route.resolve registry.routes path with
    | .error (.notFound path) =>
      modify showNotFound
      throw (.routeNotFound path)
    | .error e => throw (.manifest e)
    | .ok m =>
      showPage r registry m
      return m
  | loading registry m => do
    showPage r registry m
    return m
  | compiling registry m body focus => do
    renderPass r registry body focus
    return m
  | rendering m program focus => do
    enter .rendering
    let html ← evaluating (program.render (surroundings r).evaluator)
    enter .indexing
    modify (showMarkup focus html)
    return m
  | indexing m html focus => do
    enter .indexing
    modify (showMarkup focus html)
    return m

/-- What is left to do after the work of a stage. -/
def onward (r : Reactor) : Stage ⊕ Route.Match → Showing Route.Match
  | .inl next => next.rest r
  | .inr m => pure m

theorem rest_eq (r : Reactor) (stage : Stage) :
    stage.rest r = (do
      enter stage.state
      let next ← stage.work r
      onward r next) := by
  cases stage with
  | matching path =>
      apply congrArg (enter .matching >>= ·)
      funext _
      rw [work, bind_assoc]
      apply congrArg (loadedAssets >>= ·)
      funext registry
      cases Route.resolve registry.routes path with
      | ok m => rfl
      | error e => cases e <;> rfl
  | loading registry m =>
      rw [rest, work, showPage_eq, bind_assoc]
      apply congrArg (enter .loading >>= ·)
      funext _
      cases registry.routeBody m.route with
      | ok body => rfl
      | error e => rfl
  | compiling registry m body focus =>
      simp only [rest, work, state, onward, renderPass, bind_assoc, pure_bind]
  | rendering m program focus =>
      simp only [rest, work, state, onward, bind_assoc, pure_bind]
  | indexing m html focus =>
      simp only [rest, work, state, onward, bind_assoc, pure_bind]

/-! ## The work of a stage -/

section Work

variable (agree : r.Agree other P)

include agree

theorem compiling_agree {registry : AssetRegistry} (bears : BearsLayouts P registry)
    (m : Route.Match) (body : String) (focus : Option FocusTarget) :
    Agree P ((compiling registry m body focus).work r)
      ((compiling registry m body focus).work other) := by
  have allows := bears.toAllows
  refine Agree.bind (fun c holds => ?_) fun _ =>
    Agree.bind (fun c holds => ?_) fun _ =>
      (LayoutSource.compile_agree (layoutSource_agree bears agree) body).bind
        fun program => .pure _
  · obtain ⟨same, kept⟩ := refreshComputed_agree allows agree holds
    exact ⟨congrArg (Prod.mk _) same, kept⟩
  · obtain ⟨same, kept⟩ := refreshLayouts_agree allows agree holds
    exact ⟨congrArg (Prod.mk _) same, kept⟩

theorem rendering_agree (allows : Allows P) (m : Route.Match) (program : Program)
    (focus : Option FocusTarget) :
    Agree P ((rendering m program focus).work r)
      ((rendering m program focus).work other) := by
  refine Agree.bind (fun c holds => ?_) fun _ => .pure _
  obtain ⟨same, kept⟩ :=
    Instruction.renderAll_agree (surroundings_agree allows agree) [] program c holds
  unfold evaluating Program.render
  rw [same]
  exact ⟨rfl, kept⟩

variable (outlasts : Outlasts P)

include outlasts

theorem loading_agree (registry : AssetRegistry) (m : Route.Match) :
    Agree P ((loading registry m).work r) ((loading registry m).work other) := by
  rw [work, work]
  cases registry.routeBody m.route with
  | error e => exact .throw _
  | ok body =>
      refine Agree.bind (fun c holds => ?_) fun _ => .pure _
      obtain ⟨same, kept⟩ := openPage_agree outlasts agree registry m holds
      exact ⟨congrArg (Prod.mk _) same, kept⟩

theorem work_agree (displays : ∀ c focus markup, P c → P (c.showMarkup focus markup))
    (stage : Stage) :
    Agree P (stage.work r) (stage.work other) := by
  cases stage with
  | matching path =>
      refine (loadedAssets_keeps outlasts).agree.bind fun registry => ?_
      cases Route.resolve registry.routes path with
      | ok m => exact .pure _
      | error e =>
          cases e with
          | notFound path =>
              refine Agree.bind (fun c holds => ⟨rfl, ?_⟩) fun _ => .throw _
              apply displays
              apply outlasts.unbind
              apply outlasts.unbind
              exact outlasts.install _ _ _ (disposeVisit_keeps outlasts holds)
          | _ => exact .throw _
  | loading registry m => exact loading_agree agree outlasts registry m
  | compiling registry m body focus =>
      exact compiling_agree agree (outlasts.bearsLayouts registry) m body focus
  | rendering m program focus =>
      exact rendering_agree agree outlasts.toAllows m program focus
  | indexing m html focus =>
      exact Agree.bind (fun c holds => ⟨rfl, displays c focus html holds⟩)
        fun _ => .pure _

end Work

/-- The work of a stage leads to the stage that comes next, if to any. -/
theorem next_of_work {stage next : Stage} {d : Client}
    (work : stage.work r c = (.ok (.inl next), d)) :
    stage.state.onward = stage.state :: next.state.onward := by
  cases stage with
  | matching path =>
      obtain ⟨registry, middle, -, goesOn⟩ := exists_of_bind work
      cases found : Route.resolve registry.routes path with
      | ok m =>
          rw [found] at goesOn
          cases goesOn
          rfl
      | error e =>
          rw [found] at goesOn
          cases e <;> cases goesOn
  | loading registry m =>
      rw [Stage.work] at work
      cases body : registry.routeBody m.route with
      | error e =>
          rw [body] at work
          cases work
      | ok body =>
          rw [body] at work
          cases work
          rfl
  | compiling registry m body focus =>
      obtain ⟨_, middle, -, goesOn⟩ := exists_of_bind work
      obtain ⟨_, middle, -, goesOn⟩ := exists_of_bind goesOn
      obtain ⟨program, middle, -, done⟩ := exists_of_bind goesOn
      cases done
      rfl
  | rendering m program focus =>
      obtain ⟨html, middle, -, done⟩ := exists_of_bind work
      cases done
      rfl
  | indexing m html focus => cases work

end Stage

/-! ## Navigations -/

/-- A navigation keeps what leaving pages and rendering them does not break. -/
theorem navigateWith_outlasts (outlasts : Outlasts P) (rerenders : Rerenders P)
    (history : ∀ (c : Client) history, P c → P { c with history }) (keeps : r.Keeps P)
    (path : String) (kind : NavigationKind) :
    Keeps P (navigateWith r path kind) := by
  have enters : ∀ state, Keeps P (enter state) := fun state c => rerenders.enter c state
  have shows : ∀ registry m, Keeps P (showPage r registry m) := by
    intro registry m
    rw [showPage_eq]
    refine (enters _).bind fun _ => ?_
    cases registry.routeBody m.route with
    | error e => exact .throw _
    | ok body =>
        refine Keeps.bind (fun c holds => ?_) fun _ =>
          renderPass_keeps (rerenders.rerendersWith registry) keeps body none
        exact (openPage_agree outlasts keeps.agree registry m holds).2
  have pass : Keeps P ((Stage.matching path).rest r) := by
    refine (enters _).bind fun _ => (loadedAssets_keeps outlasts).bind fun registry => ?_
    cases Route.resolve registry.routes path with
    | ok m => exact (shows registry m).bind fun _ => .pure m
    | error e =>
        cases e with
        | notFound path =>
            refine Keeps.bind (fun c holds => ?_) fun _ => .throw _
            apply rerenders.display
            apply outlasts.unbind
            apply outlasts.unbind
            exact outlasts.install _ _ _ (disposeVisit_keeps outlasts holds)
        | _ => exact .throw _
  exact Keeps.bind (fun c holds => rerenders.enter _ .idle (pass c holds)) fun m =>
    Keeps.bind (fun c holds => history c _ holds) fun _ => .pure m

end Client

end LivePages
