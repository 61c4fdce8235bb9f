import LivePages.Proofs.Client.Coupling
import LivePages.Proofs.Client.Failure
import LivePages.Proofs.Event.Indexing

/-!
# Pages that have been shown

A pass that comes to its end has computed what is computed, compiled the markup of the
page, which includes all its layouts, and run the program.  Running a program binds
nothing.  Compiling the markup again gives the same program and has nothing left to
include.  So what is displayed is what the program comes to with the names as they are
bound in the end, unless running it has changed what they mean.
-/

namespace LivePages

/-! ## Running a program -/

/-- What holds of a client whatever its host is like survives all that actions do
while a page is being shown. -/
theorem withstands_of_host {P : Client → Prop}
    (host : ∀ (c : Client) (h : Host), P c → P { c with toHost := h }) :
    Withstands (fun _ : Unit => Reach.all) fun _ => P where
  listen holds _ _ _ := host _ _ holds
  forget holds _ _ := host _ _ holds
  keep holds _ _ := host _ _ holds
  note holds _ := host _ _ holds
  write holds _ _ := host _ _ holds
  exhaust holds := host _ _ holds
  heard holds _ := ⟨(), holds, fun _ holds => holds, trivial, fun _ _ =>
    Reach.all.answers fun _ _ _ _ _ _ holds => host _ _ holds⟩

namespace Client

variable {c d : Client} {r : Reactor} {registry : AssetRegistry}

/-- While a page is being shown, running a program changes the host at most. -/
theorem render_frame (n : Nat) (program : Program) (busy : c.state ≠ .idle) :
    ∃ h, (program.render (surroundings (.level n)).evaluator c).2 =
      { c with toHost := h } := by
  have host : ∀ (d : Client) (h : Host), d = { c with toHost := d.toHost } →
      { d with toHost := h } = { c with toHost := h } := by
    intro d h shape
    rw [shape]
  have withstands := withstands_of_host (P := fun d => d = { c with toHost := d.toHost }) host
  have reacts := Reactor.level_couples_busy withstands.couplesChanges (by
    rintro _ d e ⟨-, shape⟩
    rw [shape]
    exact busy) n
  have names := withstands.couplesNames fun holds _ b _ =>
    ⟨(), holds, fun _ holds => holds, b.staysIn_all⟩
  exact ⟨_, (render_couples names reacts () program c c ⟨rfl, rfl⟩).2.2⟩

/-! ## Compiling again -/

/-- Whether a page has no exports of a layout left to bind. -/
def Includes (c : Client) (layout : String) : Prop :=
  ∀ visit, c.visit = some visit → visit.layouts.contains layout = true

theorem bindLayout_of_includes {layout : String} (includes : c.Includes layout) :
    c.bindLayout r registry layout = c := by
  unfold bindLayout
  cases shown : c.visit with
  | none => rfl
  | some visit => exact if_pos (includes visit shown)

theorem bindExport_layouts (name : String) (e : Export) (visit : Visit) :
    (c.bindExport r name e visit).1.layouts = visit.layouts := by
  cases e <;> rfl

theorem bindModule_layouts (m : Module) (visit : Visit) :
    (c.bindModule r m visit).1.layouts = visit.layouts := by
  induction m generalizing c visit with
  | nil => rfl
  | cons entry m inductionHypothesis =>
      obtain ⟨name, e⟩ := entry
      exact inductionHypothesis _ |>.trans (bindExport_layouts name e visit)

theorem contains_insert (t : Table Module) (name : String) (m : Module) (other : String) :
    Table.contains (t.insert name m) other = (decide (name = other) || t.contains other) := by
  rw [Table.contains, Table.get?_insert]
  by_cases same : name = other
  · simp [same]
  · simp [same, Table.contains]

theorem exists_of_instanceOf (blueprint : Option Blueprint) (c : Client) :
    ∃ m h, instanceOf blueprint c = (m, { c with toHost := h }) := by
  cases blueprint with
  | none => exact ⟨[], c.toHost, rfl⟩
  | some b => exact ⟨_, _, rfl⟩

/-- A page that includes a layout has included it before, or binds what it exports. -/
theorem includes_or_binds (r : Reactor) (registry : AssetRegistry) (layout : String)
    (c : Client) :
    c.Includes layout ∨ ∃ visit m h next d, c.visit = some visit ∧
      instanceOf (registry.layoutModules.get? layout) c = (m, { c with toHost := h }) ∧
      bindModule r m visit { c with toHost := h } = (next, d) ∧
      c.bindLayout r registry layout = refreshLayouts r
        { d with visit := some { next with layouts := Table.insert layout m next.layouts } } := by
  rcases Option.eq_none_or_eq_some c.visit with shown | ⟨visit, shown⟩
  · refine .inl fun visit isShown => ?_
    cases shown.symm.trans isShown
  by_cases included : visit.layouts.contains layout = true
  · refine .inl fun visit isShown => ?_
    cases shown.symm.trans isShown
    exact included
  obtain ⟨m, h, made⟩ := exists_of_instanceOf (registry.layoutModules.get? layout) c
  rcases bound : bindModule r m visit { c with toHost := h } with ⟨next, d⟩
  refine .inr ⟨visit, m, h, next, d, shown, made, bound, ?_⟩
  rw [bindLayout, shown]
  dsimp only
  rw [if_neg included, made]
  dsimp only
  rw [bound]

section Busy

variable (steady : r.Steady) (busy : c.state ≠ .idle)

include steady busy

theorem refreshLayouts_stays : c.Stays (c.refreshLayouts r) :=
  refreshLayouts_keeps c.endures_stays.toAllows (steady c busy) (.refl c)

theorem refreshComputed_stays : c.Stays (c.refreshComputed r) :=
  refreshComputed_keeps c.endures_stays.toAllows (steady c busy) (.refl c)

theorem keeps_state : r.Keeps fun d => d.state = c.state :=
  steady.keeps (fun d e stays same => by rw [stays.frame]; exact same)
    fun d same => same ▸ busy

theorem bindModule_state (m : Module) (visit : Visit) :
    (c.bindModule r m visit).2.state = c.state :=
  (bindModule_agree (fun entry _ => (outlasts_state c.state).bearsExport entry.1)
    (keeps_state steady busy).agree visit rfl).2

theorem bindLayout_state (layout : String) :
    (c.bindLayout r registry layout).state = c.state :=
  (bindLayout_agree ((outlasts_state c.state).bearsLayouts registry)
    (keeps_state steady busy).agree layout rfl).2

/-- The page of a client that has included a layout, if it has a page, lists it in
front of what it listed before. -/
theorem bindLayout_includes (layout other : String) :
    (c.bindLayout r registry layout).Includes other ↔
      layout = other ∨ c.Includes other := by
  rcases includes_or_binds r registry layout c with
    includes | ⟨visit, m, h, next, d, shown, -, bound, shape⟩
  · rw [bindLayout_of_includes includes]
    exact ⟨.inr, fun either => either.elim (fun same => same ▸ includes) id⟩
  · have state := bindModule_state (c := { c with toHost := h }) steady busy m visit
    have same := bindModule_layouts (r := r) (c := { c with toHost := h }) m visit
    rw [bound] at state same
    dsimp only at state same
    have frame := (refreshLayouts_stays (c := { d with visit := some { next with
      layouts := Table.insert layout m next.layouts } }) steady (state.symm ▸ busy)).frame
    rw [shape, Includes, frame]
    simp [Includes, shown, same, contains_insert]

end Busy

/-- Markup that compiles for one client compiles to the same program for any whose
page includes all layouts that the first one's page includes then.  The second has
nothing left to bind. -/
theorem compile_again {first : Reactor} (steady : first.Steady) {body : String}
    {program : Program} (busy : c.state ≠ .idle)
    (compiled : (layoutSource first registry).compile body c = (.ok program, d))
    {e : Client} (includes : ∀ layout, d.Includes layout → e.Includes layout) :
    (layoutSource r registry).compile body e = (.ok program, e) := by
  -- The relation says nothing where the first client has gone beyond the second.
  let R : Client → Client → Prop := fun s t => s.state ≠ .idle ∧
    ((∀ layout, s.Includes layout → e.Includes layout) → t = e)
  have finds : (layoutSource first registry).Relates (layoutSource r registry) R := by
    refine ⟨fun layout => ?_, rfl⟩
    unfold layoutSource
    dsimp only
    cases registry.layoutBodies.get? layout with
    | none => exact .pure none
    | some found =>
        cases found with
        | error cause => exact .throw _
        | ok markup =>
            refine Relates.bind (fun s t related => ?_) fun _ => ?_
            · obtain ⟨busy, same⟩ := related
              have includes : ∀ other, (s.bindLayout first registry layout).Includes other ↔
                  layout = other ∨ s.Includes other :=
                bindLayout_includes steady busy layout
              refine ⟨rfl, (bindLayout_state steady busy layout).symm ▸ busy, fun beyond => ?_⟩
              have before := same fun other also => beyond other ((includes other).2 (.inr also))
              change t.bindLayout r registry layout = e
              rw [before]
              exact bindLayout_of_includes (beyond layout ((includes layout).2 (.inl rfl)))
            · cases Markup.parse markup with
              | ok nodes => exact .pure _
              | error cause => exact .throw _
  obtain ⟨same, -, ended⟩ := LayoutSource.compile_relates finds body c e ⟨busy, fun _ => rfl⟩
  rw [compiled] at same ended
  exact Prod.ext same (ended includes)

/-! ## The parts of a pass -/

/-- A client at the start of a pass, with everything computed anew. -/
def refreshed (r : Reactor) (c : Client) : Client :=
  ({ c with state := .compiling }.refreshComputed r).refreshLayouts r

theorem exists_of_renderPass {body : String} {focus : Option FocusTarget}
    (done : renderPass r registry body focus c = (.ok (), d)) :
    ∃ program compiled html rendered,
      (layoutSource r registry).compile body (c.refreshed r) = (.ok program, compiled) ∧
      program.render (surroundings r).evaluator { compiled with state := .rendering } =
        (.ok html, rendered) ∧
      d = showMarkup focus html { rendered with state := .indexing } := by
  obtain ⟨_, _, entered, done⟩ := exists_of_bind done
  cases entered
  obtain ⟨_, _, computed, done⟩ := exists_of_bind done
  cases computed
  obtain ⟨_, _, listed, done⟩ := exists_of_bind done
  cases listed
  obtain ⟨program, compiled, compiles, done⟩ := exists_of_bind done
  obtain ⟨_, _, entered, done⟩ := exists_of_bind done
  cases entered
  obtain ⟨html, rendered, evaluated, done⟩ := exists_of_bind done
  obtain ⟨_, _, entered, done⟩ := exists_of_bind done
  cases entered
  cases done
  refine ⟨program, compiled, html, rendered, compiles, ?_, rfl⟩
  unfold evaluating at evaluated
  generalize program.render (surroundings r).evaluator { compiled with state := .rendering } =
    outcome at evaluated
  obtain ⟨result, e⟩ := outcome
  cases result with
  | error e => cases evaluated
  | ok text =>
      cases evaluated
      rfl

theorem renderPass_of_parts {body : String} {focus : Option FocusTarget}
    {program : Program} {html : String} {compiled rendered : Client}
    (compiles : (layoutSource r registry).compile body (c.refreshed r) =
      (.ok program, compiled))
    (renders : program.render (surroundings r).evaluator { compiled with state := .rendering } =
      (.ok html, rendered)) :
    renderPass r registry body focus c =
      (.ok (), showMarkup focus html { rendered with state := .indexing }) := by
  have evaluated : evaluating (program.render (surroundings r).evaluator)
      { compiled with state := .rendering } = (.ok html, rendered) := by
    rw [evaluating, renders]
    rfl
  change ((layoutSource r registry).compile body >>= _) (c.refreshed r) = _
  rw [Keeps.bind_eq, compiles]
  change ((evaluating (program.render (surroundings r).evaluator)) >>= _)
    { compiled with state := .rendering } = _
  rw [Keeps.bind_eq, evaluated]
  rfl

/-! ## Renders and navigations that succeed -/

theorem exists_of_requestRender {focus : Option FocusTarget}
    (done : requestRender r focus c = (.ok true, d)) :
    ∃ m registry report body e, c.state = .idle ∧ c.current = some m ∧
      c.loaded = some (registry, report) ∧ registry.routeBody m.route = .ok body ∧
      renderPass r registry body focus c = (.ok (), e) ∧ d = { e with state := .idle } := by
  unfold requestRender at done
  rw [Keeps.get_bind] at done
  dsimp only at done
  by_cases idle : c.state = .idle
  · rw [if_neg (not_not_intro idle)] at done
    cases current : c.current with
    | none =>
        rw [current] at done
        cases done
    | some m =>
        cases loaded : c.loaded with
        | none =>
            rw [current, loaded] at done
            cases done
        | some site =>
            obtain ⟨registry, report⟩ := site
            rw [current, loaded] at done
            dsimp only at done
            cases found : registry.routeBody m.route with
            | error missing =>
                rw [found] at done
                cases done
            | ok body =>
                rw [found] at done
                obtain ⟨_, e, passed, ended⟩ := exists_of_bind done
                cases ended
                rw [untilIdle] at passed
                rcases pass : renderPass r registry body focus c with ⟨_ | _, e⟩
                · rw [pass] at passed
                  cases passed
                · rw [pass] at passed
                  cases passed
                  exact ⟨m, registry, report, body, e, idle, rfl, rfl, found, pass, rfl⟩
  · rw [if_pos idle] at done
    cases done

theorem requestRender_of_pass {focus : Option FocusTarget} {m : Route.Match}
    {report : LoadReport} {body : String} (idle : c.state = .idle)
    (current : c.current = some m) (loaded : c.loaded = some (registry, report))
    (found : registry.routeBody m.route = .ok body)
    (pass : renderPass r registry body focus c = (.ok (), d)) :
    requestRender r focus c = (.ok true, { d with state := .idle }) := by
  unfold requestRender
  rw [Keeps.get_bind]
  dsimp only
  rw [if_neg (not_not_intro idle), current, loaded]
  dsimp only
  rw [found]
  change (untilIdle (renderPass r registry body focus) >>= _) c = _
  rw [Keeps.bind_eq, untilIdle, pass]
  rfl

theorem disposeVisit_frame (c : Client) :
    ∃ h bindings, c.disposeVisit = { c with toHost := h, bindings, visit := none } := by
  obtain ⟨stores, bindings, left, -⟩ := exists_of_disposeVisit c
  exact ⟨_, bindings, left⟩

theorem disposeVisit_visit (c : Client) : c.disposeVisit.visit = none := by
  obtain ⟨h, bindings, left⟩ := disposeVisit_frame c
  rw [left]

theorem state_installContext (c : Client) (m : Route.Match) :
    (c.disposeVisit.installContext m).state = c.state := by
  obtain ⟨h, bindings, left⟩ := disposeVisit_frame c
  rw [left]
  rfl

/-- What is done when a page is opened. -/
theorem exists_of_openPage (r : Reactor) (registry : AssetRegistry) (m : Route.Match)
    (c : Client) :
    ∃ module h next d,
      instanceOf (registry.routeModules.get? m.route) (c.disposeVisit.installContext m) =
        (module, { c.disposeVisit.installContext m with toHost := h }) ∧
      bindModule r module ⟨m.route, [], [], [], []⟩
        { c.disposeVisit.installContext m with toHost := h } = (next, d) ∧
      c.openPage r registry m = { d with visit := some next } := by
  obtain ⟨module, h, made⟩ := exists_of_instanceOf (registry.routeModules.get? m.route)
    (c.disposeVisit.installContext m)
  rcases bound : bindModule r module ⟨m.route, [], [], [], []⟩
    { c.disposeVisit.installContext m with toHost := h } with ⟨next, d⟩
  refine ⟨module, h, next, d, made, bound, ?_⟩
  unfold openPage
  dsimp only
  rw [made]
  dsimp only
  rw [bound]

theorem loaded_openPage (registry : AssetRegistry) (m : Route.Match) (n : Nat) :
    (c.openPage (.level n) registry m).loaded = c.loaded := by
  have rerenders := rerenders_shown fun loaded _ => loaded = c.loaded
  have keeps := Reactor.level_rerenders rerenders n
  have installed : (c.disposeVisit.installContext m).loaded = c.loaded := by
    obtain ⟨h, bindings, left⟩ := disposeVisit_frame c
    rw [left]
    rfl
  have made := instanceOf_keeps rerenders.instantiate (registry.routeModules.get? m.route)
    installed
  exact (bindModule_agree (fun entry _ => rerenders.bearsExport entry.1) keeps.agree
    ⟨m.route, [], [], [], []⟩ made).2

theorem loadedAssets_ok (done : loadedAssets c = (.ok registry, d)) :
    ∃ report, d = { c with loaded := some (registry, report) } ∧
      (c.loaded = some (registry, report) ∨ c.loaded = none ∧
        AssetRegistry.load c.assets c.settings.assets = .ok (registry, report)) := by
  unfold loadedAssets at done
  rw [Keeps.get_bind] at done
  cases loaded : c.loaded with
  | some site =>
      rw [loaded] at done
      cases done
      exact ⟨site.2, by rw [← loaded], .inl rfl⟩
  | none =>
      rw [loaded] at done
      dsimp only at done
      cases load : AssetRegistry.load c.assets c.settings.assets with
      | ok site =>
          rw [load] at done
          cases done
          exact ⟨site.2, rfl, .inr ⟨rfl, rfl⟩⟩
      | error cause =>
          rw [load] at done
          cases cause <;> cases done

/-- The parts of a navigation that succeeds. -/
theorem exists_of_navigateWith {path : String} {kind : NavigationKind} {m : Route.Match}
    (done : navigateWith r path kind c = (.ok m, d)) :
    ∃ registry loading body e, loadedAssets { c with state := .matching } =
        (.ok registry, loading) ∧
      Route.resolve registry.routes path = .ok m ∧ registry.routeBody m.route = .ok body ∧
      renderPass r registry body none
        (openPage r registry m { loading with state := .loading }) = (.ok (), e) ∧
      d = { e with state := .idle, history := e.history.record kind path } := by
  rw [navigateWith_eq] at done
  obtain ⟨found, middle, passed, ended⟩ := exists_of_bind done
  cases ended
  rw [untilIdle] at passed
  rcases pass : (Stage.matching path).rest r c with ⟨_ | same, e⟩
  · rw [pass] at passed
    cases passed
  · rw [pass] at passed
    cases passed
    obtain ⟨_, _, entered, pass⟩ := exists_of_bind pass
    cases entered
    obtain ⟨registry, loading, assets, pass⟩ := exists_of_bind pass
    cases resolved : Route.resolve registry.routes path with
    | error refused =>
        rw [resolved] at pass
        cases refused <;> cases pass
    | ok isMatch =>
        rw [resolved] at pass
        obtain ⟨_, _, shown, ended⟩ := exists_of_bind pass
        cases ended
        rw [showPage_eq] at shown
        obtain ⟨_, _, entered, shown⟩ := exists_of_bind shown
        cases entered
        cases body : registry.routeBody m.route with
        | error missing =>
            rw [body] at shown
            cases shown
        | ok markup =>
            rw [body] at shown
            obtain ⟨_, _, opened, shown⟩ := exists_of_bind shown
            cases opened
            exact ⟨registry, loading, markup, e, assets, resolved, body, shown, rfl⟩

/-- A client whose page has just been rendered, in a navigation or on its own. -/
inductive JustShown (c : Client) : Prop where
  | rendered {n : Nat} {focus : Option FocusTarget} {before : Client}
      (done : requestRender (.level n) focus before = (.ok true, c))
  | navigated {n : Nat} {path : String} {kind : NavigationKind} {m : Route.Match}
      {before : Client} (done : navigateWith (.level n) path kind before = (.ok m, c))

/-- Such a client has its page from a pass, and is at rest since. -/
theorem JustShown.exists_pass (shown : c.JustShown) :
    ∃ n registry report m body focus before after history,
      c.loaded = some (registry, report) ∧ c.current = some m ∧
      registry.routeBody m.route = .ok body ∧
      renderPass (.level n) registry body focus before = (.ok (), after) ∧
      c = { after with state := .idle, history } := by
  have kept : ∀ {n registry body focus before after},
      renderPass (.level n) registry body focus before = (.ok (), after) →
      ∀ loaded current, before.loaded = loaded → before.current = current →
        after.loaded = loaded ∧ after.current = current := by
    intro n registry body focus before after pass loaded current isLoaded isCurrent
    have rerenders := rerenders_shown fun l m => l = loaded ∧ m = current
    have keeps := renderPass_keeps (rerenders.rerendersWith registry)
      (Reactor.level_rerenders rerenders n) body focus before ⟨isLoaded, isCurrent⟩
    rwa [pass] at keeps
  cases shown with
  | @rendered n focus before done =>
      obtain ⟨m, registry, report, body, e, -, current, loaded, found, pass, rfl⟩ :=
        exists_of_requestRender done
      obtain ⟨isLoaded, isCurrent⟩ := kept pass _ _ loaded current
      exact ⟨n, registry, report, m, body, focus, before, e, e.history, isLoaded, isCurrent,
        found, pass, rfl⟩
  | @navigated n path kind m before done =>
      obtain ⟨registry, loading, body, e, assets, -, found, pass, rfl⟩ :=
        exists_of_navigateWith done
      obtain ⟨report, rfl, -⟩ := loadedAssets_ok assets
      obtain ⟨isLoaded, isCurrent⟩ := kept pass _ _ (loaded_openPage registry m n)
        (current_openPage registry m n)
      exact ⟨n, registry, report, m, body, none, _, e, _, isLoaded, isCurrent, found, pass,
        rfl⟩

end Client

end LivePages
