import LivePages.Proofs.Client.Disposal
import LivePages.Proofs.Client.Pass

/-!
# Navigations that fail

A navigation that fails, other than for want of a route, changes neither what is
displayed nor the history.  If it fails before the page is left, it changes
nothing else.  If it fails later, the client has left its page and bound the one
it was to show, and what it holds is that page's.
-/

namespace LivePages

theorem Reactor.Agree.keeps_other {r other : Reactor} {P : Client → Prop}
    (agree : r.Agree other P) : other.Keeps P where
  set s v c holds := by
    rw [(agree.set s v c holds).1]
    exact (agree.set s v c holds).2
  render c holds := by
    rw [(agree.render c holds).1]
    exact (agree.render c holds).2

namespace Client

variable {c d e : Client} {r : Reactor}

/-! ## What is displayed -/

theorem Unmoved.trans (first : c.Unmoved d) (second : d.Unmoved e) : c.Unmoved e where
  state := second.state.trans first.state
  document := second.document.trans first.document
  events := second.events.trans first.events
  history := second.history.trans first.history

theorem Unmoved.enter (unmoved : c.Unmoved d) (state : RenderState) :
    ({ c with state }).Unmoved { d with state } :=
  ⟨rfl, unmoved.document, unmoved.events, unmoved.history⟩

/-- Whether the work of a stage ends without anything being shown. -/
def Stage.showsNothing : Except PageError (Stage ⊕ Route.Match) → Bool
  | .error e => !e.isNotFound
  | .ok (.inl _) => true
  | .ok (.inr _) => false

theorem Stage.work_unmoved (keeps : r.Keeps c.Unmoved) (stage : Stage)
    (nothing : showsNothing (stage.work r c).1 = true) :
    c.Unmoved (stage.work r c).2 := by
  have outlasts := outlasts_unmoved c
  have unmoved : c.Unmoved c := ⟨rfl, rfl, rfl, rfl⟩
  cases stage with
  | matching path =>
      have middle := loadedAssets_keeps outlasts c unmoved
      rw [work, Keeps.bind_eq] at nothing ⊢
      rcases assets : loadedAssets c with ⟨cause | registry, d⟩
      · rw [assets] at middle
        exact middle
      · rw [assets] at middle nothing
        dsimp only at nothing ⊢
        cases found : Route.resolve registry.routes path with
        | ok m => exact middle
        | error cause =>
            rw [found] at nothing
            cases cause with
            | notFound path => cases nothing
            | _ => exact middle
  | loading registry m =>
      exact (loading_agree keeps.agree outlasts registry m).keeps c unmoved
  | compiling registry m body focus =>
      have bears := outlasts.bearsLayouts registry
      exact (compiling_agree keeps.agree bears m body focus).keeps c unmoved
  | rendering m program focus =>
      exact (rendering_agree keeps.agree outlasts.toAllows m program focus).keeps c
        unmoved
  | indexing m html focus => cases nothing

/-- A pass that fails shows nothing, unless there is no route. -/
theorem Course.unmoved {n : Nat} {astray : Client → Client} {stage : Stage}
    {trail : List RenderState} {outcome : Except PageError Route.Match × Client}
    (course : Course (fun state => .within state astray n) stage c trail outcome)
    {cause : PageError} (failed : outcome = (.error cause, e))
    (found : cause.isNotFound = false) (state : RenderState) :
    ({ c with state }).Unmoved { e with state } := by
  have keeps : ∀ (stage : Stage) (c : Client), Reactor.Keeps
      (.within stage.state astray n) ({ c with state := stage.state }).Unmoved := by
    intro stage c
    have endures := (outlasts_unmoved { c with state := stage.state }).toEndures
    exact (Reactor.within_agree endures (fun _ unmoved => unmoved.state)
      stage.state_ne_idle astray n).keeps_other
  induction course with
  | @fails stage c d e work =>
      cases failed
      have nothing : Stage.showsNothing (.error cause) = true := by
        simp [Stage.showsNothing, found]
      have unmoved := stage.work_unmoved (keeps stage c) (by rw [work]; exact nothing)
      rw [work] at unmoved
      exact unmoved.enter state
  | ends work => cases failed
  | @goesOn stage next c d trail outcome work rest inductionHypothesis =>
      have unmoved := stage.work_unmoved (keeps stage c) (by rw [work]; rfl)
      rw [work] at unmoved
      exact (unmoved.enter state).trans (inductionHypothesis failed)

/-! ## Where a navigation fails -/

theorem current_openPage (registry : AssetRegistry) (m : Route.Match) (n : Nat) :
    (c.openPage (.level n) registry m).current = some m := by
  have rerenders := rerenders_shown fun _ current => current = some m
  have keeps := Reactor.level_rerenders rerenders n
  have installed : (c.disposeVisit.installContext m).current = some m := rfl
  have made := instanceOf_keeps rerenders.instantiate (registry.routeModules.get? m.route)
    installed
  exact (bindModule_agree (fun entry _ => rerenders.bearsExport entry.1) keeps.agree
    ⟨m.route, [], [], [], []⟩ made).2

/-- A page is shown only if its markup is there; then it becomes current, even if it
cannot be rendered. -/
theorem showPage_exits {n : Nat} {registry : AssetRegistry} {m : Route.Match}
    {cause : PageError} (amid : c.Amid registry)
    (failed : ((showPage (.level n) registry m >>= fun _ => pure m) :
      Showing Route.Match) c = (.error cause, d)) :
    (∃ missing, registry.routeBody m.route = .error missing ∧
      cause = .assetFetch missing.path missing.status ∧ d = { c with state := .loading }) ∨
    ∃ body, registry.routeBody m.route = .ok body ∧ d.current = some m ∧
      d.Amid registry := by
  have shown := showPage_keeps (Reactor.level_steady n) registry m c amid
  have ended := Keeps.bind_pure_state (showPage (.level n) registry m) (fun _ => m) c
  rw [failed] at ended
  dsimp only at ended
  rw [← ended] at shown
  rw [showPage_eq] at failed ended
  cases found : registry.routeBody m.route with
  | error missing =>
      rw [found] at failed
      cases failed
      exact .inl ⟨missing, rfl, rfl, rfl⟩
  | ok body =>
      rw [found] at ended
      have rerenders := rerenders_shown fun _ current => current = some m
      have current := renderPass_keeps (rerenders.rerendersWith registry)
        (Reactor.level_rerenders rerenders n) body none _ (current_openPage (c := { c with state := .loading })
          registry m n)
      exact .inr ⟨body, rfl, ended ▸ current, shown⟩

/-- A client as it was before a navigation that failed, except that the assets may
have been loaded: they cannot be, or the path has no match, or the markup of its match
is missing. -/
structure StaysPut (path : String) (cause : PageError) (before after : Client) :
    Prop where
  same : after = { before with loaded := after.loaded }
  reason : ∀ registry report m, after.loaded = some (registry, report) →
    Route.resolve registry.routes path = .ok m →
    ∃ missing, registry.routeBody m.route = .error missing ∧
      cause = .assetFetch missing.path missing.status

/-- A client that has left its page for the match of a path, the markup of which is
there, and holds what belongs to that page. -/
structure MovesOn (path : String) (after : Client) (registry : AssetRegistry)
    (m : Route.Match) : Prop where
  loaded : ∃ report, after.loaded = some (registry, report)
  resolved : Route.resolve registry.routes path = .ok m
  body : ∃ body, registry.routeBody m.route = .ok body
  current : after.current = some m
  settled : ∃ live, after.Settled live

theorem matching_exits {path : String} {result : Except PageError (Stage ⊕ Route.Match)}
    (tidy : c.Tidy) (busy : c.state ≠ .idle)
    (work : (Stage.matching path).work r c = (result, d))
    (nothing : Stage.showsNothing result = true) :
    d = { c with loaded := d.loaded } ∧
      ((∃ cause, result = .error cause ∧ ∀ registry report m,
        d.loaded = some (registry, report) → Route.resolve registry.routes path ≠ .ok m) ∨
      ∃ registry m, result = .ok (.inl (.loading registry m)) ∧ d.Amid registry ∧
        Route.resolve registry.routes path = .ok m) := by
  rw [Stage.work, Keeps.bind_eq] at work
  rcases loadedAssets_exits tidy busy with
    ⟨registry, loaded, assets, amid⟩ | ⟨cause, assets, absent⟩
  · rw [assets] at work
    dsimp only at work
    cases resolved : Route.resolve registry.routes path with
    | ok m =>
        rw [resolved] at work
        cases work
        exact ⟨rfl, .inr ⟨registry, m, rfl, amid, resolved⟩⟩
    | error refused =>
        rw [resolved] at work
        have unmatched : ∀ other report m, loaded = some (other, report) →
            Route.resolve other.routes path ≠ .ok m := by
          intro other report m isLoaded isMatch
          obtain ⟨_, same⟩ := amid.loaded
          cases isLoaded.symm.trans same
          cases resolved.symm.trans isMatch
        cases refused with
        | notFound path =>
            cases work
            cases nothing
        | _ =>
            cases work
            exact ⟨rfl, .inl ⟨_, rfl, unmatched⟩⟩
  · rw [assets] at work
    cases work
    refine ⟨rfl, .inl ⟨cause, rfl, fun registry report m loaded => ?_⟩⟩
    cases absent.symm.trans loaded

theorem rest_of_navigateWith {path : String} {kind : NavigationKind} {cause : PageError}
    (failed : navigateWith r path kind c = (.error cause, d)) :
    ∃ e, (Stage.matching path).rest r c = (.error cause, e) ∧
      d = { e with state := .idle } := by
  rw [navigateWith_eq, Keeps.bind_eq, untilIdle] at failed
  rcases pass : (Stage.matching path).rest r c with ⟨_ | m, e⟩
  · rw [pass] at failed
    cases failed
    exact ⟨e, rfl, rfl⟩
  · rw [pass] at failed
    cases failed

theorem navigateWith_exits {n : Nat} {path : String} {kind : NavigationKind}
    {cause : PageError} (tidy : c.Tidy) (idle : c.state = .idle)
    (failed : navigateWith (.level n) path kind c = (.error cause, d))
    (found : cause.isNotFound = false) :
    c.StaysPut path cause d ∨ ∃ registry m, d.MovesOn path registry m := by
  have tidyOn := navigateWith_keeps (Reactor.level_steady n) path kind c tidy
  have matching : ({ c with state := .matching }).Tidy := tidy.display _ _ _
  have busy : ({ c with state := .matching }).state ≠ .idle := by simp
  rw [failed] at tidyOn
  obtain ⟨e, pass, rfl⟩ := rest_of_navigateWith failed
  rw [Stage.rest_eq] at pass
  change ((Stage.matching path).work (.level n) >>= Stage.onward (.level n))
    { c with state := .matching } = _ at pass
  rw [Keeps.bind_eq] at pass
  rcases work : (Stage.matching path).work (.level n) { c with state := .matching } with
    ⟨error | next | m, middle⟩
  · rw [work] at pass
    cases pass
    have nothing : Stage.showsNothing (.error cause) = true := by
      simp [Stage.showsNothing, found]
    obtain ⟨same, ⟨_, -, unmatched⟩ | ⟨_, _, goesOn, -, -⟩⟩ :=
      matching_exits matching busy work nothing
    -- There is no match.
    · refine .inl ⟨?_, fun registry report m loaded isMatch => ?_⟩
      · rw [same, ← idle]
      · exact absurd isMatch (unmatched registry report m loaded)
    · cases goesOn
  · rw [work] at pass
    obtain ⟨same, ⟨_, stops, -⟩ | ⟨registry, m, goesOn, amid, resolved⟩⟩ :=
      matching_exits matching busy work rfl
    · cases stops
    · cases goesOn
      rcases showPage_exits amid pass with
        ⟨missing, absent, isCause, left⟩ | ⟨body, isBody, current, shown⟩
      -- There is a match, but no markup; the page is left only behind this point.
      · refine .inl ⟨?_, fun other _ m loaded isMatch => ?_⟩
        · rw [left, same, ← idle]
        · obtain ⟨_, isLoaded⟩ := amid.loaded
          rw [left] at loaded
          cases isLoaded.symm.trans loaded
          cases resolved.symm.trans isMatch
          exact ⟨missing, absent, isCause⟩
      · exact .inr ⟨registry, m, shown.loaded, resolved, ⟨body, isBody⟩, current,
          tidyOn.settled⟩
  · rw [work] at pass
    cases pass

/-- A navigation of a client that has been created, whatever it was asked for before,
changes neither what is displayed nor the history if it fails for another reason than
want of a route.  It changes nothing else either, unless the markup of the page that it
matched is there; otherwise the client holds what belongs to that page. -/
theorem navigate_failed {host : Host} {number : Nat} (admits : host.Admits number)
    {settings : Settings} {assets : AssetSource} {session : AreaId}
    {durable : Option AreaId} {c d : Client}
    (created : create host number settings assets session durable = .ok c)
    (operations : List Operation) {path : String} {kind : NavigationKind}
    {cause : PageError}
    (failed : navigate path kind (c.after operations) = (.error cause, d))
    (found : cause.isNotFound = false) :
    (c.after operations).Unmoved d ∧
      ((c.after operations).StaysPut path cause d ∨
        ∃ registry m, d.MovesOn path registry m) := by
  have tidy := after_tidy operations (create_tidy admits created)
  have idle := after_idle operations (create_idle created)
  refine ⟨?_, navigateWith_exits tidy idle failed found⟩
  obtain ⟨result, e, ⟨trail, -, course⟩, ended⟩ :=
    navigateWith_passesAlone maxChain path kind (c.after operations)
  cases failed.symm.trans ended
  have unmoved := (course id).unmoved rfl found .idle
  exact ⟨idle.symm, unmoved.document, unmoved.events, unmoved.history⟩

/-! ## A site with broken pages -/

/-- A site with two pages, each of which has a store that is kept, and broken
markup. -/
def tornSite : AssetSource where
  texts := .memory [("routes.json", "[\"about\"]"), ("layouts.json", "[]"),
    ("slugs.json", "\x7b\x7d"), ("routes/index.html", "<!--"),
    ("routes/about/index.html", "<!--")] []
  modules := [
    ("routes/index.js", ⟨"routes/index.js",
      [("count", .store .any (.num (.int 0)) true false)]⟩),
    ("routes/about/index.js", ⟨"routes/about/index.js",
      [("total", .store .any (.num (.int 7)) true false)]⟩)]

def guest : Client :=
  new (Host.empty.addArea ⟨[], false⟩).2 0 {} none tornSite 0 0

/-- Whether something failed, for another reason than want of a route. -/
def failsElsewhere {α : Type} : Except PageError α → Bool
  | .error cause => !cause.isNotFound
  | .ok _ => false

theorem exists_of_failsElsewhere {α : Type} {result : Except PageError α}
    (fails : failsElsewhere result = true) :
    ∃ cause, result = .error cause ∧ cause.isNotFound = false := by
  cases result with
  | ok a => cases fails
  | error cause =>
      refine ⟨cause, rfl, ?_⟩
      simpa [failsElsewhere] using fails

theorem exists_navigate_guest :
    ∃ cause, cause.isNotFound = false ∧ navigate "/about" .push (guest.after [.start]) =
      (.error cause, (navigate "/about" .push (guest.after [.start])).2) := by
  have fails : failsElsewhere (navigate "/about" .push (guest.after [.start])).1 = true := by
    decide +kernel
  obtain ⟨cause, failed, found⟩ := exists_of_failsElsewhere fails
  exact ⟨cause, found, Prod.ext failed rfl⟩

theorem navigate_failed_guest :
    ∃ cause d, create Host.empty 0 {} tornSite 0 none = .ok guest ∧
      navigate "/about" .push (guest.after [.start]) = (.error cause, d) ∧
      cause.isNotFound = false ∧ (guest.after [.start]).Unmoved d ∧
      ∃ registry m, d.MovesOn "/about" registry m := by
  obtain ⟨cause, found, failed⟩ := exists_navigate_guest
  have created : create Host.empty 0 {} tornSite 0 none = .ok guest := rfl
  obtain ⟨unmoved, stays | moves⟩ :=
    navigate_failed (empty_admits 0) created [.start] failed found
  · have same := congrArg (fun d => d.current.map Route.Match.route) stays.same
    exact absurd same (by decide +kernel)
  · exact ⟨cause, _, created, failed, found, unmoved, moves⟩

/-- The page of a navigation that failed has taken the place of the one before, in the
bindings and in storage. -/
theorem navigate_failed_moves :
    ∃ cause d, create Host.empty 0 {} tornSite 0 none = .ok guest ∧
      (guest.after [.start]).state = .idle ∧
      navigate "/about" .push (guest.after [.start]) = (.error cause, d) ∧
      cause.isNotFound = false ∧
      (guest.after [.start]).current.map Route.Match.route = some "/" ∧
      d.current.map Route.Match.route = some "about" ∧
      (guest.after [.start]).bindings.contains "count" = true ∧
      d.bindings.contains "count" = false ∧
      (guest.after [.start]).readText 0 "about/total" = none ∧
      d.readText 0 "about/total" = some "7" := by
  obtain ⟨cause, found, failed⟩ := exists_navigate_guest
  refine ⟨cause, _, rfl, ?_, failed, found, ?_, ?_, ?_, ?_, ?_, ?_⟩
  all_goals decide +kernel

end Client

end LivePages
