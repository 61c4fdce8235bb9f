import LivePages.Proofs.Client.Stored

/-!
# Pages that keep their values stored

A page that is opened stores its plain values, as none of the listeners that are left
keeps a slot under their names.  After that, whatever is asked for leaves them stored,
failed navigations included.  What takes a value from its slot is a script that assigns
to its name: the slot is left behind until the page is opened again.
-/

namespace LivePages

namespace Client

variable {c d : Client} {r : Reactor} {n : Nat} {name : String} {tier : Tier}
  {area : AreaId} {route : String} {registry : AssetRegistry}

/-! ## Places -/

/-- A client with an area for the values of a name, in which no other client keeps
them, whatever the route. -/
structure HasPlace (name : String) (tier : Tier) (area : AreaId) (c : Client) : Prop where
  tiered : c.valueTier? name = some tier
  placed : c.area tier = area
  inside : area < c.areas.length
  others : ∀ s, ∀ entry ∈ c.listeners s, entry.2.heldBy c.number = false →
    ∀ route, ¬ entry.2.KeepsSlot area (route ++ "/" ++ name)

/-- New listeners are those of the client, or such as keep no slot. -/
theorem HasPlace.host (place : c.HasPlace name tier area) {h : Host}
    (areas : h.areas.length = c.areas.length)
    (listeners : ∀ s, ∀ entry ∈ h.listeners s, entry ∈ c.listeners s ∨
      entry.2.heldBy c.number = true ∨ entry.2.isHost = true) :
    ({ c with toHost := h }).HasPlace name tier area where
  tiered := place.tiered
  placed := place.placed
  inside := areas ▸ place.inside
  others s entry member other route := by
    rcases listeners s entry member with old | own | isHost
    · exact place.others s entry old other route
    · cases own.symm.trans other
    · exact not_keepsSlot_of_isHost isHost

theorem HasPlace.onStore (place : c.HasPlace name tier area) (s : StoreId)
    {change : Store Listener → Store Listener}
    (listeners : ∀ store : Store Listener, ∀ entry ∈ (change store).listeners,
      entry ∈ store.listeners) :
    (c.onHost (Host.onStore s change)).HasPlace name tier area := by
  refine place.host rfl fun t entry member => .inl ?_
  exact (@Host.mem_listeners_onStore c.toHost (fun _ => False) s t _
    (fun store entry member => .inl (listeners store entry member)) entry
    member).resolve_right not_false

theorem HasPlace.subscribe (place : c.HasPlace name tier area) (s : StoreId)
    {listener : Listener}
    (own : listener.heldBy c.number = true ∨ listener.isHost = true) :
    (c.askHost (Host.subscribe s listener)).2.HasPlace name tier area := by
  have areas : (c.toHost.subscribe s listener).2.areas = c.areas := by
    rw [Host.subscribe_eq_onStore]
    rfl
  refine place.host (congrArg List.length areas) fun t entry member => ?_
  refine (Host.mem_listeners_subscribe member).imp_right ?_
  rintro rfl
  exact own

/-- A place is kept, whatever a page does, and whichever page it is. -/
theorem outlasts_hasPlace (name : String) (tier : Tier) (area : AreaId) :
    Outlasts (HasPlace name tier area) where
  write _ s _ place := place.onStore s fun _ _ member => member
  listen _ s _ place := place.subscribe s (.inr rfl)
  forget _ s _ place := place.onStore s fun _ _ member => (List.mem_filter.1 member).1
  writeText c a key text place := by
    obtain ⟨areas, file, shape, length⟩ := c.toHost.writeText_eq a key text
    rw [onHost, shape]
    exact place.host length fun _ _ member => .inl member
  keep _ _ _ place := place.host rfl fun _ _ member => .inl member
  exhaust _ place := place.host rfl fun _ _ member => .inl member
  bindValue _ _ _ place := { place with }
  bind _ _ _ place := { place with }
  subscribe _ s _ own place := place.subscribe s (.inl own)
  instantiate c b place := by
    have more : c.toHost.Extends (c.toHost.instantiate b).2 :=
      Host.makeStores_extends b.path b.plans c.toHost
    obtain ⟨stores, made, shape⟩ := c.toHost.instantiate_eq b
    have areas : (c.toHost.instantiate b).2.areas = c.areas := by rw [shape]
    exact place.host (congrArg List.length areas) fun s entry member =>
      .inl (more.listeners_eq s ▸ member)
  visit _ _ place := { place with }
  unsubscribe _ s _ place := place.onStore s fun _ _ member => (List.mem_filter.1 member).1
  unbind _ _ place := { place with }
  install _ _ _ place := { place with }
  load _ _ place := { place with }

theorem rerenders_hasPlace (name : String) (tier : Tier) (area : AreaId) :
    Rerenders (HasPlace name tier area) where
  toBears := (outlasts_hasPlace name tier area).toBears
  enter _ _ place := { place with }
  display _ _ _ place := { place with }

/-- Whatever is asked of a client keeps what leaving pages and rendering them does not
break. -/
theorem run_outlasts {P : Client → Prop} (outlasts : Outlasts P) (rerenders : Rerenders P)
    (moves : ∀ (c : Client) history, P c → P { c with history }) (operation : Operation)
    (holds : P c) : P (operation.run c) := by
  have keeps := Reactor.level_rerenders rerenders maxChain
  exact operation.run_keeps rerenders.toAllows keeps (requestRender_keeps rerenders keeps)
    (navigateWith_outlasts outlasts rerenders moves keeps) moves holds

theorem run_hasPlace (operation : Operation) (place : c.HasPlace name tier area) :
    (operation.run c).HasPlace name tier area :=
  run_outlasts (outlasts_hasPlace name tier area) (rerenders_hasPlace name tier area)
    (fun _ _ place => place.host rfl fun _ _ member => .inl member) operation place

/-! ## Opening a page -/

/-- Whether the site is that of a client, loaded already or to be loaded. -/
def HasSite (c : Client) (site : AssetRegistry × LoadReport) : Prop :=
  c.loaded = some site ∨
    c.loaded = none ∧ AssetRegistry.load c.assets c.settings.assets = .ok site

/-- Whether a navigation to a path leaves the page for another one, which may then fail
to be rendered. -/
def Opens (path : String) (c : Client) : Prop :=
  ∃ site m body, c.HasSite site ∧ Route.resolve site.1.routes path = .ok m ∧
    site.1.routeBody m.route = .ok body

theorem HasSite.unique {site other : AssetRegistry × LoadReport} (hasSite : c.HasSite site)
    (hasOther : c.HasSite other) : other = site := by
  rcases hasSite with loaded | ⟨loaded, load⟩ <;>
    rcases hasOther with loadedToo | ⟨loadedToo, loadToo⟩ <;>
    cases loaded.symm.trans loadedToo
  · rfl
  · cases load.symm.trans loadToo
    rfl

theorem loadedAssets_ends (c : Client) :
    (∃ site, c.HasSite site ∧
      loadedAssets c = (.ok site.1, { c with loaded := some site })) ∨
    (∀ site, ¬ c.HasSite site) ∧ ∃ cause, loadedAssets c = (.error cause, c) := by
  unfold loadedAssets
  rw [Keeps.get_bind]
  cases loaded : c.loaded with
  | some site =>
      have same : c = { c with loaded := some site } := by rw [← loaded]
      exact .inl ⟨site, .inl loaded, congrArg (Prod.mk _) same⟩
  | none =>
      dsimp only
      cases load : AssetRegistry.load c.assets c.settings.assets with
      | ok site => exact .inl ⟨site, .inr ⟨loaded, load⟩, rfl⟩
      | error cause =>
          refine .inr ⟨?_, by cases cause <;> exact ⟨_, rfl⟩⟩
          rintro site (isLoaded | ⟨-, loads⟩)
          · cases loaded.symm.trans isLoaded
          · cases load.symm.trans loads

/-- Where the pass of a navigation ends: with the page that there was, without a page,
or where rendering the page ends that it has opened. -/
theorem matching_ends {path : String} {result : Except PageError Route.Match}
    (pass : (Stage.matching path).rest r c = (result, d)) :
    (¬ c.Opens path ∧ ∃ loaded state,
      (loaded = c.loaded ∨ ∃ site, c.HasSite site ∧ loaded = some site) ∧
      d = { c with loaded, state }) ∨
    (∃ site, c.HasSite site ∧
      d = showNotFound { c with state := .matching, loaded := some site }) ∨
    ∃ site m body, c.HasSite site ∧ d = (renderPass r site.1 body none (openPage r site.1 m
      { c with state := .loading, loaded := some site })).2 := by
  rw [Stage.rest] at pass
  change (loadedAssets >>= _) { c with state := .matching } = _ at pass
  rw [Keeps.bind_eq] at pass
  rcases loadedAssets_ends { c with state := .matching } with
    ⟨site, hasSite, assets⟩ | ⟨absent, cause, assets⟩
  · rw [assets] at pass
    dsimp only at pass
    have stays : (∀ m body, Route.resolve site.1.routes path = .ok m →
        site.1.routeBody m.route ≠ .ok body) → ¬ c.Opens path := by
      rintro never ⟨other, m, body, hasOther, resolved, found⟩
      cases hasSite.unique hasOther
      exact never m body resolved found
    cases resolved : Route.resolve site.1.routes path with
    | ok m =>
        rw [resolved] at pass stays
        dsimp only at pass
        rw [showPage_eq] at pass
        cases found : site.1.routeBody m.route with
        | error missing =>
            rw [found] at pass
            cases pass
            refine .inl ⟨stays ?_, _, _, .inr ⟨site, hasSite, rfl⟩, rfl⟩
            rintro _ body ⟨⟩
            rw [found]
            simp
        | ok body =>
            rw [found] at pass
            have ended := congrArg Prod.snd pass
            rw [Keeps.bind_pure_state] at ended
            exact .inr (.inr ⟨site, m, body, hasSite, ended.symm⟩)
    | error refused =>
        rw [resolved] at pass stays
        have never : ¬ c.Opens path := stays fun m body same => by cases same
        cases refused with
        | notFound path =>
            cases pass
            exact .inr (.inl ⟨site, hasSite, rfl⟩)
        | _ =>
            cases pass
            exact .inl ⟨never, _, _, .inr ⟨site, hasSite, rfl⟩, rfl⟩
  · rw [assets] at pass
    cases pass
    refine .inl ⟨?_, _, _, .inl rfl, rfl⟩
    rintro ⟨site, -, -, hasSite, -, -⟩
    exact absent site hasSite

/-- A navigation leaves what the pass leaves, but in the idle state, and it may be
recorded. -/
theorem exists_of_navigate (path : String) (kind : NavigationKind) (c : Client) :
    ∃ result d history, (Stage.matching path).rest reactor c = (result, d) ∧
      (navigate path kind c).2 = { d with state := .idle, history } := by
  rcases pass : (Stage.matching path).rest reactor c with ⟨cause | m, d⟩
  · refine ⟨_, d, d.history, rfl, ?_⟩
    rw [navigate, navigateWith_eq, Keeps.bind_eq, untilIdle, pass]
  · refine ⟨_, d, d.history.record kind path, rfl, ?_⟩
    rw [navigate, navigateWith_eq, Keeps.bind_eq, untilIdle, pass]
    rfl

theorem Tidy.site (tidy : c.Tidy) {site : AssetRegistry × LoadReport}
    (hasSite : c.HasSite site) : ({ c with loaded := some site }).Tidy := by
  rcases hasSite with loaded | ⟨absent, -⟩
  · rw [← loaded]
    exact tidy
  · exact tidy.load absent site

/-- Once a page is left, nobody keeps the slot of a name under which there is a place,
whatever the route of the next page. -/
theorem installContext_stored (tidy : c.Tidy) (place : c.HasPlace name tier area)
    (m : Route.Match) :
    (c.disposeVisit.installContext m).Stored name tier area m.route False := by
  obtain ⟨h, bindings, left, -, owns⟩ := disposeVisit_owns tidy
  obtain ⟨held, holds, none, -⟩ := owns.holds
  have placed := disposeVisit_keeps (outlasts_hasPlace name tier area) place
  refine ⟨placed.tiered, placed.placed, placed.inside, rfl, fun s entry member => ?_,
    False.elim⟩
  by_cases own : entry.2.heldBy c.disposeVisit.number = true
  · have present : entry ∈ c.disposeVisit.held c.disposeVisit.number s :=
      List.mem_filter.2 ⟨member, own⟩
    rw [holds s, List.map_eq_nil_iff.1 none] at present
    cases present
  · exact placed.others s entry member (Bool.eq_false_iff.2 own) m.route

/-- A page is in order once it is opened. -/
theorem openPage_kept (tidy : c.Tidy) (place : c.HasPlace name tier area)
    (busy : c.state ≠ .idle) (loaded : ∃ report, c.loaded = some (registry, report))
    (m : Route.Match) :
    (c.openPage (.level n) registry m).KeptAmid name tier area m.route True registry := by
  obtain ⟨report, loaded⟩ := loaded
  have loadedOn := (loaded_openPage (c := c) registry m n).trans loaded
  have stored := installContext_stored tidy place m
  have busyOn : (c.disposeVisit.installContext m).state ≠ .idle := by
    rwa [state_installContext]
  obtain ⟨module, h, visit, d, made, bound, shape⟩ :=
    exists_of_openPage (.level n) registry m c
  rw [shape] at loadedOn ⊢
  generalize c.disposeVisit.installContext m = installed at *
  have state := bindModule_state (c := { installed with toHost := h })
    (Reactor.level_steady n) busyOn module ⟨m.route, [], [], [], []⟩
  have layouts := bindModule_layouts (r := .level n) (c := { installed with toHost := h })
    module ⟨m.route, [], [], [], []⟩
  have isRoute := bindModule_route (.level n) module ⟨m.route, [], [], [], []⟩
    { installed with toHost := h }
  rw [bound] at state layouts isRoute
  dsimp only at loadedOn state layouts isRoute
  refine ⟨state ▸ busyOn, ⟨report, loadedOn⟩, fun plainly => ⟨trivial, ?_⟩⟩
  have offers : ∀ plan, ({ d with visit := some visit }).Offers name plan ↔
      ∃ b, registry.routeModules.get? m.route = some b ∧ (name, plan) ∈ b.plans := by
    intro plan
    simp [Offers, loadedOn, isRoute, layouts, Table.contains, Table.get?]
  have plain : ∀ e, (name, e) ∈ module → e.IsPlain := by
    intro e member
    obtain ⟨b, found, plan, planned, same, i, stores, yields⟩ :=
      exists_plan_of_mem_instanceOf (c := installed) (by rw [made]; exact member)
    obtain ⟨planName, p⟩ := plan
    obtain rfl : planName = name := same
    exact yields.isPlain (plainly.plans p ((offers p).2 ⟨b, found, planned⟩))
  have storedOn := (bindModule_stored (n := n) (c := { installed with toHost := h }) plain
    ⟨m.route, [], [], [], []⟩ ⟨busyOn, instanceOf_stored made stored⟩).2
  rw [bound] at storedOn
  refine ⟨Stored.mono ?_ { storedOn with }, ?_, ?_⟩
  · rintro ⟨plan, offered⟩
    obtain ⟨b, found, planned⟩ := (offers plan).1 offered
    have named := mem_names_instanceOf planned installed
    rw [← found, made] at named
    exact .inr named
  · rintro _ ⟨⟩
    exact isRoute
  · rintro _ ⟨⟩ entry member same
    have computed := @mem_computed_of_bindModule { installed with toHost := h } (.level n)
      module ⟨m.route, [], [], [], []⟩
    rw [bound] at computed
    rcases computed member with old | new
    · cases old
    · exact plain _ (same ▸ new)

/-- A navigation leaves a page in order, whether it opens one or stays where it is. -/
theorem navigate_kept {path : String} (kind : NavigationKind) (tidy : c.Tidy)
    (place : c.HasPlace name tier area)
    (orderly : c.Opens path ∨ ∃ route, c.Kept name tier area route True) :
    ∃ route, (navigate path kind c).2.Kept name tier area route True := by
  obtain ⟨result, d, history, pass, ended⟩ := exists_of_navigate path kind c
  have rests : ∀ {route}, d.Kept name tier area route True →
      ({ d with state := .idle, history }).Kept name tier area route True :=
    fun kept => kept.step rfl rfl fun _ _ inOrder =>
      { inOrder.stored.host (.of_listeners rfl fun _ => rfl) rfl with }
  rw [ended]
  rcases matching_ends pass with
    ⟨stays, loaded, state, isSite, rfl⟩ | ⟨site, -, rfl⟩ | ⟨site, m, body, hasSite, rfl⟩
  · obtain ⟨route, kept⟩ := orderly.resolve_left stays
    refine ⟨route, rests ?_⟩
    have same : loaded = c.loaded →
        ({ c with loaded, state }).Kept name tier area route True :=
      fun same => kept.step same rfl fun _ _ inOrder => { inOrder.stored with }
    rcases isSite with unchanged | ⟨site, isLoaded | ⟨absent, -⟩, rfl⟩
    · exact same unchanged
    · exact same isLoaded.symm
    · intro plainly
      obtain ⟨visit, shown⟩ := plainly.shown
      obtain ⟨live, isLive, -⟩ := tidy.account
      change c.visit = some visit at shown
      rw [Live, shown] at isLive
      obtain ⟨_, _, _, present, -⟩ := isLive
      cases absent.symm.trans present
  · refine ⟨Route.root, rests fun plainly => ?_⟩
    obtain ⟨visit, shown⟩ := plainly.shown
    cases (disposeVisit_visit { c with state := .matching, loaded := some site }).symm.trans
      shown
  · have tidyOn := (tidy.site hasSite).display c.document c.events .loading
    have opened := openPage_kept (n := maxChain) tidyOn { place with } (by simp)
      ⟨site.2, rfl⟩ m
    exact ⟨m.route, rests (renderPass_kept opened.loaded opened.kept body none).kept⟩

/-! ## Operations -/

end Client

/-- Whether an operation runs no script that assigns to a name. -/
def Operation.spares (name : String) (c : Client) : Operation → Bool
  | dispatch elementId event _ =>
    match (c.events.get? elementId event).map EventBinding.action with
    | some (.script source) =>
      match Expr.parseScript source with
      | .ok script => script.all fun statement => statement.target? ≠ some name
      | .error _ => true
    | _ => true
  | _ => true

namespace Client

variable {c : Client} {name : String} {tier : Tier} {area : AreaId} {route : String}

/-- Whether none of some operations, one after the other, runs a script that assigns to
a name. -/
def spares (name : String) (c : Client) : List Operation → Bool
  | [] => true
  | operation :: operations =>
    operation.spares name c && (operation.run c).spares name operations

/-- An assignment keeps what changes of stores keep, if binding a value to its name
does. -/
theorem assign_of_bindValue {P : Client → Prop} {r : Reactor} {name : String}
    (keeps : r.Keeps P) (bound : ∀ (c : Client) v, P c → P (c.bindValue name v)) (v : Value) :
    Keeps P (assign r name v) := by
  intro c holds
  unfold assign
  split
  · exact offer_keeps keeps _ v holds
  · exact bound c v holds

/-- Dispatching an event keeps what a render keeps, if the assignments of its script
do. -/
theorem dispatch_of_assigns {ι : Type} {reach : ι → Reach} {P : ι → Client → Prop}
    (names : CouplesNames reach fun i => Selfsame (P i))
    (reacts : ∀ i, reactor.Couples reactor (reach i) (Selfsame (P i))) {i : ι}
    (renders : ∀ focus, Keeps (P i) (requestRender reactor focus))
    {elementId event : String} (input : EventInput)
    (assigns : ∀ source script,
      (c.events.get? elementId event).map EventBinding.action = some (.script source) →
      Expr.parseScript source = .ok script → ∀ statement ∈ script, ∀ target,
      statement.target? = some target → ∀ v, Keeps (P i) (assign reactor target v))
    (holds : P i c) :
    P i (dispatch elementId event input c).2 := by
  have shown : ∀ focus, Keeps (P i) (do
      let _ ← requestRender reactor focus
      return true : Showing Bool) :=
    fun focus => (renders focus).bind fun _ => .pure true
  unfold dispatch
  rw [Keeps.get_bind]
  cases found : c.events.get? elementId event with
  | none => exact holds
  | some binding =>
      rw [found, Option.map_some] at assigns
      dsimp only
      cases action : binding.action with
      | handler f =>
          have called : ∀ args, Keeps (P i) (call reactor f args) :=
            fun args c holds => (call_couples names reacts i f args c c ⟨rfl, holds⟩).2.2
          exact Keeps.bind (evaluating_keeps fun c holds => called _ c holds)
            (fun _ => shown _) c holds
      | script source =>
          have runs := Surroundings.execute_relates (surroundings_couples names reacts i)
            source [] fun script parsed statement member target isTarget v =>
              (assigns source script (congrArg some action) parsed statement member target
                isTarget v).agree.relates
          exact Keeps.bind (evaluating_keeps (Agree.of_relates runs).keeps)
            (fun _ => shown _) c holds

/-- Dispatching an event whose script does not assign to a name keeps what is kept when
values are bound to other names. -/
theorem dispatch_of_spares {ι : Type} {reach : ι → Reach} {P : ι → Client → Prop}
    (names : CouplesNames reach fun i => Selfsame (P i))
    (reacts : ∀ i, reactor.Couples reactor (reach i) (Selfsame (P i))) {i : ι}
    (writes : ∀ s, (reach i).writes s)
    (renders : ∀ focus, Keeps (P i) (requestRender reactor focus))
    {elementId event : String} {input : EventInput}
    (spares : (Operation.dispatch elementId event input).spares name c = true)
    (binds : ∀ {target : String}, target ≠ name → ∀ (c : Client) v, P i c →
      P i (c.bindValue target v))
    (holds : P i c) : P i (dispatch elementId event input c).2 := by
  refine dispatch_of_assigns names reacts renders input ?_ holds
  intro source script isScript parsed statement member target isTarget
  have apart : target ≠ name := by
    rw [Operation.spares, isScript] at spares
    dsimp only at spares
    rw [parsed] at spares
    have each := List.all_eq_true.1 spares statement member
    rw [isTarget] at each
    simpa using each
  exact assign_of_bindValue ((reacts i).keeps writes) (binds apart)

theorem dispatch_kept {elementId event : String} {input : EventInput}
    (spares : (Operation.dispatch elementId event input).spares name c = true)
    (kept : c.Kept name tier area route True) :
    (dispatch elementId event input c).2.Kept name tier area route True := by
  have names := (withstands_kept name tier area route).couplesNames fun holds _ b _ =>
    ⟨_, holds, fun _ holds => holds, b.staysIn_all⟩
  refine dispatch_of_spares names (reacts_kept name tier area route maxChain)
    (fun _ => trivial) (requestRender_kept maxChain) spares (fun apart c v kept => ?_) kept
  exact kept.step rfl rfl fun _ _ inOrder => inOrder.stored.bind apart (.value v)

/-- No operation but a script that assigns to the name takes a value from its slot. -/
theorem run_kept {operation : Operation} (tidy : c.Tidy) (place : c.HasPlace name tier area)
    (spares : operation.spares name c = true)
    (orderly : ∃ route, c.Kept name tier area route True) :
    ∃ route, (operation.run c).Kept name tier area route True := by
  by_cases navigates : operation.navigates = true
  · rcases operation.run_of_navigates navigates c with
      same | ⟨path, kind, history, same⟩
    · rwa [same]
    · obtain ⟨route, kept⟩ := orderly
      rw [same]
      refine navigate_kept kind (tidy.stays (.host (.of_stores rfl rfl)))
        (place.host rfl fun _ _ member => .inl member) (.inr ⟨route, ?_⟩)
      exact kept.step rfl rfl fun _ _ inOrder =>
        inOrder.stored.host (.of_listeners rfl fun _ => rfl) rfl
  · obtain ⟨route, kept⟩ := orderly
    have actions := (withstands_kept name tier area route).couplesChanges.actions True
    have reacts := reacts_kept name tier area route maxChain True
    refine ⟨route, ?_⟩
    cases operation with
    | render => exact requestRender_kept maxChain none c kept
    | dispatch elementId event input => exact dispatch_kept spares kept
    | setStore s v => exact offer_keeps (reacts.keeps fun _ => trivial) s v kept
    | perform a => exact (a.run_couples actions reacts a.staysIn_all c c ⟨rfl, kept⟩).2.2
    | _ => exact absurd rfl navigates

theorem after_kept {operations : List Operation} (tidy : c.Tidy)
    (place : c.HasPlace name tier area) (spares : c.spares name operations = true)
    (orderly : ∃ route, c.Kept name tier area route True) :
    (c.after operations).HasPlace name tier area ∧
      ∃ route, (c.after operations).Kept name tier area route True := by
  induction operations generalizing c with
  | nil => exact ⟨place, orderly⟩
  | cons operation operations inductionHypothesis =>
      rw [Client.spares, Bool.and_eq_true] at spares
      exact inductionHypothesis (after_tidy [operation] tidy) (run_hasPlace operation place)
        spares.2 (run_kept tidy place spares.1 orderly)

/-- Whether a client is what becomes of another one that navigates to a page which can
be opened, wherever it has moved in the history before. -/
def OpenedFrom (d c : Client) : Prop :=
  ∃ path kind history, ({ c with history }).Opens path ∧
    d = (navigate path kind { c with history }).2

/-- A client that has been created, has a place for the values of a name, and has opened
a page after whatever operations: as long as it has since run no script that assigns to
the name, whatever else it was asked for, and all that the modules of its page have
planned under the name are plain values, the slot of the name reads as the value that
the name is bound to. -/
theorem values_stay_stored {host : Host} {number : Nat} (admits : host.Admits number)
    {settings : Settings} {assets : AssetSource} {session : AreaId}
    {durable : Option AreaId} {c : Client}
    (created : create host number settings assets session durable = .ok c)
    (place : c.HasPlace name tier area) (before : List Operation) {opened : Client}
    (isOpened : opened.OpenedFrom (c.after before)) {later : List Operation}
    (spares : opened.spares name later = true)
    (plainly : (opened.after later).OffersPlainly name) {plan : Plan}
    (offers : (opened.after later).Offers name plan) :
    ∃ visit v, (opened.after later).visit = some visit ∧
      (opened.after later).bindings.get? name = some (.value v) ∧
      ((opened.after later).readText ((opened.after later).area tier)
        (visit.route ++ "/" ++ name)).bind Slot.read? = some v := by
  have tidy := after_tidy before (create_tidy admits created)
  have placed : (c.after before).HasPlace name tier area :=
    after_keeps (fun operation c place => run_hasPlace operation place) before place
  obtain ⟨path, kind, history, opens, same⟩ := isOpened
  have moved : ({ c.after before with history }).Tidy := tidy.stays (.host (.of_stores rfl rfl))
  have placedThere : ({ c.after before with history }).HasPlace name tier area :=
    placed.host rfl fun _ _ member => .inl member
  have tidyOn : opened.Tidy := same ▸ after_tidy [.navigate path kind] moved
  have placeOn : opened.HasPlace name tier area :=
    same ▸ run_hasPlace (.navigate path kind) placedThere
  have orderly : ∃ route, opened.Kept name tier area route True :=
    same ▸ navigate_kept kind moved placedThere (.inl opens)
  obtain ⟨placeNow, route, kept⟩ := after_kept tidyOn placeOn spares orderly
  obtain ⟨-, inOrder⟩ := kept plainly
  obtain ⟨visit, shown⟩ := plainly.shown
  obtain ⟨v, isBound, reads⟩ := inOrder.stored.agrees ⟨plan, offers⟩
  refine ⟨visit, v, shown, isBound, ?_⟩
  rw [placeNow.placed, inOrder.route visit shown]
  exact reads

/-! ## Scripts that assign -/

/-- A site with a page and a layout that plan values under names with a sigil.  Two of
them are bound to something else: the layout computes one, and lists itself under the
other. -/
def shelfSite : AssetSource where
  texts := .memory [("routes.json", "[\"about\"]"), ("layouts.json", "[\"main\"]"),
    ("slugs.json", "\x7b\x7d"), ("layouts/main.html", "<slot></slot>"),
    ("routes/index.html", "<template layout=\"main\"><p @click=\"n = 2\">a</p>" ++
      "<p @click=\"_n = 2\">b</p></template>")] []
  modules := [("routes/index.js", ⟨"routes/index.js",
      [("_n", .value (.arr [.num (.int 7), .str "x"])), ("_m", .value (.num (.int 1))),
        ("$layouts", .value (.num (.int 1))),
        ("s", .store .any (.num (.int 0)) true false)]⟩),
    ("layouts/main.js", ⟨"layouts/main.js",
      [("_n", .value (.num (.int 1))),
        ("_m", .computed fun _ => .return (.num (.int 5)))]⟩)]

def shelfKeeper : Client :=
  new (Host.empty.addArea ⟨[], false⟩).2 0 {} none shelfSite 0 0

/-- A navigation that succeeds has opened a page. -/
theorem opens_of_navigate {path : String} (kind : NavigationKind)
    (succeeds : (navigate path kind c).1.isOk = true) : c.Opens path := by
  rcases done : navigate path kind c with ⟨cause | m, d⟩
  · rw [done] at succeeds
    cases succeeds
  · obtain ⟨registry, loading, body, -, assets, resolved, found, -⟩ :=
      exists_of_navigateWith done
    obtain ⟨report, -, isSite⟩ := loadedAssets_ok assets
    exact ⟨(registry, report), m, body, isSite, resolved, found⟩

theorem shelfKeeper_hasPlace : shelfKeeper.HasPlace "_n" .durable 0 where
  tiered := by decide
  placed := rfl
  inside := by decide
  others s entry member := by
    have none : shelfKeeper.stores = [] := rfl
    rw [Host.listeners, none] at member
    cases member

/-- What a page is asked for that has a structured value stored, a page without markup
among it. -/
def shelfUse : List Operation :=
  [.dispatch "1" "click" ⟨none, none⟩, .setStore 0 (.num (.int 5)), .navigate "/about" .push,
    .render]

theorem values_stay_stored_shelfUse :
    let opened := shelfKeeper.after [.start]
    create Host.empty 0 {} shelfSite 0 none = .ok shelfKeeper ∧
      opened.OpenedFrom (shelfKeeper.after []) ∧
      opened.spares "_n" shelfUse = true ∧
      (opened.after shelfUse).OffersPlainly "_n" ∧
      (opened.after shelfUse).readText 0 "//_n" = some "[7,\"x\"]" ∧
      ∃ visit v, (opened.after shelfUse).visit = some visit ∧
        (opened.after shelfUse).bindings.get? "_n" = some (.value v) ∧
        ((opened.after shelfUse).readText ((opened.after shelfUse).area .durable)
          (visit.route ++ "/" ++ "_n")).bind Slot.read? = some v := by
  intro opened
  have created : create Host.empty 0 {} shelfSite 0 none = .ok shelfKeeper := rfl
  have isOpened : opened.OpenedFrom (shelfKeeper.after []) :=
    ⟨Route.root, .replace, shelfKeeper.history,
      opens_of_navigate .replace (by decide +kernel), rfl⟩
  obtain ⟨spares, shown, storable, offered, text⟩ : opened.spares "_n" shelfUse = true ∧
      (opened.after shelfUse).visit.isSome = true ∧
      ((opened.after shelfUse).offered "_n").all Plan.isStorable = true ∧
      0 < ((opened.after shelfUse).offered "_n").length ∧
      (opened.after shelfUse).readText 0 "//_n" = some "[7,\"x\"]" := by
    decide +kernel
  have plainly : (opened.after shelfUse).OffersPlainly "_n" := by
    refine ⟨Option.isSome_iff_exists.1 shown, fun plan offers => ?_, fun same => ?_⟩
    · exact Plan.isPlain_of_isStorable
        (List.all_eq_true.1 storable plan (offers_iff_mem.1 offers))
    · exact absurd same (by decide)
  obtain ⟨plan, member⟩ := List.exists_mem_of_length_pos offered
  exact ⟨created, isOpened, spares, plainly, text,
    values_stay_stored (empty_admits 0) created shelfKeeper_hasPlace [] isOpened spares plainly
      (offers_iff_mem.2 member)⟩

/-- Whether a page plans a value under a name. -/
def offersValue (c : Client) (name : String) : Bool :=
  (c.offered name).any fun plan => match plan with
    | .value _ => true
    | _ => false

theorem exists_of_offersValue (offers : c.offersValue name = true) :
    ∃ v, c.Offers name (.value v) := by
  obtain ⟨plan, offered, isValue⟩ := List.any_eq_true.1 offers
  cases plan with
  | value v => exact ⟨v, offers_iff_mem.2 offered⟩
  | _ => cases isValue

/-- A slot that is read as a value with another text than the one of the name. -/
theorem exists_of_texts {area : AreaId} {key : String}
    (reads : ((c.readText area key).bind Slot.read?).isSome = true)
    (apart : ((c.readText area key).bind Slot.read?).map Slot.write ≠
      (c.lookup name).toOption.map Slot.write) :
    ∃ w, (c.readText area key).bind Slot.read? = some w ∧
      c.bindings.get? name ≠ some (.value w) := by
  obtain ⟨w, read⟩ := Option.isSome_iff_exists.1 reads
  refine ⟨w, read, fun isBound => apart ?_⟩
  rw [read, lookup, isBound]
  rfl

/-- What a script assigns does not reach the slot, nor does what a layout computes, nor
the list of the layouts. -/
theorem assigned_not_stored :
    let d := shelfKeeper.after [.start, .dispatch "2" "click" ⟨none, none⟩]
    create Host.empty 0 {} shelfSite 0 none = .ok shelfKeeper ∧ d.state = .idle ∧
      ∀ name ∈ ["_n", "_m", "$layouts"], (∃ v, d.Offers name (.value v)) ∧
        ∃ w, (d.readText 0 ("//" ++ name)).bind Slot.read? = some w ∧
          d.bindings.get? name ≠ some (.value w) := by
  intro d
  have facts : d.state = .idle ∧ ∀ name ∈ ["_n", "_m", "$layouts"],
      d.offersValue name = true ∧
      ((d.readText 0 ("//" ++ name)).bind Slot.read?).isSome = true ∧
      ((d.readText 0 ("//" ++ name)).bind Slot.read?).map Slot.write ≠
        (d.lookup name).toOption.map Slot.write := by
    decide +kernel
  refine ⟨rfl, facts.1, fun name member => ?_⟩
  obtain ⟨offers, reads, apart⟩ := facts.2 name member
  exact ⟨exists_of_offersValue offers, exists_of_texts reads apart⟩

end Client

end LivePages
