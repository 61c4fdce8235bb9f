import LivePages.Proofs.Client.Freshness
import LivePages.Proofs.Client.Leftover

/-!
# New clients in the place of old ones

A page finds nothing of the pages before it but what they have left bound, and what is
stored.  So a client that has just been created comes to the same page, if the same
values are bound already under the names that scripts have left behind.
-/

namespace LivePages

variable {owner : String → Nat}

/-- A host on which new pages find the same storage as on another one, and on which as
many stores and instances have been made, whatever has become of them. -/
structure Host.Stands (owner : String → Nat) (h other : Host) : Prop where
  areas : other.areas = h.areas
  count : other.stores.length = h.stores.length
  instances : other.instances = h.instances
  unused : ∀ key, h.instances ≤ owner key → other.memory.get? key = none

namespace Client

variable {c d : Client} {registry : AssetRegistry} {r : Reactor}

/-- A new client in the place of another one, on some host and with some names bound. -/
def renew (c : Client) (h : Host) (bindings : Bindings) : Client :=
  { new h c.number c.settings c.origin c.assets c.session c.durable with bindings }

/-- Bindings that agree with those which stay when the page is left, but for the names of
the route. -/
def LeavesBound (c : Client) (bindings : Bindings) : Prop :=
  ∀ name, name ≠ routeName → name ≠ contextName → bindings.get? name = c.left? name

/-- When a route is installed, the old client and the new one are twins. -/
theorem installContext_twins (tidy : c.Tidy) (discreet : c.Discreet owner)
    (busy : c.state ≠ .idle) {h : Host} (stands : c.toHost.Stands owner h)
    {bindings : Bindings} (left : c.LeavesBound bindings) (m : Route.Match) :
    (c.disposeVisit.installContext m).Twins owner c.stores.length c.instances
      (installContext m { c.renew h bindings with state := c.state, loaded := c.loaded }) := by
  have names := get?_disposeVisit c
  obtain ⟨stores, bound, shape, count, -⟩ := exists_of_disposeVisit c
  rw [shape] at names ⊢
  have beyond : ∀ s, c.stores.length ≤ s → stores[s]? = none :=
    fun s inside => List.getElem?_eq_none (count ▸ inside)
  have known : ({ c with stores, bindings := bound, visit := none } : Client).KeepsTo
      (.since owner c.stores.length c.instances) := by
    refine ⟨fun name b found => ?_, nofun, fun s inside entry member => ?_⟩
    · obtain ⟨v, rfl⟩ := isValue_of_left tidy ((names name).symm.trans found)
      trivial
    · rw [Host.listeners, beyond s inside] at member
      cases member
  exact {
    alike := ⟨rfl, rfl, rfl, rfl, rfl⟩
    busy := busy
    state := rfl
    current := rfl
    visit := rfl
    areas := stands.areas
    count := stands.count.trans count.symm
    instances := stands.instances
    since := ⟨Nat.le_of_eq count.symm, Nat.le_refl _⟩
    stores := fun s inside => by
      have absent : h.stores[s]? = none := List.getElem?_eq_none (stands.count ▸ inside)
      exact absent.trans (beyond s inside).symm
    memory := fun key later => (stands.unused key later).trans (discreet.unused key later).symm
    bindings := fun name => by
      have same := fun notRoute notContext =>
        (left name notRoute notContext).trans (names name).symm
      simp only [installContext, Client.bindValue, Client.bind, Table.get?_insert]
      by_cases isContext : contextName = name
      · rw [if_pos isContext, if_pos isContext]
      · by_cases isRoute : routeName = name
        · rw [if_neg isContext, if_neg isContext, if_pos isRoute, if_pos isRoute]
        · rw [if_neg isContext, if_neg isContext, if_neg isRoute, if_neg isRoute]
          exact same (Ne.symm isRoute) (Ne.symm isContext)
    known := known.installContext m }

/-! ## Navigations -/

theorem navigateWith_of_pass {path : String} {kind : NavigationKind} {m : Route.Match}
    {body : String} {loading e : Client}
    (assets : loadedAssets { c with state := .matching } = (.ok registry, loading))
    (resolved : Route.resolve registry.routes path = .ok m)
    (found : registry.routeBody m.route = .ok body)
    (pass : renderPass r registry body none
      (openPage r registry m { loading with state := .loading }) = (.ok (), e)) :
    navigateWith r path kind c =
      (.ok m, { e with state := .idle, history := e.history.record kind path }) := by
  have shown : showPage r registry m loading = (.ok (), e) := by
    rw [showPage_eq, found]
    exact pass
  have rest : (Stage.matching path).rest r c = (.ok m, e) := by
    change (loadedAssets >>= _) { c with state := .matching } = _
    rw [Keeps.bind_eq, assets]
    dsimp only
    rw [resolved]
    change (showPage r registry m >>= _) loading = _
    rw [Keeps.bind_eq, shown]
    rfl
  rw [navigateWith_eq, Keeps.bind_eq, untilIdle, rest]
  rfl

/-- A navigation that succeeds shows what it shows on a new client with what is left
bound. -/
theorem navigateWith_renew (tidy : c.Tidy) (discreet : c.Discreet owner) {h : Host}
    (stands : c.toHost.Stands owner h) {bindings : Bindings} (left : c.LeavesBound bindings)
    {chain : Nat} {path : String} {kind : NavigationKind} {m : Route.Match}
    (done : navigateWith (.level chain) path kind c = (.ok m, d)) :
    ∃ other, navigateWith (.level chain) path kind (c.renew h bindings) = (.ok m, other) ∧
      other.document = d.document ∧ other.events = d.events ∧ other.current = d.current ∧
      ∀ name, other.lookup name = d.lookup name := by
  obtain ⟨registry, loading, body, e, assets, resolved, found, pass, rfl⟩ :=
    exists_of_navigateWith done
  obtain ⟨report, rfl, isSite⟩ := loadedAssets_ok assets
  have hasSite : c.HasSite (registry, report) := isSite
  have load := discreet.hasSite hasSite
  have isPrivate : registry.Private owner := AssetRegistry.load_private discreet.assets load
  have tidyOn := (tidy.site hasSite).display c.document c.events .loading
  have discreetOn := (discreet.load hasSite).display c.document c.events .loading
  have installed := installContext_twins tidyOn discreetOn (by simp) stands left m
  have renewed : loadedAssets { c.renew h bindings with state := .matching } =
      (.ok registry, { c.renew h bindings with
        state := .matching, loaded := some (registry, report) }) := by
    have hasSiteToo : ({ c.renew h bindings with state := .matching } : Client).HasSite
        (registry, report) := .inr ⟨rfl, load⟩
    rcases loadedAssets_ends { c.renew h bindings with state := .matching } with
      ⟨site, isSiteToo, assets⟩ | ⟨absent, -⟩
    · rw [assets, hasSiteToo.unique isSiteToo]
    · exact absurd hasSiteToo (absent _)
  have opened : (openPage (.level chain) registry m
        { c with state := .loading, loaded := some (registry, report) }).Twins owner
      c.stores.length c.instances (openPage (.level chain) registry m
        { c.renew h bindings with state := .loading, loaded := some (registry, report) }) :=
    openPage_twins isPrivate m chain installed
  obtain ⟨html, shown, other, twins, rfl, passToo⟩ := renderPass_twins isPrivate opened pass
  obtain ⟨document, events⟩ := twins.showMarkup none html
  exact ⟨_, navigateWith_of_pass renewed resolved found passToo, document, events,
    twins.current, twins.lookup⟩

/-! ## Clients that have been created -/

/-- Nothing changes the settings of a client. -/
theorem after_settings (Q : Settings → Option Url → Prop) (operations : List Operation)
    (holds : Q c.settings c.origin) :
    Q (c.after operations).settings (c.after operations).origin := by
  have rerenders : Rerenders fun c => Q c.settings c.origin :=
    { write := fun _ _ _ holds => holds
      listen := fun _ _ _ holds => holds
      forget := fun _ _ _ holds => holds
      writeText := fun _ _ _ _ holds => holds
      keep := fun _ _ _ holds => holds
      exhaust := fun _ holds => holds
      bindValue := fun _ _ _ holds => holds
      bind := fun _ _ _ holds => holds
      subscribe := fun _ _ _ _ holds => holds
      instantiate := fun _ _ holds => holds
      visit := fun _ _ holds => holds
      enter := fun _ _ holds => holds
      display := fun _ _ _ holds => holds }
  have outlasts : Outlasts fun c => Q c.settings c.origin :=
    { rerenders.toBears with
      unsubscribe := fun _ _ _ holds => holds
      unbind := fun _ _ holds => holds
      install := fun _ _ _ holds => holds
      load := fun _ _ holds => holds }
  exact after_keeps (P := fun c => Q c.settings c.origin) (fun operation c =>
    run_outlasts outlasts rerenders (fun _ _ holds => holds) operation) operations holds

/-- Without names that are bound already, a new client is one that is created. -/
theorem create_renew {host : Host} {number : Nat} {settings : Settings} {assets : AssetSource}
    {session : AreaId} {durable : Option AreaId}
    (created : create host number settings assets session durable = .ok c)
    (operations : List Operation) (h : Host) :
    let d := c.after operations
    create h d.number d.settings d.assets d.session (some d.durable) = .ok (d.renew h []) := by
  intro d
  rw [create_eq] at created
  obtain ⟨origin, reads, created⟩ := exists_of_bind_ok created
  obtain ⟨⟨area, areaHost⟩, -, created⟩ := exists_of_bind_ok created
  have fixed : d.settings = settings ∧ d.origin = origin := by
    refine after_settings (fun s o => s = settings ∧ o = origin) operations ?_
    cases created
    exact ⟨rfl, rfl⟩
  rw [create_eq, fixed.1, reads, renew, fixed.1, fixed.2]
  rfl

/-- On a site of private modules, a client that has been created and asked for whatever but
actions on behalf of the host has only plain values left to leave behind, under names
that scripts have assigned to in the meantime.  A page that it then shows is the same as
on a new client that finds these values under their names, on a host with the same
storage: the document with its listeners, the current route, and whatever names are bound
to.  If nothing is left, a client that is created will do. -/
theorem navigate_like_new {host : Host} {number : Nat} (admits : host.Admits number)
    (hostDiscreet : host.Discreet owner) {settings : Settings} {assets : AssetSource}
    (isPrivate : assets.Private owner) {session : AreaId} {durable : Option AreaId}
    (created : create host number settings assets session durable = .ok c)
    {operations : List Operation}
    (asks : ∀ operation ∈ operations, operation.performs = false) {path : String}
    {kind : NavigationKind} {m : Route.Match}
    (done : navigate path kind (c.after operations) = (.ok m, d)) :
    let before := c.after operations
    (∀ name b, before.left? name = some b → (∃ v, b = .value v) ∧
      (routeName ≠ name → contextName ≠ name → c.spares name operations = false)) ∧
    (∀ h, create h before.number before.settings before.assets before.session
      (some before.durable) = .ok (before.renew h [])) ∧
    ∀ h bindings, before.toHost.Stands owner h → before.LeavesBound bindings →
      ∃ other, navigate path kind (before.renew h bindings) = (.ok m, other) ∧
        other.document = d.document ∧ other.events = d.events ∧
        other.current = d.current ∧ ∀ name, other.lookup name = d.lookup name := by
  intro before
  have tidy := after_tidy operations (create_tidy admits created)
  have discreet := after_discreet asks (create_discreet hostDiscreet isPrivate created)
  refine ⟨fun name b left => ⟨isValue_of_left tidy left, fun isRoute isContext => ?_⟩,
    create_renew created operations,
    fun h bindings stands leaves => navigateWith_renew tidy discreet stands leaves done⟩
  by_contra spares
  have clear : c.Clear name := by
    obtain ⟨areas, origin, area, rfl⟩ := exists_of_create created
    exact .of_no_visit rfl rfl
  have absent := (after_clear isRoute isContext (Bool.eq_true_of_not_eq_false spares) clear).left
  cases left.symm.trans absent

/-! ## A page that leaves a name bound -/

/-- A tally that can be raised. -/
def tally : Blueprint where
  path := "routes/index.js"
  plans := [("n", .store .any (.num (.int 1)) false false),
    ("raise", .function fun i _ => .write ((i.stores.get? "n").getD 0) (.num (.int 2))
      fun _ => .return .null)]

/-- A site of two pages with a tally each.  A script of one page assigns to a name that it
has not bound. -/
def tallySite : AssetSource where
  texts := .memory [("routes.json", "[\"about\"]"), ("layouts.json", "[]"),
    ("slugs.json", "\x7b\x7d"),
    ("routes/index.html", "<p @click='raise(); x = n'>$\x7bn\x7d</p>"),
    ("routes/about/index.html", "<p>$\x7bn\x7d</p>")] []
  modules := [("routes/index.js", tally), ("routes/about/index.js", tally)]

def tallyKeeper : Client :=
  new (Host.empty.addArea ⟨[], false⟩).2 0 {} none tallySite 0 0

/-- The client, once the script has run. -/
def tallied : Client := tallyKeeper.after [.start, .dispatch "1" "click" ⟨none, none⟩]

theorem tally_private (owner : String → Nat) : tally.Private owner := by
  have made : ∀ h : Host, (h.instantiate tally).1 = [("n", .store h.stores.length),
      ("raise", .function fun _ => .write h.stores.length (.num (.int 2)) fun _ =>
        .return .null)] := fun h => rfl
  have count : ∀ h : Host, (h.instantiate tally).2.stores.length = h.stores.length + 1 :=
    fun h => List.length_append
  refine ⟨by simp [tally, Plan.isShared], fun h entry member => ?_⟩
  have inside : (h.nextReach owner tally).writes h.stores.length :=
    ⟨Nat.le_refl _, (count h).symm ▸ Nat.lt_succ_self _⟩
  rw [made] at member
  rcases List.mem_cons.1 member with rfl | later
  · exact ⟨inside, inside⟩
  · rw [List.mem_singleton.1 later]
    exact fun _ => ⟨inside, fun _ => trivial⟩

theorem tallySite_private (owner : String → Nat) : tallySite.Private owner := by
  intro path b loaded
  have modules : tallySite.modules.get? path =
      if "routes/index.js" = path then some tally
      else if "routes/about/index.js" = path then some tally else none := by
    rw [tallySite, Table.get?_cons, Table.get?_cons]
    rfl
  change (tallySite.modules.get? path).elim (Except.error (AssetError.mk path 404)) Except.ok =
    .ok b at loaded
  rw [modules] at loaded
  split at loaded
  · cases loaded
    exact tally_private owner
  · split at loaded
    · cases loaded
      exact tally_private owner
    · cases loaded

theorem empty_discreet (owner : String → Nat) : Host.empty.Discreet owner where
  unused key later := rfl
  listeners s entry member := by cases member

/-- The second page shows its own tally, not the one that has been raised, and finds what
the script has left. -/
theorem navigate_like_new_tally :
    create Host.empty 0 {} tallySite 0 none = .ok tallyKeeper ∧
      (tallied.left? "x").isSome ∧
      ∃ m after other, navigate "/about" .push tallied = (.ok m, after) ∧
        navigate "/about" .push (tallied.renew tallied.toHost tallied.disposeVisit.bindings) =
          (.ok m, other) ∧
        after.document.toHtml = "<p id=\"1\">1</p>" ∧ other.document = after.document ∧
        other.lookup "x" = after.lookup "x" := by
  have created : create Host.empty 0 {} tallySite 0 none = .ok tallyKeeper := rfl
  have asks : ∀ operation ∈ [Operation.start, .dispatch "1" "click" ⟨none, none⟩],
      operation.performs = false := by
    simp [Operation.performs]
  obtain ⟨left, succeeds, html⟩ : (tallied.left? "x").isSome ∧
      (navigate "/about" .push tallied).1.isOk ∧
      (navigate "/about" .push tallied).2.document.toHtml = "<p id=\"1\">1</p>" := by
    decide +kernel
  have stands : tallied.toHost.Stands (fun _ => 0) tallied.toHost := by
    refine ⟨rfl, rfl, rfl, fun key later => ?_⟩
    have nothing : tallied.memory.isEmpty = true := by decide +kernel
    rw [List.isEmpty_iff.1 nothing]
    rfl
  rcases done : navigate "/about" .push tallied with ⟨cause | m, after⟩
  · rw [done] at succeeds
    cases succeeds
  · rw [done] at html
    obtain ⟨-, -, renews⟩ := navigate_like_new (empty_admits 0) (empty_discreet _)
      (tallySite_private _) created asks done
    obtain ⟨other, shown, document, -, -, names⟩ := renews tallied.toHost
      tallied.disposeVisit.bindings stands fun name _ _ => get?_disposeVisit tallied name
    exact ⟨created, left, m, after, other, rfl, shown, html, document, names "x"⟩

/-- A new client that does not find what the script has left shows the same page, but the
name is not bound. -/
theorem navigate_remembers :
    create Host.empty 0 {} tallySite 0 none = .ok tallyKeeper ∧
      tallySite.Private (fun _ => 0) ∧
      create tallied.toHost tallied.number tallied.settings tallied.assets tallied.session
        (some tallied.durable) = .ok (tallied.renew tallied.toHost []) ∧
      (navigate "/about" .push tallied).1.isOk ∧
      (navigate "/about" .push (tallied.renew tallied.toHost [])).1.isOk ∧
      (navigate "/about" .push (tallied.renew tallied.toHost [])).2.lookup "x" ≠
        (navigate "/about" .push tallied).2.lookup "x" := by
  have created : create Host.empty 0 {} tallySite 0 none = .ok tallyKeeper := rfl
  obtain ⟨succeeds, succeedsToo, bound, unbound⟩ :
      (navigate "/about" .push tallied).1.isOk ∧
      (navigate "/about" .push (tallied.renew tallied.toHost [])).1.isOk ∧
      ((navigate "/about" .push tallied).2.lookup "x").isOk = true ∧
      ((navigate "/about" .push (tallied.renew tallied.toHost [])).2.lookup "x").isOk =
        false := by
    decide +kernel
  refine ⟨created, tallySite_private _, ?_, succeeds, succeedsToo, fun same => ?_⟩
  · exact create_renew created [.start, .dispatch "1" "click" ⟨none, none⟩] tallied.toHost
  · rw [same, bound] at unbound
    cases unbound

end Client

end LivePages
