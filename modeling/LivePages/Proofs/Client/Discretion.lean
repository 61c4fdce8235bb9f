import LivePages.Proofs.Client.Privacy

/-!
# Pages that keep to themselves

On a site of private modules, all that a client has bound, and all who listen to
stores, have to do with the keys of instances that there have been.  So nothing is
kept under the keys of an instance before it is made.
-/

namespace LivePages

variable {owner : String → Nat}

/-- The reach of the first instances: all stores, and the keys that are theirs. -/
def Reach.upTo (owner : String → Nat) (count : Nat) : Reach :=
  .of (fun _ => True) fun key => owner key < count

theorem Reach.widens_upTo {count more : Nat} (le : count ≤ more) :
    (Reach.upTo owner more).Widens (.upTo owner count) :=
  widens_of (fun _ => id) fun _ less => Nat.lt_of_lt_of_le less le

theorem Blueprint.Private.upTo {b : Blueprint} (isPrivate : b.Private owner) (h : Host) :
    ∀ entry ∈ (h.instantiate b).1, entry.2.StaysIn (.upTo owner (h.instances + 1)) :=
  fun entry member => (isPrivate.stays h entry member).widen
    (Reach.widens_of (fun _ _ => trivial) fun _ own => own ▸ Nat.lt_succ_self _)

namespace Client

variable {c d : Client} {r : Reactor} {n : Nat} {reach : Reach} {registry : AssetRegistry}

/-! ## What there is on a client -/

/-- A client on which all that is bound, and all who listen to stores within reach,
stay in reach. -/
structure KeepsTo (reach : Reach) (c : Client) : Prop where
  bindings : ∀ name b, c.bindings.get? name = some b → b.StaysIn reach
  visit : ∀ visit, c.visit = some visit → visit.StaysIn reach
  listeners : ∀ s, reach.writes s → ∀ entry ∈ c.listeners s, entry.2.StaysIn reach

section KeepsTo

variable (keeps : c.KeepsTo reach)

include keeps

theorem KeepsTo.host {h : Host} (listeners : ∀ s, reach.writes s → ∀ entry ∈ h.listeners s,
      entry ∈ c.listeners s ∨ entry.2.StaysIn reach) :
    ({ c with toHost := h }).KeepsTo reach where
  bindings := keeps.bindings
  visit := keeps.visit
  listeners s inside entry member :=
    (listeners s inside entry member).elim (keeps.listeners s inside entry) id

theorem KeepsTo.write (s : StoreId) (v : Value) :
    (c.onHost (Host.onStore s fun store => { store with value := v })).KeepsTo reach :=
  keeps.host fun t _ _ member => .inl (Host.listeners_write s v t ▸ member)

theorem KeepsTo.subscribe (s : StoreId) {listener : Listener}
    (stays : listener.StaysIn reach) :
    (c.askHost (Host.subscribe s listener)).2.KeepsTo reach := by
  refine keeps.host fun t _ entry member => ?_
  refine (Host.mem_listeners_subscribe member).imp_right ?_
  rintro rfl
  exact stays

theorem KeepsTo.forget (s : StoreId) (id : ListenerId) :
    (c.onHost (Host.forget s id)).KeepsTo reach :=
  keeps.host fun _ _ _ member => .inl (Host.mem_listeners_forget member)

theorem KeepsTo.instantiate (b : Blueprint) :
    (c.askHost (Host.instantiate b)).2.KeepsTo reach := by
  have more : c.toHost.Extends (c.toHost.instantiate b).2 :=
    Host.makeStores_extends b.path b.plans c.toHost
  exact keeps.host fun s _ entry member => .inl (more.listeners_eq s ▸ member)

theorem KeepsTo.bind (name : String) {b : Binding} (stays : b.StaysIn reach) :
    (c.bind name b).KeepsTo reach where
  bindings other found isBound := by
    rw [Client.bind, Table.get?_insert] at isBound
    by_cases same : name = other
    · rw [if_pos same] at isBound
      cases isBound
      exact stays
    · rw [if_neg same] at isBound
      exact keeps.bindings other found isBound
  visit := keeps.visit
  listeners := keeps.listeners

theorem KeepsTo.unbind (name : String) : (c.unbind name).KeepsTo reach where
  bindings other found isBound := by
    rw [Client.unbind, Table.get?_erase] at isBound
    by_cases same : name = other
    · rw [if_pos same] at isBound
      cases isBound
    · rw [if_neg same] at isBound
      exact keeps.bindings other found isBound
  visit := keeps.visit
  listeners := keeps.listeners

theorem KeepsTo.update {visit : Visit} (stays : visit.StaysIn reach) :
    ({ c with visit := some visit }).KeepsTo reach where
  bindings := keeps.bindings
  visit := by
    rintro _ ⟨⟩
    exact stays
  listeners := keeps.listeners

theorem KeepsTo.display (loaded : Option (AssetRegistry × LoadReport)) (document : Document)
    (events : EventRegistry) (state : RenderState) :
    ({ c with loaded, document, events, state }).KeepsTo reach :=
  ⟨keeps.bindings, keeps.visit, keeps.listeners⟩

theorem KeepsTo.disposeVisit : c.disposeVisit.KeepsTo reach := by
  obtain ⟨stores, bindings, left, -, listeners, names⟩ := exists_of_disposeVisit c
  rw [left] at listeners ⊢
  refine ⟨fun name b found => keeps.bindings name b (names name b found), by simp, ?_⟩
  exact fun s inside entry member => keeps.listeners s inside entry (listeners s entry member)

theorem KeepsTo.installContext (m : Route.Match) : (c.installContext m).KeepsTo reach := by
  have bound := (keeps.bind routeName (b := .value (.str m.route)) trivial).bind contextName
    (b := .value m.context) trivial
  exact ⟨bound.bindings, bound.visit, bound.listeners⟩

theorem KeepsTo.widen {wide : Reach} (widens : wide.Widens reach)
    (writes : ∀ s, wide.writes s → reach.writes s) : c.KeepsTo wide where
  bindings name b found := (keeps.bindings name b found).widen widens
  visit visit shown := (keeps.visit visit shown).widen widens
  listeners s inside entry member :=
    (keeps.listeners s (writes s inside) entry member).widen widens

end KeepsTo

/-- A client of a private site, on which nothing is kept under the keys of instances to
come, nor ever will be on account of what there is. -/
structure Discreet (owner : String → Nat) (c : Client) : Prop where
  assets : c.assets.Private owner
  site : ∀ site, c.loaded = some site →
    AssetRegistry.load c.assets c.settings.assets = .ok site
  unused : ∀ key, c.instances ≤ owner key → c.memory.get? key = none
  known : c.KeepsTo (.upTo owner c.instances)

/-- The same, where there have been some instances at least, and as many as is
allowed. -/
structure DiscreetAt (owner : String → Nat) (allowed : Nat → Prop) (count : Nat) (c : Client) :
    Prop where
  count : count ≤ c.instances
  allowed : allowed c.instances
  discreet : c.Discreet owner

section Discreet

variable (discreet : c.Discreet owner)

include discreet

theorem Discreet.host {h : Host} (instances : h.instances = c.instances)
    (memory : ∀ key, c.instances ≤ owner key → h.memory.get? key = none)
    (known : ({ c with toHost := h }).KeepsTo (.upTo owner c.instances)) :
    ({ c with toHost := h }).Discreet owner where
  assets := discreet.assets
  site := discreet.site
  unused key beyond := memory key (instances ▸ beyond)
  known := instances.symm ▸ known

theorem Discreet.isPrivate {site : AssetRegistry × LoadReport} (loaded : c.loaded = some site) :
    site.1.Private owner :=
  AssetRegistry.load_private discreet.assets (discreet.site site loaded)

theorem Discreet.display (document : Document) (events : EventRegistry) (state : RenderState) :
    ({ c with document, events, state }).Discreet owner where
  assets := discreet.assets
  site := discreet.site
  unused := discreet.unused
  known := discreet.known.display c.loaded document events state

end Discreet

section DiscreetAt

variable {allowed : Nat → Prop} {count : Nat} (isAt : c.DiscreetAt owner allowed count)

include isAt

theorem DiscreetAt.host {h : Host} (instances : h.instances = c.instances)
    (memory : h.memory = c.memory)
    (known : ({ c with toHost := h }).KeepsTo (.upTo owner c.instances)) :
    ({ c with toHost := h }).DiscreetAt owner allowed count where
  count := instances.symm ▸ isAt.count
  allowed := instances.symm ▸ isAt.allowed
  discreet := isAt.discreet.host instances (fun key beyond =>
    memory.symm ▸ isAt.discreet.unused key beyond) known

theorem DiscreetAt.subscribe (s : StoreId) {listener : Listener}
    (stays : listener.StaysIn (.upTo owner c.instances)) :
    (c.askHost (Host.subscribe s listener)).2.DiscreetAt owner allowed count := by
  have shape := Host.subscribe_eq_onStore (h := c.toHost) s listener
  have instances : (c.toHost.subscribe s listener).2.instances = c.instances := by
    rw [shape]
    rfl
  have memory : (c.toHost.subscribe s listener).2.memory = c.memory := by
    rw [shape]
    rfl
  exact isAt.host instances memory (isAt.discreet.known.subscribe s stays)

theorem DiscreetAt.writeText (area : AreaId) (key text : String) :
    (c.onHost (Host.writeText area key text)).DiscreetAt owner allowed count := by
  obtain ⟨areas, file, shape, -⟩ := c.toHost.writeText_eq area key text
  rw [onHost, shape]
  exact isAt.host rfl rfl (isAt.discreet.known.host fun _ _ _ member => .inl member)

end DiscreetAt

theorem withstands_discreet (owner : String → Nat) (allowed : Nat → Prop) :
    Withstands (Reach.upTo owner) (DiscreetAt owner allowed) where
  listen isAt _ react stays :=
    isAt.subscribe _ fun v => (stays v).widen (Reach.widens_upTo isAt.count)
  forget isAt _ id := isAt.host rfl rfl (isAt.discreet.known.forget _ id)
  keep {count c key} isAt inside v := by
    refine ⟨isAt.count, isAt.allowed, isAt.discreet.host rfl (fun other beyond => ?_)
      (isAt.discreet.known.host fun _ _ _ => .inl)⟩
    have apart : key ≠ other := by
      rintro rfl
      exact absurd (Nat.lt_of_lt_of_le inside isAt.count) (Nat.not_lt_of_le beyond)
    exact (Table.get?_insert _ _ _ _).trans
      ((if_neg apart).trans (isAt.discreet.unused other beyond))
  note isAt _ := isAt.host rfl rfl (isAt.discreet.known.host fun _ _ _ => .inl)
  write isAt _ v := isAt.host rfl rfl (isAt.discreet.known.write _ v)
  exhaust isAt := isAt.host rfl rfl (isAt.discreet.known.host fun _ _ _ => .inl)
  heard {count c s} isAt _ := by
    refine ⟨c.instances, ⟨Nat.le_refl _, isAt.allowed, isAt.discreet⟩,
      fun d isAtToo => ⟨Nat.le_trans isAt.count isAtToo.count, isAtToo.allowed,
        isAtToo.discreet⟩, trivial, fun entry member => ?_⟩
    have stays := isAt.discreet.known.listeners s trivial entry member
    cases shape : entry.2 with
    | host react =>
        rw [shape] at stays
        exact stays
    | slot client area key => exact .slot fun d text isAt => isAt.writeText area key text
    | rerender client => trivial

/-! ## Passes -/

/-- A client in the middle of a pass, with as many instances as there have been. -/
def DiscreetAmid (owner : String → Nat) (count : Nat) (c : Client) : Prop :=
  c.state ≠ .idle ∧ c.DiscreetAt owner (· = count) count

theorem Discreet.amid (discreet : c.Discreet owner) (busy : c.state ≠ .idle) :
    c.DiscreetAmid owner c.instances :=
  ⟨busy, Nat.le_refl _, rfl, discreet⟩

theorem reacts_discreetAmid (owner : String → Nat) (count n : Nat) :
    (Reactor.level n).Couples (.level n) (.upTo owner count)
      (Selfsame (DiscreetAmid owner count)) :=
  (withstands_discreet owner (· = count)).reacts_busy n count

/-- As long as no instance is made, whatever a page binds leaves a client discreet. -/
theorem couplesPages_discreet (owner : String → Nat) (count : Nat) :
    CouplesPages (.upTo owner count) (Selfsame (DiscreetAmid owner count)) where
  exports name := by
    refine (withstands_discreet owner (· = count)).busy.couplesExport ?_ ?_ ?_ ?_
    · rintro c b ⟨busy, isAt⟩ stays
      have known := isAt.discreet.known.bind name (isAt.allowed.symm ▸ stays)
      exact ⟨busy, isAt.count, isAt.allowed, isAt.discreet.assets, isAt.discreet.site,
        isAt.discreet.unused, known⟩
    · exact fun c tier text amid => ⟨amid.1, amid.2.writeText _ _ text⟩
    · exact fun c s tier amid => ⟨amid.1, amid.2.subscribe s trivial⟩
    · exact fun c s amid => ⟨amid.1, amid.2.subscribe s trivial⟩
  visit := by
    rintro c d ⟨rfl, -⟩
    rfl
  known := by
    rintro c d ⟨rfl, -, isAt⟩ visit shown
    have stays := isAt.discreet.known.visit visit shown
    rwa [isAt.allowed] at stays
  update := by
    rintro c d ⟨rfl, busy, isAt⟩ visit stays
    have known := isAt.discreet.known.update (isAt.allowed.symm ▸ stays)
    exact ⟨rfl, busy, isAt.count, isAt.allowed, isAt.discreet.assets, isAt.discreet.site,
      isAt.discreet.unused, known⟩

theorem render_discreet {count : Nat} (amid : c.DiscreetAmid owner count) (program : Program) :
    (program.render (surroundings (.level n)).evaluator c).2.DiscreetAmid owner count := by
  have withstands := (withstands_discreet owner (· = count)).busy
  have names := withstands.couplesNames fun {i c} amid name b found => by
    exact ⟨c.instances, ⟨amid.1, Nat.le_refl _, amid.2.allowed, amid.2.discreet⟩,
      fun d amidToo => ⟨amidToo.1, Nat.le_trans amid.2.count amidToo.2.count,
        amidToo.2.allowed, amidToo.2.discreet⟩, amid.2.discreet.known.bindings name b found⟩
  exact (render_couples names (fun i => (withstands_discreet owner (· = count)).reacts_busy n i)
    count program c c ⟨rfl, amid⟩).2.2

/-- A new instance of a private module leaves a client discreet. -/
theorem instanceOf_discreet {blueprint : Option Blueprint} {m : Module} {h : Host}
    (isPrivate : ∀ b, blueprint = some b → b.Private owner)
    (made : instanceOf blueprint c = (m, { c with toHost := h })) (discreet : c.Discreet owner) :
    ({ c with toHost := h }).Discreet owner ∧ c.instances ≤ h.instances ∧
      ∀ entry ∈ m, entry.2.StaysIn (.upTo owner h.instances) := by
  have host : (instanceOf blueprint c).2.toHost = h := congrArg (·.2.toHost) made
  have isModule : (instanceOf blueprint c).1 = m := congrArg Prod.fst made
  subst host isModule
  cases blueprint with
  | none => exact ⟨discreet, Nat.le_refl _, by simp [instanceOf]⟩
  | some b =>
      have stays := (isPrivate b rfl).upTo c.toHost
      have known := (discreet.known.instantiate b).widen
        (Reach.widens_upTo (Nat.le_succ c.instances)) fun _ _ => trivial
      obtain ⟨stores, names, shape⟩ := c.toHost.instantiate_eq b
      have host : (instanceOf (some b) c).2.toHost = { c.toHost with
        stores, made := names, instances := c.instances + 1 } := shape
      rw [askHost] at known
      dsimp only at known
      rw [shape] at known
      rw [host]
      refine ⟨⟨discreet.assets, discreet.site, fun key beyond => ?_, known⟩,
        Nat.le_succ _, stays⟩
      exact discreet.unused key (Nat.le_of_succ_le beyond)

/-- A discreet client in the middle of a pass over a page of a site. -/
structure DiscreetPass (owner : String → Nat) (count : Nat) (registry : AssetRegistry)
    (c : Client) : Prop where
  busy : c.state ≠ .idle
  loaded : ∃ report, c.loaded = some (registry, report)
  count : count ≤ c.instances
  discreet : c.Discreet owner

variable {count : Nat}

theorem DiscreetPass.amid (pass : c.DiscreetPass owner count registry) :
    c.DiscreetAmid owner c.instances :=
  pass.discreet.amid pass.busy

theorem DiscreetPass.step (pass : c.DiscreetPass owner count registry)
    (loaded : d.loaded = c.loaded) (more : c.instances ≤ d.instances)
    (amid : d.DiscreetAmid owner d.instances) :
    d.DiscreetPass owner count registry :=
  ⟨amid.1, loaded ▸ pass.loaded, Nat.le_trans pass.count more, amid.2.discreet⟩

/-- A step of a pass in which no instance is made. -/
theorem DiscreetPass.stays (pass : c.DiscreetPass owner count registry) (stays : c.Stays d)
    (amid : d.DiscreetAmid owner c.instances) :
    d.DiscreetPass owner count registry :=
  pass.step (by rw [stays.frame]) amid.2.count (amid.2.discreet.amid amid.1)

theorem refreshComputed_discreet (pass : c.DiscreetPass owner count registry) :
    (c.refreshComputed (.level n)).DiscreetPass owner count registry :=
  pass.stays (refreshComputed_stays (Reactor.level_steady n) pass.busy)
    (refreshComputed_couples (couplesPages_discreet owner c.instances)
      (reacts_discreetAmid owner c.instances n) ⟨rfl, pass.amid⟩).2

theorem refreshLayouts_discreet (pass : c.DiscreetPass owner count registry) :
    (c.refreshLayouts (.level n)).DiscreetPass owner count registry :=
  pass.stays (refreshLayouts_stays (Reactor.level_steady n) pass.busy)
    (refreshLayouts_couples (couplesPages_discreet owner c.instances)
      (reacts_discreetAmid owner c.instances n) ⟨rfl, pass.amid⟩).2

theorem bindLayout_discreet (pass : c.DiscreetPass owner count registry) (layout : String) :
    (c.bindLayout (.level n) registry layout).DiscreetPass owner count registry := by
  have loadedOn := (bindLayout_agree
    ((rerenders_shown fun loaded _ => loaded = c.loaded).toBears.bearsLayouts registry)
    (Reactor.level_rerenders (rerenders_shown fun loaded _ => loaded = c.loaded) n).agree
    layout rfl).2
  rcases includes_or_binds (.level n) registry layout c with
    includes | ⟨visit, m, h, next, d, shown, made, binds, shape⟩
  · rwa [bindLayout_of_includes includes]
  obtain ⟨report, loaded⟩ := pass.loaded
  have isPrivate := (pass.discreet.isPrivate loaded).layouts layout
  obtain ⟨discreet, more, stays⟩ := instanceOf_discreet isPrivate made pass.discreet
  have included := (include_couples (couplesPages_discreet owner h.instances)
    (reacts_discreetAmid owner h.instances n) ⟨rfl, discreet.amid pass.busy⟩
    (discreet.known.visit visit shown) stays layout).2
  rw [binds] at included
  rw [shape] at loadedOn ⊢
  exact pass.step loadedOn (Nat.le_trans more included.2.count)
    (included.2.discreet.amid included.1)

/-- A pass leaves a client discreet, however it ends. -/
theorem renderPass_discreet (loaded : ∃ report, c.loaded = some (registry, report))
    (discreet : c.Discreet owner) (body : String) (focus : Option FocusTarget) :
    (renderPass (.level n) registry body focus c).2.DiscreetPass owner c.instances
      registry := by
  refine renderPass_steps (P := DiscreetPass owner c.instances registry)
    (fun c pass => refreshComputed_discreet pass) (fun c pass => refreshLayouts_discreet pass)
    (fun layout c pass => bindLayout_discreet pass layout) (fun program c pass => ?_)
    (fun state busy c pass => ?_) (fun c document events pass => ?_) body focus ?_
  · obtain ⟨h, frame⟩ := render_frame n program pass.busy
    have amid := render_discreet (n := n) pass.amid program
    exact pass.step (by rw [frame]) amid.2.count (amid.2.discreet.amid amid.1)
  · exact ⟨busy, pass.loaded, pass.count, pass.discreet.display _ _ _⟩
  · exact ⟨pass.busy, pass.loaded, pass.count, pass.discreet.display _ _ _⟩
  · exact ⟨by simp, loaded, Nat.le_refl _, discreet.display _ _ _⟩

/-- A discreet client on which there have been some instances. -/
abbrev DiscreetSince (owner : String → Nat) : Nat → Client → Prop :=
  DiscreetAt owner fun _ => True

theorem requestRender_discreet (n : Nat) (focus : Option FocusTarget) :
    Keeps (DiscreetSince owner count) (requestRender (.level n) focus) := by
  intro c since
  rcases requestRender_exits (.level n) focus c with
    ⟨answer, same⟩ | ⟨m, registry, report, body, -, -, loaded, -, ended⟩
  · rw [same]
    exact since
  · have pass := renderPass_discreet (n := n) ⟨report, loaded⟩ since.discreet body focus
    rw [ended]
    exact ⟨Nat.le_trans since.count pass.count, trivial, pass.discreet.display _ _ _⟩

theorem reacts_discreet (owner : String → Nat) (n count : Nat) :
    (Reactor.level n).Couples (.level n) (.upTo owner count)
      (Selfsame (DiscreetSince owner count)) :=
  Reactor.level_couples (withstands_discreet owner fun _ => True).couplesChanges
    (fun n _ _ => (requestRender_discreet n none).agree.relates) n count

/-! ## Navigation -/

theorem Discreet.disposeVisit (discreet : c.Discreet owner) :
    c.disposeVisit.Discreet owner ∧ c.disposeVisit.instances = c.instances := by
  have known := discreet.known.disposeVisit
  obtain ⟨stores, bindings, left, -⟩ := exists_of_disposeVisit c
  rw [left] at known ⊢
  exact ⟨⟨discreet.assets, discreet.site, discreet.unused, known⟩, rfl⟩

theorem Discreet.installContext (discreet : c.Discreet owner) (m : Route.Match) :
    (c.installContext m).Discreet owner where
  assets := discreet.assets
  site := discreet.site
  unused := discreet.unused
  known := discreet.known.installContext m

theorem Discreet.hasSite (discreet : c.Discreet owner) {site : AssetRegistry × LoadReport}
    (hasSite : c.HasSite site) : AssetRegistry.load c.assets c.settings.assets = .ok site :=
  hasSite.elim (discreet.site site) And.right

theorem Discreet.load (discreet : c.Discreet owner) {site : AssetRegistry × LoadReport}
    (hasSite : c.HasSite site) : ({ c with loaded := some site }).Discreet owner where
  assets := discreet.assets
  site := by
    rintro _ ⟨⟩
    exact discreet.hasSite hasSite
  unused := discreet.unused
  known := discreet.known.display (some site) c.document c.events c.state

theorem visit_staysIn (route : String) (reach : Reach) :
    Visit.StaysIn ⟨route, [], [], [], []⟩ reach :=
  ⟨by simp, by simp⟩

/-- A page of a private site is opened discreetly. -/
theorem openPage_discreet (discreet : c.Discreet owner) (busy : c.state ≠ .idle)
    (loaded : ∃ report, c.loaded = some (registry, report)) (m : Route.Match) :
    (c.openPage (.level n) registry m).DiscreetPass owner c.instances registry := by
  obtain ⟨report, loaded⟩ := loaded
  have isPrivate := (discreet.isPrivate loaded).routes m.route
  have loadedOn := (loaded_openPage (c := c) registry m n).trans loaded
  have left := discreet.disposeVisit.1.installContext m
  have instances : (c.disposeVisit.installContext m).instances = c.instances :=
    discreet.disposeVisit.2
  have busyOn : (c.disposeVisit.installContext m).state ≠ .idle := by
    rwa [state_installContext]
  obtain ⟨module, h, next, d, made, binds, shape⟩ :=
    exists_of_openPage (.level n) registry m c
  rw [shape] at loadedOn ⊢
  generalize c.disposeVisit.installContext m = installed at *
  obtain ⟨discreetOn, more, stays⟩ := instanceOf_discreet isPrivate made left
  have pages := couplesPages_discreet owner h.instances
  have bound := (bindModule_couples pages.exports (reacts_discreetAmid owner h.instances n)
    stays ⟨m.route, [], [], [], []⟩ ⟨rfl, discreetOn.amid busyOn⟩).2
  have known := bindModule_staysIn (r := .level n) (c := { installed with toHost := h }) stays
    (visit_staysIn m.route _)
  rw [binds] at bound known
  obtain ⟨-, amid⟩ := pages.update bound _ known
  exact ⟨amid.1, ⟨report, loadedOn⟩, instances ▸ Nat.le_trans more amid.2.count,
    amid.2.discreet⟩

theorem showNotFound_discreet (discreet : c.Discreet owner) :
    c.showNotFound.Discreet owner := by
  obtain ⟨left, -⟩ := discreet.disposeVisit
  have known := (left.known.unbind routeName).unbind contextName
  exact ⟨left.assets, left.site, left.unused, known.bindings, known.visit, known.listeners⟩

/-- A navigation leaves a client discreet, wherever it ends. -/
theorem navigate_discreet (path : String) (kind : NavigationKind)
    (discreet : c.Discreet owner) : (navigate path kind c).2.Discreet owner := by
  obtain ⟨result, d, history, pass, ended⟩ := exists_of_navigate path kind c
  have rests : d.Discreet owner → ({ d with state := .idle, history }).Discreet owner :=
    fun discreet => ⟨discreet.assets, discreet.site, discreet.unused, discreet.known.bindings,
      discreet.known.visit, discreet.known.listeners⟩
  rw [ended]
  apply rests
  rcases matching_ends pass with
    ⟨-, loaded, state, isSite, rfl⟩ | ⟨site, hasSite, rfl⟩ | ⟨site, m, body, hasSite, rfl⟩
  · rcases isSite with rfl | ⟨site, hasSite, rfl⟩
    · exact discreet.display c.document c.events state
    · exact (discreet.load hasSite).display c.document c.events state
  · exact showNotFound_discreet ((discreet.load hasSite).display c.document c.events .matching)
  · have loading := (discreet.load hasSite).display c.document c.events .loading
    have opened := openPage_discreet (n := maxChain) loading (by simp) ⟨site.2, rfl⟩ m
    exact (renderPass_discreet opened.loaded opened.discreet body none).discreet

/-! ## Operations -/

end Client

/-- Whether an operation carries out an action on behalf of the host. -/
def Operation.performs : Operation → Bool
  | perform _ => true
  | _ => false

/-- A host on which nothing is kept under the keys of instances to come, nor will be
by those who listen to stores. -/
structure Host.Discreet (owner : String → Nat) (h : Host) : Prop where
  unused : ∀ key, h.instances ≤ owner key → h.memory.get? key = none
  listeners : ∀ s, ∀ entry ∈ h.listeners s, entry.2.StaysIn (.upTo owner h.instances)

namespace Client

variable {c : Client}

theorem create_discreet {host : Host} (discreet : host.Discreet owner) {number : Nat}
    {settings : Settings} {assets : AssetSource} (isPrivate : assets.Private owner)
    {session : AreaId} {durable : Option AreaId}
    (created : create host number settings assets session durable = .ok c) :
    c.Discreet owner := by
  obtain ⟨areas, origin, area, rfl⟩ := exists_of_create created
  refine ⟨isPrivate, fun site loaded => ?_, discreet.unused, fun name b found => ?_,
    fun visit shown => ?_, fun s _ => discreet.listeners s⟩
  · cases loaded
  · cases found
  · cases shown

theorem dispatch_discreet (elementId event : String) (input : EventInput)
    (discreet : c.Discreet owner) :
    (dispatch elementId event input c).2.Discreet owner := by
  have withstands := withstands_discreet owner fun _ => True
  have names := withstands.couplesNames fun {i c} since name b found => by
    exact ⟨c.instances, ⟨Nat.le_refl _, trivial, since.discreet⟩,
      fun d later => ⟨Nat.le_trans since.count later.count, trivial, later.discreet⟩,
      since.discreet.known.bindings name b found⟩
  have reacts := reacts_discreet owner maxChain
  have keeps := (reacts 0).keeps fun _ => trivial
  have since : c.DiscreetSince owner 0 := ⟨Nat.zero_le _, trivial, discreet⟩
  refine (dispatch_of_assigns names reacts (requestRender_discreet maxChain) input
    (fun _ _ _ _ _ _ target _ => ?_) since).discreet
  refine assign_of_bindValue keeps fun c v since => ⟨since.count, trivial, ?_⟩
  have known := since.discreet.known.bind target (b := .value v) trivial
  exact ⟨since.discreet.assets, since.discreet.site, since.discreet.unused, known⟩

/-- Whatever a client is asked for, but actions on behalf of the host, leaves it
discreet. -/
theorem run_discreet {operation : Operation} (asks : operation.performs = false)
    (discreet : c.Discreet owner) : (operation.run c).Discreet owner := by
  by_cases navigates : operation.navigates = true
  · rcases operation.run_of_navigates navigates c with
      same | ⟨path, kind, history, same⟩
    · rwa [same]
    · have moved : ({ c with history }).Discreet owner :=
        discreet.host rfl discreet.unused (discreet.known.host fun _ _ _ => .inl)
      rw [same]
      exact navigate_discreet path kind moved
  · have since : c.DiscreetSince owner 0 := ⟨Nat.zero_le _, trivial, discreet⟩
    cases operation with
    | render => exact (requestRender_discreet maxChain none c since).discreet
    | dispatch elementId event input => exact dispatch_discreet elementId event input discreet
    | setStore s v =>
        have keeps := (reacts_discreet owner maxChain 0).keeps fun _ => trivial
        exact (offer_keeps keeps s v since).discreet
    | perform a => cases asks
    | _ => exact absurd rfl navigates

theorem after_discreet {operations : List Operation}
    (asks : ∀ operation ∈ operations, operation.performs = false)
    (discreet : c.Discreet owner) : (c.after operations).Discreet owner := by
  induction operations generalizing c with
  | nil => exact discreet
  | cons operation operations inductionHypothesis =>
      exact inductionHypothesis (fun other member => asks other (List.mem_cons_of_mem _ member))
        (run_discreet (asks operation List.mem_cons_self) discreet)

end Client

end LivePages
