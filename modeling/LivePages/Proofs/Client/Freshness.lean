import LivePages.Proofs.Client.Discretion

/-!
# Pages that start afresh

A page of private modules has to do with the stores and keys of its own instances only.
What other pages have left behind is beyond its reach, but for plain values under names
that no page has bound.  So a client that has been to other pages shows it like a client
that has just been created, if that one finds the same values under these names.
-/

namespace LivePages

variable {owner : String → Nat} {n k : Nat}

/-- The reach of what is made after the first `n` stores and `k` instances. -/
def Reach.since (owner : String → Nat) (n k : Nat) : Reach :=
  .of (fun s => n ≤ s) fun key => k ≤ owner key

namespace Client

variable {c d : Client} {registry : AssetRegistry}

/-! ## Twins -/

/-- Two clients in the middle of a pass that cannot be told apart by what has been made
after the first `n` stores and `k` instances. -/
structure Twins (owner : String → Nat) (n k : Nat) (c d : Client) : Prop where
  alike : c.Alike d
  busy : c.state ≠ .idle
  state : d.state = c.state
  current : d.current = c.current
  visit : d.visit = c.visit
  areas : d.areas = c.areas
  count : d.stores.length = c.stores.length
  instances : d.instances = c.instances
  since : n ≤ c.stores.length ∧ k ≤ c.instances
  stores : ∀ s, n ≤ s → d.stores[s]? = c.stores[s]?
  memory : ∀ key, k ≤ owner key → d.memory.get? key = c.memory.get? key
  bindings : ∀ name, d.bindings.get? name = c.bindings.get? name
  known : c.KeepsTo (.since owner n k)

section Twins

variable (twins : c.Twins owner n k d)

include twins

/-- Twins are still twins on other hosts that are alike beyond the first stores and
instances. -/
theorem Twins.host {h other : Host} (areas : other.areas = h.areas)
    (count : other.stores.length = h.stores.length) (instances : other.instances = h.instances)
    (since : n ≤ h.stores.length ∧ k ≤ h.instances)
    (stores : ∀ s, n ≤ s → other.stores[s]? = h.stores[s]?)
    (memory : ∀ key, k ≤ owner key → other.memory.get? key = h.memory.get? key)
    (known : ({ c with toHost := h }).KeepsTo (.since owner n k)) :
    ({ c with toHost := h }).Twins owner n k { d with toHost := other } where
  alike := ⟨twins.alike.number, twins.alike.settings, twins.alike.scope, twins.alike.session,
    twins.alike.durable⟩
  busy := twins.busy
  state := twins.state
  current := twins.current
  visit := twins.visit
  areas := areas
  count := count
  instances := instances
  since := since
  stores := stores
  memory := memory
  bindings := twins.bindings
  known := known

/-- Twins whose listeners are no others than they were. -/
theorem Twins.stays {h other : Host} (areas : other.areas = h.areas)
    (stores : h.stores = c.stores) (otherStores : other.stores = d.stores)
    (instances : h.instances = c.instances) (otherInstances : other.instances = d.instances)
    (memory : ∀ key, k ≤ owner key → other.memory.get? key = h.memory.get? key) :
    ({ c with toHost := h }).Twins owner n k { d with toHost := other } := by
  have known := twins.known.host (h := h) fun s _ entry member => .inl (by
    rwa [Host.listeners, stores] at member)
  refine twins.host areas ?_ ?_ ?_ ?_ memory known
  · rw [stores, otherStores, twins.count]
  · rw [instances, otherInstances, twins.instances]
  · rw [stores, instances]
    exact twins.since
  · intro s inside
    rw [stores, otherStores, twins.stores s inside]

theorem Twins.listeners {s : StoreId} (inside : n ≤ s) : d.listeners s = c.listeners s := by
  rw [Host.listeners, Host.listeners, twins.stores s inside]

theorem Twins.onStore {s : StoreId} (change : Store Listener → Store Listener)
    (known : (c.onHost (Host.onStore s change)).KeepsTo (.since owner n k)) :
    (c.onHost (Host.onStore s change)).Twins owner n k
      (d.onHost (Host.onStore s change)) := by
  refine twins.host twins.areas ?_ twins.instances ?_ ?_ twins.memory known
  · simp [Host.onStore, twins.count]
  · simpa [Host.onStore] using twins.since
  · intro t inside
    simp [Host.onStore, List.getElem?_modify, twins.stores t inside]

theorem Twins.subscribe {s : StoreId} (inside : n ≤ s) {listener : Listener}
    (stays : listener.StaysIn (.since owner n k)) :
    (d.askHost (Host.subscribe s listener)).1 = (c.askHost (Host.subscribe s listener)).1 ∧
      (c.askHost (Host.subscribe s listener)).2.Twins owner n k
        (d.askHost (Host.subscribe s listener)).2 := by
  have known := twins.known.subscribe s stays
  have shape : ∀ c : Client, (c.askHost (Host.subscribe s listener)).2 =
      c.onHost (Host.onStore s fun store => (store.subscribe listener).2) :=
    fun c => congrArg (fun h => { c with toHost := h }) (Host.subscribe_eq_onStore s _)
  rw [shape] at known
  rw [shape, shape]
  refine ⟨?_, twins.onStore _ known⟩
  simp only [askHost, Host.subscribe, twins.stores s inside]
  cases c.stores[s]? <;> rfl

theorem Twins.writeText (area : AreaId) (key text : String) :
    (c.onHost (Host.writeText area key text)).Twins owner n k
      (d.onHost (Host.writeText area key text)) := by
  have areas : (d.toHost.writeText area key text).areas =
      (c.toHost.writeText area key text).areas := by
    rw [Host.writeText, Host.onTexts, Host.writeText, Host.onTexts, twins.areas]
    cases found : c.areas[area]? with
    | none => exact twins.areas
    | some a => rfl
  obtain ⟨newAreas, file, shape, -⟩ := c.toHost.writeText_eq area key text
  obtain ⟨otherAreas, otherFile, otherShape, -⟩ := d.toHost.writeText_eq area key text
  rw [shape, otherShape] at areas
  rw [onHost, onHost, shape, otherShape]
  exact twins.stays areas rfl rfl rfl rfl twins.memory

/-- Twins are still twins with another page. -/
theorem Twins.page {visit otherVisit : Option Visit} {state otherState : RenderState}
    {bindings others : Bindings} (sameVisit : otherVisit = visit) (busy : state ≠ .idle)
    (sameState : otherState = state) (names : ∀ name, others.get? name = bindings.get? name)
    (known : ({ c with visit, state, bindings }).KeepsTo (.since owner n k)) :
    ({ c with visit, state, bindings }).Twins owner n k
      { d with visit := otherVisit, state := otherState, bindings := others } where
  alike := ⟨twins.alike.number, twins.alike.settings, twins.alike.scope, twins.alike.session,
    twins.alike.durable⟩
  busy := busy
  state := sameState
  current := twins.current
  visit := sameVisit
  areas := twins.areas
  count := twins.count
  instances := twins.instances
  since := twins.since
  stores := twins.stores
  memory := twins.memory
  bindings := names
  known := known

theorem Twins.bind (name : String) {b : Binding} (stays : b.StaysIn (.since owner n k)) :
    (c.bind name b).Twins owner n k (d.bind name b) := by
  refine twins.page twins.visit twins.busy twins.state (fun other => ?_)
    (twins.known.bind name stays)
  rw [Table.get?_insert, Table.get?_insert, twins.bindings]

theorem Twins.update {visit : Visit} (stays : visit.StaysIn (.since owner n k)) :
    ({ c with visit := some visit }).Twins owner n k { d with visit := some visit } :=
  twins.page rfl twins.busy twins.state twins.bindings (twins.known.update stays)

theorem Twins.enter {state : RenderState} (busy : state ≠ .idle) :
    ({ c with state }).Twins owner n k { d with state } :=
  twins.page twins.visit busy rfl twins.bindings
    (twins.known.display c.loaded c.document c.events state)

/-- Twins make the same instance of a private module, and it is within their reach. -/
theorem Twins.instantiate {b : Blueprint} (isPrivate : b.Private owner) :
    (d.askHost (Host.instantiate b)).1 = (c.askHost (Host.instantiate b)).1 ∧
      (∀ entry ∈ (c.askHost (Host.instantiate b)).1, entry.2.StaysIn (.since owner n k)) ∧
      (c.askHost (Host.instantiate b)).2.Twins owner n k
        (d.askHost (Host.instantiate b)).2 := by
  refine ⟨Host.instantiate_same isPrivate.unshared twins.count twins.instances,
    fun entry member => ?_, ?_⟩
  · refine (isPrivate.stays c.toHost entry member).widen (Reach.widens_of ?_ ?_)
    · exact fun s inside => Nat.le_trans twins.since.1 inside.1
    · exact fun key own => own ▸ twins.since.2
  · have known := twins.known.instantiate b
    obtain ⟨made, shape⟩ := Host.instantiate_unshared isPrivate.unshared c.toHost
    obtain ⟨otherMade, otherShape⟩ := Host.instantiate_unshared isPrivate.unshared d.toHost
    rw [askHost] at known ⊢
    rw [askHost]
    dsimp only at known ⊢
    rw [shape] at known ⊢
    rw [otherShape]
    obtain ⟨stores, instances⟩ := twins.since
    refine twins.host twins.areas ?_ ?_ ⟨?_, Nat.le_succ_of_le instances⟩ ?_ twins.memory known
    · simp [twins.count]
    · exact congrArg (· + 1) twins.instances
    · simp only [List.length_append]
      exact Nat.le_trans stores (Nat.le_add_right _ _)
    · intro s inside
      simp only [List.getElem?_append, twins.count, twins.stores s inside]

end Twins

/-! ## What twins have in common -/

theorem couples_twins (owner : String → Nat) (n k : Nat) :
    Couples (.since owner n k) (Twins owner n k) where
  read twins inside := by rw [Host.readStore, Host.readStore, twins.stores _ inside]
  accept twins inside v := by rw [Host.accept, Host.accept, twins.stores _ inside]
  listen twins inside react stays := twins.subscribe inside stays
  forget twins _ id := twins.onStore _ (twins.known.forget _ id)
  retrieve twins inside := twins.memory _ inside
  keep twins inside v := by
    refine twins.stays twins.areas rfl rfl rfl rfl fun other beyond => ?_
    rw [Table.get?_insert, Table.get?_insert, twins.memory other beyond]
  note twins entry := twins.stays twins.areas rfl rfl rfl rfl twins.memory

theorem couplesChanges_twins (owner : String → Nat) (n k : Nat) :
    CouplesChanges (fun _ : Unit => Reach.since owner n k) fun _ => Twins owner n k where
  actions _ := couples_twins owner n k
  number twins := twins.alike.number
  state twins := twins.state
  write twins _ v := twins.onStore _ (twins.known.write _ v)
  heard {_ c d s} twins inside := by
    refine ⟨twins.listeners inside, (), .refl twins, inside, fun entry member => ?_⟩
    have stays := twins.known.listeners s inside entry member
    cases shape : entry.2 with
    | host react =>
        rw [shape] at stays
        exact stays
    | slot client area key => exact fun c d text twins => twins.writeText area key text
    | rerender client => trivial
  exhaust twins := twins.stays twins.areas rfl rfl rfl rfl twins.memory

theorem reacts_twins (owner : String → Nat) (n k chain : Nat) :
    (Reactor.level chain).Couples (.level chain) (.since owner n k) (Twins owner n k) :=
  Reactor.level_couples_busy (couplesChanges_twins owner n k) (fun twins => twins.busy) chain ()

theorem couplesPages_twins (owner : String → Nat) (n k : Nat) :
    CouplesPages (.since owner n k) (Twins owner n k) where
  exports name :=
    { couples_twins owner n k with
      alike := fun twins => twins.alike
      persists := fun twins inside => by rw [Host.persists, Host.persists, twins.stores _ inside]
      stored := fun twins tier => by rw [Host.readText, Host.readText, twins.areas]
      bind := fun twins b stays => twins.bind name stays
      record := fun twins tier text => twins.writeText _ _ text
      slot := fun twins inside tier => twins.subscribe inside trivial
      watch := fun twins inside => twins.subscribe inside trivial }
  visit twins := twins.visit
  known twins visit shown := twins.known.visit visit shown
  update twins visit stays := twins.update stays

theorem couplesLayouts_twins (isPrivate : registry.Private owner) (n k : Nat) :
    CouplesLayouts (.since owner n k) (Twins owner n k) registry where
  toCouplesPages := couplesPages_twins owner n k
  make twins layout b found := twins.instantiate (isPrivate.layouts layout b found)

theorem couplesNames_twins (owner : String → Nat) (n k : Nat) :
    CouplesNames (fun _ : Unit => Reach.since owner n k) fun _ => Twins owner n k where
  actions _ := couples_twins owner n k
  bound twins name :=
    ⟨twins.bindings name, fun b found => ⟨(), .refl twins, twins.known.bindings name b found⟩⟩

/-! ## Passes -/

/-- Twins that have left their pages and bound the route of the next one are twins once
it is opened. -/
theorem openPage_twins (isPrivate : registry.Private owner) (m : Route.Match) (chain : Nat)
    (twins : (c.disposeVisit.installContext m).Twins owner n k
      (d.disposeVisit.installContext m)) :
    (c.openPage (.level chain) registry m).Twins owner n k
      (d.openPage (.level chain) registry m) := by
  unfold openPage
  generalize c.disposeVisit.installContext m = c at twins ⊢
  generalize d.disposeVisit.installContext m = d at twins ⊢
  obtain ⟨same, stays, made⟩ := instanceOf_couples (R := Twins owner n k)
    (fun b found => twins.instantiate (isPrivate.routes m.route b found)) twins
  have pages := couplesPages_twins owner n k
  obtain ⟨sameVisit, bound⟩ := bindModule_couples pages.exports (reacts_twins owner n k chain)
    stays ⟨m.route, [], [], [], []⟩ made
  dsimp only
  rw [same, sameVisit]
  exact bound.update (bindModule_staysIn stays (visit_staysIn m.route _))

/-- If a pass over a page succeeds on one of two twins, it comes to the same markup on
the other. -/
theorem renderPass_twins (isPrivate : registry.Private owner) {chain : Nat} {body : String}
    {focus : Option FocusTarget} {e : Client} (twins : c.Twins owner n k d)
    (done : renderPass (.level chain) registry body focus c = (.ok (), e)) :
    ∃ html shown other, shown.Twins owner n k other ∧ e = showMarkup focus html shown ∧
      renderPass (.level chain) registry body focus d =
        (.ok (), showMarkup focus html other) := by
  have relates := passMarkup_couples (couplesLayouts_twins isPrivate n k)
    (couplesNames_twins owner n k) (fun c d state busy twins => twins.enter busy)
    (reacts_twins owner n k chain) body
  obtain ⟨same, twinsOn⟩ := relates c d twins
  rw [renderPass_eq] at done ⊢
  obtain ⟨html, shown, passed, ended⟩ := exists_of_bind done
  cases ended
  rw [passed] at same twinsOn
  refine ⟨html, shown, _, twinsOn, rfl, ?_⟩
  rw [Keeps.bind_eq]
  rcases outcome : passMarkup (.level chain) registry body d with ⟨result, other⟩
  rw [outcome] at same
  cases (same : result = .ok html)
  rfl

/-- What twins display. -/
theorem Twins.showMarkup {shown other : Client} (twins : shown.Twins owner n k other)
    (focus : Option FocusTarget) (html : String) :
    (other.showMarkup focus html).document = (shown.showMarkup focus html).document ∧
      (other.showMarkup focus html).events = (shown.showMarkup focus html).events := by
  rw [Client.showMarkup, Client.showMarkup, twins.alike.settings]
  exact ⟨rfl, rfl⟩

theorem Twins.lookup (twins : c.Twins owner n k d) (name : String) :
    d.lookup name = c.lookup name :=
  lookup_couples (couplesNames_twins owner n k) (i := ()) twins name

end Client

end LivePages
