import LivePages.Proofs.Client.Visit

/-!
# Listeners that stay

As long as a client does not leave its page, no listener that a client holds is
removed: neither by what actions do, nor by rendering the page again, which may bind
the exports of further layouts.  The areas for stored texts stay as well, and so does
the scope of the keys.
-/

namespace LivePages

namespace Host

/-- A host on which nothing has been removed that clients rely on. -/
structure Retains (before after : Host) : Prop where
  areas : after.areas.length = before.areas.length
  stores : ∀ (s : StoreId) (store : Store Listener), before.stores[s]? = some store →
    ∃ kept, after.stores[s]? = some kept ∧ kept.type = store.type ∧
      ∀ entry ∈ store.listeners, entry.2.isHost = false → entry ∈ kept.listeners

variable {h : Host}

theorem Retains.of_stores {after : Host} (areas : after.areas.length = h.areas.length)
    (stores : after.stores = h.stores) : h.Retains after where
  areas := areas
  stores _ store found := ⟨store, stores ▸ found, rfl, fun _ member _ => member⟩

theorem Retains.trans {a b c : Host} (first : a.Retains b) (second : b.Retains c) :
    a.Retains c where
  areas := second.areas.trans first.areas
  stores s store found := by
    obtain ⟨kept, foundKept, type, listeners⟩ := first.stores s store found
    obtain ⟨last, foundLast, typeOn, listenersOn⟩ := second.stores s kept foundKept
    refine ⟨last, foundLast, typeOn.trans type, fun entry member held => ?_⟩
    exact listenersOn entry (listeners entry member held) held

/-- A change of one store that removes no listener of a client. -/
theorem Retains.onStore (s : StoreId) {change : Store Listener → Store Listener}
    (type : ∀ store, (change store).type = store.type)
    (stays : ∀ store : Store Listener, ∀ entry ∈ store.listeners,
      entry.2.isHost = false → entry ∈ (change store).listeners) :
    h.Retains (h.onStore s change) where
  areas := rfl
  stores t store found := by
    simp only [Host.onStore, List.getElem?_modify, found]
    by_cases same : s = t
    · exact ⟨change store, by simp [same], type store, stays store⟩
    · exact ⟨store, by simp [same], rfl, fun _ member _ => member⟩

theorem retains_subscribe (s : StoreId) (listener : Listener) :
    h.Retains (h.subscribe s listener).2 := by
  rw [subscribe_eq_onStore]
  refine .onStore s (fun _ => rfl) fun store entry member _ => ?_
  exact List.mem_append_left _ member

theorem retains_forget (s : StoreId) (id : ListenerId) : h.Retains (h.forget s id) := by
  refine .onStore s (fun _ => rfl) fun store entry member held => ?_
  apply List.mem_filter.2
  exact ⟨member, by simp [held]⟩

theorem retains_writeText (area : AreaId) (key text : String) :
    h.Retains (h.writeText area key text) := by
  obtain ⟨areas, file, shape, length⟩ := h.writeText_eq area key text
  rw [shape]
  exact .of_stores length rfl

theorem Extends.retains {after : Host} (more : h.Extends after)
    (areas : after.areas = h.areas) : h.Retains after where
  areas := congrArg List.length areas
  stores s store found := by
    obtain ⟨new, shape, -⟩ := more
    have inside := (List.getElem?_eq_some_iff.1 found).1
    refine ⟨store, ?_, rfl, fun _ member _ => member⟩
    rw [shape, List.getElem?_append_left inside, found]

theorem makeStores_extends (path : String) (plans : List (String × Plan)) (h : Host) :
    h.Extends (makeStores path plans h).2 := by
  induction plans generalizing h with
  | nil => exact .refl h
  | cons plan plans inductionHypothesis =>
      obtain ⟨name, plan⟩ := plan
      cases plan with
      | store type initial persist shared =>
          have made : h.Extends (h.makeStore path name type initial persist shared).2 := by
            unfold makeStore
            split
            · exact .refl h
            · exact ⟨[Store.new type initial persist], rfl, by simp [Store.new]⟩
          exact made.trans (inductionHypothesis _)
      | value v => exact inductionHypothesis h
      | function call => exact inductionHypothesis h
      | computed compute => exact inductionHypothesis h

theorem retains_instantiate (b : Blueprint) : h.Retains (h.instantiate b).2 := by
  have more : h.Extends (h.instantiate b).2 := makeStores_extends b.path b.plans h
  obtain ⟨stores, made, shape⟩ := h.instantiate_eq b
  exact more.retains (by rw [shape])

end Host

namespace Client

/-- A client that is still on its page, and from whose host nothing has been removed
that clients rely on. -/
structure Retains (before after : Client) : Prop where
  host : before.toHost.Retains after.toHost
  number : after.number = before.number
  scope : after.scope = before.scope
  session : after.session = before.session
  durable : after.durable = before.durable

variable {base c d : Client} {r : Reactor}

theorem Retains.refl (c : Client) : c.Retains c :=
  ⟨.of_stores rfl rfl, rfl, rfl, rfl, rfl⟩

theorem Retains.onHost (retains : base.Retains c) {h : Host}
    (host : c.toHost.Retains h) : base.Retains { c with toHost := h } :=
  ⟨retains.host.trans host, retains.number, retains.scope, retains.session,
    retains.durable⟩

theorem Retains.elsewhere (retains : base.Retains c)
    (loaded : Option (AssetRegistry × LoadReport)) (bindings : Bindings)
    (visit : Option Visit) (document : Document) (events : EventRegistry)
    (state : RenderState) :
    base.Retains { c with loaded, bindings, visit, document, events, state } :=
  ⟨retains.host, retains.number, retains.scope, retains.session, retains.durable⟩

theorem endures_retains (base : Client) : Endures base.Retains where
  write _ s _ retains := retains.onHost (.onStore s (fun _ => rfl) fun _ _ member _ => member)
  listen _ s _ retains := retains.onHost (Host.retains_subscribe s _)
  forget _ s id retains := retains.onHost (Host.retains_forget s id)
  writeText _ area key text retains :=
    retains.onHost (Host.retains_writeText area key text)
  keep _ _ _ retains := retains.onHost (.of_stores rfl rfl)
  exhaust _ retains := retains.onHost (.of_stores rfl rfl)
  bindValue c _ _ retains :=
    retains.elsewhere c.loaded _ c.visit c.document c.events c.state

theorem rerenders_retains (base : Client) : Rerenders base.Retains where
  toEndures := endures_retains base
  bind c _ _ retains := retains.elsewhere c.loaded _ c.visit c.document c.events c.state
  subscribe _ s listener _ retains := retains.onHost (Host.retains_subscribe s listener)
  instantiate _ b retains := retains.onHost (Host.retains_instantiate b)
  visit c _ retains := retains.elsewhere c.loaded c.bindings _ c.document c.events c.state
  enter c state retains :=
    retains.elsewhere c.loaded c.bindings c.visit c.document c.events state
  display c document events retains :=
    retains.elsewhere c.loaded c.bindings c.visit document events c.state

theorem record_retains (name : String) (v : Value) (tier : Tier)
    (retains : base.Retains c) :
    base.Retains (c.record name v tier) :=
  record_keeps (endures_retains base).toAllows
    ((endures_retains base).writeText c _ _ _ retains)

theorem restore_retains (keeps : r.Keeps base.Retains) (name : String) (tier : Tier)
    (retains : base.Retains c) :
    base.Retains (c.restore r name tier).2 :=
  (restore_agree (endures_retains base).toAllows keeps.agree name tier retains).2

end Client

/-- Whatever a change of a store leads to, the listeners of clients stay. -/
theorem Reactor.level_retains (base : Client) (n : Nat) :
    (Reactor.level n).Keeps base.Retains :=
  Reactor.level_rerenders (Client.rerenders_retains base) n

end LivePages
