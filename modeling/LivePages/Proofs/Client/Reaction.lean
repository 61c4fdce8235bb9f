import LivePages.Client.Reactor
import LivePages.Proofs.Program.Naming

/-!
# What actions keep

Actions and listeners can change what stores hold and who else listens to them,
what is stored, and the values that names are bound to.  The listeners that a
client holds itself are out of their reach.  A predicate that survives these
changes is kept by everything that actions, assignments and expressions do; and
while a page is being shown, so it is at every length of chain, because further
renders are refused.
-/

namespace LivePages

/-! ## Hosts -/

/-- Whether a listener was put there by that client for itself. -/
def Listener.heldBy (number : Nat) : Listener → Bool
  | .host _ => false
  | .slot client _ _ => client = number
  | .rerender client => client = number

theorem Listener.heldBy_of_isHost {listener : Listener}
    (isHost : listener.isHost = true) (number : Nat) :
    listener.heldBy number = false := by
  cases listener with
  | host react => rfl
  | slot client area key => cases isHost
  | rerender client => cases isHost

namespace Host

/-- The listeners on a store that a client holds. -/
def held (h : Host) (number : Nat) (s : StoreId) : List (ListenerId × Listener) :=
  (h.listeners s).filter fun entry => entry.2.heldBy number

def persists (h : Host) (s : StoreId) : Bool := (h.stores[s]?).any Store.persist

/-- Two hosts with the same stores, as far as the listeners of a client and its
slots are concerned. -/
structure Quiet (number : Nat) (before after : Host) : Prop where
  held : ∀ s, after.held number s = before.held number s
  persists : ∀ s, after.persists s = before.persists s
  count : after.stores.length = before.stores.length
  made : after.made = before.made

variable {number : Nat} {h : Host}

theorem Quiet.of_stores {after : Host} (stores : after.stores = h.stores)
    (made : after.made = h.made) :
    h.Quiet number after where
  held s := by rw [Host.held, Host.held, listeners, listeners, stores]
  persists s := by rw [Host.persists, Host.persists, stores]
  count := by rw [stores]
  made := made

theorem persists_onStore (s : StoreId) {change : Store Listener → Store Listener}
    (persist : ∀ store, (change store).persist = store.persist) (t : StoreId) :
    (h.onStore s change).persists t = h.persists t := by
  simp only [persists, onStore, List.getElem?_modify]
  cases h.stores[t]? with
  | none => rfl
  | some store =>
      by_cases same : s = t
      · simpa [same] using persist store
      · simp [same]

/-- A change of one store that leaves it its persistence and the listeners of the
client. -/
theorem Quiet.onStore (s : StoreId) {change : Store Listener → Store Listener}
    (persist : ∀ store, (change store).persist = store.persist)
    (held : ∀ store : Store Listener,
      (change store).listeners.filter (fun entry => entry.2.heldBy number) =
        store.listeners.filter fun entry => entry.2.heldBy number) :
    h.Quiet number (h.onStore s change) where
  held t := by
    simp only [Host.held, listeners, Host.onStore, List.getElem?_modify]
    cases h.stores[t]? with
    | none => rfl
    | some store =>
        by_cases same : s = t
        · simpa [same] using held store
        · simp [same]
  persists := persists_onStore s persist
  count := List.length_modify ..
  made := rfl

theorem quiet_write (s : StoreId) (v : Value) :
    h.Quiet number (h.onStore s fun store => { store with value := v }) :=
  .onStore s (fun _ => rfl) fun _ => rfl

theorem listeners_write (s : StoreId) (v : Value) (t : StoreId) :
    (h.onStore s fun store => { store with value := v }).listeners t =
      h.listeners t := by
  simp only [listeners, onStore, List.getElem?_modify]
  cases h.stores[t]? with
  | none => rfl
  | some store => by_cases same : s = t <;> simp [same]

theorem quiet_forget (s : StoreId) (id : ListenerId) :
    h.Quiet number (h.forget s id) := by
  refine .onStore s (fun _ => rfl) fun store => ?_
  rw [List.filter_filter]
  apply List.filter_congr
  intro entry _
  cases isHost : entry.2.isHost with
  | false => simp
  | true => simp [Listener.heldBy_of_isHost isHost]

theorem subscribe_eq_onStore (s : StoreId) (listener : Listener) :
    (h.subscribe s listener).2 =
      h.onStore s fun store => (store.subscribe listener).2 := by
  have stores : (h.subscribe s listener).2.stores =
      h.stores.modify s fun store => (store.subscribe listener).2 := by
    apply List.ext_getElem?
    intro t
    unfold subscribe
    cases found : h.stores[s]? with
    | none =>
        by_cases same : s = t
        · rw [← same, List.getElem?_modify_eq, found]
          rfl
        · rw [List.getElem?_modify_ne _ _ same]
    | some store =>
        have inside := (List.getElem?_eq_some_iff.1 found).1
        by_cases same : s = t
        · rw [← same, List.getElem?_modify_eq, found]
          exact List.getElem?_set_self inside
        · rw [List.getElem?_modify_ne _ _ same]
          exact List.getElem?_set_ne same
  rw [onStore, ← stores]
  unfold subscribe
  cases h.stores[s]? <;> rfl

/-- Who listens to a store after a change of one did so before, or is there on account
of the change. -/
theorem mem_listeners_onStore {isNew : Listener → Prop} {s t : StoreId}
    {change : Store Listener → Store Listener}
    (changed : ∀ store : Store Listener, ∀ entry ∈ (change store).listeners,
      entry ∈ store.listeners ∨ isNew entry.2)
    {entry : ListenerId × Listener} (member : entry ∈ (h.onStore s change).listeners t) :
    entry ∈ h.listeners t ∨ isNew entry.2 := by
  simp only [listeners, onStore, List.getElem?_modify] at member ⊢
  cases found : h.stores[t]? with
  | none =>
      rw [found] at member
      cases member
  | some store =>
      rw [found] at member
      by_cases same : s = t
      · exact changed store entry (by simpa [same] using member)
      · exact .inl (by simpa [same] using member)

theorem mem_listeners_forget {s t : StoreId} {id : ListenerId}
    {entry : ListenerId × Listener} (member : entry ∈ (h.forget s id).listeners t) :
    entry ∈ h.listeners t := by
  have either := @mem_listeners_onStore h (fun _ => False) s t _
    (fun store entry member => .inl (List.mem_filter.1 member).1) entry member
  exact either.resolve_right not_false

theorem mem_listeners_subscribe {s t : StoreId} {listener : Listener}
    {entry : ListenerId × Listener}
    (member : entry ∈ (h.subscribe s listener).2.listeners t) :
    entry ∈ h.listeners t ∨ entry.2 = listener := by
  rw [subscribe_eq_onStore] at member
  refine @mem_listeners_onStore h (fun new => new = listener) s t _
    (fun store entry member => ?_) entry member
  rcases List.mem_append.1 member with old | new
  · exact .inl old
  · exact .inr (congrArg Prod.snd (List.mem_singleton.1 new))

theorem quiet_listen (s : StoreId) (react : Value → Action) :
    h.Quiet number (h.subscribe s (.host react)).2 := by
  rw [subscribe_eq_onStore]
  refine .onStore s (fun _ => rfl) fun store => ?_
  simp [Store.subscribe, Listener.heldBy]

/-- Writing a text changes nothing but what is stored. -/
theorem writeText_eq (h : Host) (area : AreaId) (key text : String) :
    ∃ areas file, h.writeText area key text = { h with areas, file } ∧
      areas.length = h.areas.length := by
  unfold writeText onTexts
  cases h.areas[area]? with
  | none => exact ⟨h.areas, h.file, rfl, rfl⟩
  | some a => exact ⟨_, _, rfl, List.length_set⟩

theorem quiet_writeText (area : AreaId) (key text : String) :
    h.Quiet number (h.writeText area key text) := by
  obtain ⟨areas, file, shape, -⟩ := h.writeText_eq area key text
  rw [shape]
  exact .of_stores rfl rfl

end Host

/-! ## Clients -/

/-- A predicate that does not depend on what actions can change. -/
structure Survives (P : Client → Prop) : Prop where
  host : ∀ (c : Client) (h : Host), c.toHost.Quiet c.number h → P c →
    P { c with toHost := h }
  bindValue : ∀ (c : Client) name v, P c → P (c.bindValue name v)

/-- A predicate that none of the changes breaks which actions and expressions make by
themselves. -/
structure Allows (P : Client → Prop) : Prop where
  listen : ∀ (c : Client) s react, P c →
    P (c.askHost (Host.subscribe s (.host react))).2
  forget : ∀ (c : Client) s id, P c → P (c.onHost (Host.forget s id))
  keep : ∀ (c : Client) memory log, P c → P { c with memory, log }
  bindValue : ∀ (c : Client) name v, P c → P (c.bindValue name v)

theorem Allows.and {P Q : Client → Prop} (first : Allows P) (second : Allows Q) :
    Allows fun c => P c ∧ Q c where
  listen c s react holds :=
    ⟨first.listen c s react holds.1, second.listen c s react holds.2⟩
  forget c s id holds := ⟨first.forget c s id holds.1, second.forget c s id holds.2⟩
  keep c memory log holds :=
    ⟨first.keep c memory log holds.1, second.keep c memory log holds.2⟩
  bindValue c name v holds :=
    ⟨first.bindValue c name v holds.1, second.bindValue c name v holds.2⟩

/-- A predicate that what follows from them does not break either, change by
change. -/
structure Endures (P : Client → Prop) : Prop extends Allows P where
  write : ∀ (c : Client) s v, P c →
    P (c.onHost (Host.onStore s fun store => { store with value := v }))
  writeText : ∀ (c : Client) area key text, P c →
    P (c.onHost (Host.writeText area key text))
  exhaust : ∀ (c : Client), P c → P { c with exhausted := true }

theorem Survives.endures {P : Client → Prop} (survives : Survives P) : Endures P where
  write c s v := survives.host c _ (Host.quiet_write s v)
  listen c s react := survives.host c _ (Host.quiet_listen s react)
  forget c s id := survives.host c _ (Host.quiet_forget s id)
  writeText c area key text := survives.host c _ (Host.quiet_writeText area key text)
  keep c _ _ := survives.host c _ (.of_stores rfl rfl)
  exhaust c := survives.host c _ (.of_stores rfl rfl)
  bindValue := survives.bindValue

/-- A reactor whose changes and renders keep a predicate. -/
structure Reactor.Keeps (r : Reactor) (P : Client → Prop) : Prop where
  set : ∀ s v c, P c → P (r.set s v c)
  render : ∀ c, P c → P (r.render c).2

/-- A reactor that answers like another wherever a predicate holds, and keeps it. -/
structure Reactor.Agree (r other : Reactor) (P : Client → Prop) : Prop where
  set : ∀ s v c, P c → other.set s v c = r.set s v c ∧ P (r.set s v c)
  render : ∀ c, P c → other.render c = r.render c ∧ P (r.render c).2

theorem Reactor.Keeps.agree {r : Reactor} {P : Client → Prop} (keeps : r.Keeps P) :
    r.Agree r P where
  set s v c holds := ⟨rfl, keeps.set s v c holds⟩
  render c holds := ⟨rfl, keeps.render c holds⟩

theorem Reactor.Keeps.and {r : Reactor} {P Q : Client → Prop} (first : r.Keeps P)
    (second : r.Keeps Q) : r.Keeps fun c => P c ∧ Q c where
  set s v c holds := ⟨first.set s v c holds.1, second.set s v c holds.2⟩
  render c holds := ⟨first.render c holds.1, second.render c holds.2⟩

section Reaction

variable {P : Client → Prop} {r other : Reactor}

/-! ## Actions -/

theorem Action.run_agree (allows : Allows P) (agree : r.Agree other P) (a : Action)
    {c : Client} (holds : P c) :
    a.run other c = a.run r c ∧ P (a.run r c).2 := by
  induction a generalizing c with
  | finish result => exact ⟨rfl, holds⟩
  | read s next inductionHypothesis => exact inductionHypothesis _ holds
  | write s v next inductionHypothesis =>
      rw [Action.run, Action.run]
      cases c.accept s v with
      | error e => exact inductionHypothesis _ holds
      | ok accepted =>
          obtain ⟨same, kept⟩ := agree.set s accepted c holds
          dsimp only
          rw [same]
          exact inductionHypothesis _ kept
  | listen s react next _ inductionHypothesis =>
      exact inductionHypothesis _
        (allows.listen c s react holds)
  | forget s id next inductionHypothesis =>
      exact inductionHypothesis (allows.forget c s id holds)
  | render next inductionHypothesis =>
      obtain ⟨same, kept⟩ := agree.render c holds
      rw [Action.run, Action.run, same]
      exact inductionHypothesis _ kept
  | retrieve key next inductionHypothesis => exact inductionHypothesis _ holds
  | keep key v next inductionHypothesis =>
      exact inductionHypothesis (allows.keep c _ c.log holds)
  | note entry next inductionHypothesis =>
      exact inductionHypothesis (allows.keep c c.memory _ holds)

theorem Action.run_keeps (allows : Allows P) (keeps : r.Keeps P) (a : Action)
    {c : Client} (holds : P c) :
    P (a.run r c).2 :=
  (a.run_agree allows keeps.agree holds).2

namespace Client

theorem compute_agree (allows : Allows P) (agree : r.Agree other P) (a : Action)
    {c : Client} (holds : P c) :
    c.compute other a = c.compute r a ∧ P (c.compute r a).2 := by
  obtain ⟨same, kept⟩ := a.run_agree allows agree holds
  rw [compute, compute, same]
  exact ⟨rfl, kept⟩

theorem compute_keeps (allows : Allows P) (keeps : r.Keeps P) (a : Action)
    {c : Client} (holds : P c) :
    P (c.compute r a).2 :=
  (compute_agree allows keeps.agree a holds).2

theorem react_agree (endures : Endures P) (agree : r.Agree other P)
    (listener : Listener) (v : Value) {c : Client} (holds : P c) :
    c.react other listener v = c.react r listener v ∧ P (c.react r listener v) := by
  cases listener with
  | host react =>
      obtain ⟨same, kept⟩ := (react v).run_agree endures.toAllows agree holds
      exact ⟨congrArg Prod.snd same, kept⟩
  | slot client area key =>
      exact ⟨rfl, endures.writeText c area key _ holds⟩
  | rerender client =>
      rw [react, react]
      by_cases own : client = c.number
      · rw [if_pos own, if_pos own]
        obtain ⟨same, kept⟩ := agree.render c holds
        exact ⟨congrArg Prod.snd same, kept⟩
      · rw [if_neg own, if_neg own]
        exact ⟨rfl, holds⟩

theorem react_keeps (endures : Endures P) (keeps : r.Keeps P)
    (listener : Listener) (v : Value) {c : Client} (holds : P c) :
    P (c.react r listener v) :=
  (react_agree endures keeps.agree listener v holds).2

theorem notify_closed (s : StoreId) (v : Value)
    (entries : List (ListenerId × Listener))
    (each : ∀ entry ∈ entries, ∀ d, P d → P (d.react r entry.2 v)) {c : Client}
    (holds : P c) :
    P (c.notify r s v entries) := by
  induction entries generalizing c with
  | nil => exact holds
  | cons entry entries inductionHypothesis =>
      obtain ⟨id, listener⟩ := entry
      rw [notify]
      apply inductionHypothesis
      · exact fun entry member => each entry (List.mem_cons_of_mem _ member)
      · by_cases subscribed : c.isSubscribed s id = true
        · rw [if_pos subscribed]
          exact each (id, listener) List.mem_cons_self c holds
        · rw [if_neg subscribed]
          exact holds

theorem notify_agree (endures : Endures P) (agree : r.Agree other P) (s : StoreId)
    (v : Value) (entries : List (ListenerId × Listener)) {c : Client} (holds : P c) :
    c.notify other s v entries = c.notify r s v entries ∧ P (c.notify r s v entries) := by
  induction entries generalizing c with
  | nil => exact ⟨rfl, holds⟩
  | cons entry entries inductionHypothesis =>
      obtain ⟨id, listener⟩ := entry
      rw [notify, notify]
      by_cases subscribed : c.isSubscribed s id = true
      · obtain ⟨same, kept⟩ := react_agree endures agree listener v holds
        rw [if_pos subscribed, if_pos subscribed, same]
        exact inductionHypothesis kept
      · rw [if_neg subscribed, if_neg subscribed]
        exact inductionHypothesis holds

theorem setStore_agree (endures : Endures P) (agree : r.Agree other P) (s : StoreId)
    (v : Value) {c : Client} (holds : P c) :
    c.setStore other s v = c.setStore r s v ∧ P (c.setStore r s v) :=
  notify_agree endures agree s v _ (endures.write c s v holds)

theorem setStore_keeps (endures : Endures P) (keeps : r.Keeps P) (s : StoreId)
    (v : Value) {c : Client} (holds : P c) :
    P (c.setStore r s v) :=
  (setStore_agree endures keeps.agree s v holds).2

theorem offer_agree (agree : r.Agree other P) (s : StoreId) (v : Value) {c : Client}
    (holds : P c) :
    c.offer other s v = c.offer r s v ∧ P (c.offer r s v).2 := by
  unfold offer
  cases c.accept s v with
  | ok accepted =>
      obtain ⟨same, kept⟩ := agree.set s accepted c holds
      exact ⟨congrArg (Prod.mk _) same, kept⟩
  | error e => exact ⟨rfl, holds⟩

theorem offer_keeps (keeps : r.Keeps P) (s : StoreId) (v : Value) {c : Client}
    (holds : P c) :
    P (c.offer r s v).2 :=
  (offer_agree keeps.agree s v holds).2

theorem assign_agree (allows : Allows P) (agree : r.Agree other P) (name : String)
    (v : Value) {c : Client} (holds : P c) :
    c.assign other name v = c.assign r name v ∧ P (c.assign r name v).2 := by
  unfold assign
  split
  · obtain ⟨same, kept⟩ := offer_agree agree _ v holds
    rw [same]
    exact ⟨rfl, kept⟩
  · exact ⟨rfl, allows.bindValue c name v holds⟩

theorem assign_keeps (allows : Allows P) (keeps : r.Keeps P) (name : String)
    (v : Value) {c : Client} (holds : P c) :
    P (c.assign r name v).2 :=
  (assign_agree allows keeps.agree name v holds).2

theorem call_agree (allows : Allows P) (agree : r.Agree other P) (name : String)
    (args : List Value) {c : Client} (holds : P c) :
    c.call other name args = c.call r name args ∧ P (c.call r name args).2 := by
  unfold call
  split
  · exact Action.run_agree allows agree _ holds
  · exact ⟨rfl, holds⟩
  · exact ⟨rfl, holds⟩

theorem call_keeps (allows : Allows P) (keeps : r.Keeps P) (name : String)
    (args : List Value) {c : Client} (holds : P c) :
    P (c.call r name args).2 :=
  (call_agree allows keeps.agree name args holds).2

theorem surroundings_agree (allows : Allows P) (agree : r.Agree other P) :
    (surroundings r).Agree (surroundings other) P where
  lookup _ _ _ := rfl
  call name args _ holds := call_agree allows agree name args holds
  assign name v _ holds := assign_agree allows agree name v holds

theorem surroundings_keeps (allows : Allows P) (keeps : r.Keeps P) :
    (surroundings r).Keeps P where
  call name args _ holds := call_keeps allows keeps name args holds
  assign name v _ holds := assign_keeps allows keeps name v holds

/-- While a page is being shown, requests for a render are refused. -/
theorem requestRender_busy (focus : Option FocusTarget) {c : Client}
    (busy : c.state ≠ .idle) :
    c.requestRender r focus = (.ok false, c) := by
  unfold requestRender
  rw [Keeps.get_bind]
  dsimp only
  rw [if_pos busy]
  rfl

end Client

/-- Every length of chain keeps what actions cannot change and renders keep. -/
theorem Reactor.level_keeps (endures : Endures P)
    (renders : ∀ n, (Reactor.level n).Keeps P → ∀ c, P c →
      P (c.requestRender (Reactor.level n) none).2) (n : Nat) :
    (Reactor.level n).Keeps P := by
  have cutOff : ∀ c : Client, P c → P { c with exhausted := true } :=
    endures.exhaust
  induction n with
  | zero =>
      constructor
      · intro s v c holds
        have written := endures.write c s v holds
        rw [Reactor.level]
        dsimp only
        by_cases unheard : ((c.onHost (Host.onStore s fun store =>
            { store with value := v })).listeners s).isEmpty = true
        · rw [if_pos unheard]
          exact written
        · rw [if_neg unheard]
          exact cutOff _ written
      · intro c holds
        rw [Reactor.level]
        dsimp only
        by_cases idle : c.state = .idle
        · rw [if_pos idle]
          exact cutOff c holds
        · rw [if_neg idle]
          exact holds
  | succ n inductionHypothesis =>
      constructor
      · intro s v c holds
        exact Client.setStore_keeps endures inductionHypothesis s v holds
      · intro c holds
        exact renders n inductionHypothesis c holds

/-- While a page is being shown, every length of chain keeps what actions
cannot change. -/
theorem Reactor.level_keeps_busy (endures : Endures P)
    (busy : ∀ c, P c → c.state ≠ .idle) (n : Nat) :
    (Reactor.level n).Keeps P := by
  refine Reactor.level_keeps endures (fun n _ c holds => ?_) n
  rw [Client.requestRender_busy none (busy c holds)]
  exact holds

end Reaction

end LivePages
