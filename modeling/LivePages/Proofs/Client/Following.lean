import LivePages.Proofs.Client.Session
import LivePages.Proofs.Client.Tracking

/-!
# Slots that follow their stores

The listener that keeps a slot writes the value that it is told.  If it is the first
on its store, listeners after it may set the store again as they like, and so may the
page when it is rendered anew: each change reaches the slot before anything else does,
and the slot holds the value of the store in the end.  A listener in front of it
spoils this.  When that listener sets the store again, the slot hears of the later
change first and of the earlier one last.
-/

namespace LivePages

namespace Client

variable {c : Client} {told : Prop} {s : StoreId} {id : ListenerId} {area : AreaId}
  {key : String}

/-! ## Changes of stores -/

section Change

variable {r : Reactor} (keeps : r.Keeps fun c => c.Tracks told s id area key)

include keeps

theorem react_tracks {listener : Listener} (apart : ¬ listener.KeepsSlot area key)
    (v : Value) (tracks : c.Tracks told s id area key) :
    (c.react r listener v).Tracks told s id area key := by
  cases listener with
  | host react => exact (react v).run_keeps (allows_tracks told s id area key) keeps tracks
  | slot client a k => exact tracks.writeText apart _
  | rerender client =>
      rw [react]
      by_cases own : client = c.number
      · rw [if_pos own]
        exact keeps.render c tracks
      · rw [if_neg own]
        exact tracks

theorem notify_tracks (t : StoreId) (v : Value) {entries : List (ListenerId × Listener)}
    (apart : ∀ entry ∈ entries, ¬ entry.2.KeepsSlot area key)
    (tracks : c.Tracks told s id area key) :
    (c.notify r t v entries).Tracks told s id area key := by
  have each : ∀ entry ∈ entries, ∀ d : Client, d.Tracks told s id area key →
      (d.react r entry.2 v).Tracks told s id area key :=
    fun entry member _ tracks => react_tracks keeps (apart entry member) v tracks
  exact notify_closed t v entries each tracks

/-- A change of the store brings the slot in step with it. -/
theorem setStore_tells {before : Prop} (v : Value)
    (tracks : c.Tracks before s id area key) :
    (c.setStore r s v).Tracks told s id area key := by
  -- The slot is accounted for anew once its listener, the first, has been told.
  have written : (c.onHost (Host.onStore s fun store =>
      { store with value := v })).Tracks False s id area key :=
    tracks.host (Host.drifts_write s v) False.elim
  have value := Host.readStore_write tracks.heard v
  rw [setStore]
  change (c.onHost (Host.onStore s fun store => { store with value := v })).readStore s =
    v at value
  generalize c.onHost (Host.onStore s fun store => { store with value := v }) = d at *
  obtain ⟨client, after, listeners, others⟩ := written.exists_listeners
  have subscribed : d.isSubscribed s id = true := by
    have member : (id, Listener.slot client area key) ∈ d.listeners s := by
      rw [listeners]
      exact List.mem_cons_self
    exact Host.isSubscribed_of_mem_listeners member
  have caught : (d.onHost (Host.writeText area key (Slot.write v))).Tracks told s id area
      key := by
    refine written.host (Host.drifts_writeText area key _) fun _ => .inr ?_
    rw [Host.readText_writeText written.inside, Host.readStore_writeText]
    exact congrArg (some ∘ Slot.write) value.symm
  rw [listeners, notify, if_pos subscribed]
  exact notify_tracks keeps s v others caught

/-- A change of another store leaves the slot in step. -/
theorem setStore_tracks {t : StoreId} (other : t ≠ s) (v : Value)
    (tracks : c.Tracks told s id area key) :
    (c.setStore r t v).Tracks told s id area key := by
  have written := tracks.write other v
  exact notify_tracks keeps t v (written.alone t other) written

end Change

end Client

/-- At every length of chain, the slot ends in step with its store once the store is
set, and stays so. -/
theorem Reactor.level_tracks (told : Prop) (s : StoreId) (id : ListenerId) (area : AreaId)
    (key : String) (n : Nat) :
    (Reactor.level n).Keeps (fun c => c.Tracks told s id area key) := by
  induction n with
  | zero =>
      constructor
      · intro t v c tracks
        rw [level]
        dsimp only
        by_cases unheard : ((c.onHost (Host.onStore t fun store =>
            { store with value := v })).listeners t).isEmpty = true
        · have other : t ≠ s := by
            rintro rfl
            rw [Client.onHost, Host.listeners_write, List.isEmpty_iff] at unheard
            exact tracks.heard unheard
          rw [if_pos unheard]
          exact tracks.write other v
        · have written : (c.onHost (Host.onStore t fun store =>
              { store with value := v })).Tracks False s id area key :=
            tracks.host (Host.drifts_write t v) False.elim
          -- Nobody is told, but it is on record that the chain was cut off.
          rw [if_neg unheard]
          exact written.exhaust
      · intro c tracks
        rw [level]
        dsimp only
        by_cases idle : c.state = .idle
        · rw [if_pos idle]
          exact tracks.exhaust
        · rw [if_neg idle]
          exact tracks
  | succ n inductionHypothesis =>
      constructor
      · intro t v c tracks
        by_cases same : t = s
        · rw [same]
          exact Client.setStore_tells inductionHypothesis v tracks
        · exact Client.setStore_tracks inductionHypothesis same v tracks
      · intro c tracks
        exact Client.requestRender_tracks inductionHypothesis none c tracks

namespace Client

variable {c : Client} {s : StoreId} {id : ListenerId} {area : AreaId} {key : String}

theorem after_tracks {told : Prop} {operations : List Operation}
    (staying : ∀ operation ∈ operations, operation.navigates = false)
    (tracks : c.Tracks told s id area key) :
    (c.after operations).Tracks told s id area key := by
  have keeps := Reactor.level_tracks told s id area key maxChain
  induction operations generalizing c with
  | nil => exact tracks
  | cons operation operations inductionHypothesis =>
      apply inductionHypothesis
      · exact fun later member => staying later (List.mem_cons_of_mem _ member)
      · exact operation.run_keeps_of_not_navigates (allows_tracks told s id area key)
          keeps (requestRender_tracks keeps) (staying operation List.mem_cons_self) tracks

/-! ## Attaching a store -/

/-- A store that nobody listens to, and a slot that nobody keeps. -/
structure Ready (c : Client) (s : StoreId) (area : AreaId) (key : String) : Prop where
  inside : area < c.areas.length
  found : ∃ store, c.stores[s]? = some store
  unheard : c.listeners s = []
  unused : ∀ t, ∀ entry ∈ c.listeners t, ¬ entry.2.KeepsSlot area key
  layouts : c.LayoutsSpare area key

theorem Ready.write (ready : c.Ready s area key) (v : Value) :
    (c.onHost (Host.onStore s fun store => { store with value := v })).Ready s area
      key where
  inside := ready.inside
  found := by
    obtain ⟨store, found⟩ := ready.found
    exact ⟨_, Host.getElem?_onStore found _⟩
  unheard := (Host.listeners_write s v s).trans ready.unheard
  unused t entry member := by
    rw [onHost, Host.listeners_write] at member
    exact ready.unused t entry member
  layouts := ready.layouts

theorem Ready.writeText (ready : c.Ready s area key) (a : AreaId) (k text : String) :
    (c.onHost (Host.writeText a k text)).Ready s area key := by
  obtain ⟨areas, file, shape, length⟩ := c.toHost.writeText_eq a k text
  rw [onHost, shape]
  exact ⟨length.symm ▸ ready.inside, ready.found, ready.unheard, ready.unused,
    ready.layouts⟩

theorem Ready.subscribe (ready : c.Ready s area key) (client : Nat) :
    ∃ id, (c.askHost (Host.subscribe s (.slot client area key))).2.Tracks False s id area
      key := by
  obtain ⟨store, found⟩ := ready.found
  have shape : (c.askHost (Host.subscribe s (.slot client area key))).2 =
      c.onHost (Host.onStore s fun store => (store.subscribe (.slot client area key)).2) :=
    congrArg (fun h => { c with toHost := h }) (Host.subscribe_eq_onStore s _)
  have before : store.listeners = [] := by
    have unheard := ready.unheard
    rwa [Host.listeners, found] at unheard
  have listeners : (c.toHost.onStore s fun store =>
      (store.subscribe (.slot client area key)).2).listeners s =
        [(store.nextId, .slot client area key)] := by
    rw [Host.listeners, Host.getElem?_onStore found]
    change store.listeners ++ [(store.nextId, Listener.slot client area key)] = _
    rw [before]
    rfl
  refine ⟨store.nextId, ?_⟩
  rw [shape]
  refine ⟨ready.inside, ?_, ?_, ?_, ready.layouts, False.elim⟩
  · rw [onHost, listeners]
    exact ⟨_, rfl, rfl, rfl, rfl⟩
  · rw [onHost, listeners]
    simp
  · intro t other entry member
    rw [onHost, Host.listeners, Host.onStore, List.getElem?_modify_ne _ _ other.symm] at member
    exact ready.unused t entry member

/-- A store takes over what is stored under its name, if it accepts it. -/
theorem restore_of_bound (r : Reactor) {name : String} (tier : Tier)
    (bound : c.bindings.get? name = some (.store s)) :
    c.restore r name tier =
      match (c.load? name tier).map (c.accept s) with
      | some (.ok v) => (true, r.set s v c)
      | _ => (false, c) := by
  unfold restore assign offer
  rw [bound]
  cases c.load? name tier with
  | none => rfl
  | some stored =>
      dsimp only [Option.map_some]
      cases c.accept s stored <;> rfl

/-- A store that nobody listens to takes over what is stored, or not. -/
theorem restore_bound {name : String}
    (isBound : c.bindings.get? name = some (.store s)) (unheard : c.listeners s = [])
    (tier : Tier) :
    c.restore reactor name tier = (false, c) ∨
      ∃ v, c.restore reactor name tier =
        (true, c.onHost (Host.onStore s fun store => { store with value := v })) := by
  rw [restore_of_bound reactor tier isBound]
  rcases (c.load? name tier).map (c.accept s) with _ | _ | v
  · exact .inl rfl
  · exact .inl rfl
  · exact .inr ⟨v, congrArg (Prod.mk true) (set_unheard unheard v)⟩

theorem record_bound {name : String}
    (isBound : c.bindings.get? name = some (.store s)) (v : Value) (tier : Tier) :
    c.record name v tier =
      c.onHost (Host.writeText (c.area tier) (c.storageKey name) (Slot.write v)) := by
  unfold record
  dsimp only
  split
  · rfl
  · rename_i other
    exact absurd isBound (other s)

theorem record_value {name : String} {w : Value}
    (isBound : c.bindings.get? name = some (.value w)) (v : Value) (tier : Tier) :
    c.record name v tier =
      (c.onHost (Host.writeText (c.area tier) (c.storageKey name) (Slot.write v))).bindValue
        name v := by
  unfold record
  dsimp only
  split
  · rename_i s other
    cases isBound.symm.trans other
  · rfl

theorem attachStore_tracks {name : String} {tier : Tier}
    (tiered : c.storeTier? name (c.persists s) = some tier)
    (isBound : c.bindings.get? name = some (.store s))
    (ready : c.Ready s (c.area tier) (c.storageKey name)) :
    ∃ id, (c.attachStore reactor name s).2.Tracks False s id (c.area tier)
      (c.storageKey name) := by
  have tierOf : c.storeTier? name ((c.stores[s]?).any Store.persist) = some tier := tiered
  unfold attachStore
  rw [tierOf]
  dsimp only
  rcases restore_bound isBound ready.unheard tier with kept | ⟨v, restored⟩
  · rw [kept]
    dsimp only
    rw [if_neg Bool.false_ne_true, record_bound isBound]
    exact (ready.writeText _ _ _).subscribe c.number
  · rw [restored]
    exact (ready.write v).subscribe c.number

/-- If nobody listens to a store when it is attached to a slot of its own, the slot is
tracked from then on.  While it is, whatever is asked for, short of another page, and
whoever listens to the store: once the store has been given a value from outside, the
slot holds the text of the value that the store has, then and after all that is asked
for later, unless a chain of changes was cut off. -/
theorem setStoreValue_inStep (s : StoreId) (area : AreaId) (key : String) :
    (∀ (c : Client) name tier, c.storeTier? name (c.persists s) = some tier →
      c.bindings.get? name = some (.store s) → c.area tier = area →
      c.storageKey name = key → c.Ready s area key →
      ∃ id, (c.attachStore reactor name s).2.Tracks False s id area key) ∧
    ∀ (c : Client) id, c.Tracks False s id area key →
      ∀ earlier later : List Operation,
        (∀ operation ∈ earlier ++ later, operation.navigates = false) →
        ∀ v d, (c.after earlier).setStoreValue s v = (.ok (), d) →
          (d.after later).exhausted = true ∨
            (d.after later).readText area key =
              some (Slot.write ((d.after later).readStore s)) := by
  constructor
  · rintro c name tier tiered isBound rfl rfl ready
    exact attachStore_tracks tiered isBound ready
  intro c id tracks earlier later staying v d given
  have tracksOn := after_tracks
    (fun operation member => staying operation (List.mem_append_left _ member)) tracks
  have keeps := Reactor.level_tracks True s id area key 999
  generalize c.after earlier = now at *
  have told : d.Tracks True s id area key := by
    unfold setStoreValue offer at given
    cases accepted : now.accept s v with
    | error mismatch =>
        rw [accepted] at given
        cases given
    | ok w =>
        rw [accepted] at given
        cases given
        exact setStore_tells keeps w tracksOn
  exact (after_tracks
    (fun operation member => staying operation (List.mem_append_right _ member))
    told).text trivial

/-! ## A listener that sets the store again -/

/-- Sets the first store to two when told that it holds one. -/
def overtake : Value → Action
  | .num (.int 1) => .write 0 (.int 2) fun _ => .return .null
  | _ => .return .null

/-- A client with a store that has a slot, and nobody who listens. -/
def counter : Client :=
  ((bare {}).askHost (Host.addStore (Store.new .any (.int 0) false))).2.bind "_n" (.store 0)

/-- The operation that puts the listener there. -/
def listening : Operation := .perform (.listen 0 overtake fun _ => .return .null)

/-- A site with one page, which has a store that is kept, and broken markup. -/
def countingSite : AssetSource where
  texts := .memory [("routes.json", "[]"), ("layouts.json", "[]"),
    ("slugs.json", "\x7b\x7d"), ("routes/index.html", "<!--")] []
  modules := [("routes/index.js", ⟨"routes/index.js",
    [("_n", .store .any (.int 0) false false)]⟩)]

/-- A client on that page. -/
def reader : Client :=
  (new (Host.empty.addArea ⟨[], false⟩).2 0 {} none countingSite 0 0).after [.start]

theorem reader_tracks : reader.Tracks False 0 0 0 "//_n" where
  inside := by decide +kernel
  first := by decide +kernel
  others := by decide +kernel
  alone t other entry member := by
    have count : reader.stores.length ≤ 1 := by decide +kernel
    have beyond := List.getElem?_eq_none
      (Nat.le_trans count (Nat.one_le_iff_ne_zero.2 other))
    rw [Host.listeners, beyond] at member
    cases member
  layouts registry report loaded layout blueprint found := by
    have bare : (reader.loaded.all fun site => site.1.layoutModules.isEmpty) = true := by
      decide +kernel
    rw [loaded, Option.all_some, List.isEmpty_iff] at bare
    rw [bare] at found
    cases found
  text := False.elim

theorem eq_ok_of_isOk {ε : Type} {result : Except ε Unit} (isOk : result.isOk = true) :
    result = .ok () := by
  cases result with
  | error e => cases isOk
  | ok answer => rfl

theorem setStoreValue_inStep_overtaken :
    (∃ id, (counter.attachStore reactor "_n" 0).2.Tracks False 0 id 1 "//_n") ∧
      ∃ d, (reader.after [listening]).setStoreValue 0 (.int 1) = (.ok (), d) ∧
        (d.after [.render]).exhausted = false ∧
        Slot.write ((d.after [.render]).readStore 0) = "2" ∧
        (d.after [.render]).readText 0 "//_n" = some "2" := by
  constructor
  · obtain ⟨attaches, -⟩ := setStoreValue_inStep 0 1 "//_n"
    refine attaches counter "_n" .durable rfl rfl rfl rfl
      ⟨by decide, ⟨_, rfl⟩, rfl, ?_, ?_⟩
    · intro t entry member
      cases t <;> cases member
    · intro registry report loaded
      cases loaded
  · obtain ⟨-, follows⟩ := setStoreValue_inStep 0 0 "//_n"
    have fits : ((reader.after [listening]).setStoreValue 0 (.int 1)).1.isOk = true := by
      decide +kernel
    have given : (reader.after [listening]).setStoreValue 0 (.int 1) =
        (.ok (), ((reader.after [listening]).setStoreValue 0 (.int 1)).2) :=
      Prod.ext (eq_ok_of_isOk fits) rfl
    have staying : ∀ operation ∈ [listening] ++ [.render],
        operation.navigates = false := by
      simp [listening, Operation.navigates]
    have followed := follows reader 0 reader_tracks [listening] [.render] staying _ _ given
    refine ⟨_, given, by decide +kernel, by decide +kernel, ?_⟩
    exact (followed.resolve_left (by decide +kernel)).trans (by decide +kernel)

/-- The same listener in front of the one that keeps the slot leaves the slot behind
its store. -/
theorem setStoreValue_goes_stale :
    let attached := ((counter.after [listening]).attachStore reactor "_n" 0).2
    ∃ d, attached.setStoreValue 0 (.int 1) = (.ok (), d) ∧
      d.isSubscribed 0 1 = true ∧ d.exhausted = false ∧
      d.readStore 0 = .int 2 ∧ d.readText 1 "//_n" = some "1" :=
  ⟨_, rfl, rfl, rfl, rfl, rfl⟩

end Client

end LivePages
