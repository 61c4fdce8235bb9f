import LivePages.Proofs.Client.Persistence

/-!
# Tracked slots

A slot is tracked if the listener that keeps it is the first on its store and no other
listener writes to it.  Listeners that leave the slot alone may come and go, other
stores and other slots may change, and the page may be rendered anew: the slot remains
tracked, and what has been said of its text remains true.
-/

namespace LivePages

/-- Whether a listener writes to that slot. -/
def Listener.KeepsSlot (area : AreaId) (key : String) : Listener → Prop
  | .slot _ a k => a = area ∧ k = key
  | _ => False

instance (area : AreaId) (key : String) : DecidablePred (Listener.KeepsSlot area key)
  | .slot _ a k => inferInstanceAs (Decidable (a = area ∧ k = key))
  | .host _ => isFalse id
  | .rerender _ => isFalse id

/-- Listeners among which only those that leave a slot alone have come and gone. -/
def Drifted (area : AreaId) (key : String)
    (before after : List (ListenerId × Listener)) : Prop :=
  ∃ kept more, after = before.filter kept ++ more ∧
    (∀ entry, entry.2.KeepsSlot area key → kept entry = true) ∧
    ∀ entry ∈ more, ¬ entry.2.KeepsSlot area key

section Drifted

variable {area : AreaId} {key : String}

theorem Drifted.refl (entries : List (ListenerId × Listener)) :
    Drifted area key entries entries := by
  refine ⟨fun _ => true, [], ?_, fun _ _ => rfl, by simp⟩
  rw [List.append_nil]
  exact (List.filter_eq_self.2 fun _ _ => rfl).symm

theorem Drifted.subscribe (store : Store Listener) {listener : Listener}
    (apart : ¬ listener.KeepsSlot area key) :
    Drifted area key store.listeners (store.subscribe listener).2.listeners := by
  refine ⟨fun _ => true, [(store.nextId, listener)], ?_, fun _ _ => rfl, ?_⟩
  · rw [List.filter_eq_self.2 fun _ _ => rfl]
    rfl
  · intro entry member
    rw [List.mem_singleton.1 member]
    exact apart

theorem not_keepsSlot_of_isHost {listener : Listener} (isHost : listener.isHost = true) :
    ¬ listener.KeepsSlot area key := by
  cases listener with
  | host react => exact id
  | slot client a k => cases isHost
  | rerender client => exact id

theorem Drifted.forget (entries : List (ListenerId × Listener)) (id : ListenerId) :
    Drifted area key entries
      (entries.filter fun entry => !(entry.1 = id && entry.2.isHost)) := by
  refine ⟨_, [], (List.append_nil _).symm, ?_, by simp⟩
  intro entry keeps
  have isHeld : entry.2.isHost = false :=
    Bool.eq_false_iff.2 fun isHost => not_keepsSlot_of_isHost isHost keeps
  simp [isHeld]

end Drifted

namespace Host

/-- A host on which only listeners that leave a slot alone have come and gone. -/
structure Drifts (before : Host) (area : AreaId) (key : String) (after : Host) :
    Prop where
  areas : after.areas.length = before.areas.length
  listeners : ∀ s, Drifted area key (before.listeners s) (after.listeners s)

variable {h : Host} {area : AreaId} {key : String}

theorem Drifts.of_listeners {after : Host}
    (areas : after.areas.length = h.areas.length)
    (listeners : ∀ s, after.listeners s = h.listeners s) : h.Drifts area key after where
  areas := areas
  listeners s := by
    rw [listeners s]
    exact .refl _

theorem Drifts.onStore (s : StoreId) {change : Store Listener → Store Listener}
    (drifted : ∀ store, Drifted area key store.listeners (change store).listeners) :
    h.Drifts area key (h.onStore s change) where
  areas := rfl
  listeners t := by
    simp only [Host.listeners, Host.onStore, List.getElem?_modify]
    cases h.stores[t]? with
    | none => exact .refl _
    | some store =>
        by_cases same : s = t
        · simpa [same] using drifted store
        · simpa [same] using Drifted.refl store.listeners

theorem drifts_write (s : StoreId) (v : Value) :
    h.Drifts area key (h.onStore s fun store => { store with value := v }) :=
  .onStore s fun _ => .refl _

theorem drifts_writeText (a : AreaId) (k text : String) :
    h.Drifts area key (h.writeText a k text) := by
  obtain ⟨areas, file, shape, length⟩ := h.writeText_eq a k text
  rw [shape]
  exact .of_listeners length fun _ => rfl

/-! ## Values and texts -/

theorem readStore_onStore (s : StoreId) {change : Store Listener → Store Listener}
    (value : ∀ store, (change store).value = store.value) (t : StoreId) :
    (h.onStore s change).readStore t = h.readStore t := by
  simp only [readStore, onStore, List.getElem?_modify]
  cases h.stores[t]? with
  | none => rfl
  | some store =>
      by_cases same : s = t
      · simpa [same] using value store
      · simp [same]

theorem readStore_write_ne {s t : StoreId} (apart : s ≠ t) (v : Value) :
    (h.onStore s fun store => { store with value := v }).readStore t =
      h.readStore t := by
  rw [readStore, onStore, List.getElem?_modify_ne _ _ apart]
  rfl

theorem exists_store_of_heard {s : StoreId} (heard : h.listeners s ≠ []) :
    ∃ store, h.stores[s]? = some store := by
  cases found : h.stores[s]? with
  | none =>
      rw [listeners, found] at heard
      exact absurd rfl heard
  | some store => exact ⟨store, rfl⟩

theorem readStore_write {s : StoreId} (heard : h.listeners s ≠ []) (v : Value) :
    (h.onStore s fun store => { store with value := v }).readStore s = v := by
  obtain ⟨store, found⟩ := exists_store_of_heard heard
  rw [readStore, getElem?_onStore found]
  rfl

theorem readStore_writeText (h : Host) (area : AreaId) (key text : String)
    (s : StoreId) :
    (h.writeText area key text).readStore s = h.readStore s := by
  obtain ⟨areas, file, shape, -⟩ := h.writeText_eq area key text
  rw [shape]
  rfl

theorem Extends.readStore_eq {after : Host} (more : h.Extends after) {s : StoreId}
    (heard : h.listeners s ≠ []) : after.readStore s = h.readStore s := by
  obtain ⟨store, found⟩ := exists_store_of_heard heard
  obtain ⟨new, shape, -⟩ := more
  have inside := (List.getElem?_eq_some_iff.1 found).1
  rw [readStore, readStore, shape, List.getElem?_append_left inside]

theorem isSubscribed_of_mem_listeners {s : StoreId} {entry : ListenerId × Listener}
    (member : entry ∈ h.listeners s) : h.isSubscribed s entry.1 = true := by
  obtain ⟨store, found⟩ := exists_store_of_heard (List.ne_nil_of_mem member)
  rw [listeners, found] at member
  exact isSubscribed_of_mem found member

theorem readText_writeText_ne {a : AreaId} {k : String}
    (apart : ¬ (a = area ∧ k = key)) (text : String) :
    (h.writeText a k text).readText area key = h.readText area key := by
  unfold writeText onTexts
  cases found : h.areas[a]? with
  | none => rfl
  | some stored =>
      dsimp only
      by_cases same : a = area
      · subst same
        have other : k ≠ key := fun same => apart ⟨rfl, same⟩
        have inside := (List.getElem?_eq_some_iff.1 found).1
        rw [readText, readText, found, List.getElem?_set_self inside]
        exact (Table.get?_insert _ _ _ _).trans (if_neg other)
      · rw [readText, readText, List.getElem?_set_ne same]

end Host

namespace Client

/-- No layout of the site brings a name that has its values stored in that slot. -/
def LayoutsSpare (c : Client) (area : AreaId) (key : String) : Prop :=
  ∀ registry report, c.loaded = some (registry, report) →
    ∀ layout blueprint, registry.layoutModules.get? layout = some blueprint →
      ∀ plan ∈ blueprint.plans, ∀ tier,
        ¬ (c.area tier = area ∧ c.storageKey plan.1 = key)

/-- The first listener on a store keeps that slot, and no other listener does, nor
will one that a layout brings.  Once the first has been told of a value, the slot
holds the text of the value of the store, unless a chain of changes was cut off. -/
structure Tracks (c : Client) (told : Prop) (s : StoreId) (id : ListenerId)
    (area : AreaId) (key : String) : Prop where
  inside : area < c.areas.length
  first : ∃ entry ∈ (c.listeners s).head?, entry.1 = id ∧ entry.2.KeepsSlot area key
  others : ∀ entry ∈ (c.listeners s).tail, ¬ entry.2.KeepsSlot area key
  alone : ∀ t, t ≠ s → ∀ entry ∈ c.listeners t, ¬ entry.2.KeepsSlot area key
  layouts : c.LayoutsSpare area key
  text : told → c.exhausted = true ∨
    c.readText area key = some (Slot.write (c.readStore s))

variable {c : Client} {told : Prop} {s : StoreId} {id : ListenerId} {area : AreaId}
  {key : String}

theorem Tracks.exists_listeners (tracks : c.Tracks told s id area key) :
    ∃ client after, c.listeners s = (id, .slot client area key) :: after ∧
      ∀ entry ∈ after, ¬ entry.2.KeepsSlot area key := by
  obtain ⟨⟨i, listener⟩, head, rfl, keeps⟩ := tracks.first
  obtain ⟨after, listeners⟩ := List.head?_eq_some_iff.1 head
  cases listener with
  | host react => cases keeps
  | rerender client => cases keeps
  | slot client a k =>
      obtain ⟨rfl, rfl⟩ := keeps
      have others := tracks.others
      rw [listeners] at others
      exact ⟨client, after, listeners, others⟩

theorem Tracks.heard (tracks : c.Tracks told s id area key) : c.listeners s ≠ [] := by
  obtain ⟨client, after, listeners, -⟩ := tracks.exists_listeners
  rw [listeners]
  exact List.cons_ne_nil _ _

/-- A change of the host after which the text may have to be accounted for anew. -/
theorem Tracks.host (tracks : c.Tracks told s id area key) {h : Host} {now : Prop}
    (drifts : c.toHost.Drifts area key h)
    (text : now → h.exhausted = true ∨
      h.readText area key = some (Slot.write (h.readStore s))) :
    ({ c with toHost := h }).Tracks now s id area key := by
  obtain ⟨client, after, listeners, others⟩ := tracks.exists_listeners
  obtain ⟨kept, more, shape, stays, apart⟩ := drifts.listeners s
  -- What is new comes behind, and the first entry stays because it keeps the slot.
  have head : kept (id, .slot client area key) = true := stays _ ⟨rfl, rfl⟩
  rw [listeners, List.filter_cons_of_pos head] at shape
  refine ⟨drifts.areas ▸ tracks.inside, ?_, ?_, ?_, tracks.layouts, text⟩
  · rw [shape]
    exact ⟨_, rfl, rfl, rfl, rfl⟩
  · rw [shape]
    intro entry member
    rcases List.mem_append.1 member with old | new
    · exact others entry (List.mem_filter.1 old).1
    · exact apart entry new
  · intro t other entry member
    obtain ⟨kept, more, shape, -, apart⟩ := drifts.listeners t
    rw [shape] at member
    rcases List.mem_append.1 member with old | new
    · exact tracks.alone t other entry (List.mem_filter.1 old).1
    · exact apart entry new

/-- A change of the host that shows neither in the store nor in the slot. -/
theorem Tracks.drifts (tracks : c.Tracks told s id area key) {h : Host}
    (drifts : c.toHost.Drifts area key h) (value : h.readStore s = c.readStore s)
    (text : h.readText area key = c.readText area key)
    (exhausted : h.exhausted = c.exhausted) :
    ({ c with toHost := h }).Tracks told s id area key := by
  refine tracks.host drifts fun isTold => ?_
  rw [value, text, exhausted]
  exact tracks.text isTold

/-- A change of the listeners on one store. -/
theorem Tracks.onStore (tracks : c.Tracks told s id area key) (t : StoreId)
    {change : Store Listener → Store Listener}
    (value : ∀ store, (change store).value = store.value)
    (drifted : ∀ store, Drifted area key store.listeners (change store).listeners) :
    (c.onHost (Host.onStore t change)).Tracks told s id area key :=
  tracks.drifts (.onStore t drifted) (Host.readStore_onStore t value s) rfl rfl

theorem Tracks.subscribe (tracks : c.Tracks told s id area key) (t : StoreId)
    {listener : Listener} (apart : ¬ listener.KeepsSlot area key) :
    (c.askHost (Host.subscribe t listener)).2.Tracks told s id area key := by
  have shape : (c.askHost (Host.subscribe t listener)).2 =
      c.onHost (Host.onStore t fun store => (store.subscribe listener).2) :=
    congrArg (fun h => { c with toHost := h }) (Host.subscribe_eq_onStore t _)
  rw [shape]
  exact tracks.onStore t (fun _ => rfl) fun store => .subscribe store apart

theorem Tracks.writeText (tracks : c.Tracks told s id area key) {a : AreaId} {k : String}
    (apart : ¬ (a = area ∧ k = key)) (text : String) :
    (c.onHost (Host.writeText a k text)).Tracks told s id area key := by
  have same := Host.readText_writeText_ne (h := c.toHost) apart text
  obtain ⟨areas, file, shape, -⟩ := c.toHost.writeText_eq a k text
  refine tracks.drifts (Host.drifts_writeText a k text)
    (c.toHost.readStore_writeText a k text s) same ?_
  rw [shape]

theorem Tracks.write (tracks : c.Tracks told s id area key) {t : StoreId} (other : t ≠ s)
    (v : Value) :
    (c.onHost (Host.onStore t fun store => { store with value := v })).Tracks told s id
      area key :=
  tracks.drifts (Host.drifts_write t v) (Host.readStore_write_ne other v) rfl rfl

theorem Tracks.exhaust (tracks : c.Tracks told s id area key) {now : Prop} :
    ({ c with exhausted := true }).Tracks now s id area key :=
  tracks.host (.of_listeners rfl fun _ => rfl) fun _ => .inl rfl

theorem Tracks.instantiate (tracks : c.Tracks told s id area key) (b : Blueprint) :
    (c.askHost (Host.instantiate b)).2.Tracks told s id area key := by
  have more : c.toHost.Extends (c.toHost.instantiate b).2 :=
    Host.makeStores_extends b.path b.plans c.toHost
  have value := more.readStore_eq tracks.heard
  obtain ⟨stores, made, shape⟩ := c.toHost.instantiate_eq b
  have areas : (c.toHost.instantiate b).2.areas = c.areas := by rw [shape]
  have exhausted : (c.toHost.instantiate b).2.exhausted = c.exhausted := by rw [shape]
  have texts : (c.toHost.instantiate b).2.readText area key = c.readText area key := by
    rw [Host.readText, areas]
    rfl
  have drifts : c.toHost.Drifts area key (c.toHost.instantiate b).2 :=
    .of_listeners (congrArg List.length areas) more.listeners_eq
  exact tracks.drifts drifts value texts exhausted

theorem allows_tracks (told : Prop) (s : StoreId) (id : ListenerId) (area : AreaId)
    (key : String) :
    Allows fun c => c.Tracks told s id area key where
  listen _ t _ tracks := tracks.subscribe t not_false
  forget _ t other tracks :=
    tracks.onStore t (fun _ => rfl) fun store => .forget store.listeners other
  keep _ _ _ tracks := tracks.drifts (.of_listeners rfl fun _ => rfl) rfl rfl rfl
  bindValue _ _ _ tracks := { tracks with }

/-! ## Renders -/

section Renders

variable (registry : AssetRegistry) (report : LoadReport)

/-- A client that tracks a slot, with the site it has loaded. -/
def TracksOn (c : Client) (told : Prop) (s : StoreId) (id : ListenerId) (area : AreaId)
    (key : String) : Prop :=
  c.Tracks told s id area key ∧ c.loaded = some (registry, report)

theorem allows_tracksOn (told : Prop) (s : StoreId) (id : ListenerId) (area : AreaId)
    (key : String) :
    Allows fun c => c.TracksOn registry report told s id area key :=
  (allows_tracks told s id area key).and
    (rerenders_shown fun loaded _ => loaded = some (registry, report)).toAllows

/-- An export that is stored in other slots. -/
theorem bearsExport_tracksOn {name : String}
    (apart : ∀ c : Client, c.TracksOn registry report told s id area key →
      ∀ tier, ¬ (c.area tier = area ∧ c.storageKey name = key)) :
    BearsExport (fun c => c.TracksOn registry report told s id area key) name where
  toAllows := allows_tracksOn registry report told s id area key
  bind _ _ on := ⟨{ on.1 with }, on.2⟩
  record c tier text on := ⟨on.1.writeText (apart c on tier) text, on.2⟩
  slot c t tier on := ⟨on.1.subscribe t (apart c on tier), on.2⟩
  watch _ t on := ⟨on.1.subscribe t not_false, on.2⟩

theorem rerendersWith_tracksOn (told : Prop) (s : StoreId) (id : ListenerId)
    (area : AreaId) (key : String) :
    RerendersWith (fun c => c.TracksOn registry report told s id area key) registry where
  toBearsLayouts := {
    toAllows := allows_tracksOn registry report told s id area key
    exports layout blueprint found plan planned :=
      bearsExport_tracksOn registry report fun _ on =>
        on.1.layouts registry report on.2 layout blueprint found plan planned
    instantiate _ b on := ⟨on.1.instantiate b, on.2⟩
    visit _ _ on := ⟨{ on.1 with }, on.2⟩ }
  enter _ _ on := ⟨{ on.1 with }, on.2⟩
  display _ _ _ on := ⟨{ on.1 with }, on.2⟩

end Renders

theorem requestRender_tracks {n : Nat}
    (keeps : (Reactor.level n).Keeps fun c => c.Tracks told s id area key)
    (focus : Option FocusTarget) :
    Keeps (fun c => c.Tracks told s id area key) (requestRender (.level n) focus) := by
  intro c tracks
  rcases requestRender_exits (.level n) focus c with
    ⟨answer, same⟩ | ⟨m, registry, report, body, -, -, loaded, -, ended⟩
  · rw [same]
    exact tracks
  · have keepsOn := keeps.and (Reactor.level_rerenders
      (rerenders_shown fun loaded _ => loaded = some (registry, report)) n)
    have rerenders := rerendersWith_tracksOn registry report told s id area key
    have rendered := renderPass_keeps rerenders keepsOn body focus c ⟨tracks, loaded⟩
    rw [ended]
    exact { rendered.1 with }

end Client

end LivePages
