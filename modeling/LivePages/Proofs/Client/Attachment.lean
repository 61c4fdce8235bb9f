import LivePages.Proofs.Client.Detached
import LivePages.Proofs.Client.Following

/-!
# Attachments of stores to slots

A store that is attached takes over what its slot holds, or its value is recorded
there.  From then on each change of the store is written to that slot and to no other,
wherever the scope goes, until the listener that keeps the slot is removed.  The other
listeners of the store may do what they like, as long as they neither set it nor store
texts.
-/

namespace LivePages

/-! ## Stored texts -/

/-- A host with the same texts in all areas, and on file. -/
structure Host.SameTexts (before after : Host) : Prop where
  areas : after.areas = before.areas
  file : after.file = before.file

namespace Host.SameTexts

variable {a b c : Host}

theorem refl (h : Host) : h.SameTexts h := ⟨rfl, rfl⟩

theorem trans (first : a.SameTexts b) (second : b.SameTexts c) : a.SameTexts c :=
  ⟨second.areas.trans first.areas, second.file.trans first.file⟩

/-- What is written does not depend on the stores. -/
theorem writeText (same : a.SameTexts b) (area : AreaId) (key text : String) :
    (a.writeText area key text).SameTexts (b.writeText area key text) := by
  obtain ⟨areas, file⟩ := same
  unfold Host.writeText Host.onTexts
  rw [areas]
  cases a.areas[area]? with
  | none => exact ⟨areas, file⟩
  | some stored => exact ⟨rfl, by simp only [file]⟩

end Host.SameTexts

/-- Writes texts to a slot, one after the other. -/
def Host.writeValues (h : Host) (area : AreaId) (key : String) (values : List Value) : Host :=
  values.foldl (fun h v => h.writeText area key (Slot.write v)) h

/-- The reactor by which the listeners of a store are told about a change. -/
def Reactor.onward : Reactor := .level (maxChain - 1)

namespace Client

variable {c d e : Client} {s : StoreId} {area : AreaId} {key : String}

/-- The listeners on a store that keep a slot. -/
def keepers (c : Client) (s : StoreId) (area : AreaId) (key : String) :
    List (ListenerId × Listener) :=
  (c.listeners s).filter fun entry => entry.2.KeepsSlot area key

theorem keepers_write (v : Value) :
    (c.onHost (Host.onStore s fun store => { store with value := v })).keepers s area key =
      c.keepers s area key := by
  rw [keepers, keepers, onHost, Host.listeners_write]

/-- A step that shows neither in a store, nor in what is stored, nor in who keeps the
slot of the store. -/
structure Harmless (s : StoreId) (area : AreaId) (key : String) (c d : Client) : Prop where
  value : d.readStore s = c.readStore s
  texts : c.toHost.SameTexts d.toHost
  keepers : d.keepers s area key = c.keepers s area key

theorem Harmless.refl (c : Client) : Harmless s area key c c := ⟨rfl, .refl _, rfl⟩

theorem Harmless.trans (first : Harmless s area key c d) (second : Harmless s area key d e) :
    Harmless s area key c e :=
  ⟨second.value.trans first.value, first.texts.trans second.texts,
    second.keepers.trans first.keepers⟩

/-- Wherever `P` holds, the listeners of a store are those that keep its slot and
others, which neither set the store nor store texts, nor attach it once more; and what
happens to an attached store does not break `P`. -/
structure Spares (P : Client → Prop) (other : Listener → Prop) (s : StoreId) (area : AreaId)
    (key : String) : Prop where
  listeners : ∀ c, P c → ∀ entry ∈ c.listeners s,
    entry.2.KeepsSlot area key ∨ other entry.2
  reacts : ∀ c listener v, P c → other listener →
    P (c.react .onward listener v) ∧
      Harmless s area key c (c.react .onward listener v)
  write : ∀ c v, P c →
    P (c.onHost (Host.onStore s fun store => { store with value := v }))
  writeText : ∀ c text, P c → P (c.onHost (Host.writeText area key text))
  scope : ∀ (c : Client) scope, P c → P { c with scope }
  subscribe : ∀ c client, P c →
    P (c.askHost (Host.subscribe s (.slot client area key))).2
  unsubscribe : ∀ c id, P c → P (c.onHost (Host.unsubscribe s id))

section Spares

variable {P : Client → Prop} {other : Listener → Prop}
  (spares : Spares P other s area key)

include spares

/-! ## Single changes -/

theorem notify_harmless (v : Value) (entries : List (ListenerId × Listener))
    (others : ∀ entry ∈ entries, other entry.2) (holds : P c) :
    P (c.notify .onward s v entries) ∧
      Harmless s area key c (c.notify .onward s v entries) := by
  refine notify_closed (P := fun d => P d ∧ Harmless s area key c d) s v entries
    (fun entry member d so => ?_) ⟨holds, .refl c⟩
  obtain ⟨kept, harmless⟩ := spares.reacts d entry.2 v so.1 (others entry member)
  exact ⟨kept, so.2.trans harmless⟩

/-- The listeners that do not keep the slot are others. -/
theorem Spares.others (holds : P c) {entries : List (ListenerId × Listener)}
    (inside : ∀ entry ∈ entries, entry ∈ c.listeners s)
    (apart : ∀ entry ∈ entries, ¬ entry.2.KeepsSlot area key) :
    ∀ entry ∈ entries, other entry.2 := fun entry member =>
  (spares.listeners c holds entry (inside entry member)).resolve_left (apart entry member)

/-- A store that is not attached changes without a trace among the stored texts. -/
theorem set_free (holds : P c) (free : c.keepers s area key = []) (v : Value) :
    P (reactor.set s v c) ∧ (reactor.set s v c).keepers s area key = [] ∧
      c.toHost.SameTexts (reactor.set s v c).toHost ∧
      ∀ store, c.stores[s]? = some store → (reactor.set s v c).readStore s = v := by
  change P (c.setStore .onward s v) ∧ (c.setStore .onward s v).keepers s area key = [] ∧
    c.toHost.SameTexts (c.setStore .onward s v).toHost ∧
    ∀ store, c.stores[s]? = some store → (c.setStore .onward s v).readStore s = v
  have written := spares.write c v holds
  have freeOn := (keepers_write (c := c) v).trans free
  rw [setStore]
  have value : ∀ store, c.stores[s]? = some store →
      (c.onHost (Host.onStore s fun store => { store with value := v })).readStore s = v := by
    intro store found
    rw [Host.readStore, onHost, Host.getElem?_onStore found]
    rfl
  have texts : c.toHost.SameTexts
      (c.onHost (Host.onStore s fun store => { store with value := v })).toHost := ⟨rfl, rfl⟩
  generalize c.onHost (Host.onStore s fun store => { store with value := v }) = now at *
  have apart : ∀ entry ∈ now.listeners s, ¬ entry.2.KeepsSlot area key := by
    simpa [keepers, List.filter_eq_nil_iff] using freeOn
  obtain ⟨kept, harmless⟩ := notify_harmless spares v (now.listeners s)
    (spares.others written (fun _ => id) apart) written
  exact ⟨kept, harmless.keepers.trans freeOn, texts.trans harmless.texts,
    fun store found => harmless.value.trans (value store found)⟩

/-- A store that is attached writes its new value to its slot, and nothing else. -/
theorem set_attached {id : ListenerId} {client : Nat} (holds : P c)
    (attached : c.keepers s area key = [(id, .slot client area key)]) (v : Value) :
    P (reactor.set s v c) ∧
      (reactor.set s v c).keepers s area key = [(id, .slot client area key)] ∧
      (c.toHost.writeText area key (Slot.write v)).SameTexts (reactor.set s v c).toHost := by
  change P (c.setStore .onward s v) ∧
    (c.setStore .onward s v).keepers s area key = [(id, .slot client area key)] ∧
    (c.toHost.writeText area key (Slot.write v)).SameTexts (c.setStore .onward s v).toHost
  have written := spares.write c v holds
  have attachedOn := (keepers_write (c := c) v).trans attached
  have texts : c.toHost.SameTexts
      (c.onHost (Host.onStore s fun store => { store with value := v })).toHost := ⟨rfl, rfl⟩
  rw [setStore]
  generalize c.onHost (Host.onStore s fun store => { store with value := v }) = now at *
  -- The listener that keeps the slot has others in front of it and behind it.
  obtain ⟨front, back, listeners, apart, -, rest⟩ := List.filter_eq_cons_iff.1 attachedOn
  have inFront : ∀ entry ∈ front, other entry.2 :=
    spares.others written (fun entry member => by rw [listeners]; simp [member])
      (by simpa using apart)
  have behind : ∀ entry ∈ back, other entry.2 :=
    spares.others written (fun entry member => by rw [listeners]; simp [member])
      (by simpa [List.filter_eq_nil_iff] using rest)
  obtain ⟨kept, harmless⟩ := notify_harmless spares v front inFront written
  rw [listeners, notify_append]
  generalize now.notify .onward s v front = then_ at *
  have subscribed : then_.isSubscribed s id = true := by
    have member : (id, Listener.slot client area key) ∈ then_.keepers s area key := by
      rw [harmless.keepers, attachedOn]
      exact List.mem_cons_self
    exact Host.isSubscribed_of_mem_listeners (List.mem_filter.1 member).1
  have keptOn := spares.writeText then_ (Slot.write v) kept
  obtain ⟨last, harmlessOn⟩ := notify_harmless spares v back behind keptOn
  rw [notify, if_pos subscribed]
  refine ⟨last, harmlessOn.keepers.trans ?_, ?_⟩
  · obtain ⟨areas, file, shape, -⟩ := then_.toHost.writeText_eq area key (Slot.write v)
    rw [keepers, onHost, shape]
    exact harmless.keepers.trans attachedOn
  · exact ((texts.trans harmless.texts).writeText area key (Slot.write v)).trans
      harmlessOn.texts

end Spares

/-! ## Runs -/

/-- A change of a store through one of its handles, with the value it is given, or a
change of the scope.  A value that does not fit changes nothing. -/
inductive Changes (s : StoreId) : Client → Option Value → Client → Prop where
  | set (c : Client) (v : Value) : Changes s c (some v) (reactor.set s v c)
  | update (c : Client) (f : Value → Value) :
    Changes s c (some (f (c.readStore s))) (reactor.set s (f (c.readStore s)) c)
  | setValue (c : Client) (v : Value) :
    Changes s c (c.accept s v).toOption (c.setStoreValue s v).2
  | assign {c : Client} {name : String} (bound : c.bindings.get? name = some (.store s))
    (v : Value) : Changes s c (c.accept s v).toOption (c.assignBinding name v).2
  | scope (c : Client) (route : String) : Changes s c none { c with scope := route }

/-- Changes one after the other, with the values that the store is given. -/
inductive Runs (s : StoreId) : Client → List Value → Client → Prop where
  | start (c : Client) : Runs s c [] c
  | step {c d e : Client} {values : List Value} {v : Option Value}
    (run : Runs s c values d) (change : Changes s d v e) : Runs s c (values ++ v.toList) e

/-- All handles come to the same. -/
theorem Changes.eq {v : Option Value} (change : Changes s c v d) :
    (∃ w, v = some w ∧ d = reactor.set s w c) ∨ (v = none ∧ ∃ scope, d = { c with scope }) := by
  cases change with
  | set v => exact .inl ⟨v, rfl, rfl⟩
  | update f => exact .inl ⟨_, rfl, rfl⟩
  | scope route => exact .inr ⟨rfl, route, rfl⟩
  | setValue v =>
      rw [setStoreValue, offer]
      cases c.accept s v with
      | ok w => exact .inl ⟨w, rfl, rfl⟩
      | error e => exact .inr ⟨rfl, c.scope, rfl⟩
  | assign bound v =>
      rw [assignBinding, Client.assign, bound]
      dsimp only
      rw [offer]
      cases c.accept s v with
      | ok w => exact .inl ⟨w, rfl, rfl⟩
      | error e => exact .inr ⟨rfl, c.scope, rfl⟩

section Runs

variable {P : Client → Prop} {other : Listener → Prop}
  (spares : Spares P other s area key)

include spares

/-- Each change of an attached store is written to its slot, and to no other. -/
theorem Runs.attached {id : ListenerId} {client : Nat} {values : List Value} (holds : P c)
    (attached : c.keepers s area key = [(id, .slot client area key)])
    (run : Runs s c values d) :
    P d ∧ d.keepers s area key = [(id, .slot client area key)] ∧
      (c.toHost.writeValues area key values).SameTexts d.toHost := by
  induction run with
  | start => exact ⟨holds, attached, .refl _⟩
  | @step d e values v run change inductionHypothesis =>
      obtain ⟨kept, attachedOn, texts⟩ := inductionHypothesis
      rcases change.eq with ⟨w, rfl, rfl⟩ | ⟨rfl, scope, rfl⟩
      · obtain ⟨now, attachedNow, written⟩ := set_attached spares kept attachedOn w
        refine ⟨now, attachedNow, ?_⟩
        rw [Option.toList_some, Host.writeValues, List.foldl_append]
        exact (texts.writeText area key (Slot.write w)).trans written
      · rw [Option.toList_none, List.append_nil]
        exact ⟨spares.scope d scope kept, attachedOn, texts⟩

/-- A store that is not attached is not written anywhere. -/
theorem Runs.free {values : List Value} (holds : P c) (free : c.keepers s area key = [])
    (run : Runs s c values d) :
    P d ∧ d.keepers s area key = [] ∧ c.toHost.SameTexts d.toHost := by
  induction run with
  | start => exact ⟨holds, free, .refl _⟩
  | @step d e values v run change inductionHypothesis =>
      obtain ⟨kept, freeOn, texts⟩ := inductionHypothesis
      rcases change.eq with ⟨w, rfl, rfl⟩ | ⟨rfl, scope, rfl⟩
      · obtain ⟨now, freeNow, same, -⟩ := set_free spares kept freeOn w
        exact ⟨now, freeNow, texts.trans same⟩
      · exact ⟨spares.scope d scope kept, freeOn, texts⟩

end Runs

/-! ## Attaching -/

theorem keepers_subscribe {store : Store Listener} (found : c.stores[s]? = some store)
    (client : Nat) :
    (c.askHost (Host.subscribe s (.slot client area key))).2.keepers s area key =
      c.keepers s area key ++ [(store.nextId, .slot client area key)] := by
  have listeners : (Host.subscribe s (.slot client area key) c.toHost).2.listeners s =
      c.listeners s ++ [(store.nextId, .slot client area key)] := by
    rw [Host.subscribe_eq_onStore, Host.listeners, Host.getElem?_onStore found,
      Host.listeners, found]
    rfl
  have keeps : (Listener.slot client area key).KeepsSlot area key := ⟨rfl, rfl⟩
  rw [keepers, keepers]
  change ((Host.subscribe s (.slot client area key) c.toHost).2.listeners s).filter _ = _
  rw [listeners, List.filter_append]
  congr 1
  exact List.filter_cons_of_pos (decide_eq_true keeps)

theorem keepers_unsubscribe {id : ListenerId} {listener : Listener}
    (only : c.keepers s area key = [(id, listener)]) :
    (c.onHost (Host.unsubscribe s id)).keepers s area key = [] := by
  rw [keepers, onHost, listeners_unsubscribe, List.filter_filter]
  have swapped : (c.listeners s).filter (fun entry =>
      entry.2.KeepsSlot area key && decide ((s, entry.1) ≠ (s, id))) =
        (c.keepers s area key).filter fun entry => (s, entry.1) ≠ (s, id) := by
    rw [keepers, List.filter_filter]
    apply List.filter_congr
    intro entry _
    exact Bool.and_comm _ _
  rw [swapped, only]
  simp

section Attach

variable {P : Client → Prop} {other : Listener → Prop}
  (spares : Spares P other s area key)

include spares

/-- What follows once a listener keeps the slot of a store: each change is written
there, until the listener is removed. -/
theorem follows_subscribe {store : Store Listener} (holds : P c)
    (found : c.stores[s]? = some store) (free : c.keepers s area key = []) (client : Nat)
    {values : List Value}
    (run : Runs s (c.askHost (Host.subscribe s (.slot client area key))).2 values d) :
    ((c.askHost (Host.subscribe s (.slot client area key))).2.toHost.writeValues area key
        values).SameTexts d.toHost ∧
      ∀ more e, Runs s (d.onHost (Host.unsubscribe s store.nextId)) more e →
        d.toHost.SameTexts e.toHost := by
  have attached : (c.askHost (Host.subscribe s (.slot client area key))).2.keepers s area
      key = [(store.nextId, .slot client area key)] := by
    rw [keepers_subscribe found, free, List.nil_append]
  obtain ⟨kept, attachedOn, texts⟩ :=
    run.attached spares (spares.subscribe c client holds) attached
  refine ⟨texts, fun more e later => ?_⟩
  have same := (later.free spares (spares.unsubscribe d _ kept)
    (keepers_unsubscribe attachedOn)).2.2
  exact ⟨same.areas, same.file⟩

end Attach

/-- Whether the slot of a name holds something that the store takes, in that form. -/
def SlotOffers (c : Client) (name : String) (tier : Tier) (s : StoreId) (w : Value) : Prop :=
  ∃ raw v, c.readText (c.area tier) (c.storageKey name) = some raw ∧
    Slot.read? raw = some v ∧ c.accept s v = .ok w

theorem slotOffers_iff {name : String} {tier : Tier} {w : Value} :
    c.SlotOffers name tier s w ↔ (c.load? name tier).map (c.accept s) = some (.ok w) := by
  simp only [SlotOffers, load?, Option.map_eq_some_iff, Option.bind_eq_some_iff]
  constructor
  · rintro ⟨raw, v, text, reads, fits⟩
    exact ⟨v, ⟨raw, text, reads⟩, fits⟩
  · rintro ⟨v, ⟨raw, text, reads⟩, fits⟩
    exact ⟨raw, v, text, reads, fits⟩

theorem attachStore_restored {name : String} {tier : Tier} {w : Value}
    (tiered : c.storeTier? name (c.persists s) = some tier)
    (bound : c.bindings.get? name = some (.store s)) (offers : c.SlotOffers name tier s w) :
    c.attachStore reactor name s =
      let (id, d) := (reactor.set s w c).askHost
        (Host.subscribe s (.slot c.number (c.area tier) (c.storageKey name)))
      (some id, d) := by
  have tierOf : c.storeTier? name ((c.stores[s]?).any Store.persist) = some tier := tiered
  have retains : c.Retains (reactor.set s w c) :=
    (reactor_keeps_retains c).set s w c (.refl c)
  unfold attachStore
  rw [tierOf]
  dsimp only
  rw [restore_of_bound reactor tier bound, slotOffers_iff.1 offers]
  dsimp only
  rw [if_pos rfl, area_eq retains, storageKey_eq retains, retains.number]

theorem attachStore_recorded {name : String} {tier : Tier}
    (tiered : c.storeTier? name (c.persists s) = some tier)
    (bound : c.bindings.get? name = some (.store s))
    (unfit : ∀ w, ¬ c.SlotOffers name tier s w) :
    c.attachStore reactor name s =
      let (id, d) := (c.onHost (Host.writeText (c.area tier) (c.storageKey name)
          (Slot.write (c.readStore s)))).askHost
        (Host.subscribe s (.slot c.number (c.area tier) (c.storageKey name)))
      (some id, d) := by
  have tierOf : c.storeTier? name ((c.stores[s]?).any Store.persist) = some tier := tiered
  have kept : c.restore reactor name tier = (false, c) := by
    rw [restore_of_bound reactor tier bound]
    cases outcome : (c.load? name tier).map (c.accept s) with
    | none => rfl
    | some result =>
        cases result with
        | error e => rfl
        | ok w => exact absurd (slotOffers_iff.2 outcome) (unfit w)
  unfold attachStore
  rw [tierOf]
  dsimp only
  rw [kept]
  dsimp only
  rw [if_neg Bool.false_ne_true, record_bound bound]
  rfl

/-- Attaching a store that is bound to a name, and not attached yet.  If its slot holds
something that the store takes, the store holds it afterwards, and all slots are as they
were.  If not, the value of the store is written to the slot, nobody is told, and
nothing else changes but that there is one more listener.  Whatever changes of the
store and of the scope come after that, each of the values that the store is given is
written to the same slot, and to no other; and once the listener has been removed,
further changes are not written anywhere. -/
theorem attachStore_follows {P : Client → Prop} {other : Listener → Prop} {name : String}
    {tier : Tier} {store : Store Listener} (found : c.stores[s]? = some store)
    (tiered : c.storeTier? name store.persist = some tier)
    (bound : c.bindings.get? name = some (.store s))
    (spares : Spares P other s (c.area tier) (c.storageKey name)) (holds : P c)
    (alone : c.keepers s (c.area tier) (c.storageKey name) = []) :
    ∃ id d, c.attachStore reactor name s = (some id, d) ∧
      (∀ w, c.SlotOffers name tier s w →
        d.readStore s = w ∧ c.toHost.SameTexts d.toHost) ∧
      ((∀ w, ¬ c.SlotOffers name tier s w) →
        d = c.onHost fun h =>
          ((h.writeText (c.area tier) (c.storageKey name)
            (Slot.write (c.readStore s))).subscribe s
              (.slot c.number (c.area tier) (c.storageKey name))).2) ∧
      ∀ values e, Runs s d values e →
        (d.toHost.writeValues (c.area tier) (c.storageKey name) values).SameTexts
            e.toHost ∧
          ∀ more f, Runs s (e.onHost (Host.unsubscribe s id)) more f →
            e.toHost.SameTexts f.toHost := by
  have tieredOn : c.storeTier? name (c.persists s) = some tier := by
    rw [Host.persists, found]
    exact tiered
  by_cases offered : ∃ w, c.SlotOffers name tier s w
  · obtain ⟨w, offers⟩ := offered
    obtain ⟨kept, free, texts, value⟩ := set_free spares holds alone w
    have retains : c.Retains (reactor.set s w c) :=
      (reactor_keeps_retains c).set s w c (.refl c)
    obtain ⟨now, foundOn, -, -⟩ := retains.host.stores s store found
    have attached := attachStore_restored tieredOn bound offers
    have number : (Host.subscribe s (.slot c.number (c.area tier) (c.storageKey name))
        (reactor.set s w c).toHost).1 = now.nextId := by
      rw [Host.subscribe, foundOn]
      rfl
    refine ⟨now.nextId, _, attached.trans (congrArg (fun id => (some id, _)) number),
      fun w' offersToo => ?_, fun unfit => absurd offers (unfit w), fun values e run =>
        follows_subscribe spares kept foundOn free c.number run⟩
    have same : w' = w := by
      have either := (slotOffers_iff.1 offersToo).symm.trans (slotOffers_iff.1 offers)
      exact Except.ok.inj (Option.some.inj either)
    have shape := Host.subscribe_eq_onStore (h := (reactor.set s w c).toHost) s
      (.slot c.number (c.area tier) (c.storageKey name))
    constructor
    · change (Host.subscribe s _ (reactor.set s w c).toHost).2.readStore s = w'
      rw [shape, Host.readStore_onStore, value store found, same]
      exact fun _ => rfl
    · change c.toHost.SameTexts (Host.subscribe s _ (reactor.set s w c).toHost).2
      rw [shape]
      exact ⟨texts.areas, texts.file⟩
  · have unfit : ∀ w, ¬ c.SlotOffers name tier s w := fun w offers => offered ⟨w, offers⟩
    have attached := attachStore_recorded tieredOn bound unfit
    have kept := spares.writeText c (Slot.write (c.readStore s)) holds
    obtain ⟨areas, file, shape, -⟩ := c.toHost.writeText_eq (c.area tier)
      (c.storageKey name) (Slot.write (c.readStore s))
    have foundOn : (c.onHost (Host.writeText (c.area tier) (c.storageKey name)
        (Slot.write (c.readStore s)))).stores[s]? = some store := by
      rw [onHost, shape]
      exact found
    have free : (c.onHost (Host.writeText (c.area tier) (c.storageKey name)
        (Slot.write (c.readStore s)))).keepers s (c.area tier) (c.storageKey name) = [] := by
      rw [keepers, onHost, shape]
      exact alone
    have number : (Host.subscribe s (.slot c.number (c.area tier) (c.storageKey name))
        (c.onHost (Host.writeText (c.area tier) (c.storageKey name)
          (Slot.write (c.readStore s)))).toHost).1 = store.nextId := by
      rw [Host.subscribe, foundOn]
      rfl
    exact ⟨store.nextId, _, attached.trans (congrArg (fun id => (some id, _)) number),
      fun w offers => absurd offers (unfit w), fun _ => rfl, fun values e run =>
        follows_subscribe spares kept foundOn free c.number run⟩

/-! ## Listeners that keep to other stores -/

/-- Listeners that act on some other stores, where everybody acts on these only, neither
set the store nor store texts. -/
theorem spares_of_encloses {scope : StoreId → Prop} (outside : ¬ scope s) :
    Spares (fun c => c.Encloses scope ∧
        ∀ entry ∈ c.listeners s, entry.2.KeepsSlot area key ∨ entry.2.Within scope)
      (Listener.Within scope) s area key where
  listeners _ holds := holds.2
  reacts c listener v holds within := by
    cases listener with
    | slot client area key => exact within.elim
    | rerender client => exact within.elim
    | host react =>
        have confined := (react v).run_confined (Reactor.level_confines scope (maxChain - 1))
          (within v) (.refl holds.1)
        have store := confined.untouched.others s outside
        have frame := confined.untouched.frame
        rw [Client.react, Reactor.onward]
        generalize ((react v).run (Reactor.level (maxChain - 1)) c).2 = d at *
        have listeners : d.listeners s = c.listeners s := by
          rw [Host.listeners, Host.listeners, store]
        refine ⟨⟨confined.encloses, listeners ▸ holds.2⟩, ?_, ⟨?_, ?_⟩, ?_⟩
        · rw [Host.readStore, Host.readStore, store]
        · rw [frame]
        · rw [frame]
        · rw [keepers, keepers, listeners]
  write c v holds := by
    refine ⟨fun t inside entry member => ?_, fun entry member => ?_⟩
    · rw [onHost, Host.listeners_write] at member
      exact holds.1 t inside entry member
    · rw [onHost, Host.listeners_write] at member
      exact holds.2 entry member
  writeText c text holds := by
    obtain ⟨areas, file, shape, -⟩ := c.toHost.writeText_eq area key text
    rw [onHost, shape]
    exact holds
  scope _ _ holds := holds
  subscribe c client holds := by
    refine ⟨fun t inside entry member => ?_, fun entry member => ?_⟩
    · have apart : s ≠ t := fun same => outside (same ▸ inside)
      change entry ∈ (Host.subscribe s (.slot client area key) c.toHost).2.listeners t
        at member
      rw [Host.subscribe_eq_onStore, Host.listeners, Host.onStore,
        List.getElem?_modify_ne _ _ apart] at member
      exact holds.1 t inside entry member
    · rcases Host.mem_listeners_subscribe member with old | new
      · exact holds.2 entry old
      · exact .inl (by rw [new]; exact ⟨rfl, rfl⟩)
  unsubscribe c id holds := by
    refine ⟨fun t inside entry member => ?_, fun entry member => ?_⟩
    · rw [onHost, listeners_unsubscribe] at member
      exact holds.1 t inside entry (List.mem_filter.1 member).1
    · rw [onHost, listeners_unsubscribe] at member
      exact holds.2 entry (List.mem_filter.1 member).1

/-- A client with a durable slot, and a store whose listener copies each value to another
store. -/
def copying : Client :=
  let copy : Listener := .host fun v => .write 1 v fun _ => .return .null
  let store : Store Listener := ((Store.new .integer (.int 0) true).subscribe copy).2
  { (bare {}).bind "count" (.store 0) with
    stores := [store, Store.new .any .null false]
    scope := "/blog"
    areas := [⟨[], false⟩, ⟨[("/blog/count", "7")], false⟩] }

/-- It takes the stored number over, writes the next one to the same slot although the
scope has changed, and nothing once the listener is gone. -/
theorem attachStore_follows_copying :
    copying.keepers 0 1 "/blog/count" = [] ∧ copying.SlotOffers "count" .durable 0 (.int 7) ∧
      ∃ id d, copying.attachStore reactor "count" 0 = (some id, d) ∧
        d.readStore 0 = .int 7 ∧
        let e := reactor.set 0 (.int 8) { d with scope := "/about" }
        e.readText 1 "/blog/count" = some "8" ∧
        (reactor.set 0 (.int 9) (e.onHost (Host.unsubscribe 0 id))).readText 1
          "/blog/count" = some "8" := by
  have outside : ¬ (0 : StoreId) = 1 := by decide
  have spares : Spares _ (Listener.Within (· = 1)) 0 1 "/blog/count" :=
    spares_of_encloses outside
  have encloses : copying.Encloses (· = 1) := by
    rintro s rfl entry member
    cases member
  have within : ∀ entry ∈ copying.listeners 0,
      entry.2.KeepsSlot 1 "/blog/count" ∨ entry.2.Within (· = 1) := by
    intro entry member
    cases List.mem_singleton.1 member
    exact .inr fun v => ⟨rfl, fun _ => trivial⟩
  have alone : copying.keepers 0 1 "/blog/count" = [] := by decide +kernel
  have offers : copying.SlotOffers "count" .durable 0 (.int 7) :=
    ⟨"7", .int 7, by decide +kernel, rfl, rfl⟩
  have bound : copying.bindings.get? "count" = some (.store 0) := rfl
  have tiered : copying.storeTier? "count" true = some .durable := rfl
  obtain ⟨id, d, attached, restores, -, follows⟩ :=
    attachStore_follows rfl tiered bound spares ⟨encloses, within⟩ alone
  obtain ⟨value, texts⟩ := restores (.int 7) offers
  refine ⟨alone, offers, id, d, attached, value, ?_⟩
  have moved : Runs 0 d [] { d with scope := "/about" } := .step (.start d) (.scope d "/about")
  have changed := Runs.step moved (.set { d with scope := "/about" } (.int 8))
  obtain ⟨written, unwritten⟩ := follows _ _ changed
  have later := unwritten _ _ (.step (.start _) (.set _ (.int 9)))
  have area : 1 < d.areas.length := by
    rw [texts.areas]
    decide
  have text : (reactor.set 0 (.int 8) { d with scope := "/about" }).readText 1
      "/blog/count" = some "8" := by
    rw [Host.readText, written.areas]
    exact Host.readText_writeText area "/blog/count" "8"
  refine ⟨text, ?_⟩
  rw [Host.readText, later.areas]
  exact text

end Client

end LivePages
