import LivePages.Proofs.Client.Retention
import LivePages.Proofs.Json.RoundTrip

/-!
# What a slot brings back

Once a store is attached to its slot, the slot follows the store, whoever else
listens to it: the listener that keeps the slot is the last to be called, and nothing
that the others do removes it.  A store that is attached to the slot afterwards takes
the value over, unless the value is a text that reads as something else.
-/

namespace LivePages

/-- The values of a kind of store that hold no floats. -/
inductive Value.IsOf : StoreType → Value → Prop where
  | integer (n : Int) (low : -0x8000000000000000 ≤ n) (high : n < 0x8000000000000000) :
    Value.IsOf .integer (.int n)
  | boolean (b : Bool) : Value.IsOf .boolean (.bool b)
  | text (text : String) : Value.IsOf .text (.str text)
  | integers (ns : List Int)
    (range : ∀ n ∈ ns, -0x8000000000000000 ≤ n ∧ n < 0x8000000000000000) :
    Value.IsOf .integers (.arr (ns.map .int))
  | any (v : Value) (isJson : v.isJson Json.maxDepth = true) : Value.IsOf .any v

theorem toIntegers_map (ns : List Int) (high : ∀ n ∈ ns, n < 0x8000000000000000) :
    StoreType.toIntegers (ns.map .int) = .ok (ns.map .int) := by
  induction ns with
  | nil => rfl
  | cons n ns inductionHypothesis =>
      have first : StoreType.toInteger (.int n) = .ok (.int n) :=
        if_pos (high n List.mem_cons_self)
      have later := inductionHypothesis fun m member =>
        high m (List.mem_cons_of_mem _ member)
      rw [List.map_cons, StoreType.toIntegers, first, later]

theorem areJson_map (depth : Nat) (ns : List Int)
    (integers : ∀ n ∈ ns, Json.IsInteger n) :
    Value.areJson depth (ns.map .int) = true := by
  induction ns with
  | nil => rfl
  | cons n ns inductionHypothesis =>
      have first : (Value.int n).isJson depth = true :=
        decide_eq_true (integers n List.mem_cons_self)
      have later := inductionHypothesis fun m member =>
        integers m (List.mem_cons_of_mem _ member)
      rw [List.map_cons, Value.areJson, first, later]
      rfl

theorem isInteger_of_range {n : Int}
    (range : -0x8000000000000000 ≤ n ∧ n < 0x8000000000000000) : Json.IsInteger n :=
  ⟨range.1, by omega⟩

/-- A store of the kind holds the value in this very form. -/
theorem Value.IsOf.accepts {type : StoreType} {v : Value} (isOf : v.IsOf type) :
    type.accept v = .ok v := by
  cases isOf with
  | integer n low high => exact if_pos high
  | boolean b => rfl
  | text text => rfl
  | integers ns range =>
      rw [StoreType.accept, toIntegers_map ns fun n member => (range n member).2]
      rfl
  | any v isJson => rfl

theorem Value.IsOf.isJson {type : StoreType} {v : Value} (isOf : v.IsOf type) :
    v.isJson Json.maxDepth = true := by
  cases isOf with
  | integer n low high => exact decide_eq_true (isInteger_of_range ⟨low, high⟩)
  | boolean b => rfl
  | text text => rfl
  | integers ns range =>
      exact areJson_map _ ns fun n member => isInteger_of_range (range n member)
  | any v isJson => exact isJson

namespace Host

variable {h : Host}

theorem readText_writeText {area : AreaId} (inside : area < h.areas.length)
    (key text : String) :
    (h.writeText area key text).readText area key = some text := by
  have found : h.areas[area]? = some h.areas[area] := List.getElem?_eq_getElem inside
  have written : (h.writeText area key text).areas[area]? =
      some { h.areas[area] with texts := Table.insert key text h.areas[area].texts } := by
    rw [writeText, onTexts, found]
    exact List.getElem?_set_self inside
  rw [readText, written, Option.bind_some, Table.get?_insert, if_pos rfl]

theorem getElem?_onStore {s : StoreId} {store : Store Listener}
    (found : h.stores[s]? = some store) (change : Store Listener → Store Listener) :
    (h.onStore s change).stores[s]? = some (change store) := by
  rw [onStore, List.getElem?_modify_eq, found]
  rfl

theorem isSubscribed_of_mem {s : StoreId} {store : Store Listener}
    (found : h.stores[s]? = some store) {entry : ListenerId × Listener}
    (member : entry ∈ store.listeners) : h.isSubscribed s entry.1 = true := by
  rw [isSubscribed, found, Option.any_some, Store.isSubscribed]
  exact List.any_eq_true.2 ⟨entry, member, decide_eq_true rfl⟩

end Host

namespace Client

variable {c d : Client} {r : Reactor}

theorem notify_append (r : Reactor) (s : StoreId) (v : Value)
    (first second : List (ListenerId × Listener)) (c : Client) :
    c.notify r s v (first ++ second) = (c.notify r s v first).notify r s v second := by
  induction first generalizing c with
  | nil => rfl
  | cons entry first inductionHypothesis =>
      rw [List.cons_append, notify, notify, inductionHypothesis]

theorem storageKey_eq (retains : c.Retains d) (name : String) :
    d.storageKey name = c.storageKey name := by
  rw [storageKey, storageKey, retains.scope]

theorem area_eq (retains : c.Retains d) (tier : Tier) : d.area tier = c.area tier := by
  cases tier with
  | session => exact retains.session
  | durable => exact retains.durable

/-- Attaching a store ends with the listener that keeps its slot. -/
theorem attachStore_eq (keeps : r.Keeps c.Retains) {name : String} {s : StoreId}
    {tier : Tier} (tiered : c.storeTier? name (c.persists s) = some tier) :
    ∃ d, c.Retains d ∧ (c.attachStore r name s).2 =
      d.onHost (Host.onStore s fun store =>
        (store.subscribe (.slot c.number (c.area tier) (c.storageKey name))).2) := by
  have restored := restore_retains keeps name tier (.refl c)
  generalize recorded : (if (c.restore r name tier).1 then (c.restore r name tier).2
    else (c.restore r name tier).2.record name
      ((c.restore r name tier).2.readStore s) tier) = d
  have retains : c.Retains d := by
    rw [← recorded]
    by_cases done : (c.restore r name tier).1 = true
    · rw [if_pos done]
      exact restored
    · rw [if_neg done]
      exact record_retains name _ tier restored
  refine ⟨d, retains, ?_⟩
  have tierOf : c.storeTier? name ((c.stores[s]?).any Store.persist) = some tier := tiered
  unfold attachStore
  rw [tierOf]
  dsimp only
  rw [recorded, area_eq retains, storageKey_eq retains, retains.number]
  exact congrArg (fun h => { d with toHost := h }) (d.toHost.subscribe_eq_onStore s _)

/-- A slot whose listener is called last holds the value of its store in the end. -/
theorem readText_setStore (keeps : ∀ base : Client, r.Keeps base.Retains) {s : StoreId}
    {store : Store Listener} (found : c.stores[s]? = some store)
    {others : List (ListenerId × Listener)} {id : ListenerId} {client : Nat}
    {area : AreaId} {key : String}
    (last : store.listeners = others ++ [(id, .slot client area key)])
    (inside : area < c.areas.length) (v : Value) :
    (c.setStore r s v).readText area key = some (Slot.write v) := by
  generalize start : c.onHost (Host.onStore s fun store =>
    { store with value := v }) = written
  have stored : written.stores[s]? = some { store with value := v } := by
    rw [← start]
    exact Host.getElem?_onStore found _
  have listeners : written.listeners s = others ++ [(id, .slot client area key)] := by
    rw [Host.listeners, stored, ← last]
    rfl
  have told : written.Retains (written.notify r s v others) :=
    notify_closed s v others
      (fun entry _ d retains =>
        react_keeps (endures_retains written) (keeps written) entry.2 v retains)
      (.refl written)
  generalize after : written.notify r s v others = d at told
  obtain ⟨kept, foundKept, -, stays⟩ := told.host.stores s _ stored
  have member : (id, Listener.slot client area key) ∈ kept.listeners := by
    apply stays
    · rw [last]
      exact List.mem_append_right _ List.mem_cons_self
    · rfl
  have subscribed : d.isSubscribed s id = true :=
    Host.isSubscribed_of_mem foundKept member
  have insideOn : area < d.areas.length := by
    have count := told.host.areas
    rw [← start] at count
    exact count ▸ inside
  have result : c.setStore r s v = d.onHost (Host.writeText area key (Slot.write v)) := by
    rw [setStore, start, listeners, notify_append, after, notify, if_pos subscribed]
    rfl
  rw [result]
  exact Host.readText_writeText insideOn key _

theorem reactor_keeps_retains (base : Client) : reactor.Keeps base.Retains :=
  Reactor.level_retains base maxChain

/-- Once a store has been attached and given a value, its slot holds the text of the
value. -/
theorem readText_setStoreValue {name : String} {s : StoreId} {tier : Tier}
    {store : Store Listener} (stored : c.stores[s]? = some store)
    (tiered : c.storeTier? name store.persist = some tier)
    (inside : c.area tier < c.areas.length) {v : Value}
    (accepts : store.type.accept v = .ok v) :
    ∃ kept, (c.attachStore reactor name s).2.setStoreValue s v = (.ok (), kept) ∧
      kept.readText (c.area tier) (c.storageKey name) = some (Slot.write v) := by
  have tierOf : c.storeTier? name (c.persists s) = some tier := by
    rw [Host.persists, stored]
    exact tiered
  obtain ⟨d, retains, attached⟩ := attachStore_eq (reactor_keeps_retains c) tierOf
  obtain ⟨kept, foundKept, type, -⟩ := retains.host.stores s store stored
  rw [attached]
  generalize shape : d.onHost (Host.onStore s fun store => (store.subscribe
    (.slot c.number (c.area tier) (c.storageKey name))).2) = e
  have found : e.stores[s]? = some (kept.subscribe
      (.slot c.number (c.area tier) (c.storageKey name))).2 := by
    rw [← shape]
    exact Host.getElem?_onStore foundKept _
  have acceptsOn : e.accept s v = .ok v := by
    rw [Host.accept, found, ← accepts, ← type]
    rfl
  have insideOn : c.area tier < e.areas.length := by
    rw [← shape]
    exact retains.host.areas ▸ inside
  refine ⟨reactor.set s v e, ?_, ?_⟩
  · rw [setStoreValue, offer, acceptsOn]
  · exact readText_setStore (fun base => Reactor.level_retains base 999) found rfl
      insideOn v

/-! ## Attaching a fresh store -/

/-- Makes a store, binds it to a name and attaches it to its slot. -/
def openStore (name : String) (type : StoreType) (initial : Value) (persist : Bool)
    (c : Client) : StoreId × Client :=
  let (s, c) := c.askHost (Host.addStore (Store.new type initial persist))
  (s, ((c.bind name (.store s)).attachStore reactor name s).2)

/-- A store that nobody listens to is given a value, and no more happens. -/
theorem set_unheard {s : StoreId} (unheard : c.listeners s = []) (v : Value) :
    reactor.set s v c =
      c.onHost (Host.onStore s fun store => { store with value := v }) := by
  have quiet := Host.listeners_write (h := c.toHost) s v s
  rw [unheard] at quiet
  change c.setStore (Reactor.level 999) s v = _
  rw [setStore, onHost, quiet]
  rfl

theorem restore_unheard {name : String} {tier : Tier} {v : Value} {s : StoreId}
    (loaded : c.load? name tier = some v)
    (isBound : c.bindings.get? name = some (.store s)) (accepts : c.accept s v = .ok v)
    (unheard : c.listeners s = []) :
    c.restore reactor name tier =
      (true, c.onHost (Host.onStore s fun store => { store with value := v })) := by
  rw [restore, loaded]
  dsimp only
  rw [assign, isBound]
  dsimp only
  rw [offer, accepts]
  dsimp only
  rw [set_unheard unheard]
  rfl

/-- A store that nobody listens to takes over what its slot holds, if that fits. -/
theorem readStore_attachStore {name : String} {tier : Tier} {v : Value} {s : StoreId}
    {store : Store Listener} (found : c.stores[s]? = some store)
    (tiered : c.storeTier? name store.persist = some tier)
    (restored : c.restore reactor name tier =
      (true, c.onHost (Host.onStore s fun store => { store with value := v }))) :
    (c.attachStore reactor name s).2.readStore s = v := by
  have tierOf : c.storeTier? name ((c.stores[s]?).any Store.persist) = some tier := by
    rw [found]
    exact tiered
  have attached : (c.attachStore reactor name s).2 = c.onHost fun h =>
      (h.onStore s fun store => { store with value := v }).onStore s fun store =>
        (store.subscribe (.slot c.number (c.area tier) (c.storageKey name))).2 := by
    unfold attachStore
    rw [tierOf]
    dsimp only
    rw [restored]
    exact congrArg (fun h => { c with toHost := h }) (Host.subscribe_eq_onStore s _)
  have holds := Host.getElem?_onStore (Host.getElem?_onStore found fun store =>
    { store with value := v }) fun store =>
      (store.subscribe (.slot c.number (c.area tier) (c.storageKey name))).2
  rw [attached, Host.readStore, onHost, holds]
  rfl

/-- A fresh store takes over what its slot holds, if that fits. -/
theorem openStore_reads {name : String} {tier : Tier} {v : Value}
    (loaded : c.load? name tier = some v) {persist : Bool}
    (tiered : c.storeTier? name persist = some tier) {type : StoreType}
    (accepts : type.accept v = .ok v) (initial : Value) :
    (c.openStore name type initial persist).2.readStore
      (c.openStore name type initial persist).1 = v := by
  generalize isNew : (Store.new type initial persist : Store Listener) = new
  generalize shape : ({ c with stores := c.stores ++ [new] }).bind name
    (.store c.stores.length) = bound
  have opened : c.openStore name type initial persist =
      (c.stores.length, (bound.attachStore reactor name c.stores.length).2) := by
    rw [← shape, ← isNew]
    rfl
  have found : bound.stores[c.stores.length]? = some new := by
    rw [← shape]
    exact List.getElem?_concat_length
  have unheard : bound.listeners c.stores.length = [] := by
    rw [Host.listeners, found, ← isNew]
    rfl
  have acceptsNew : bound.accept c.stores.length v = .ok v := by
    rw [Host.accept, found, ← isNew]
    exact accepts
  have isBound : bound.bindings.get? name = some (.store c.stores.length) := by
    rw [← shape, bind, Table.get?_insert, if_pos rfl]
  have loadedNew : bound.load? name tier = some v := by
    rw [← shape]
    exact loaded
  have tieredNew : bound.storeTier? name new.persist = some tier := by
    rw [← isNew, ← shape]
    exact tiered
  have restored := restore_unheard loadedNew isBound acceptsNew unheard
  rw [opened]
  exact readStore_attachStore found tieredNew restored

/-- What a store was given after it was attached to its slot, a fresh store of its
type holds once it is attached to the slot in turn, whatever it held at first and
whoever else listens to the first store. -/
theorem openStore_restores (c later : Client) {name : String} {s : StoreId}
    {tier : Tier} {store : Store Listener} (stored : c.stores[s]? = some store)
    (tiered : c.storeTier? name store.persist = some tier)
    (inside : c.area tier < c.areas.length) {v : Value} (isOf : v.IsOf store.type)
    (plain : ∀ text, v = .str text → Slot.KeepsText text) :
    ∃ kept, (c.attachStore reactor name s).2.setStoreValue s v = (.ok (), kept) ∧
      ∀ persist initial, later.storeTier? name persist = some tier →
        later.readText (later.area tier) (later.storageKey name) =
          kept.readText (c.area tier) (c.storageKey name) →
        (later.openStore name store.type initial persist).2.readStore
          (later.openStore name store.type initial persist).1 = v := by
  obtain ⟨kept, given, text⟩ :=
    readText_setStoreValue stored tiered inside isOf.accepts
  refine ⟨kept, given, fun persist initial tieredLater sameText => ?_⟩
  have loaded : later.load? name tier = some v := by
    rw [load?, sameText, text]
    exact Slot.read?_write isOf.isJson plain
  exact openStore_reads loaded tieredLater isOf.accepts initial

/-- A list of notes survives that is attached for the second time, so that two
listeners keep the one slot. -/
theorem openStore_restores_notes :
    let c := ((Client.bare {}).openStore "notes" .any .null true).2
    let notes := Value.arr [.str "42", .obj [("a \"b\"", .int (-7)), ("c", .null)]]
    let kept := ((c.attachStore reactor "notes" 0).2.setStoreValue 0 notes).2
    (kept.openStore "notes" .any (.bool true) true).2.readStore
      (kept.openStore "notes" .any (.bool true) true).1 = notes := by
  intro c notes kept
  let attached : Store Listener :=
    ⟨.any, .null, true, [(0, .slot 0 1 "//notes")], 1⟩
  have stored : c.stores[0]? = some attached := rfl
  have tiered : c.storeTier? "notes" attached.persist = some .durable := rfl
  have inside : c.area .durable < c.areas.length := Nat.lt_succ_self 1
  have isOf : notes.IsOf attached.type := .any notes rfl
  have any : attached.type = .any := rfl
  have plain : ∀ text, notes = .str text → Slot.KeepsText text := by
    intro text isText
    exact nomatch (show Value.arr _ = .str text from isText)
  obtain ⟨given, done, restores⟩ :=
    openStore_restores c kept stored tiered inside isOf plain
  have same : kept = given := congrArg Prod.snd done
  have area : kept.area .durable = c.area .durable := rfl
  have key : kept.storageKey "notes" = c.storageKey "notes" := rfl
  have tieredLater : kept.storeTier? "notes" true = some .durable := rfl
  clear_value c notes kept attached
  rw [any] at restores
  subst same
  exact restores true (.bool true) tieredLater (by rw [area, key])

/-- A text that reads as a number is not taken over by a store of texts, nor is the
empty text: the fresh store keeps what it held at first. -/
theorem openStore_loses_numeral :
    let (s, first) := (Client.bare {}).openStore "_theme" .text (.str "a") false
    (first.setStoreValue s (.str "42")).1 = .ok () ∧
      (first.setStoreValue s (.str "")).1 = .ok () ∧
      (let (fresh, later) :=
        (first.setStoreValue s (.str "42")).2.openStore "_theme" .text (.str "x") false
      later.readStore fresh = .str "x") ∧
      (let (fresh, later) :=
        (first.setStoreValue s (.str "")).2.openStore "_theme" .text (.str "x") false
      later.readStore fresh = .str "x") :=
  ⟨rfl, rfl, rfl, rfl⟩

end Client

end LivePages
