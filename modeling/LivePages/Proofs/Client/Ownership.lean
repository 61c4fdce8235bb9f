import LivePages.Proofs.Client.Binding

/-!
# What a client holds

A client holds listeners on stores, and its table of bindings refers to stores
and functions, on account of the exports that it has bound.  The account is kept
from one export to the next: while it is bound, actions may run and change what
they like, but they neither touch the listeners of the client nor bind anything
but values.
-/

namespace LivePages

/-- Whether a binding refers to something that a module has made. -/
def Binding.isReference : Binding → Bool
  | .value _ => false
  | _ => true

/-- The export that a binding is made from. -/
def Binding.toExport : Binding → Export
  | .value v => .value v
  | .store s => .store s
  | .function f => .function f

theorem Host.Quiet.trans {number : Nat} {a b c : Host} (first : a.Quiet number b)
    (second : b.Quiet number c) :
    a.Quiet number c where
  held s := (second.held s).trans (first.held s)
  persists s := (second.persists s).trans (first.persists s)
  count := second.count.trans first.count
  made := second.made.trans first.made

namespace Client

/-! ## Changes by actions -/

/-- A client that differs only in what actions can change. -/
structure Stays (before after : Client) : Prop where
  frame : after = { before with toHost := after.toHost, bindings := after.bindings }
  quiet : before.toHost.Quiet before.number after.toHost
  references : ∀ name b, after.bindings.get? name = some b →
    b.isReference = true → before.bindings.get? name = some b

namespace Stays

variable {c d e : Client}

theorem number_eq (stays : c.Stays d) : d.number = c.number := by
  rw [stays.frame]

theorem refl (c : Client) : c.Stays c :=
  ⟨rfl, .of_stores rfl rfl, fun _ _ found _ => found⟩

theorem trans (first : c.Stays d) (second : d.Stays e) : c.Stays e where
  frame := by
    rw [second.frame, first.frame]
  quiet := first.quiet.trans (first.number_eq ▸ second.quiet)
  references name b found refers :=
    first.references name b (second.references name b found refers) refers

theorem host {h : Host} (quiet : c.toHost.Quiet c.number h) :
    c.Stays { c with toHost := h } :=
  ⟨rfl, quiet, fun _ _ found _ => found⟩

theorem bindValue (c : Client) (name : String) (v : Value) :
    c.Stays (c.bindValue name v) where
  frame := rfl
  quiet := .of_stores rfl rfl
  references other b found refers := by
    rw [Client.bindValue, bind, Table.get?_insert] at found
    by_cases same : name = other
    · rw [if_pos same] at found
      cases found
      cases refers
    · rwa [if_neg same] at found

end Stays

end Client

/-- What holds of a client whatever actions change endures them. -/
theorem Endures.of_stays {P : Client → Prop}
    (closed : ∀ c d, c.Stays d → P c → P d) : Endures P :=
  Survives.endures
    { host := fun c _ quiet holds => closed c _ (.host quiet) holds
      bindValue := fun c name v holds => closed c _ (.bindValue c name v) holds }

/-- A reactor that changes a client no further than actions can, while a page is
being shown. -/
def Reactor.Steady (r : Reactor) : Prop :=
  ∀ c : Client, c.state ≠ .idle → r.Keeps c.Stays

theorem Client.endures_stays (c : Client) : Endures c.Stays :=
  .of_stays fun _ _ step stays => stays.trans step

theorem Reactor.level_steady (n : Nat) : (Reactor.level n).Steady := by
  intro c busy
  apply Reactor.level_keeps_busy c.endures_stays
  intro d stays
  have same : d.state = c.state := by rw [stays.frame]
  rwa [same]

namespace Client

/-! ## The account -/

/-- The listeners that a client holds on account of an export: one that renders
the page again, and one that keeps the slot if the export has a tier. -/
def posts (c : Client) : String × Export → List (StoreId × Listener)
  | (name, .store s) =>
    let slot := (c.storeTier? name (c.persists s)).map fun tier =>
      Listener.slot c.number (c.area tier) (c.storageKey name)
    (slot.toList ++ [Listener.rerender c.number]).map fun listener => (s, listener)
  | _ => []

/-- A listener that a client holds, with its store. -/
structure Post where
  store : StoreId
  id : ListenerId
  listener : Listener

/-- The listeners that a client holds are these. -/
def Holds (c : Client) (posts : List Post) : Prop :=
  ∀ s, c.held c.number s =
    (posts.filter fun post => post.store = s).map fun post => (post.id, post.listener)

/-- The bindings refer to exports among these only. -/
def Refers (c : Client) (live : List (String × Export)) : Prop :=
  ∀ name b, c.bindings.get? name = some b → b.isReference = true →
    (name, b.toExport) ∈ live

/-- A client that holds just what it should on account of these exports, and
whose visit knows all of it. -/
structure Owns (c : Client) (live : List (String × Export)) (visit : Visit) :
    Prop where
  holds : ∃ held : List Post, c.Holds held ∧
    held.map (fun post => (post.store, post.id)) = visit.subscriptions ∧
    held.map (fun post => (post.store, post.listener)) = live.flatMap c.posts
  refers : c.Refers live
  named : ∀ entry ∈ live, entry.1 ∈ visit.bound
  stores : ∀ name s, (name, Export.store s) ∈ live → s < c.stores.length

/-- A client that differs in what it holds and in what actions can change. -/
structure Beside (before after : Client) : Prop where
  frame : after = { before with toHost := after.toHost, bindings := after.bindings }
  persists : ∀ s, after.persists s = before.persists s
  count : after.stores.length = before.stores.length
  made : after.made = before.made

variable {c d e : Client}

theorem Stays.beside (stays : c.Stays d) : c.Beside d :=
  ⟨stays.frame, stays.quiet.persists, stays.quiet.count, stays.quiet.made⟩

theorem Beside.refl (c : Client) : c.Beside c :=
  ⟨rfl, fun _ => rfl, rfl, rfl⟩

theorem Beside.trans (first : c.Beside d) (second : d.Beside e) : c.Beside e where
  frame := by
    rw [second.frame, first.frame]
  persists s := (second.persists s).trans (first.persists s)
  count := second.count.trans first.count
  made := second.made.trans first.made

theorem Beside.state_eq (beside : c.Beside d) : d.state = c.state := by
  rw [beside.frame]

theorem Beside.posts_eq (beside : c.Beside d) : d.posts = c.posts := by
  funext ⟨name, e⟩
  cases e with
  | store s =>
      have persists := beside.persists s
      rw [posts, posts, persists, beside.frame]
      rfl
  | value v => rfl
  | function f => rfl
  | computed a => rfl

theorem Holds.stays {held : List Post} (holds : c.Holds held)
    (stays : c.Stays d) : d.Holds held := by
  intro s
  rw [stays.number_eq, ← holds s]
  exact stays.quiet.held s

theorem Refers.stays {live : List (String × Export)} (refers : c.Refers live)
    (stays : c.Stays d) : d.Refers live := by
  intro name b found reference
  exact refers name b (stays.references name b found reference) reference

theorem Refers.more {live : List (String × Export)} (refers : c.Refers live)
    (more : List (String × Export)) : c.Refers (live ++ more) :=
  fun name b found reference =>
    List.mem_append_left more (refers name b found reference)

theorem Refers.bind {live : List (String × Export)} (refers : c.Refers live)
    (name : String) (b : Binding) :
    (c.bind name b).Refers (live ++ [(name, b.toExport)]) := by
  intro other found shape reference
  rw [Client.bind, Table.get?_insert] at shape
  by_cases same : name = other
  · rw [if_pos same] at shape
    cases shape
    rw [same]
    exact List.mem_append_right live List.mem_cons_self
  · rw [if_neg same] at shape
    exact List.mem_append_left _ (refers other found shape reference)

theorem Owns.stays {live : List (String × Export)} {visit : Visit}
    (owns : c.Owns live visit) (stays : c.Stays d) : d.Owns live visit where
  holds := by
    obtain ⟨held, holds, subscriptions, posts⟩ := owns.holds
    rw [← stays.beside.posts_eq] at posts
    exact ⟨held, holds.stays stays, subscriptions, posts⟩
  refers := owns.refers.stays stays
  named := owns.named
  stores name s member := stays.quiet.count ▸ owns.stores name s member

/-! ## Binding exports -/

/-- A listener that the client puts on a store for itself is added to those it
holds. -/
theorem Holds.subscribe {held : List Post} (holds : c.Holds held) {s : StoreId}
    (inside : s < c.stores.length) {listener : Listener}
    (own : listener.heldBy c.number = true) :
    ∃ id d, c.askHost (Host.subscribe s listener) = (id, d) ∧ c.Beside d ∧
      d.bindings = c.bindings ∧ d.Holds (held ++ [⟨s, id, listener⟩]) := by
  obtain ⟨store, found⟩ : ∃ store, c.stores[s]? = some store :=
    ⟨_, List.getElem?_eq_getElem inside⟩
  have number : (c.toHost.subscribe s listener).1 = store.nextId := by
    rw [Host.subscribe, found]
    rfl
  have pair : c.toHost.subscribe s listener = (store.nextId,
      c.toHost.onStore s fun store => (store.subscribe listener).2) :=
    Prod.ext number (c.toHost.subscribe_eq_onStore s listener)
  refine ⟨store.nextId,
    c.onHost (Host.onStore s fun store => (store.subscribe listener).2), ?_, ?_,
    rfl, ?_⟩
  · rw [askHost, pair]
    rfl
  · exact ⟨rfl, Host.persists_onStore s fun _ => rfl, List.length_modify .., rfl⟩
  · intro t
    rw [List.filter_append, List.map_append, ← holds t]
    simp only [Host.held, Host.listeners, Host.onStore, onHost]
    by_cases same : s = t
    · subst same
      simp [found, Store.subscribe, own]
    · rw [List.getElem?_modify_ne _ _ same]
      simp [same]

theorem record_stays (c : Client) (name : String) (v : Value) (tier : Tier) :
    c.Stays (c.record name v tier) :=
  record_keeps c.endures_stays.toAllows (c.endures_stays.writeText c _ _ _ (.refl c))

theorem Owns.add {live : List (String × Export)} {visit next : Visit}
    (owns : c.Owns live visit) (beside : c.Beside d) {held new : List Post}
    (subscriptions :
      held.map (fun post => (post.store, post.id)) = visit.subscriptions)
    (posts : held.map (fun post => (post.store, post.listener)) =
      live.flatMap c.posts)
    (holds : d.Holds (held ++ new)) {entry : String × Export}
    (newPosts : new.map (fun post => (post.store, post.listener)) = c.posts entry)
    (refers : d.Refers (live ++ [entry]))
    (inside : ∀ s, entry.2 = .store s → s < c.stores.length)
    (bound : next.bound = visit.bound ++ [entry.1])
    (subscribed : next.subscriptions = visit.subscriptions ++
      new.map fun post => (post.store, post.id)) :
    d.Owns (live ++ [entry]) next where
  holds := by
    refine ⟨held ++ new, holds, ?_, ?_⟩
    · rw [List.map_append, subscriptions, subscribed]
    · rw [List.map_append, posts, newPosts, beside.posts_eq, List.flatMap_append,
        List.flatMap_singleton]
  refers := refers
  named := by
    intro other member
    rw [bound]
    rcases List.mem_append.1 member with old | isNew
    · exact List.mem_append_left _ (owns.named other old)
    · rw [List.mem_singleton.1 isNew]
      exact List.mem_append_right _ List.mem_cons_self
  stores := by
    intro name s member
    rw [beside.count]
    rcases List.mem_append.1 member with old | isNew
    · exact owns.stores name s old
    · exact inside s (congrArg Prod.snd (List.mem_singleton.1 isNew)).symm

/-- An export that no listener is held for. -/
theorem Owns.addPlain {live : List (String × Export)} {visit next : Visit}
    (owns : c.Owns live visit) (beside : c.Beside d)
    (same : ∀ held, c.Holds held → d.Holds held) {entry : String × Export}
    (plain : ∀ s, entry.2 ≠ .store s) (refers : d.Refers (live ++ [entry]))
    (bound : next.bound = visit.bound ++ [entry.1])
    (subscribed : next.subscriptions = visit.subscriptions) :
    d.Owns (live ++ [entry]) next := by
  obtain ⟨held, holds, subscriptions, posts⟩ := owns.holds
  have holdsOn : d.Holds (held ++ []) := by
    rw [List.append_nil]
    exact same held holds
  have noPosts : ([] : List Post).map (fun post => (post.store, post.listener)) =
      c.posts entry := by
    obtain ⟨name, e⟩ := entry
    cases e with
    | store s => exact absurd rfl (plain s)
    | value v => rfl
    | function f => rfl
    | computed a => rfl
  refine owns.add beside subscriptions posts holdsOn noPosts refers
    (fun s shape => absurd shape (plain s)) bound ?_
  rw [subscribed]
  exact (List.append_nil _).symm

section Busy

variable {r : Reactor} (steady : r.Steady) (busy : c.state ≠ .idle)

include steady busy

theorem compute_stays (a : Action) : c.Stays (c.compute r a).2 :=
  compute_keeps c.endures_stays.toAllows (steady c busy) a (.refl c)

theorem restore_stays (name : String) (tier : Tier) :
    c.Stays (c.restore r name tier).2 :=
  (restore_agree c.endures_stays.toAllows (steady c busy).agree name tier (.refl c)).2

theorem attachValue_stays (name : String) (v : Value) :
    c.Stays (c.attachValue r name v).2 :=
  (attachValue_agree c.endures_stays.toAllows (steady c busy).agree
    (fun d _ _ => c.endures_stays.writeText d _ _ _) v (.refl c)).2

/-- Attaching a store to its slot makes the client hold the listener that keeps
the slot, if the name has a tier. -/
theorem attachStore_holds {held : List Post} (holds : c.Holds held)
    {live : List (String × Export)} (refers : c.Refers live) {s : StoreId}
    (inside : s < c.stores.length) (name : String) :
    ∃ slot d, c.attachStore r name s = (slot, d) ∧ c.Beside d ∧
      d.Refers live ∧ ∃ new : List Post, d.Holds (held ++ new) ∧
        new.map (fun post => (post.store, post.id)) =
          slot.toList.map (fun id => (s, id)) ∧
        new.map (fun post => (post.store, post.listener)) =
          ((c.storeTier? name (c.persists s)).map fun tier =>
            Listener.slot c.number (c.area tier) (c.storageKey name)).toList.map
              fun listener => (s, listener) := by
  unfold attachStore
  have tierOf : c.storeTier? name ((c.stores[s]?).any Store.persist) =
      c.storeTier? name (c.persists s) := rfl
  rw [tierOf]
  cases c.storeTier? name (c.persists s) with
  | none =>
      exact ⟨none, c, rfl, .refl c, refers, [], by simpa using holds, rfl, rfl⟩
  | some tier =>
      have restored := restore_stays steady busy name tier
      obtain ⟨d, stays, recorded⟩ : ∃ d, c.Stays d ∧
          (if (c.restore r name tier).1 then (c.restore r name tier).2
            else (c.restore r name tier).2.record name
              ((c.restore r name tier).2.readStore s) tier) = d := by
        refine ⟨_, ?_, rfl⟩
        by_cases done : (c.restore r name tier).1 = true
        · rw [if_pos done]
          exact restored
        · rw [if_neg done]
          exact restored.trans (record_stays _ name _ tier)
      dsimp only
      rw [recorded]
      have insideOn : s < d.stores.length := stays.quiet.count ▸ inside
      have own : (Listener.slot d.number (d.area tier)
          (d.storageKey name)).heldBy d.number = true := decide_eq_true rfl
      obtain ⟨id, e, subscribed, beside, same, holdsOn⟩ :=
        (holds.stays stays).subscribe insideOn own
      have listener : Listener.slot d.number (d.area tier) (d.storageKey name) =
          .slot c.number (c.area tier) (c.storageKey name) := by
        rw [stays.frame]
        rfl
      refine ⟨some id, e, by rw [subscribed], stays.beside.trans beside, ?_,
        _, holdsOn, rfl, ?_⟩
      · intro other b found
        rw [same] at found
        exact refers.stays stays other b found
      · rw [listener]
        rfl

/-- Binding an export adds it to the account. -/
theorem bindExport_owns {live : List (String × Export)} {visit : Visit}
    (owns : c.Owns live visit) (name : String) (e : Export)
    (inside : ∀ s, e = .store s → s < c.stores.length) :
    ∃ next d, c.bindExport r name e visit = (next, d) ∧ c.Beside d ∧
      d.Owns (live ++ [(name, e)]) next ∧ next.route = visit.route ∧
      next.layouts = visit.layouts := by
  obtain ⟨held, holds, subscriptions, posts⟩ := owns.holds
  cases e with
  | store s =>
      have bound := owns.refers.bind name (.store s)
      have insideNow := inside s rfl
      obtain ⟨slot, d, attached, beside, refers, new, holdsSlot, ids, listeners⟩ :=
        attachStore_holds (c := c.bind name (.store s)) steady busy holds bound
          insideNow name
      have insideOn : s < d.stores.length := beside.count ▸ insideNow
      have own : (Listener.rerender d.number).heldBy d.number = true :=
        decide_eq_true rfl
      obtain ⟨watch, e, subscribed, besideOn, same, holdsBoth⟩ :=
        holdsSlot.subscribe insideOn own
      have besideBound : c.Beside (c.bind name (.store s)) :=
        ⟨rfl, fun _ => rfl, rfl, rfl⟩
      have besideAll := besideBound.trans (beside.trans besideOn)
      have number : d.number = c.number := by
        rw [beside.frame]
        rfl
      refine ⟨{ visit with
          bound := visit.bound ++ [name]
          subscriptions := visit.subscriptions ++
            (slot.toList ++ [watch]).map fun id => (s, id) },
        e, ?_, besideAll, ?_, rfl, rfl⟩
      · rw [bindExport, attached]
        dsimp only
        rw [subscribed]
      · rw [List.append_assoc] at holdsBoth
        refine owns.add besideAll subscriptions posts holdsBoth ?_ ?_ inside rfl ?_
        · rw [List.map_append, listeners, number, Client.posts, List.map_append]
          rfl
        · intro other b found
          rw [same] at found
          exact refers other b found
        · rw [List.map_append, List.map_append, ids]
          rfl
  | computed a =>
      have stays : c.Stays ((c.compute r a).2.bindValue name (c.compute r a).1) :=
        (compute_stays steady busy a).trans (.bindValue _ name _)
      refine ⟨_, _, rfl, stays.beside, ?_, rfl, rfl⟩
      exact owns.addPlain stays.beside (fun held holds => holds.stays stays)
        (by simp) ((owns.refers.stays stays).more _) rfl rfl
  | function f =>
      have beside : c.Beside (c.bind name (.function f)) :=
        ⟨rfl, fun _ => rfl, rfl, rfl⟩
      refine ⟨_, _, rfl, beside, ?_, rfl, rfl⟩
      exact owns.addPlain beside (fun held holds => holds) (by simp)
        (owns.refers.bind name (.function f)) rfl rfl
  | value v =>
      have bound : c.Stays (c.bindValue name v) := .bindValue c name v
      have stays : c.Stays ((c.bindValue name v).attachValue r name v).2 :=
        bound.trans (attachValue_stays (c := c.bindValue name v) steady busy name v)
      refine ⟨_, _, rfl, stays.beside, ?_, rfl, rfl⟩
      exact owns.addPlain stays.beside (fun held holds => holds.stays stays)
        (by simp) ((owns.refers.stays stays).more _) rfl rfl

/-- Binding a module adds all its exports to the account. -/
theorem bindModule_owns (m : Module) {live : List (String × Export)}
    {visit : Visit} (owns : c.Owns live visit)
    (inside : ∀ name s, (name, Export.store s) ∈ m → s < c.stores.length) :
    ∃ next d, c.bindModule r m visit = (next, d) ∧ c.Beside d ∧
      d.Owns (live ++ m) next ∧ next.route = visit.route ∧
      next.layouts = visit.layouts := by
  induction m generalizing c live visit with
  | nil =>
      refine ⟨visit, c, rfl, .refl c, ?_, rfl, rfl⟩
      rwa [List.append_nil]
  | cons entry m inductionHypothesis =>
      obtain ⟨name, e⟩ := entry
      obtain ⟨mid, d, first, beside, ownsMid, route, layouts⟩ :=
        bindExport_owns steady busy owns name e fun s shape =>
          inside name s (shape ▸ List.mem_cons_self)
      obtain ⟨next, f, rest, besideOn, ownsOn, routeOn, layoutsOn⟩ :=
        inductionHypothesis (beside.state_eq ▸ busy) ownsMid fun name s member =>
          beside.count ▸ inside name s (List.mem_cons_of_mem _ member)
      refine ⟨next, f, ?_, beside.trans besideOn, ?_, routeOn.trans route,
        layoutsOn.trans layouts⟩
      · rw [bindModule, first]
        exact rest
      · rwa [List.append_assoc] at ownsOn

end Busy

end Client

end LivePages
