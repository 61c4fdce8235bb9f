import LivePages.Proofs.Client.Detached
import LivePages.Proofs.Client.Session

/-!
# Pages leave nothing behind

After any operations, the listeners that a client holds and the stores and
functions that its bindings refer to are those of the page it shows.  Stores of
pages that have been left are stores like any other: changing them neither
renders a page nor writes to storage.
-/

namespace LivePages

namespace Client

/-- A client that keeps what belongs to the exports of the page it shows, and
nothing else. -/
structure Settled (c : Client) (live : List (String × Export)) : Prop where
  current : c.current.map Route.Match.route = c.visit.map Visit.route
  isLive : c.Live live
  /-- For each of these exports of a store, the client holds one listener that
  renders the page again, and one that keeps the slot if the export has a tier. -/
  listeners : ∀ s, (c.held c.number s).map Prod.snd =
    ((live.flatMap c.posts).filter fun post => post.1 = s).map Prod.snd
  references : c.Refers live
  /-- Setting a store that none of these exports shares does no more than others
  do who listen to it. -/
  unheard : ∀ (s : StoreId) (v : Value) (r : Reactor) (P : Client → Prop),
    (∀ name, (name, Export.store s) ∉ live) →
    (∀ d, P d → P (d.onHost (Host.onStore s fun store => { store with value := v }))) →
    (∀ entry ∈ c.listeners s, entry.2.heldBy c.number = false →
      ∀ d, P d → P (d.react r entry.2 v)) →
    P c → P (c.setStore r s v)
  /-- Among stores that none of these exports shares, and whose other listeners
  keep to them, a change has no effect on the rest of the client. -/
  apart : ∀ scope : StoreId → Prop,
    (∀ name s, (name, Export.store s) ∈ live → ¬ scope s) →
    (∀ s, scope s → ∀ entry ∈ c.listeners s,
      entry.2.heldBy c.number = false → entry.2.Within scope) →
    (∀ s v, scope s → Untouched scope c (c.setStoreValue s v).2) ∧
    ∀ a : Action, a.Within scope → Untouched scope c (c.perform a).2

variable {c : Client} {live : List (String × Export)} {visit : Visit}

theorem Owns.listeners (owns : c.Owns live visit) (s : StoreId) :
    (c.held c.number s).map Prod.snd =
      ((live.flatMap c.posts).filter fun post => post.1 = s).map Prod.snd := by
  obtain ⟨held, holds, -, posts⟩ := owns.holds
  rw [holds s, ← posts, List.filter_map, List.map_map, List.map_map]
  rfl

theorem store_of_mem_posts {entry : String × Export} {post : StoreId × Listener}
    (member : post ∈ c.posts entry) :
    entry.2 = .store post.1 := by
  obtain ⟨name, e⟩ := entry
  cases e with
  | store s =>
      obtain ⟨listener, -, rfl⟩ := List.mem_map.1 member
      rfl
  | value v => cases member
  | function f => cases member
  | computed a => cases member

theorem Owns.held_eq_nil (owns : c.Owns live visit) {s : StoreId}
    (unshared : ∀ name, (name, Export.store s) ∉ live) :
    c.held c.number s = [] := by
  rw [← List.map_eq_nil_iff (f := Prod.snd), owns.listeners s,
    List.map_eq_nil_iff, List.filter_eq_nil_iff]
  intro post member
  obtain ⟨⟨name, e⟩, exported, isPost⟩ := List.mem_flatMap.1 member
  have shape := store_of_mem_posts isPost
  have apart : post.1 ≠ s := by
    rintro rfl
    exact unshared name (shape ▸ exported)
  simpa using apart

theorem Owns.not_heldBy (owns : c.Owns live visit) {s : StoreId}
    (unshared : ∀ name, (name, Export.store s) ∉ live)
    {entry : ListenerId × Listener} (member : entry ∈ c.listeners s) :
    entry.2.heldBy c.number = false := by
  have none := owns.held_eq_nil unshared
  rw [Host.held, List.filter_eq_nil_iff] at none
  exact Bool.eq_false_iff.2 (none entry member)

theorem Owns.encloses (owns : c.Owns live visit) {scope : StoreId → Prop}
    (unshared : ∀ name s, (name, Export.store s) ∈ live → ¬ scope s)
    (others : ∀ s, scope s → ∀ entry ∈ c.listeners s,
      entry.2.heldBy c.number = false → entry.2.Within scope) :
    c.Encloses scope := by
  intro s inside entry member
  apply others s inside entry member
  exact owns.not_heldBy (fun name exported => unshared name s exported inside) member

theorem Tidy.settled (tidy : c.Tidy) : ∃ live, c.Settled live := by
  obtain ⟨-, current, live, isLive, owns⟩ := tidy
  refine ⟨live, current, isLive, owns.listeners, owns.refers, ?_, ?_⟩
  · intro s v r P unshared writes reacts holds
    refine notify_closed s v _ (fun entry member => ?_) (writes c holds)
    rw [onHost, Host.listeners_write] at member
    exact reacts entry member (owns.not_heldBy unshared member)
  · intro scope unshared others
    have encloses := owns.encloses unshared others
    exact ⟨fun s v inside => setStoreValue_untouched encloses inside v,
      fun a within => perform_untouched encloses within⟩

/-- A client that has been created, whatever it is asked for then and however
these operations end, keeps nothing of pages that it has left. -/
theorem after_settled {host : Host} {number : Nat} (admits : host.Admits number)
    {settings : Settings} {assets : AssetSource} {session : AreaId}
    {durable : Option AreaId} {c : Client}
    (created : create host number settings assets session durable = .ok c)
    (operations : List Operation) :
    ∃ live, (c.after operations).Settled live :=
  (after_tidy operations (create_tidy admits created)).settled

/-! ## A page that cannot be compiled -/

/-- A site with one page, which has a persistent store and broken markup. -/
def brokenSite : AssetSource where
  texts := .memory [("routes.json", "[]"), ("layouts.json", "[]"),
    ("slugs.json", "\x7b\x7d"), ("routes/index.html", "<!--")] []
  modules := [("routes/index.js", ⟨"routes/index.js",
    [("count", .store .any (.num (.int 0)) true false)]⟩)]

def visitor : Client :=
  new (Host.empty.addArea ⟨[], false⟩).2 0 {} none brokenSite 0 0

/-- The page is bound although it cannot be shown, and is left for one that does
not exist. -/
def brokenTour : List Operation :=
  [.start, .setStore 0 (.num (.int 5)), .navigate "/about" .push,
    .setStore 0 (.num (.int 7))]

theorem empty_admits (number : Nat) : Host.empty.Admits number where
  sound := by
    intro entry member
    cases member
  unused _ := rfl

theorem after_settled_brokenTour :
    Host.empty.Admits 0 ∧
      create Host.empty 0 {} brokenSite 0 none = .ok visitor ∧
      ((visitor.after [.start]).held 0 0).length = 2 ∧
      (visitor.after brokenTour).held 0 0 = [] ∧
      (visitor.after brokenTour).readText 0 "//count" = some "5" ∧
      ∃ live, (visitor.after brokenTour).Settled live := by
  have created : create Host.empty 0 {} brokenSite 0 none = .ok visitor := rfl
  have held : ((visitor.after [.start]).held 0 0).length = 2 := by decide +kernel
  have released : (visitor.after brokenTour).held 0 0 = [] := by decide +kernel
  have kept : (visitor.after brokenTour).readText 0 "//count" = some "5" := by
    decide +kernel
  exact ⟨empty_admits 0, created, held, released, kept,
    after_settled (empty_admits 0) created brokenTour⟩

end Client

end LivePages
