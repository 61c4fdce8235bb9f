import LivePages.Client.Operation
import LivePages.Proofs.Client.Reaction
import LivePages.Proofs.Client.Trace

/-!
# Stores apart from the page

Where nobody but actions listens to some stores, and these actions keep to the
same stores, a change among them stays there: the rest of the client, what it
shows and what it has stored are as before.
-/

namespace LivePages

namespace Client

/-- Stores whose listeners keep to the same stores. -/
def Encloses (c : Client) (scope : StoreId → Prop) : Prop :=
  ∀ s, scope s → ∀ entry ∈ c.listeners s, entry.2.Within scope

/-- A client that differs only in those stores, and in what actions keep for
themselves. -/
structure Untouched (scope : StoreId → Prop) (before after : Client) : Prop where
  frame : after = { before with
    stores := after.stores
    memory := after.memory
    log := after.log
    exhausted := after.exhausted }
  others : ∀ s, ¬ scope s → after.stores[s]? = before.stores[s]?

/-- A change among some stores that leaves them on their own. -/
structure Confined (scope : StoreId → Prop) (before after : Client) : Prop where
  untouched : Untouched scope before after
  encloses : after.Encloses scope

variable {scope : StoreId → Prop} {c d : Client}

theorem Confined.refl (encloses : c.Encloses scope) : Confined scope c c :=
  ⟨⟨rfl, fun _ _ => rfl⟩, encloses⟩

theorem Confined.onStore (confined : Confined scope c d) {s : StoreId}
    (inside : scope s) {change : Store Listener → Store Listener}
    (listeners : ∀ store : Store Listener,
      (∀ entry ∈ store.listeners, entry.2.Within scope) →
        ∀ entry ∈ (change store).listeners, entry.2.Within scope) :
    Confined scope c (d.onHost (Host.onStore s change)) where
  untouched := by
    refine ⟨?_, fun t outside => ?_⟩
    · rw [confined.untouched.frame]
      rfl
    · have apart : s ≠ t := fun same => outside (same ▸ inside)
      exact (List.getElem?_modify_ne _ _ apart).trans
        (confined.untouched.others t outside)
  encloses := by
    intro t insideAlso entry member
    have before := confined.encloses t insideAlso
    simp only [Host.listeners, onHost, Host.onStore] at before member
    by_cases same : s = t
    · subst same
      rw [List.getElem?_modify_eq] at member
      cases found : d.stores[s]? with
      | none =>
          rw [found] at member
          cases member
      | some store =>
          rw [found] at before member
          exact listeners store before entry member
    · rw [List.getElem?_modify_ne _ _ same] at member
      exact before entry member

theorem Confined.keep (confined : Confined scope c d) (memory : Table Value)
    (log : List Value) (exhausted : Bool) :
    Confined scope c { d with memory, log, exhausted } where
  untouched := by
    refine ⟨?_, confined.untouched.others⟩
    rw [confined.untouched.frame]
  encloses := confined.encloses

theorem Confined.write (confined : Confined scope c d) {s : StoreId}
    (inside : scope s) (v : Value) :
    Confined scope c (d.onHost (Host.onStore s fun store =>
      { store with value := v })) :=
  confined.onStore inside fun _ within => within

end Client

/-- A reactor whose changes of some stores are confined to them. -/
def Reactor.Confines (r : Reactor) (scope : StoreId → Prop) : Prop :=
  ∀ c d s v, scope s → Client.Confined scope c d →
    Client.Confined scope c (r.set s v d)

section Confinement

variable {scope : StoreId → Prop} {r : Reactor} (confines : r.Confines scope)

include confines

theorem Action.run_confined (a : Action) (within : a.Within scope) {c d : Client}
    (confined : Client.Confined scope c d) :
    Client.Confined scope c (a.run r d).2 := by
  induction a generalizing d with
  | finish result => exact confined
  | read s next inductionHypothesis =>
      exact inductionHypothesis _ (within _) confined
  | write s v next inductionHypothesis =>
      rw [Action.run]
      cases d.accept s v with
      | error e => exact inductionHypothesis _ (within.2 _) confined
      | ok accepted =>
          exact inductionHypothesis _ (within.2 _)
            (confines c d s accepted within.1 confined)
  | listen s react next _ inductionHypothesis =>
      obtain ⟨inside, reacts, goesOn⟩ := within
      have shape : (d.askHost (Host.subscribe s (.host react))).2 =
          d.onHost (Host.onStore s fun store => (store.subscribe (.host react)).2) :=
        congrArg (fun h => { d with toHost := h }) (Host.subscribe_eq_onStore s _)
      have listening : Client.Confined scope c
          (d.askHost (Host.subscribe s (.host react))).2 := by
        rw [shape]
        refine confined.onStore inside fun store within entry member => ?_
        rcases List.mem_append.1 member with old | new
        · exact within entry old
        · rw [List.mem_singleton.1 new]
          exact reacts
      exact inductionHypothesis _ (goesOn _) listening
  | forget s id next inductionHypothesis =>
      obtain ⟨inside, goesOn⟩ := within
      refine inductionHypothesis goesOn (confined.onStore inside ?_)
      exact fun store within entry member => within entry (List.mem_filter.1 member).1
  | render next => exact within.elim
  | retrieve key next inductionHypothesis =>
      exact inductionHypothesis _ (within _) confined
  | keep key v next inductionHypothesis =>
      exact inductionHypothesis within (confined.keep _ d.log d.exhausted)
  | note entry next inductionHypothesis =>
      exact inductionHypothesis within (confined.keep d.memory _ d.exhausted)

theorem Client.setStore_confined {c d : Client} {s : StoreId} (inside : scope s)
    (v : Value) (confined : Client.Confined scope c d) :
    Client.Confined scope c (d.setStore r s v) := by
  have written := confined.write inside v
  refine notify_closed s v _ (fun entry member e confined => ?_) written
  have within := written.encloses s inside entry member
  obtain ⟨id, listener⟩ := entry
  cases listener with
  | host react => exact (react v).run_confined confines (within v) confined
  | slot client area key => exact within.elim
  | rerender client => exact within.elim

end Confinement

theorem Reactor.level_confines (scope : StoreId → Prop) (n : Nat) :
    (Reactor.level n).Confines scope := by
  induction n with
  | zero =>
      intro c d s v inside confined
      -- A chain that is cut off has written its last value, and told nobody.
      have written := confined.write inside v
      rw [Reactor.level]
      dsimp only
      split
      · exact written
      · exact written.keep _ _ true
  | succ n inductionHypothesis =>
      intro c d s v inside confined
      exact Client.setStore_confined inductionHypothesis inside v confined

namespace Client

variable {scope : StoreId → Prop} {c : Client} (encloses : c.Encloses scope)

include encloses

/-- Changing a store apart from the page leaves the rest of the client alone. -/
theorem setStoreValue_untouched {s : StoreId} (inside : scope s) (v : Value) :
    Untouched scope c (c.setStoreValue s v).2 := by
  have same := Confined.refl encloses
  unfold setStoreValue offer
  cases c.accept s v with
  | error e => exact same.untouched
  | ok accepted =>
      exact (Reactor.level_confines scope maxChain c c s accepted inside same).untouched

/-- So does any action that keeps to such stores. -/
theorem perform_untouched {a : Action} (within : a.Within scope) :
    Untouched scope c (c.perform a).2 :=
  (a.run_confined (Reactor.level_confines scope maxChain) within
    (.refl encloses)).untouched

end Client

end LivePages
