import LivePages.Proofs.Client.Trace

/-!
# Notification of listeners that act on their store

A run ends like its twin, and the history that the twin writes down is lawful:
each set call tells exactly the listeners that were registered when it wrote
its value and still are when their turn comes.  One lemma follows each part of
the program, over actions by induction on the action, over rounds on the
listeners still to be told, and over set calls on the length of the chain.
-/

namespace LivePages

/-! ## Outcomes -/

namespace Client

/-- What a run never takes back: the numbers it has given to listeners of a
store, and that it was cut off. -/
structure Precedes (s : StoreId) (c d : Client) : Prop where
  cut : c.exhausted = true → d.exhausted = true
  numbers : (c.stores[s]?).elim 0 Store.nextId ≤ (d.stores[s]?).elim 0 Store.nextId

theorem Precedes.refl (s : StoreId) (c : Client) : c.Precedes s c :=
  ⟨id, Nat.le_refl _⟩

theorem Precedes.trans {s : StoreId} {c d e : Client} (first : c.Precedes s d)
    (second : d.Precedes s e) : c.Precedes s e :=
  ⟨second.cut ∘ first.cut, Nat.le_trans first.numbers second.numbers⟩

end Client

/-- How a run ends that started with a client: with the same store in use, and
unless it was cut off, with the outcome of its twin and a history that obeys a
law. -/
structure Outcome {α : Type} (s : StoreId) (start : Client) (traced : Traced α)
    (stop : Client) (law : α → Store Listener → Prop) : Prop where
  precedes : start.Precedes s stop
  ends : ∃ after, stop.Secludes s after ∧
    match traced with
    | some (history, c) => c = stop ∧ law history after
    | none => stop.exhausted = true

section Outcome

variable {α β γ : Type} {s : StoreId} {start mid stop : Client}

theorem Outcome.done {store : Store Listener} (secluded : start.Secludes s store)
    {law : α → Store Listener → Prop} {history : α} (lawful : law history store) :
    Outcome s start (some (history, start)) start law :=
  ⟨.refl s start, store, secluded, rfl, lawful⟩

theorem Outcome.mono {traced : Traced α} {law goal : α → Store Listener → Prop}
    (outcome : Outcome s mid traced stop law) (precedes : start.Precedes s mid)
    (lawful : ∀ history after, law history after → goal history after) :
    Outcome s start traced stop goal := by
  obtain ⟨precedesOn, after, secluded, found⟩ := outcome
  refine ⟨precedes.trans precedesOn, after, secluded, ?_⟩
  cases traced with
  | none => exact found
  | some result => exact ⟨found.1, lawful _ _ found.2⟩

theorem Outcome.noting {traced : Traced α} {law : α → Store Listener → Prop}
    (outcome : Outcome s mid traced stop law) (precedes : start.Precedes s mid)
    {note : α → β} {goal : β → Store Listener → Prop}
    (lawful : ∀ history after, law history after → goal (note history) after) :
    Outcome s start (traced.noting note) stop goal := by
  obtain ⟨precedesOn, after, secluded, found⟩ := outcome
  refine ⟨precedes.trans precedesOn, after, secluded, ?_⟩
  cases traced with
  | none => exact found
  | some result => exact ⟨found.1, lawful _ _ found.2⟩

theorem Outcome.andThen {first : Traced α} {law : α → Store Listener → Prop}
    (outcome : Outcome s start first mid law)
    {next : Client → Traced β} {later : Store Listener → β → Store Listener → Prop}
    (goesOn : ∀ store, mid.Secludes s store →
      Outcome s mid (next mid) stop (later store))
    {note : α → β → γ} {goal : γ → Store Listener → Prop}
    (lawful : ∀ history store more after, law history store →
      later store more after → goal (note history more) after) :
    Outcome s start (first.andThen note next) stop goal := by
  obtain ⟨precedes, store, secluded, found⟩ := outcome
  have rest := goesOn store secluded
  cases first with
  | none =>
      obtain ⟨precedesOn, after, secluded, -⟩ := rest
      exact ⟨precedes.trans precedesOn, after, secluded, precedesOn.cut found⟩
  | some result =>
      obtain ⟨history, c⟩ := result
      obtain ⟨rfl, fair⟩ := found
      exact rest.noting precedes fun more after =>
        lawful history store more after fair

end Outcome

/-! ## Single steps -/

namespace Client.Secludes

variable {c : Client} {s : StoreId} {store : Store Listener}

theorem listeners_eq (secluded : c.Secludes s store) :
    c.listeners s = store.listeners := by
  simp [Host.listeners, secluded.found]

theorem isSubscribed_iff (secluded : c.Secludes s store) (id : ListenerId) :
    c.isSubscribed s id = true ↔ id ∈ store.ids := by
  rw [Host.isSubscribed, secluded.found]
  exact store.isSubscribed_iff id

/-- In front of a client that still has the store, possibly changed. -/
theorem precedes (secluded : c.Secludes s store) {d : Client}
    {after : Store Listener} (secludedOn : d.Secludes s after)
    (same : d.exhausted = c.exhausted) (numbers : store.nextId ≤ after.nextId) :
    c.Precedes s d where
  cut := fun cut => same.trans cut
  numbers := by
    rw [secluded.found, secludedOn.found]
    exact numbers

theorem write (secluded : c.Secludes s store) (v : Value) :
    (c.onHost (Host.onStore s fun store => { store with value := v })).Secludes s
      { store with value := v } where
  found := by simp [Client.onHost, Host.onStore, secluded.found]
  reachable := secluded.reachable.write v
  listeners := secluded.listeners

/-- No listener of the store is out of the reach of actions. -/
theorem forget (secluded : c.Secludes s store) (id : ListenerId) :
    (c.onHost (Host.forget s id)).Secludes s (store.unsubscribe id) where
  found := by
    have reached : store.listeners.filter (fun entry =>
        !(entry.1 = id && entry.2.isHost)) =
          store.listeners.filter fun entry => entry.1 ≠ id := by
      apply List.filter_congr
      intro entry member
      simp [(secluded.listeners entry member).isHost]
    simp only [Client.onHost, Host.forget, Host.onStore, List.getElem?_modify_eq,
      secluded.found, Option.map_eq_map, Option.map_some, reached]
    rfl
  reachable := secluded.reachable.unsubscribe id
  listeners := by
    intro entry member
    exact secluded.listeners entry (List.mem_filter.1 member).1

theorem listen (secluded : c.Secludes s store) {listener : Listener}
    (acts : listener.Within (· = s)) :
    ∃ d, c.askHost (Host.subscribe s listener) = (store.nextId, d) ∧
      d.exhausted = c.exhausted ∧ d.Secludes s (store.subscribe listener).2 := by
  have inside : s < c.stores.length :=
    (List.getElem?_eq_some_iff.1 secluded.found).1
  refine ⟨{ c with stores := c.stores.set s (store.subscribe listener).2 },
    ?_, rfl, ?_, ?_, ?_⟩
  · simp [Client.askHost, Host.subscribe, secluded.found, Store.subscribe]
  · exact List.getElem?_set_self inside
  · exact secluded.reachable.subscribe listener
  · intro entry member
    rcases List.mem_append.1 member with member | member
    · exact secluded.listeners entry member
    · cases List.mem_singleton.1 member
      exact acts

theorem of_stores {d : Client} (secluded : c.Secludes s store)
    (same : d.stores = c.stores) : d.Secludes s store :=
  ⟨same ▸ secluded.found, secluded.reachable, secluded.listeners⟩

end Client.Secludes

/-! ## Whole runs -/

/-- Changes of a store by a reactor end like their twins, with lawful
histories. -/
def Reactor.Follows (r : Reactor) (s : StoreId)
    (set : Value → Client → Traced (List Call)) : Prop :=
  ∀ v c store, c.Secludes s store →
    Outcome s c (set v c) (r.set s v c) fun calls after =>
      store.Leads (.wrote v :: changesOfCalls calls) after ∧
        (Event.set v calls).Lawful store.ids

section Runs

variable {r : Reactor} {s : StoreId} {set : Value → Client → Traced (List Call)}

theorem Action.run_follows (follows : r.Follows s set) (a : Action)
    (acts : a.Within (· = s)) {c : Client} {store : Store Listener}
    (secluded : c.Secludes s store) :
    Outcome s c (a.trace set c) (a.run r c).2 fun events after =>
      store.Leads (changesOfEvents events) after ∧
        EventsLawful store.ids events := by
  induction a generalizing c store with
  | finish result =>
      exact .done secluded ⟨.refl store, trivial⟩
  | read t next inductionHypothesis =>
      exact inductionHypothesis _ (acts _) secluded
  | write t v next inductionHypothesis =>
      obtain ⟨rfl, acts⟩ := acts
      rw [Action.trace, Action.run]
      cases c.accept t v with
      | error e => exact inductionHypothesis _ (acts _) secluded
      | ok accepted =>
          refine (follows accepted c store secluded).andThen
            (fun mid midSecluded => inductionHypothesis none (acts none) midSecluded)
            ?_
          rintro calls mid events after ⟨leads, lawful⟩ ⟨leadsOn, lawfulOn⟩
          refine ⟨leads.trans leadsOn, lawful, ?_⟩
          rw [Event.changes, ← leads.ids]
          exact lawfulOn
  | listen t react next _ inductionHypothesis =>
      obtain ⟨rfl, reactActs, acts⟩ := acts
      have leads := store.leads_subscribe (.host react)
      have listenerActs : (Listener.host react).Within (· = t) := reactActs
      obtain ⟨d, subscribed, same, listening⟩ := secluded.listen listenerActs
      simp only [Action.trace, Action.run, subscribed]
      refine (inductionHypothesis _ (acts _) listening).noting
        (secluded.precedes listening same leads.next) ?_
      rintro events after ⟨leadsOn, lawful⟩
      refine ⟨leads.trans leadsOn, trivial, ?_⟩
      rw [Event.changes, ← leads.ids]
      exact lawful
  | forget t id next inductionHypothesis =>
      obtain ⟨rfl, acts⟩ := acts
      have leads := store.leads_unsubscribe id
      have forgotten := secluded.forget id
      rw [Action.trace, Action.run]
      refine (inductionHypothesis acts forgotten).noting
        (secluded.precedes forgotten rfl leads.next) ?_
      rintro events after ⟨leadsOn, lawful⟩
      refine ⟨leads.trans leadsOn, trivial, ?_⟩
      rw [Event.changes, ← leads.ids]
      exact lawful
  | render next => exact absurd acts id
  | retrieve key next inductionHypothesis =>
      exact inductionHypothesis _ (acts _) secluded
  | keep key v next inductionHypothesis =>
      have kept : ({ c with memory := Table.insert key v c.memory }).Secludes s
          store := secluded.of_stores rfl
      exact (inductionHypothesis acts kept).mono ⟨id, Nat.le_refl _⟩
        fun _ _ lawful => lawful
  | note entry next inductionHypothesis =>
      have noted : ({ c with log := c.log ++ [entry] }).Secludes s store :=
        secluded.of_stores rfl
      exact (inductionHypothesis acts noted).mono ⟨id, Nat.le_refl _⟩
        fun _ _ lawful => lawful

theorem Client.react_follows (follows : r.Follows s set) {listener : Listener}
    (acts : listener.Within (· = s)) (v : Value) {c : Client} {store : Store Listener}
    (secluded : c.Secludes s store) :
    Outcome s c (c.traceReact set listener v) (c.react r listener v)
      fun events after =>
        store.Leads (changesOfEvents events) after ∧
          EventsLawful store.ids events := by
  cases listener with
  | host react => exact (react v).run_follows follows (acts v) secluded
  | slot client area key => exact absurd acts id
  | rerender client => exact absurd acts id

/-- The listeners still to be told are told as the law demands. -/
theorem Client.notify_follows (follows : r.Follows s set) (v : Value)
    (entries : List (ListenerId × Listener))
    (acts : ∀ entry ∈ entries, entry.2.Within (· = s))
    (distinct : (entries.map Prod.fst).Nodup)
    {c : Client} {store : Store Listener} (secluded : c.Secludes s store)
    (known : ∀ id ∈ entries.map Prod.fst, id < store.nextId) :
    Outcome s c (c.traceNotify set s v entries) (c.notify r s v entries)
      fun calls after =>
        store.Leads (changesOfCalls calls) after ∧
          Round (entries.map Prod.fst) store.ids v calls ∧
          CallsLawful store.ids calls := by
  induction entries generalizing c store with
  | nil => exact .done secluded ⟨.refl store, .nil _ v, trivial⟩
  | cons entry entries inductionHypothesis =>
      obtain ⟨id, listener⟩ := entry
      rw [List.map_cons, List.nodup_cons] at distinct
      obtain ⟨apart, distinct⟩ := distinct
      rw [List.forall_mem_cons] at acts
      rw [List.map_cons, List.forall_mem_cons] at known
      rw [traceNotify, notify]
      by_cases subscribed : c.isSubscribed s id = true
      · have present := (secluded.isSubscribed_iff id).1 subscribed
        have called := react_follows follows acts.1 v secluded
        -- Numbers are not given twice: whoever subscribes in the course of the call
        -- is younger than all that are still to be told.
        have knownOn : ∀ mid, (c.react r listener v).Secludes s mid →
            ∀ other ∈ entries.map Prod.fst, other < mid.nextId := by
          intro mid midSecluded other member
          have numbers := called.precedes.numbers
          rw [secluded.found, midSecluded.found] at numbers
          exact Nat.lt_of_lt_of_le (known.2 other member) numbers
        rw [if_pos subscribed, if_pos subscribed]
        refine called.andThen
          (fun mid midSecluded => inductionHypothesis acts.2 distinct midSecluded
            (knownOn mid midSecluded)) ?_
        rintro events mid calls after ⟨leads, lawful⟩ ⟨leadsOn, round, lawfulOn⟩
        refine ⟨leads.trans leadsOn, ?_, lawful, ?_⟩
        · rw [leads.ids] at round
          refine round.call present apart ?_
          intro other listened member
          have old : other < store.nextId := by
            rcases List.mem_cons.1 member with rfl | member
            · exact known.1
            · exact known.2 other member
          exact Nat.not_lt.2 ((leads.trans leadsOn).new other listened) old
        · rw [Call.changes, ← leads.ids]
          exact lawfulOn
      · have gone : id ∉ store.ids := fun member =>
          subscribed ((secluded.isSubscribed_iff id).2 member)
        rw [if_neg subscribed, if_neg subscribed]
        refine (inductionHypothesis acts.2 distinct secluded known.2).mono
          (.refl s c) ?_
        rintro calls after ⟨leads, round, lawful⟩
        exact ⟨leads, round.skip gone apart, lawful⟩

end Runs

/-- At every level changes of a store end like their twins. -/
theorem Reactor.level_follows (s : StoreId) (n : Nat) :
    (Reactor.level n).Follows s (Client.traceSet s n) := by
  induction n with
  | zero =>
      intro v c store secluded
      have written := secluded.write v
      have precedes := secluded.precedes written rfl (Nat.le_refl _)
      rw [Client.traceSet, Reactor.level]
      dsimp only
      by_cases unheard : ((c.onHost (Host.onStore s fun store =>
          { store with value := v })).listeners s).isEmpty = true
      · rw [if_pos unheard, if_pos unheard]
        rw [written.listeners_eq, List.isEmpty_iff] at unheard
        have nobody : store.ids = [] := List.map_eq_nil_iff.2 unheard
        refine (Outcome.done written ?_).mono precedes fun _ _ lawful => lawful
        refine ⟨store.leads_write v, ?_, trivial⟩
        rw [nobody]
        exact .nil _ v
      · rw [if_neg unheard, if_neg unheard]
        exact ⟨⟨fun _ => rfl, precedes.numbers⟩, _, written.of_stores rfl, rfl⟩
  | succ n inductionHypothesis =>
      intro v c store secluded
      have written := secluded.write v
      have precedes := secluded.precedes written rfl (Nat.le_refl _)
      have told := Client.notify_follows inductionHypothesis v store.listeners
        secluded.listeners secluded.reachable.nodup written
        secluded.reachable.lt_nextId
      simp only [Client.traceSet, Reactor.level, Client.setStore,
        written.listeners_eq]
      refine told.mono precedes ?_
      rintro calls after ⟨leads, round, lawful⟩
      exact ⟨(store.leads_write v).trans leads, round, lawful⟩

/-- A change of a store, and every change that its listeners make in the course
of it, tells exactly the listeners that the law of notification names.  In the
end the store holds what the last of these changes wrote.  A run that is not
cut off goes the same way however long chains may be. -/
theorem set_notifies (n : Nat) (s : StoreId) (v : Value) (c : Client)
    (store : Store Listener) (secluded : c.Secludes s store)
    (uncut : ((Reactor.level n).set s v c).exhausted = false) :
    ∃ calls after,
      c.traceSet s n v = some (calls, (Reactor.level n).set s v c) ∧
      (Event.set v calls).Lawful store.ids ∧
      ((Reactor.level n).set s v c).Secludes s after ∧
      after.ids = registeredAfter store.ids (Event.set v calls).changes ∧
      after.value = lastWritten store.value (Event.set v calls).changes ∧
      ∀ m, n ≤ m → (Reactor.level m).set s v c = (Reactor.level n).set s v c := by
  obtain ⟨-, after, secludedOn, found⟩ :=
    Reactor.level_follows s n v c store secluded
  cases traced : c.traceSet s n v with
  | none =>
      rw [traced] at found
      rw [found] at uncut
      contradiction
  | some result =>
      obtain ⟨calls, d⟩ := result
      rw [traced] at found
      obtain ⟨rfl, leads, lawful⟩ := found
      refine ⟨calls, after, rfl, lawful, secludedOn, leads.ids, leads.value, ?_⟩
      intro m longer
      obtain ⟨-, _, -, foundLonger⟩ :=
        Reactor.level_follows s m v c store secluded
      rw [Client.traceSet_le s v c longer _ traced] at foundLonger
      exact foundLonger.1.symm

/-- A listener that counts up to three, and each time takes the listener with
number one away and adds a new one. -/
def counting : Listener :=
  .host fun
    | .num (.int n) =>
      .forget 0 1 <| .listen 0 (fun _ => .return .null) fun _ =>
        if n < 3 then .write 0 (.num (.int (n + 1))) fun _ => .return .null
        else .return .null
    | _ => .return .null

/-- A store that counts, with three listeners. -/
def countingStore : Store Listener :=
  let first := ((Store.new .any .null false).subscribe counting).2
  let second := (first.subscribe (.host fun _ => .return .null)).2
  (second.subscribe (.host fun v => .note v (.return .null))).2

def countingClient : Client := { Client.bare {} with stores := [countingStore] }

theorem counting_within : counting.Within (· = 0) := by
  intro v
  cases v with
  | num n =>
      cases n with
      | int n =>
          by_cases small : n < 3 <;>
            simp [Action.Within, Action.return, small]
      | float f => trivial
  | null => trivial
  | bool b => trivial
  | str s => trivial
  | arr items => trivial
  | obj fields => trivial

theorem countingClient_secludes : countingClient.Secludes 0 countingStore where
  found := rfl
  reachable := (((Store.Reachable.new _ _ _).subscribe _).subscribe _).subscribe _
  listeners := by
    intro entry member
    simp only [countingStore, Store.subscribe, Store.new, List.nil_append,
      List.cons_append, List.mem_cons, List.not_mem_nil, or_false] at member
    rcases member with rfl | rfl | rfl
    · exact counting_within
    · exact fun _ => trivial
    · exact fun _ => trivial

/-- Counting from one, a run with two set calls inside of the first. -/
theorem set_notifies_counting :
    countingClient.Secludes 0 countingStore ∧
      ((Reactor.level 5).set 0 (.num (.int 1)) countingClient).exhausted = false ∧
      ∃ calls,
        countingClient.traceSet 0 5 (.num (.int 1)) =
          some (calls, (Reactor.level 5).set 0 (.num (.int 1)) countingClient) ∧
        (Event.set (.num (.int 1)) calls).Lawful [0, 1, 2] := by
  have uncut :
      ((Reactor.level 5).set 0 (.num (.int 1)) countingClient).exhausted = false := by
    decide +kernel
  obtain ⟨calls, -, traced, lawful, -⟩ :=
    set_notifies 5 0 (.num (.int 1)) countingClient countingStore
      countingClient_secludes uncut
  exact ⟨countingClient_secludes, uncut, calls, traced, lawful⟩

end LivePages
