import LivePages.Proofs.Client.Reaction
import LivePages.Proofs.Store.Subscription
import Mathlib.Data.List.Nodup

/-!
# Runs, moment by moment

The run of an action is taken apart into moments: in each one the client is as it
is, something is still to be done, and there is a log of what the stores have been
asked for.  A listener that is called comes in front of the listeners still to be
told, and these come in front of the rest of the action that changed the store, so
whatever listeners do to stores lies between two moments, too.  A run that is not
cut off ends where its moments end.
-/

namespace LivePages

open Store (Command)

/-- Whether an action may remove a listener: the listeners of clients are out of its
reach. -/
def Host.reaches (h : Host) (s : StoreId) (id : ListenerId) : Bool :=
  (h.listeners s).all fun entry => entry.1 ≠ id || entry.2.isHost

/-- A client that renders nothing: it is showing a page already, or has none. -/
def Client.Refuses (c : Client) : Prop :=
  c.state ≠ .idle ∨ c.current = none ∨ c.loaded = none

/-! ## Moments -/

/-- Something that is to be done with the stores of a client. -/
inductive Task where
  | act (a : Action)
  /-- Registers a listener from outside. -/
  | subscribe (s : StoreId) (listener : Listener)
  /-- Removes a listener from outside. -/
  | unsubscribe (s : StoreId) (id : ListenerId)
  /-- Tells the listeners that are still registered about a value. -/
  | tell (s : StoreId) (v : Value) (entries : List (ListenerId × Listener))

/-- Does a task at once, with all that follows from it. -/
def Task.run (r : Reactor) : Task → Client → Client
  | act a, c => (a.run r c).2
  | subscribe s listener, c => (c.askHost (Host.subscribe s listener)).2
  | unsubscribe s id, c => c.onHost (Host.unsubscribe s id)
  | tell s v entries, c => c.notify r s v entries

def Task.runAll (r : Reactor) (tasks : List Task) (c : Client) : Client :=
  tasks.foldl (fun c task => task.run r c) c

abbrev CommandLog := List (StoreId × Command Listener)

/-- What a store has been asked for. -/
def CommandLog.of (log : CommandLog) (s : StoreId) : List (Command Listener) :=
  log.filterMap fun entry => if entry.1 = s then some entry.2 else none

/-- A moment of a run. -/
structure Moment where
  tasks : List Task
  client : Client
  log : CommandLog

/-- The first step of an action. -/
def Action.step (a : Action) (rest : List Task) (c : Client) (log : CommandLog) : Moment :=
  match a with
  | .finish _ => ⟨rest, c, log⟩
  | .read s next => ⟨.act (next (c.readStore s)) :: rest, c, log⟩
  | .write s v next =>
    match c.accept s v with
    | .ok accepted =>
      let c := c.onHost (Host.onStore s fun store => { store with value := accepted })
      ⟨.tell s accepted (c.listeners s) :: .act (next none) :: rest, c,
        log ++ [(s, .write accepted)]⟩
    | .error e => ⟨.act (next (some e)) :: rest, c, log⟩
  | .listen s react next =>
    let (id, c) := c.askHost (Host.subscribe s (.host react))
    ⟨.act (next id) :: rest, c, log ++ [(s, .subscribe (.host react))]⟩
  | .forget s id next =>
    ⟨.act next :: rest, c.onHost (Host.forget s id),
      if c.reaches s id then log ++ [(s, .unsubscribe id)] else log⟩
  | .render next => ⟨.act (next false) :: rest, c, log⟩
  | .retrieve key next => ⟨.act (next ((c.memory.get? key).getD .null)) :: rest, c, log⟩
  | .keep key v next =>
    ⟨.act next :: rest, { c with memory := Table.insert key v c.memory }, log⟩
  | .note entry next => ⟨.act next :: rest, { c with log := c.log ++ [entry] }, log⟩

/-- The first step of a listener that is called. -/
def Listener.step (listener : Listener) (v : Value) (rest : List Task) (c : Client)
    (log : CommandLog) : Moment :=
  match listener with
  | .host react => ⟨.act (react v) :: rest, c, log⟩
  | .slot _ area key => ⟨rest, c.onHost (Host.writeText area key (Slot.write v)), log⟩
  | .rerender _ => ⟨rest, c, log⟩

/-- The next moment. -/
def Moment.step : Moment → Moment
  | ⟨[], c, log⟩ => ⟨[], c, log⟩
  | ⟨.act a :: rest, c, log⟩ => a.step rest c log
  | ⟨.subscribe s listener :: rest, c, log⟩ =>
    ⟨rest, (c.askHost (Host.subscribe s listener)).2, log ++ [(s, .subscribe listener)]⟩
  | ⟨.unsubscribe s id :: rest, c, log⟩ =>
    ⟨rest, c.onHost (Host.unsubscribe s id), log ++ [(s, .unsubscribe id)]⟩
  | ⟨.tell _ _ [] :: rest, c, log⟩ => ⟨rest, c, log⟩
  | ⟨.tell s v ((id, listener) :: entries) :: rest, c, log⟩ =>
    if c.isSubscribed s id then listener.step v (.tell s v entries :: rest) c log
    else ⟨.tell s v entries :: rest, c, log⟩

/-- The moment some steps later. -/
def Moment.after (m : Moment) : Nat → Moment
  | 0 => m
  | k + 1 => m.step.after k

theorem Moment.after_add (m : Moment) (j k : Nat) : m.after (j + k) = (m.after j).after k := by
  induction j generalizing m with
  | zero => rw [Nat.zero_add, after]
  | succ j inductionHypothesis => rw [Nat.succ_add, after, after, inductionHypothesis]

/-! ## What stores have been asked for -/

theorem CommandLog.of_snoc (log : CommandLog) (s : StoreId) (command : Command Listener)
    (t : StoreId) :
    CommandLog.of (log ++ [(s, command)]) t =
      if s = t then log.of t ++ [command] else log.of t := by
  by_cases same : s = t <;> simp [CommandLog.of, List.filterMap_append, same]

/-- The log of a moment tells how its stores have come about. -/
def Moment.Logged (m : Moment) : Prop :=
  ∀ (s : StoreId) (store : Store Listener),
    m.client.stores[s]? = some store → store.Follows (m.log.of s)

section Logged

variable {tasks rest : List Task} {c : Client} {log : CommandLog}

theorem Moment.Logged.of_stores (logged : Logged ⟨tasks, c, log⟩) {d : Client}
    (same : d.stores = c.stores) : Logged ⟨rest, d, log⟩ := by
  intro s store found
  exact logged s store (same ▸ found)

/-- A store that is asked for something does it. -/
theorem Moment.Logged.command (logged : Logged ⟨tasks, c, log⟩) (s : StoreId)
    (command : Command Listener) {d : Client}
    (done : d.stores = c.stores.modify s command.apply) :
    Logged ⟨rest, d, log ++ [(s, command)]⟩ := by
  intro t store found
  change d.stores[t]? = some store at found
  rw [CommandLog.of_snoc]
  by_cases same : s = t
  · subst same
    rw [done, List.getElem?_modify_eq] at found
    obtain ⟨before, was, rfl⟩ := Option.map_eq_some_iff.1 found
    rw [if_pos rfl]
    exact (logged s before was).apply command
  · rw [done, List.getElem?_modify_ne _ _ same] at found
    rw [if_neg same]
    exact logged t store found

theorem Moment.Logged.listen (logged : Logged ⟨tasks, c, log⟩) (s : StoreId)
    (listener : Listener) :
    Logged ⟨rest, (c.askHost (Host.subscribe s listener)).2,
      log ++ [(s, .subscribe listener)]⟩ := by
  refine logged.command s _ ?_
  change (Host.subscribe s listener c.toHost).2.stores = _
  rw [Host.subscribe_eq_onStore]
  rfl

/-- A listener within reach is removed, and none of the others is. -/
theorem Host.forget_of_reaches {h : Host} {s : StoreId} {id : ListenerId}
    (reaches : h.reaches s id = true) : (h.forget s id).stores =
      h.stores.modify s (Command.unsubscribe id).apply := by
  apply List.ext_getElem?
  intro t
  simp only [Host.forget, Host.onStore, List.getElem?_modify]
  by_cases same : s = t
  · subst same
    cases found : h.stores[s]? with
    | none => rfl
    | some store =>
        have reached : ∀ entry ∈ store.listeners, entry.1 ≠ id ∨ entry.2.isHost = true := by
          simpa [Host.reaches, Host.listeners, found] using reaches
        have kept : store.listeners.filter (fun entry => !(entry.1 = id && entry.2.isHost)) =
            store.listeners.filter fun entry => entry.1 ≠ id := by
          apply List.filter_congr
          intro entry member
          rcases reached entry member with other | isHost
          · simp [other]
          · simp [isHost]
        simp only [if_pos, Option.map_eq_map, Option.map_some, kept]
        rfl
  · simp [same]

/-- A listener out of reach stays, and since its number is no other's, all stay. -/
theorem Host.forget_of_not_reaches {h : Host} {s : StoreId} {id : ListenerId}
    (distinct : ∀ store, h.stores[s]? = some store → store.ids.Nodup)
    (beyond : ¬ h.reaches s id = true) : (h.forget s id).stores = h.stores := by
  apply List.ext_getElem?
  intro t
  simp only [Host.forget, Host.onStore, List.getElem?_modify]
  by_cases same : s = t
  · subst same
    cases found : h.stores[s]? with
    | none => rfl
    | some store =>
        obtain ⟨held, isHeld, isSame, isClient⟩ :
            ∃ entry ∈ store.listeners, entry.1 = id ∧ entry.2.isHost = false := by
          simpa [Host.reaches, Host.listeners, found] using beyond
        have kept : store.listeners.filter (fun entry => !(entry.1 = id && entry.2.isHost)) =
            store.listeners := by
          rw [List.filter_eq_self]
          intro entry member
          by_cases other : entry.1 = id
          · have apart := distinct store found
            rw [Store.ids] at apart
            have equal := List.inj_on_of_nodup_map apart member isHeld (other.trans isSame.symm)
            simp [equal, isClient]
          · simp [other]
        simp only [if_pos, Option.map_eq_map, Option.map_some, kept]
  · simp [same]

theorem Moment.Logged.forget (logged : Logged ⟨tasks, c, log⟩) (s : StoreId)
    (id : ListenerId) :
    Logged ⟨rest, c.onHost (Host.forget s id),
      if c.reaches s id then log ++ [(s, .unsubscribe id)] else log⟩ := by
  by_cases reaches : c.reaches s id = true
  · rw [if_pos reaches]
    exact logged.command s _ (Host.forget_of_reaches reaches)
  · rw [if_neg reaches]
    exact logged.of_stores <| Host.forget_of_not_reaches
      (fun store found => (logged s store found).accounts.nodup) reaches

theorem Action.step_logged (a : Action) (logged : Moment.Logged ⟨tasks, c, log⟩) :
    (a.step rest c log).Logged := by
  cases a with
  | finish result => exact logged.of_stores rfl
  | read s next => exact logged.of_stores rfl
  | write s v next =>
      rw [Action.step]
      cases c.accept s v with
      | ok accepted => exact logged.command s (.write accepted) rfl
      | error e => exact logged.of_stores rfl
  | listen s react next => exact logged.listen s _
  | forget s id next => exact logged.forget s id
  | render next => exact logged.of_stores rfl
  | retrieve key next => exact logged.of_stores rfl
  | keep key v next => exact logged.of_stores rfl
  | note entry next => exact logged.of_stores rfl

theorem Listener.step_logged (listener : Listener) (v : Value)
    (logged : Moment.Logged ⟨tasks, c, log⟩) : (listener.step v rest c log).Logged := by
  cases listener with
  | host react => exact logged.of_stores rfl
  | slot client area key =>
      obtain ⟨areas, file, shape, -⟩ := c.toHost.writeText_eq area key (Slot.write v)
      refine logged.of_stores ?_
      rw [Client.onHost, shape]
  | rerender client => exact logged.of_stores rfl

end Logged

theorem Moment.Logged.step {m : Moment} (logged : m.Logged) : m.step.Logged := by
  obtain ⟨tasks, c, log⟩ := m
  cases tasks with
  | nil => exact logged
  | cons task rest =>
      cases task with
      | act a => exact a.step_logged logged
      | subscribe s listener => exact logged.listen s listener
      | unsubscribe s id => exact logged.command s _ rfl
      | tell s v entries =>
          cases entries with
          | nil => exact logged.of_stores rfl
          | cons entry entries =>
              obtain ⟨id, listener⟩ := entry
              rw [Moment.step]
              by_cases subscribed : c.isSubscribed s id = true
              · rw [if_pos subscribed]
                exact listener.step_logged v logged
              · rw [if_neg subscribed]
                exact logged.of_stores rfl

theorem Moment.Logged.after {m : Moment} (logged : m.Logged) (k : Nat) :
    (m.after k).Logged := by
  induction k generalizing m with
  | zero => exact logged
  | succ k inductionHypothesis => exact inductionHypothesis logged.step

/-! ## The end of a run -/

namespace Client

variable {c : Client} {r : Reactor}

theorem requestRender_of_refuses (refuses : c.Refuses) (focus : Option FocusTarget) :
    c.requestRender r focus = (.ok false, c) := by
  unfold requestRender
  rw [Keeps.get_bind]
  dsimp only
  by_cases busy : c.state ≠ .idle
  · rw [if_pos busy]
    rfl
  · rw [if_neg busy]
    cases shown : c.current with
    | none => rfl
    | some m =>
        cases site : c.loaded with
        | none => rfl
        | some loaded =>
            rcases refuses with busyToo | unshown | unloaded
            · exact absurd busyToo busy
            · cases shown.symm.trans unshown
            · cases site.symm.trans unloaded

theorem endures_refuses : Endures Refuses :=
  Survives.endures ⟨fun _ _ _ => id, fun _ _ _ => id⟩

/-- Being cut off is never taken back. -/
theorem endures_cut : Endures fun c => c.Refuses ∧ c.exhausted = true where
  listen c s react cut := by
    refine ⟨endures_refuses.listen c s react cut.1, ?_⟩
    change (Host.subscribe s (.host react) c.toHost).2.exhausted = true
    rw [Host.subscribe_eq_onStore]
    exact cut.2
  forget _ _ _ := id
  keep _ _ _ := id
  bindValue _ _ _ := id
  write _ _ _ := id
  writeText c area key text cut := by
    refine ⟨endures_refuses.writeText c area key text cut.1, ?_⟩
    obtain ⟨areas, file, shape, -⟩ := c.toHost.writeText_eq area key text
    rw [onHost, shape]
    exact cut.2
  exhaust _ cut := ⟨cut.1, rfl⟩

end Client

namespace Reactor

variable {c : Client}

theorem level_keeps_of_refuses {P : Client → Prop} (endures : Endures P)
    (refuses : ∀ c, P c → c.Refuses) (n : Nat) : (level n).Keeps P := by
  refine level_keeps endures (fun n _ c holds => ?_) n
  rw [Client.requestRender_of_refuses (refuses c holds)]
  exact holds

theorem level_keeps_refuses (n : Nat) : (level n).Keeps Client.Refuses :=
  level_keeps_of_refuses Client.endures_refuses (fun _ => id) n

theorem level_keeps_cut (n : Nat) :
    (level n).Keeps fun c => c.Refuses ∧ c.exhausted = true :=
  level_keeps_of_refuses Client.endures_cut (fun _ cut => cut.1) n

theorem render_of_uncut {n : Nat} (refuses : c.Refuses)
    (uncut : ((level n).render c).2.exhausted = false) :
    (level n).render c = (false, c) := by
  cases n with
  | zero =>
      rw [level] at uncut ⊢
      dsimp only at uncut ⊢
      by_cases idle : c.state = .idle
      · rw [if_pos idle] at uncut
        cases uncut
      · rw [if_neg idle]
  | succ n =>
      rw [level]
      dsimp only
      rw [Client.requestRender_of_refuses refuses]
      rfl

end Reactor

/-- A moment that is followed by one where less is to be done, with that client. -/
def Moment.Comes (m : Moment) (rest : List Task) (c : Client) : Prop :=
  ∃ k log, m.after k = ⟨rest, c, log⟩

theorem Moment.Comes.refl (tasks : List Task) (c : Client) (log : CommandLog) :
    Comes ⟨tasks, c, log⟩ tasks c :=
  ⟨0, log, rfl⟩

theorem Moment.Comes.step {m : Moment} {rest : List Task} {c : Client}
    (comes : m.step.Comes rest c) : m.Comes rest c := by
  obtain ⟨k, log, later⟩ := comes
  exact ⟨k + 1, log, later⟩

theorem Moment.Comes.trans {m : Moment} {rest last : List Task} {c d : Client}
    (first : m.Comes rest c) (second : ∀ log, Comes ⟨rest, c, log⟩ last d) :
    m.Comes last d := by
  obtain ⟨j, log, now⟩ := first
  obtain ⟨k, log, later⟩ := second log
  exact ⟨j + k, log, by rw [after_add, now, later]⟩

/-- A task that comes to the same end moment by moment as at once, unless it is cut
off. -/
def Task.Ends (r : Reactor) (task : Task) : Prop :=
  ∀ c, c.Refuses → (task.run r c).exhausted = false →
    ∀ rest log, Moment.Comes ⟨task :: rest, c, log⟩ rest (task.run r c)

/-- Changes of stores that come to the same end. -/
def Reactor.SetsEnd (r : Reactor) : Prop :=
  ∀ s v c, c.Refuses → (r.set s v c).exhausted = false →
    let written := c.onHost (Host.onStore s fun store => { store with value := v })
    ∀ rest log, Moment.Comes ⟨.tell s v (written.listeners s) :: rest, written, log⟩ rest
      (r.set s v c)

section Ends

variable {n : Nat}

/-- What comes first is not cut off if the whole is not. -/
theorem uncut_of_cut {c d : Client} (refuses : c.Refuses)
    (cut : c.Refuses ∧ c.exhausted = true → d.Refuses ∧ d.exhausted = true)
    (uncut : d.exhausted = false) : c.exhausted = false := by
  cases was : c.exhausted with
  | false => rfl
  | true =>
      rw [(cut ⟨refuses, was⟩).2] at uncut
      cases uncut

theorem Action.ends (sets : (Reactor.level n).SetsEnd) (a : Action) :
    (Task.act a).Ends (Reactor.level n) := by
  have keeps := Reactor.level_keeps_cut n
  induction a with
  | finish result => exact fun c _ _ rest log => .step (.refl rest c log)
  | read s next inductionHypothesis =>
      exact fun c refuses uncut rest log =>
        .step (inductionHypothesis _ c refuses uncut rest log)
  | write s v next inductionHypothesis =>
      intro c refuses uncut rest log
      apply Moment.Comes.step
      rw [Task.run, Action.run] at uncut ⊢
      rw [Moment.step, Action.step]
      cases accepted : c.accept s v with
      | error e =>
          rw [accepted] at uncut
          exact inductionHypothesis _ c refuses uncut rest log
      | ok w =>
          rw [accepted] at uncut
          have refusesOn := (Reactor.level_keeps_refuses n).set s w c refuses
          have first := uncut_of_cut refusesOn
            ((next none).run_keeps Client.endures_cut.toAllows keeps) uncut
          exact (sets s w c refuses first _ _).trans
            (inductionHypothesis none _ refusesOn uncut rest)
  | listen s react next _ inductionHypothesis =>
      exact fun c refuses uncut rest log =>
        .step (inductionHypothesis _ _ (Client.endures_refuses.listen c s react refuses)
          uncut rest _)
  | forget s id next inductionHypothesis =>
      exact fun c refuses uncut rest log =>
        .step (inductionHypothesis (c.onHost (Host.forget s id)) refuses uncut rest _)
  | render next inductionHypothesis =>
      intro c refuses uncut rest log
      apply Moment.Comes.step
      rw [Task.run, Action.run] at uncut ⊢
      have first := uncut_of_cut ((Reactor.level_keeps_refuses n).render c refuses)
        ((next _).run_keeps Client.endures_cut.toAllows keeps) uncut
      have refused := Reactor.render_of_uncut refuses first
      rw [refused] at uncut ⊢
      exact inductionHypothesis false c refuses uncut rest log
  | retrieve key next inductionHypothesis =>
      exact fun c refuses uncut rest log =>
        .step (inductionHypothesis _ c refuses uncut rest log)
  | keep key v next inductionHypothesis =>
      exact fun c refuses uncut rest log =>
        .step (inductionHypothesis { c with memory := Table.insert key v c.memory } refuses
          uncut rest log)
  | note entry next inductionHypothesis =>
      exact fun c refuses uncut rest log =>
        .step (inductionHypothesis { c with log := c.log ++ [entry] } refuses uncut rest log)

theorem Client.react_comes (sets : (Reactor.level n).SetsEnd) (listener : Listener)
    (v : Value) {c : Client} (refuses : c.Refuses)
    (uncut : (c.react (Reactor.level n) listener v).exhausted = false)
    (rest : List Task) (log : CommandLog) :
    (listener.step v rest c log).Comes rest (c.react (Reactor.level n) listener v) := by
  cases listener with
  | host react => exact (react v).ends sets c refuses uncut rest log
  | slot client area key => exact .refl _ _ _
  | rerender client =>
      rw [react] at uncut ⊢
      by_cases own : client = c.number
      · rw [if_pos own] at uncut ⊢
        rw [Reactor.render_of_uncut refuses uncut]
        exact .refl _ _ _
      · rw [if_neg own]
        exact .refl _ _ _

theorem Client.notify_comes (sets : (Reactor.level n).SetsEnd) (s : StoreId) (v : Value)
    (entries : List (ListenerId × Listener)) :
    (Task.tell s v entries).Ends (Reactor.level n) := by
  induction entries with
  | nil => exact fun c _ _ rest log => .step (.refl rest c log)
  | cons entry entries inductionHypothesis =>
      obtain ⟨id, listener⟩ := entry
      intro c refuses uncut rest log
      apply Moment.Comes.step
      rw [Task.run, notify] at uncut ⊢
      rw [Moment.step]
      by_cases subscribed : c.isSubscribed s id = true
      · rw [if_pos subscribed] at uncut ⊢
        rw [if_pos subscribed]
        have refusesOn := react_keeps endures_refuses (Reactor.level_keeps_refuses n)
          listener v refuses
        have first := uncut_of_cut refusesOn
          (notify_closed (P := fun c => c.Refuses ∧ c.exhausted = true) s v entries
            fun entry _ _ => react_keeps endures_cut (Reactor.level_keeps_cut n) entry.2 v)
          uncut
        exact (react_comes sets listener v refuses first _ log).trans
          (inductionHypothesis _ refusesOn uncut rest)
      · rw [if_neg subscribed] at uncut ⊢
        rw [if_neg subscribed]
        exact inductionHypothesis c refuses uncut rest log

end Ends

/-- However long chains may be. -/
theorem Reactor.level_setsEnd (n : Nat) : (Reactor.level n).SetsEnd := by
  induction n with
  | zero =>
      intro s v c _ uncut written rest log
      rw [Reactor.level] at uncut ⊢
      dsimp only at uncut ⊢
      by_cases unheard : (written.listeners s).isEmpty = true
      · rw [if_pos unheard]
        rw [List.isEmpty_iff.1 unheard]
        exact .step (.refl _ _ _)
      · rw [if_neg unheard] at uncut
        cases uncut
  | succ n inductionHypothesis =>
      intro s v c refuses uncut written rest log
      exact Client.notify_comes inductionHypothesis s v (written.listeners s) written refuses
        uncut rest log

section Whole

variable {n : Nat}

theorem Task.ends (task : Task) (n : Nat) : task.Ends (Reactor.level n) := by
  cases task with
  | act a => exact a.ends (Reactor.level_setsEnd n)
  | subscribe s listener => exact fun c _ _ rest _ => .step (.refl rest _ _)
  | unsubscribe s id => exact fun c _ _ rest _ => .step (.refl rest _ _)
  | tell s v entries => exact Client.notify_comes (Reactor.level_setsEnd n) s v entries

theorem Task.run_closed {P : Client → Prop} (endures : Endures P)
    (subscribe : ∀ (c : Client) s listener, P c →
      P (c.askHost (Host.subscribe s listener)).2)
    (unsubscribe : ∀ (c : Client) s id, P c → P (c.onHost (Host.unsubscribe s id)))
    {r : Reactor} (keeps : r.Keeps P) (task : Task) {c : Client} (holds : P c) :
    P (task.run r c) := by
  cases task with
  | act a => exact a.run_keeps endures.toAllows keeps holds
  | subscribe s listener => exact subscribe c s listener holds
  | unsubscribe s id => exact unsubscribe c s id holds
  | tell s v entries =>
      exact Client.notify_closed s v entries
        (fun entry _ _ => Client.react_keeps endures keeps entry.2 v) holds

theorem Task.run_refuses (task : Task) {c : Client} (refuses : c.Refuses) :
    (task.run (Reactor.level n) c).Refuses :=
  task.run_closed Client.endures_refuses (fun _ _ _ => id) (fun _ _ _ => id)
    (Reactor.level_keeps_refuses n) refuses

theorem Task.run_cut (task : Task) {c : Client} (cut : c.Refuses ∧ c.exhausted = true) :
    (task.run (Reactor.level n) c).Refuses ∧
      (task.run (Reactor.level n) c).exhausted = true := by
  refine task.run_closed Client.endures_cut (fun c s listener cut => ⟨cut.1, ?_⟩)
    (fun _ _ _ => id) (Reactor.level_keeps_cut n) cut
  change (Host.subscribe s listener c.toHost).2.exhausted = true
  rw [Host.subscribe_eq_onStore]
  exact cut.2

theorem Task.runAll_cut (tasks : List Task) {c : Client}
    (cut : c.Refuses ∧ c.exhausted = true) :
    (runAll (Reactor.level n) tasks c).Refuses ∧
      (runAll (Reactor.level n) tasks c).exhausted = true := by
  induction tasks generalizing c with
  | nil => exact cut
  | cons task tasks inductionHypothesis => exact inductionHypothesis (task.run_cut cut)

/-- The moments of a run end where it ends. -/
theorem Moment.comes (tasks : List Task) {c : Client} (refuses : c.Refuses)
    (uncut : (Task.runAll (Reactor.level n) tasks c).exhausted = false) (log : CommandLog) :
    Comes ⟨tasks, c, log⟩ [] (Task.runAll (Reactor.level n) tasks c) := by
  induction tasks generalizing c log with
  | nil => exact .refl [] c log
  | cons task tasks inductionHypothesis =>
      have refusesOn := task.run_refuses (n := n) refuses
      have first := uncut_of_cut refusesOn (Task.runAll_cut tasks) uncut
      exact (task.ends n c refuses first tasks log).trans
        (inductionHypothesis refusesOn uncut)

end Whole

/-! ## The log -/

/-- What has been logged stays. -/
theorem Moment.log_prefix_step (m : Moment) : m.log <+: m.step.log := by
  obtain ⟨tasks, c, log⟩ := m
  cases tasks with
  | nil => exact List.prefix_refl log
  | cons task rest =>
      cases task with
      | act a =>
          change log <+: (a.step rest c log).log
          cases a with
          | write s v next =>
              rw [Action.step]
              cases c.accept s v with
              | ok accepted => exact List.prefix_append log _
              | error e => exact List.prefix_refl log
          | listen s react next => exact List.prefix_append log _
          | forget s id next =>
              rw [Action.step]
              by_cases reaches : c.reaches s id = true
              · rw [if_pos reaches]
                exact List.prefix_append log _
              · simp only [if_neg reaches, List.prefix_refl]
          | _ => exact List.prefix_refl log
      | subscribe s listener => exact List.prefix_append log _
      | unsubscribe s id => exact List.prefix_append log _
      | tell s v entries =>
          cases entries with
          | nil => exact List.prefix_refl log
          | cons entry entries =>
              obtain ⟨id, listener⟩ := entry
              rw [Moment.step]
              by_cases subscribed : c.isSubscribed s id = true
              · rw [if_pos subscribed]
                cases listener <;> exact List.prefix_refl log
              · simp only [if_neg subscribed, List.prefix_refl]

theorem Moment.log_prefix_after (m : Moment) (k : Nat) : m.log <+: (m.after k).log := by
  induction k generalizing m with
  | zero => exact List.prefix_refl _
  | succ k inductionHypothesis => exact m.log_prefix_step.trans (inductionHypothesis m.step)

/-! ## Subscriptions are exact -/

/-- At every moment of a run, however it goes on and whether it ends or not, the
listeners of every store are exactly those that are subscribed and not unsubscribed
according to the log.  The tasks and the listeners that are called may change,
listen to and forget any stores, the log grows by each of these steps, and a run
that is not cut off ends as its moments do.  A render, which is refused here, would
ask a store for nothing that a list of tasks does not. -/
theorem subscriptions_exact (tasks : List Task) (c : Client) (log : CommandLog)
    (used : ∀ (s : StoreId) (store : Store Listener),
      c.stores[s]? = some store → store.Follows (log.of s)) :
    (∀ k (s : StoreId) (store : Store Listener),
      ((Moment.mk tasks c log).after k).client.stores[s]? = some store →
        store.Exact (((Moment.mk tasks c log).after k).log.of s) ∧
          log <+: ((Moment.mk tasks c log).after k).log) ∧
      ∀ n, c.Refuses → (Task.runAll (Reactor.level n) tasks c).exhausted = false →
        ∃ k, ((Moment.mk tasks c log).after k).tasks = [] ∧
          ((Moment.mk tasks c log).after k).client =
            Task.runAll (Reactor.level n) tasks c := by
  have logged : Moment.Logged ⟨tasks, c, log⟩ := used
  refine ⟨fun k s store found => ?_, fun n refuses uncut => ?_⟩
  · exact ⟨(logged.after k s store found).exact,
      Moment.log_prefix_after ⟨tasks, c, log⟩ k⟩
  · obtain ⟨k, last, ended⟩ := Moment.comes tasks refuses uncut log
    exact ⟨k, by rw [ended], by rw [ended]⟩

/-- A store with a listener that removes itself when it is called, and writes again
while the listener behind it still has to be told. -/
def leaving : Client :=
  let leave : Listener := .host fun _ =>
    .forget 0 0 <| .write 0 (.num (.int 2)) fun _ => .forget 0 0 <| .return .null
  let stay : Listener := .host fun v => .note v (.return .null)
  let store : Store Listener := Store.new .any .null false
  { Client.bare {} with stores := [((store.subscribe leave).2.subscribe stay).2] }

def leavingLog : CommandLog :=
  (leaving.listeners 0).map fun entry => (0, .subscribe entry.2)

/-- Both listeners are told about the second value in the middle of the first, and
in the end the first one is gone. -/
theorem subscriptions_exact_leaving :
    (∀ (s : StoreId) (store : Store Listener),
        leaving.stores[s]? = some store → store.Follows (leavingLog.of s)) ∧
      leaving.Refuses ∧
      ∃ k m, (Moment.mk [.act (.write 0 (.num (.int 1)) fun _ => .return .null)]
          leaving leavingLog).after k = m ∧ m.tasks = [] ∧
        m.client.log = [.num (.int 2), .num (.int 1)] ∧
        ∀ store, m.client.stores[0]? = some store →
          store.ids = [1] ∧ store.Exact (m.log.of 0) := by
  have used : ∀ (s : StoreId) (store : Store Listener),
      leaving.stores[s]? = some store → store.Follows (leavingLog.of s) := by
    intro s store found
    cases s with
    | zero =>
        cases found
        exact (((Store.Follows.new .any .null false).apply (.subscribe _)).apply (.subscribe _))
    | succ s => cases found
  have refuses : leaving.Refuses := .inr (.inl rfl)
  have uncut : (Task.runAll (Reactor.level 3)
      [.act (.write 0 (.num (.int 1)) fun _ => .return .null)] leaving).exhausted = false := by
    decide +kernel
  obtain ⟨moments, ends⟩ := subscriptions_exact
    [.act (.write 0 (.num (.int 1)) fun _ => .return .null)] leaving leavingLog used
  obtain ⟨k, done, comes⟩ := ends 3 refuses uncut
  refine ⟨used, refuses, k, _, rfl, done, ?_, fun store found => ⟨?_, (moments k 0 store found).1⟩⟩
  · rw [comes]
    rfl
  · rw [comes] at found
    cases found
    decide +kernel

end LivePages
