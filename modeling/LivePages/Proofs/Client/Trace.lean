import LivePages.Client.Reactor
import LivePages.Proofs.Store.Reachable

/-!
# Runs of listeners that act on their store

A listener may change its store while others are being told about it, so a
whole round of notification runs in the middle of another.  Each part of the
program has a twin here that writes down what happens on one store.  A twin has
no outcome where a chain of changes grows too long.
-/

namespace LivePages

/-! ## Actions on one store -/

/-- Whether an action sets, subscribes to and unsubscribes from those stores
only, and so do the listeners it puts there, and asks for no render.  What it
keeps for itself, and its log, are its own affair. -/
def Action.Within (scope : StoreId → Prop) : Action → Prop
  | .finish _ => True
  | .read _ next => ∀ v, (next v).Within scope
  | .write s _ next => scope s ∧ ∀ answer, (next answer).Within scope
  | .listen s react next =>
    scope s ∧ (∀ v, (react v).Within scope) ∧ ∀ id, (next id).Within scope
  | .forget s _ next => scope s ∧ next.Within scope
  | .render _ => False
  | .retrieve _ next => ∀ v, (next v).Within scope
  | .keep _ _ next => next.Within scope
  | .note _ next => next.Within scope

/-- A listener put there by an action, and whose actions keep to some stores. -/
def Listener.Within (scope : StoreId → Prop) : Listener → Prop
  | .host react => ∀ v, (react v).Within scope
  | _ => False

theorem Listener.Within.isHost {scope : StoreId → Prop} {listener : Listener}
    (acts : listener.Within scope) :
    listener.isHost = true := by
  cases listener with
  | host react => rfl
  | slot client area key => exact absurd acts id
  | rerender client => exact absurd acts id

/-- A store of a client, in use by listeners that act on this store only. -/
structure Client.Secludes (c : Client) (s : StoreId) (store : Store Listener) :
    Prop where
  found : c.stores[s]? = some store
  reachable : store.Reachable
  listeners : ∀ entry ∈ store.listeners, entry.2.Within (· = s)

/-! ## Runs with their histories -/

/-- What a run wrote down and the client it ended with, unless it was cut
off. -/
abbrev Traced (α : Type) := Option (α × Client)

namespace Traced

/-- Writes down more about a run. -/
def noting {α β : Type} (note : α → β) (run : Traced α) : Traced β :=
  run.map fun (history, c) => (note history, c)

/-- A run that goes on behind another one. -/
def andThen {α β γ : Type} (first : Traced α) (note : α → β → γ)
    (next : Client → Traced β) : Traced γ :=
  first.bind fun (history, c) => (next c).noting (note history)

end Traced

/-- Carries out an action on a store, `set` being how its value is changed. -/
def Action.trace (set : Value → Client → Traced (List Call)) :
    Action → Client → Traced (List Event)
  | .finish _, c => some ([], c)
  | .read s next, c => (next (c.readStore s)).trace set c
  | .write s v next, c =>
    match c.accept s v with
    | .ok accepted =>
      (set accepted c).andThen (fun calls events => .set accepted calls :: events)
        ((next none).trace set)
    | .error e => (next (some e)).trace set c
  | .listen s react next, c =>
    let (id, c) := c.askHost (Host.subscribe s (.host react))
    ((next id).trace set c).noting (.listened id :: ·)
  | .forget s id next, c =>
    (next.trace set (c.onHost (Host.forget s id))).noting (.forgot id :: ·)
  | .render _, _ => none
  | .retrieve key next, c =>
    (next ((c.memory.get? key).getD .null)).trace set c
  | .keep key v next, c =>
    next.trace set { c with memory := Table.insert key v c.memory }
  | .note entry next, c => next.trace set { c with log := c.log ++ [entry] }

namespace Client

def traceReact (set : Value → Client → Traced (List Call))
    (listener : Listener) (v : Value) (c : Client) : Traced (List Event) :=
  match listener with
  | .host react => (react v).trace set c
  | _ => none

def traceNotify (set : Value → Client → Traced (List Call)) (s : StoreId)
    (v : Value) : List (ListenerId × Listener) → Client → Traced (List Call)
  | [], c => some ([], c)
  | (id, listener) :: rest, c =>
    if c.isSubscribed s id then
      (c.traceReact set listener v).andThen
        (fun events calls => .call id v events :: calls)
        (traceNotify set s v rest)
    else traceNotify set s v rest c

/-- Changes a store, where chains of at most `n` changes may cause each
other. -/
def traceSet (s : StoreId) : Nat → Value → Client → Traced (List Call)
  | 0, v, c =>
    let c := c.onHost (Host.onStore s fun store => { store with value := v })
    if (c.listeners s).isEmpty then some ([], c) else none
  | n + 1, v, c =>
    let c := c.onHost (Host.onStore s fun store => { store with value := v })
    c.traceNotify (traceSet s n) s v (c.listeners s)

end Client

/-! ## Runs that end -/

/-- A run has an outcome with longer chains, too, if it has one. -/
def Traced.Within {α : Type} (run longer : Traced α) : Prop :=
  ∀ outcome, run = some outcome → longer = some outcome

theorem Traced.Within.noting {α β : Type} {run longer : Traced α}
    (within : run.Within longer) (note : α → β) :
    (run.noting note).Within (longer.noting note) := by
  intro outcome ended
  obtain ⟨result, begun, rfl⟩ := Option.map_eq_some_iff.1 ended
  rw [Traced.noting, within result begun, Option.map_some]

theorem Traced.Within.andThen {α β γ : Type} {first longer : Traced α}
    (within : first.Within longer) {next nextLonger : Client → Traced β}
    (goesOn : ∀ c, (next c).Within (nextLonger c)) (note : α → β → γ) :
    (first.andThen note next).Within (longer.andThen note nextLonger) := by
  intro outcome ended
  obtain ⟨⟨history, c⟩, begun, ended⟩ := Option.bind_eq_some_iff.1 ended
  rw [Traced.andThen, within _ begun]
  exact (goesOn c).noting (note history) outcome ended

section Within

variable {set longer : Value → Client → Traced (List Call)}
  (within : ∀ v c, (set v c).Within (longer v c))

include within

theorem Action.trace_within (a : Action) (c : Client) :
    (a.trace set c).Within (a.trace longer c) := by
  induction a generalizing c with
  | finish result => exact fun _ ended => ended
  | read s next inductionHypothesis => exact inductionHypothesis _ c
  | write s v next inductionHypothesis =>
      rw [Action.trace, Action.trace]
      cases c.accept s v with
      | error e => exact inductionHypothesis _ c
      | ok accepted =>
          exact (within accepted c).andThen (inductionHypothesis none) _
  | listen s react next _ inductionHypothesis =>
      exact (inductionHypothesis _ _).noting _
  | forget s id next inductionHypothesis => exact (inductionHypothesis _).noting _
  | render next => exact fun _ ended => ended
  | retrieve key next inductionHypothesis => exact inductionHypothesis _ c
  | keep key v next inductionHypothesis => exact inductionHypothesis _
  | note entry next inductionHypothesis => exact inductionHypothesis _

theorem Client.traceNotify_within (s : StoreId) (v : Value)
    (entries : List (ListenerId × Listener)) (c : Client) :
    (c.traceNotify set s v entries).Within (c.traceNotify longer s v entries) := by
  induction entries generalizing c with
  | nil => exact fun _ ended => ended
  | cons entry entries inductionHypothesis =>
      obtain ⟨id, listener⟩ := entry
      rw [traceNotify, traceNotify]
      by_cases subscribed : c.isSubscribed s id = true
      · rw [if_pos subscribed, if_pos subscribed]
        have reacts : (c.traceReact set listener v).Within
            (c.traceReact longer listener v) := by
          cases listener with
          | host react => exact (react v).trace_within within c
          | slot client area key => exact fun _ ended => ended
          | rerender client => exact fun _ ended => ended
        exact reacts.andThen inductionHypothesis _
      · rw [if_neg subscribed, if_neg subscribed]
        exact inductionHypothesis c

end Within

theorem Client.traceSet_within (s : StoreId) (n : Nat) (v : Value) (c : Client) :
    (c.traceSet s n v).Within (c.traceSet s (n + 1) v) := by
  induction n generalizing v c with
  | zero =>
      intro outcome ended
      simp only [traceSet] at ended ⊢
      by_cases unheard : ((c.onHost (Host.onStore s fun store =>
          { store with value := v })).listeners s).isEmpty = true
      · rw [if_pos unheard] at ended
        rw [List.isEmpty_iff] at unheard
        rw [unheard]
        exact ended
      · rw [if_neg unheard] at ended
        contradiction
  | succ n inductionHypothesis =>
      exact traceNotify_within inductionHypothesis s v _ _

theorem Client.traceSet_le (s : StoreId) (v : Value) (c : Client) {n m : Nat}
    (longer : n ≤ m) :
    (c.traceSet s n v).Within (c.traceSet s m v) := by
  induction longer with
  | refl => exact fun _ ended => ended
  | step longer inductionHypothesis =>
      intro outcome ended
      exact traceSet_within s _ v c outcome (inductionHypothesis outcome ended)

end LivePages
