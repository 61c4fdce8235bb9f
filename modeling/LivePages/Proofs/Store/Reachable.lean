import LivePages.Proofs.Store.History

/-!
# Stores in use

A store that is only used through its operations never gives a number twice,
so the numbers of its listeners say which of them are still there.
-/

namespace LivePages.Store

variable {ℓ : Type}

/-- The listeners of a store in the order of their registration. -/
def ids (s : Store ℓ) : List ListenerId := s.listeners.map Prod.fst

/-- The stores that come about by using one. -/
inductive Reachable : Store ℓ → Prop where
  | new (type : StoreType) (v : Value) (persist : Bool) :
      Reachable (Store.new type v persist)
  | subscribe {s : Store ℓ} (listener : ℓ) :
      Reachable s → Reachable (s.subscribe listener).2
  | unsubscribe {s : Store ℓ} (id : ListenerId) :
      Reachable s → Reachable (s.unsubscribe id)
  | write {s : Store ℓ} (v : Value) :
      Reachable s → Reachable { s with value := v }

theorem ids_subscribe (s : Store ℓ) (listener : ℓ) :
    (s.subscribe listener).2.ids = s.ids ++ [s.nextId] := by
  simp [ids, subscribe]

theorem ids_unsubscribe (s : Store ℓ) (id : ListenerId) :
    (s.unsubscribe id).ids = s.ids.filter (· ≠ id) := by
  simp [ids, unsubscribe, List.filter_map, Function.comp_def]

/-- Numbers of listeners are not given twice. -/
theorem Reachable.lt_nextId {s : Store ℓ} (reachable : s.Reachable) :
    ∀ id ∈ s.ids, id < s.nextId := by
  induction reachable with
  | new type v persist => simp [ids, Store.new]
  | @subscribe s listener reachable inductionHypothesis =>
      intro id member
      rw [ids_subscribe, List.mem_append, List.mem_singleton] at member
      rcases member with member | rfl
      · exact Nat.lt_succ_of_lt (inductionHypothesis id member)
      · exact Nat.lt_succ_self _
  | @unsubscribe s other reachable inductionHypothesis =>
      intro id member
      rw [ids_unsubscribe, List.mem_filter] at member
      exact inductionHypothesis id member.1
  | write v reachable inductionHypothesis => exact inductionHypothesis

theorem Reachable.nodup {s : Store ℓ} (reachable : s.Reachable) : s.ids.Nodup := by
  induction reachable with
  | new type v persist => simp [ids, Store.new]
  | @subscribe s listener reachable inductionHypothesis =>
      have apart : s.nextId ∉ s.ids := fun member =>
        Nat.lt_irrefl _ (reachable.lt_nextId _ member)
      rw [ids_subscribe, List.nodup_append]
      refine ⟨inductionHypothesis, by simp, ?_⟩
      intro id member other isNew
      rw [List.mem_singleton.1 isNew]
      rintro rfl
      exact apart member
  | @unsubscribe s other reachable inductionHypothesis =>
      rw [ids_unsubscribe]
      exact inductionHypothesis.filter _
  | write v reachable inductionHypothesis => exact inductionHypothesis

theorem isSubscribed_iff (s : Store ℓ) (id : ListenerId) :
    s.isSubscribed id = true ↔ id ∈ s.ids := by
  simp [isSubscribed, ids]

/-- A store has turned into another by these changes. -/
structure Leads (before : Store ℓ) (changes : List Change) (after : Store ℓ) :
    Prop where
  ids : after.ids = registeredAfter before.ids changes
  value : after.value = lastWritten before.value changes
  next : before.nextId ≤ after.nextId
  new : ∀ id, Change.listened id ∈ changes → before.nextId ≤ id

theorem Leads.refl (s : Store ℓ) : s.Leads [] s :=
  ⟨rfl, rfl, Nat.le_refl _, by simp⟩

theorem Leads.trans {a b c : Store ℓ} {first second : List Change}
    (left : a.Leads first b) (right : b.Leads second c) :
    a.Leads (first ++ second) c where
  ids := by rw [registeredAfter_append, ← left.ids, right.ids]
  value := by rw [lastWritten_append, ← left.value, right.value]
  next := Nat.le_trans left.next right.next
  new := by
    intro id member
    rcases List.mem_append.1 member with member | member
    · exact left.new id member
    · exact Nat.le_trans left.next (right.new id member)

theorem leads_subscribe (s : Store ℓ) (listener : ℓ) :
    s.Leads [.listened s.nextId] (s.subscribe listener).2 where
  ids := ids_subscribe s listener
  value := rfl
  next := Nat.le_succ _
  new := by
    intro id member
    cases List.mem_singleton.1 member
    exact Nat.le_refl _

theorem leads_unsubscribe (s : Store ℓ) (id : ListenerId) :
    s.Leads [.forgot id] (s.unsubscribe id) where
  ids := ids_unsubscribe s id
  value := rfl
  next := Nat.le_refl _
  new := by simp

theorem leads_write (s : Store ℓ) (v : Value) :
    s.Leads [.wrote v] { s with value := v } :=
  ⟨rfl, rfl, Nat.le_refl _, by simp⟩

end LivePages.Store
