import LivePages.Proofs.Store.Reachable
import Mathlib.Data.List.Induction

/-!
# Subscriptions

A store in use is what a history of commands has made of it.  The history hands
out the handles: each subscription one, with the next number, which is active
until its number is unsubscribed.  The listeners of the store are those of the
active handles.
-/

namespace LivePages.Store

variable {ℓ : Type}

/-! ## Commands -/

/-- What can be asked of a store. -/
inductive Command (ℓ : Type) where
  | subscribe (listener : ℓ)
  | unsubscribe (id : ListenerId)
  | write (v : Value)

def Command.isSubscribe : Command ℓ → Bool
  | .subscribe _ => true
  | _ => false

def Command.apply (command : Command ℓ) (s : Store ℓ) : Store ℓ :=
  match command with
  | .subscribe listener => (s.subscribe listener).2
  | .unsubscribe id => s.unsubscribe id
  | .write v => { s with value := v }

/-- A store that these commands have made out of a new one. -/
def Follows (commands : List (Command ℓ)) (s : Store ℓ) : Prop :=
  ∃ type v persist,
    s = commands.foldl (fun s command => command.apply s) (Store.new type v persist)

theorem Follows.new (type : StoreType) (v : Value) (persist : Bool) :
    (Store.new type v persist : Store ℓ).Follows [] :=
  ⟨type, v, persist, rfl⟩

theorem Follows.apply {commands : List (Command ℓ)} {s : Store ℓ}
    (follows : s.Follows commands) (command : Command ℓ) :
    (command.apply s).Follows (commands ++ [command]) := by
  obtain ⟨type, v, persist, rfl⟩ := follows
  exact ⟨type, v, persist, by rw [List.foldl_append]; rfl⟩

/-- An induction along the history of a store. -/
theorem Follows.induct {P : List (Command ℓ) → Store ℓ → Prop}
    (new : ∀ type v persist, P [] (Store.new type v persist))
    (apply : ∀ commands s command, P commands s → P (commands ++ [command]) (command.apply s))
    {commands : List (Command ℓ)} {s : Store ℓ} (follows : s.Follows commands) :
    P commands s := by
  obtain ⟨type, v, persist, rfl⟩ := follows
  induction commands using List.reverseRecOn with
  | nil => exact new type v persist
  | append_singleton commands command inductionHypothesis =>
      rw [List.foldl_append]
      exact apply commands _ command inductionHypothesis

/-! ## Handles -/

/-- What a subscription hands out.  It is active until its unsubscribe runs. -/
structure Handle (ℓ : Type) where
  id : ListenerId
  listener : ℓ
  active : Bool

def Handle.entry (handle : Handle ℓ) : ListenerId × ℓ := (handle.id, handle.listener)

/-- The handle after a number has been unsubscribed. -/
def Handle.release (id : ListenerId) (handle : Handle ℓ) : Handle ℓ :=
  { handle with active := handle.active && handle.id ≠ id }

/-- The handles there are behind a command. -/
def Command.handOut (handles : List (Handle ℓ)) : Command ℓ → List (Handle ℓ)
  | .subscribe listener => handles ++ [⟨handles.length, listener, true⟩]
  | .unsubscribe id => handles.map (Handle.release id)
  | .write _ => handles

/-- The handles that a history has handed out, in the order of the subscriptions. -/
def handles (commands : List (Command ℓ)) : List (Handle ℓ) :=
  commands.foldl Command.handOut []

theorem handles_append (first second : List (Command ℓ)) :
    handles (first ++ second) = second.foldl Command.handOut (handles first) :=
  List.foldl_append

theorem handles_snoc (commands : List (Command ℓ)) (command : Command ℓ) :
    handles (commands ++ [command]) = command.handOut (handles commands) :=
  handles_append commands [command]

/-- There is one handle for each subscription. -/
theorem length_handles (commands : List (Command ℓ)) :
    (handles commands).length = commands.countP Command.isSubscribe := by
  induction commands using List.reverseRecOn with
  | nil => rfl
  | append_singleton commands command inductionHypothesis =>
      rw [handles_snoc, List.countP_append, ← inductionHypothesis]
      cases command <;> simp [Command.handOut, Command.isSubscribe]

/-- A handle stays where it is, and is active as long as its number has not been
unsubscribed. -/
theorem getElem?_handOut (later : List (Command ℓ)) {before : List (Handle ℓ)} {n : Nat}
    {listener : ℓ} {active : Bool} (found : before[n]? = some ⟨n, listener, active⟩) :
    ∃ still, (later.foldl Command.handOut before)[n]? = some ⟨n, listener, still⟩ ∧
      (still = true ↔ active = true ∧ Command.unsubscribe n ∉ later) := by
  induction later generalizing before active with
  | nil => exact ⟨active, found, by simp⟩
  | cons command later inductionHypothesis =>
      rw [List.foldl_cons]
      cases command with
      | subscribe other =>
          have kept : (before ++ [⟨before.length, other, true⟩])[n]? =
              some ⟨n, listener, active⟩ := by
            rw [List.getElem?_append_left (List.getElem?_eq_some_iff.1 found).1, found]
          obtain ⟨still, later, isStill⟩ := inductionHypothesis kept
          exact ⟨still, later, by simpa using isStill⟩
      | unsubscribe id =>
          have released : (before.map (Handle.release id))[n]? =
              some ⟨n, listener, active && n ≠ id⟩ := by
            rw [List.getElem?_map, found]
            rfl
          obtain ⟨still, later, isStill⟩ := inductionHypothesis released
          refine ⟨still, later, isStill.trans ?_⟩
          simp [and_assoc]
      | write v =>
          obtain ⟨still, later, isStill⟩ := inductionHypothesis found
          exact ⟨still, later, by simpa using isStill⟩

/-! ## The account of a store -/

/-- A store whose listeners are those of the active handles, the handles having the
numbers that have been given. -/
structure Accounts (handles : List (Handle ℓ)) (s : Store ℓ) : Prop where
  numbers : handles.map Handle.id = List.range s.nextId
  listeners : s.listeners = (handles.filter Handle.active).map Handle.entry

theorem Accounts.count {handles : List (Handle ℓ)} {s : Store ℓ}
    (accounts : s.Accounts handles) : handles.length = s.nextId := by
  have same := congrArg List.length accounts.numbers
  rwa [List.length_map, List.length_range] at same

theorem Accounts.subscribe {handles : List (Handle ℓ)} {s : Store ℓ}
    (accounts : s.Accounts handles) (listener : ℓ) :
    (s.subscribe listener).2.Accounts (handles ++ [⟨handles.length, listener, true⟩]) where
  numbers := by
    rw [List.map_append, accounts.numbers, accounts.count]
    exact List.range_succ.symm
  listeners := by
    rw [List.filter_append, List.map_append, ← accounts.listeners, accounts.count]
    rfl

theorem Accounts.unsubscribe {handles : List (Handle ℓ)} {s : Store ℓ}
    (accounts : s.Accounts handles) (id : ListenerId) :
    (s.unsubscribe id).Accounts (handles.map (Handle.release id)) where
  numbers := by
    rw [List.map_map]
    exact accounts.numbers
  listeners := by
    change s.listeners.filter _ = _
    rw [accounts.listeners, List.filter_map, List.filter_map, List.map_map, List.filter_filter]
    apply congrArg (List.map Handle.entry)
    apply List.filter_congr
    intro handle _
    by_cases same : handle.id = id <;> simp [Handle.release, Handle.entry, same]

theorem Follows.accounts {commands : List (Command ℓ)} {s : Store ℓ}
    (follows : s.Follows commands) : s.Accounts (handles commands) := by
  refine follows.induct (P := fun commands s => s.Accounts (handles commands))
    (fun type v persist => ⟨rfl, rfl⟩) fun commands s command accounts => ?_
  rw [handles_snoc]
  cases command with
  | subscribe listener => exact accounts.subscribe listener
  | unsubscribe id => exact accounts.unsubscribe id
  | write v => exact ⟨accounts.numbers, accounts.listeners⟩

theorem Accounts.nodup {handles : List (Handle ℓ)} {s : Store ℓ}
    (accounts : s.Accounts handles) : s.ids.Nodup := by
  have numbers : handles.Pairwise fun first second => first.id ≠ second.id :=
    List.pairwise_map.1 (accounts.numbers ▸ List.nodup_range)
  rw [ids, accounts.listeners, List.map_map, List.Nodup, List.pairwise_map]
  exact numbers.filter _

/-! ## Removal -/

theorem unsubscribe_unsubscribe (s : Store ℓ) (first second : ListenerId) :
    (s.unsubscribe first).unsubscribe second = (s.unsubscribe second).unsubscribe first := by
  simp only [unsubscribe, List.filter_filter, Bool.and_comm]

theorem unsubscribe_again (s : Store ℓ) (id : ListenerId) :
    (s.unsubscribe id).unsubscribe id = s.unsubscribe id := by
  simp only [unsubscribe, List.filter_filter, Bool.and_self]

/-- In a list of distinct numbers, taking a number away takes away one entry at most. -/
theorem filter_eq_eraseP {entries : List (ListenerId × ℓ)}
    (distinct : (entries.map Prod.fst).Nodup) (id : ListenerId) :
    entries.filter (fun entry => entry.1 ≠ id) =
      entries.eraseP fun entry => entry.1 = id := by
  induction entries with
  | nil => rfl
  | cons entry entries inductionHypothesis =>
      obtain ⟨apart, distinct⟩ := List.nodup_cons.1 distinct
      by_cases same : entry.1 = id
      · rw [List.filter_cons_of_neg (by simpa using same),
          List.eraseP_cons_of_pos (by simpa using same), List.filter_eq_self]
        intro other member
        have different : other.1 ≠ id := fun otherSame =>
          apart (same ▸ otherSame ▸ List.mem_map_of_mem member)
        simpa using different
      · rw [List.filter_cons_of_pos (by simpa using same),
          List.eraseP_cons_of_neg (by simpa using same), inductionHypothesis distinct]

/-! ## Exactness -/

/-- A store with exactly the listeners that a history has left it. -/
structure Exact (commands : List (Command ℓ)) (s : Store ℓ) : Prop where
  /-- Registered are the listeners of the active handles, in the order of the
  subscriptions. -/
  registered : s.listeners = ((handles commands).filter Handle.active).map Handle.entry
  distinct : s.ids.Nodup
  /-- A handle is active if and only if its unsubscribe has not run. -/
  active : ∀ earlier listener later, commands = earlier ++ .subscribe listener :: later →
    ∃ still, (handles commands)[earlier.countP Command.isSubscribe]? =
        some ⟨earlier.countP Command.isSubscribe, listener, still⟩ ∧
      (still = true ↔ .unsubscribe (earlier.countP Command.isSubscribe) ∉ later)
  count : s.listeners.length + (handles commands).countP (fun handle => !handle.active) =
    commands.countP Command.isSubscribe
  /-- An unsubscribe removes one listener at most, and no other. -/
  removes : ∀ id, (s.unsubscribe id).listeners = s.listeners.eraseP fun entry => entry.1 = id
  again : ∀ id, (s.unsubscribe id).unsubscribe id = s.unsubscribe id
  order : ∀ first second,
    (s.unsubscribe first).unsubscribe second = (s.unsubscribe second).unsubscribe first

theorem Follows.exact {commands : List (Command ℓ)} {s : Store ℓ}
    (follows : s.Follows commands) : s.Exact commands where
  registered := follows.accounts.listeners
  distinct := follows.accounts.nodup
  active := by
    rintro earlier listener later rfl
    have first : (handles (earlier ++ [.subscribe listener]))[(handles earlier).length]? =
        some ⟨(handles earlier).length, listener, true⟩ := by
      rw [handles_snoc]
      exact List.getElem?_concat_length
    obtain ⟨still, found, isStill⟩ := getElem?_handOut later first
    rw [← length_handles, List.append_cons, handles_append]
    exact ⟨still, found, isStill.trans (and_iff_right rfl)⟩
  count := by
    rw [follows.accounts.listeners, List.length_map, ← List.countP_eq_length_filter,
      ← length_handles]
    simpa using (List.length_eq_countP_add_countP Handle.active (l := handles commands)).symm
  removes := filter_eq_eraseP follows.accounts.nodup
  again := s.unsubscribe_again
  order := s.unsubscribe_unsubscribe

end LivePages.Store
