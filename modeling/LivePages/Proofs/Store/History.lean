import LivePages.Store.Action

/-!
# Histories of a store

What happens on a store while its listeners are told about new values, as a
tree: a change of the value stands above the calls it leads to, and a call
above what the listener does.  Who is registered, and which value the store
holds, is read off a history without looking at the store.
-/

namespace LivePages

/-- A single change of a store. -/
inductive Change where
  | listened (id : ListenerId)
  | forgot (id : ListenerId)
  | wrote (v : Value)

mutual

/-- Something that was done to a store, with all that followed from it. -/
inductive Event where
  | listened (id : ListenerId)
  | forgot (id : ListenerId)
  | set (v : Value) (calls : List Call)

/-- A call of a listener with a value, and what was done during it. -/
inductive Call where
  | call (id : ListenerId) (v : Value) (events : List Event)

end

def Call.id : Call → ListenerId
  | .call id _ _ => id

def Call.value : Call → Value
  | .call _ v _ => v

mutual

/-- The changes in their order.  A set call starts with writing its value. -/
def Event.changes : Event → List Change
  | .listened id => [.listened id]
  | .forgot id => [.forgot id]
  | .set v calls => .wrote v :: changesOfCalls calls

def Call.changes : Call → List Change
  | .call _ _ events => changesOfEvents events

def changesOfEvents : List Event → List Change
  | [] => []
  | event :: rest => event.changes ++ changesOfEvents rest

def changesOfCalls : List Call → List Change
  | [] => []
  | call :: rest => call.changes ++ changesOfCalls rest

end

/-- The listeners registered behind a change, in the order of their
registration. -/
def Change.registered (ids : List ListenerId) : Change → List ListenerId
  | .listened id => ids ++ [id]
  | .forgot id => ids.filter (· ≠ id)
  | .wrote _ => ids

def registeredAfter (ids : List ListenerId) (changes : List Change) :
    List ListenerId :=
  changes.foldl Change.registered ids

def Change.written (v : Value) : Change → Value
  | .wrote w => w
  | _ => v

/-- The value behind some changes: that of the last set call to start. -/
def lastWritten (v : Value) (changes : List Change) : Value :=
  changes.foldl Change.written v

theorem registeredAfter_append (ids : List ListenerId)
    (first second : List Change) :
    registeredAfter ids (first ++ second) =
      registeredAfter (registeredAfter ids first) second :=
  List.foldl_append

theorem lastWritten_append (v : Value) (first second : List Change) :
    lastWritten v (first ++ second) =
      lastWritten (lastWritten v first) second :=
  List.foldl_append

/-! ## The law -/

/-- What the calls of a set call of `v` must be, when it finds the listeners in
`snapshot` to tell, and `registered` are registered.  The turn of a listener
comes after the calls of those in front of it. -/
structure Round (snapshot registered : List ListenerId) (v : Value)
    (calls : List Call) : Prop where
  order : (calls.map Call.id).Sublist snapshot
  once : (calls.map Call.id).Nodup
  value : ∀ call ∈ calls, call.value = v
  called_iff : ∀ earlier id later, snapshot = earlier ++ id :: later →
    (id ∈ calls.map Call.id ↔
      id ∈ registeredAfter registered
        (changesOfCalls (calls.filter (·.id ∈ earlier))))
  unheard : ∀ id, Change.listened id ∈ changesOfCalls calls →
    id ∉ calls.map Call.id

mutual

/-- Whether all set calls of a history tell the listeners that they must, and
no others.  The history starts with `registered`. -/
def Event.Lawful (registered : List ListenerId) : Event → Prop
  | .listened _ => True
  | .forgot _ => True
  | .set v calls =>
    Round registered registered v calls ∧ CallsLawful registered calls

def Call.Lawful (registered : List ListenerId) : Call → Prop
  | .call _ _ events => EventsLawful registered events

def EventsLawful (registered : List ListenerId) : List Event → Prop
  | [] => True
  | event :: rest =>
    event.Lawful registered ∧
      EventsLawful (registeredAfter registered event.changes) rest

def CallsLawful (registered : List ListenerId) : List Call → Prop
  | [] => True
  | call :: rest =>
    call.Lawful registered ∧
      CallsLawful (registeredAfter registered call.changes) rest

end

/-! ## A round, listener by listener -/

theorem Round.nil (registered : List ListenerId) (v : Value) :
    Round [] registered v [] where
  order := List.Sublist.refl []
  once := List.nodup_nil
  value := by simp
  called_iff := by simp
  unheard := by simp

theorem filter_earlier_cons {calls : List Call} {id : ListenerId}
    (uncalled : id ∉ calls.map Call.id) (earlier : List ListenerId) :
    calls.filter (·.id ∈ id :: earlier) = calls.filter (·.id ∈ earlier) := by
  apply List.filter_congr
  intro call member
  have different : call.id ≠ id := by
    rintro rfl
    exact uncalled (List.mem_map_of_mem member)
  simp [different]

/-- The first turn comes before all calls. -/
theorem filter_earlier_nil (calls : List Call) :
    calls.filter (·.id ∈ ([] : List ListenerId)) = [] := by
  simp

/-- A listener that is no longer registered has no call. -/
theorem Round.skip {snapshot registered : List ListenerId} {v : Value}
    {calls : List Call} (round : Round snapshot registered v calls)
    {id : ListenerId} (gone : id ∉ registered) (apart : id ∉ snapshot) :
    Round (id :: snapshot) registered v calls where
  order := round.order.cons id
  once := round.once
  value := round.value
  called_iff := by
    have uncalled : id ∉ calls.map Call.id := fun member =>
      apart (round.order.subset member)
    intro earlier turn later shape
    cases earlier with
    | nil =>
        rw [List.nil_append, List.cons.injEq] at shape
        rw [filter_earlier_nil, ← shape.1]
        exact ⟨fun member => absurd member uncalled, fun member => absurd member gone⟩
    | cons first earlier =>
        rw [List.cons_append, List.cons.injEq] at shape
        rw [← shape.1, filter_earlier_cons uncalled]
        exact round.called_iff earlier turn later shape.2
  unheard := round.unheard

/-- A listener that is registered is called, and the others have their turns
behind what happens during the call. -/
theorem Round.call {snapshot registered : List ListenerId} {v : Value}
    {id : ListenerId} {events : List Event} {calls : List Call}
    (round : Round snapshot
      (registeredAfter registered (changesOfEvents events)) v calls)
    (present : id ∈ registered) (apart : id ∉ snapshot)
    (new : ∀ other,
      Change.listened other ∈ changesOfEvents events ++ changesOfCalls calls →
        other ∉ id :: snapshot) :
    Round (id :: snapshot) registered v (.call id v events :: calls) where
  order := round.order.cons_cons id
  once :=
    List.nodup_cons.2
      ⟨fun member => apart (round.order.subset member), round.once⟩
  value := by
    intro call member
    rcases List.mem_cons.1 member with rfl | member
    · rfl
    · exact round.value call member
  called_iff := by
    have uncalled : id ∉ calls.map Call.id := fun member =>
      apart (round.order.subset member)
    intro earlier turn later shape
    cases earlier with
    | nil =>
        rw [List.nil_append, List.cons.injEq] at shape
        rw [filter_earlier_nil, ← shape.1]
        exact ⟨fun _ => present, fun _ => List.mem_cons_self⟩
    | cons first earlier =>
        rw [List.cons_append, List.cons.injEq] at shape
        obtain ⟨rfl, shape⟩ := shape
        have different : turn ≠ id := by
          rintro rfl
          exact apart (shape ▸ by simp)
        have kept : (Call.call id v events :: calls).filter
            (·.id ∈ id :: earlier) =
              .call id v events :: calls.filter (·.id ∈ earlier) := by
          rw [← filter_earlier_cons uncalled]
          exact List.filter_cons_of_pos (by simp [Call.id])
        rw [kept, changesOfCalls, Call.changes,
          registeredAfter_append, ← round.called_iff earlier turn later shape,
          List.map_cons, List.mem_cons]
        exact or_iff_right different
  unheard := by
    intro other listened member
    have called : other ∈ id :: snapshot :=
      (round.order.cons_cons id).subset member
    exact new other listened called

end LivePages
