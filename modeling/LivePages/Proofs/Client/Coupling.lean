import LivePages.Proofs.Client.Reaction

/-!
# Clients that actions cannot tell apart

An action reads and changes only what is in its reach, and its answers are all it
learns about the client it runs on.  So two clients that look the same within reach
come to the same results, and if their relation survives each change within reach,
it is there again afterwards.  The same goes for a single client, related to itself
as long as something holds of it.

Listeners and bound functions bring a reach of their own.  So relations come in
families: where a listener is told or a name is looked up, one may go on with a
relation that says more.
-/

namespace LivePages

/-! ## Reach -/

/-- What an action may have to do with: the stores it reads, those it sets and
listens to, and the keys under which it looks things up and keeps them. -/
structure Reach where
  reads : StoreId → Prop
  writes : StoreId → Prop
  recalls : String → Prop
  keeps : String → Prop

def Reach.all : Reach := ⟨fun _ => True, fun _ => True, fun _ => True, fun _ => True⟩

/-- Whether an action has to do with nothing else, whatever answers it gets, and
neither have the listeners it leaves behind. -/
def Action.StaysIn (reach : Reach) : Action → Prop
  | .finish _ => True
  | .read s next => reach.reads s ∧ ∀ v, (next v).StaysIn reach
  | .write s _ next => reach.writes s ∧ ∀ answer, (next answer).StaysIn reach
  | .listen s react next =>
    reach.writes s ∧ (∀ v, (react v).StaysIn reach) ∧ ∀ id, (next id).StaysIn reach
  | .forget s _ next => reach.writes s ∧ next.StaysIn reach
  | .render next => ∀ rendered, (next rendered).StaysIn reach
  | .retrieve key next => reach.recalls key ∧ ∀ v, (next v).StaysIn reach
  | .keep key _ next => reach.keeps key ∧ next.StaysIn reach
  | .note _ next => next.StaysIn reach

/-- A reach that takes in another. -/
structure Reach.Widens (wide narrow : Reach) : Prop where
  reads : ∀ s, narrow.reads s → wide.reads s
  writes : ∀ s, narrow.writes s → wide.writes s
  recalls : ∀ key, narrow.recalls key → wide.recalls key
  keeps : ∀ key, narrow.keeps key → wide.keeps key

theorem Action.StaysIn.widen {wide narrow : Reach} (widens : wide.Widens narrow)
    {a : Action} (stays : a.StaysIn narrow) : a.StaysIn wide := by
  induction a with
  | finish result => trivial
  | read s next ih => exact ⟨widens.reads s stays.1, fun v => ih v (stays.2 v)⟩
  | write s v next ih => exact ⟨widens.writes s stays.1, fun v => ih v (stays.2 v)⟩
  | listen s react next reacts ih =>
      exact ⟨widens.writes s stays.1, fun v => reacts v (stays.2.1 v),
        fun id => ih id (stays.2.2 id)⟩
  | forget s id next ih => exact ⟨widens.writes s stays.1, ih stays.2⟩
  | render next ih => exact fun rendered => ih rendered (stays rendered)
  | retrieve key next ih => exact ⟨widens.recalls key stays.1, fun v => ih v (stays.2 v)⟩
  | keep key v next ih => exact ⟨widens.keeps key stays.1, ih stays.2⟩
  | note entry next ih => exact ih stays

theorem Action.staysIn_all (a : Action) : a.StaysIn .all := by
  induction a with
  | finish result => trivial
  | read s next ih => exact ⟨trivial, ih⟩
  | write s v next ih => exact ⟨trivial, ih⟩
  | listen s react next reacts ih => exact ⟨trivial, reacts, ih⟩
  | forget s id next ih => exact ⟨trivial, ih⟩
  | render next ih => exact ih
  | retrieve key next ih => exact ⟨trivial, ih⟩
  | keep key v next ih => exact ⟨trivial, ih⟩
  | note entry next ih => exact ih

/-- Whether what a name is bound to stays in reach. -/
def Binding.StaysIn (reach : Reach) : Binding → Prop
  | .value _ => True
  | .store s => reach.reads s
  | .function f => ∀ args, (f args).StaysIn reach

/-! ## Coupled clients -/

/-- A relation between clients that look the same within reach, and that survives
each change which an action makes there by itself. -/
structure Couples (reach : Reach) (R : Client → Client → Prop) : Prop where
  read : ∀ {c d s}, R c d → reach.reads s → d.readStore s = c.readStore s
  accept : ∀ {c d s}, R c d → reach.writes s → ∀ v, d.accept s v = c.accept s v
  listen : ∀ {c d s}, R c d → reach.writes s → ∀ react : Value → Action,
    (∀ v, (react v).StaysIn reach) →
    (d.askHost (Host.subscribe s (.host react))).1 =
        (c.askHost (Host.subscribe s (.host react))).1 ∧
      R (c.askHost (Host.subscribe s (.host react))).2
        (d.askHost (Host.subscribe s (.host react))).2
  forget : ∀ {c d s}, R c d → reach.writes s → ∀ id,
    R (c.onHost (Host.forget s id)) (d.onHost (Host.forget s id))
  retrieve : ∀ {c d key}, R c d → reach.recalls key →
    d.memory.get? key = c.memory.get? key
  keep : ∀ {c d key}, R c d → reach.keeps key → ∀ v,
    R { c with memory := Table.insert key v c.memory }
      { d with memory := Table.insert key v d.memory }
  note : ∀ {c d}, R c d → ∀ entry,
    R { c with log := c.log ++ [entry] } { d with log := d.log ++ [entry] }

/-- Reactors that come to the same on related clients. -/
structure Reactor.Couples (r other : Reactor) (reach : Reach)
    (R : Client → Client → Prop) : Prop where
  set : ∀ {c d s}, R c d → reach.writes s → ∀ v, R (r.set s v c) (other.set s v d)
  render : ∀ {c d}, R c d →
    (other.render d).1 = (r.render c).1 ∧ R (r.render c).2 (other.render d).2

theorem Reactor.Couples.keeps {r other : Reactor} {reach : Reach} {P : Client → Prop}
    (reacts : r.Couples other reach (Selfsame P)) (writes : ∀ s, reach.writes s) :
    r.Keeps P where
  set s v _ holds := (reacts.set ⟨rfl, holds⟩ (writes s) v).2
  render _ holds := (reacts.render ⟨rfl, holds⟩).2.2

section Actions

variable {reach : Reach} {R : Client → Client → Prop} {r other : Reactor}
  (couples : Couples reach R) (reacts : r.Couples other reach R)

include couples reacts

/-- An action that stays in reach comes to the same on related clients. -/
theorem Action.run_couples (a : Action) (stays : a.StaysIn reach) :
    Relates R (a.run r) (a.run other) := by
  induction a with
  | finish result => exact fun _ _ related => ⟨rfl, related⟩
  | read s next inductionHypothesis =>
      intro c d related
      rw [run, run, couples.read related stays.1]
      exact inductionHypothesis _ (stays.2 _) c d related
  | write s v next inductionHypothesis =>
      intro c d related
      rw [run, run, couples.accept related stays.1]
      cases c.accept s v with
      | error e => exact inductionHypothesis _ (stays.2 _) c d related
      | ok accepted =>
          exact inductionHypothesis _ (stays.2 _) _ _ (reacts.set related stays.1 accepted)
  | listen s react next _ inductionHypothesis =>
      intro c d related
      obtain ⟨same, listening⟩ := couples.listen related stays.1 react stays.2.1
      rw [run, run]
      dsimp only
      rw [same]
      exact inductionHypothesis _ (stays.2.2 _) _ _ listening
  | forget s id next inductionHypothesis =>
      intro c d related
      exact inductionHypothesis stays.2 _ _ (couples.forget related stays.1 id)
  | render next inductionHypothesis =>
      intro c d related
      obtain ⟨same, rendered⟩ := reacts.render related
      rw [run, run]
      dsimp only
      rw [same]
      exact inductionHypothesis _ (stays _) _ _ rendered
  | retrieve key next inductionHypothesis =>
      intro c d related
      rw [run, run, couples.retrieve related stays.1]
      exact inductionHypothesis _ (stays.2 _) c d related
  | keep key v next inductionHypothesis =>
      intro c d related
      exact inductionHypothesis stays.2 _ _ (couples.keep related stays.1 v)
  | note entry next inductionHypothesis =>
      intro c d related
      exact inductionHypothesis stays _ _ (couples.note related entry)

namespace Client

variable {c d : Client}

theorem compute_couples (related : R c d) {a : Action} (stays : a.StaysIn reach) :
    (d.compute other a).1 = (c.compute r a).1 ∧
      R (c.compute r a).2 (d.compute other a).2 := by
  obtain ⟨same, computed⟩ := a.run_couples couples reacts stays c d related
  exact ⟨congrArg (fun result => result.toOption.getD .null) same, computed⟩

end Client

end Actions

/-! ## Changes of stores -/

/-- Whether a listener stays in reach, and keeps the relation if it writes to a
slot. -/
def Listener.Answers (reach : Reach) (R : Client → Client → Prop) : Listener → Prop
  | .host react => ∀ v, (react v).StaysIn reach
  | .slot _ area key => ∀ c d text, R c d →
    R (c.onHost (Host.writeText area key text)) (d.onHost (Host.writeText area key text))
  | .rerender _ => True

/-- One relation of a family says more than another, and holds where one is. -/
structure Sharpens {ι : Type} (R : ι → Client → Client → Prop) (i j : ι)
    (c d : Client) : Prop where
  holds : R j c d
  more : ∀ c d, R j c d → R i c d

theorem Sharpens.refl {ι : Type} {R : ι → Client → Client → Prop} {i : ι}
    {c d : Client} (related : R i c d) : Sharpens R i i c d :=
  ⟨related, fun _ _ related => related⟩

/-- A family of relations that survives changes of stores, as far as those who
listen to the store keep it. -/
structure CouplesChanges {ι : Type} (reach : ι → Reach)
    (R : ι → Client → Client → Prop) : Prop where
  actions : ∀ i, Couples (reach i) (R i)
  number : ∀ {i c d}, R i c d → d.number = c.number
  state : ∀ {i c d}, R i c d → d.state = c.state
  write : ∀ {i c d s}, R i c d → (reach i).writes s → ∀ v,
    R i (c.onHost (Host.onStore s fun store => { store with value := v }))
      (d.onHost (Host.onStore s fun store => { store with value := v }))
  heard : ∀ {i c d s}, R i c d → (reach i).writes s → d.listeners s = c.listeners s ∧
    ∃ j, Sharpens R i j c d ∧ (reach j).writes s ∧
      ∀ entry ∈ c.listeners s, entry.2.Answers (reach j) (R j)
  exhaust : ∀ {i c d}, R i c d → R i { c with exhausted := true } { d with exhausted := true }

theorem Host.isSubscribed_eq (h : Host) (s : StoreId) (id : ListenerId) :
    h.isSubscribed s id = (h.listeners s).any fun entry => entry.1 = id := by
  unfold isSubscribed listeners
  cases h.stores[s]? <;> rfl

section Changes

variable {ι : Type} {reach : ι → Reach} {R : ι → Client → Client → Prop}
  {r other : Reactor} (changes : CouplesChanges reach R)

include changes

namespace Client

variable {c d : Client}

theorem react_couples {i : ι} (reacts : r.Couples other (reach i) (R i))
    (related : R i c d) {listener : Listener} (answers : listener.Answers (reach i) (R i))
    (v : Value) :
    R i (c.react r listener v) (d.react other listener v) := by
  cases listener with
  | host react =>
      exact ((react v).run_couples (changes.actions i) reacts (answers v) c d related).2
  | slot client area key => exact answers c d _ related
  | rerender client =>
      rw [react, react, changes.number related]
      by_cases own : client = c.number
      · rw [if_pos own, if_pos own]
        exact (reacts.render related).2
      · rw [if_neg own, if_neg own]
        exact related

theorem notify_couples {i : ι} (reacts : r.Couples other (reach i) (R i)) {s : StoreId}
    (inside : (reach i).writes s) (v : Value) (entries : List (ListenerId × Listener))
    (answers : ∀ entry ∈ entries, entry.2.Answers (reach i) (R i)) (related : R i c d) :
    R i (c.notify r s v entries) (d.notify other s v entries) := by
  induction entries generalizing c d with
  | nil => exact related
  | cons entry entries inductionHypothesis =>
      obtain ⟨id, listener⟩ := entry
      have first := answers (id, listener) List.mem_cons_self
      have subscribed : d.isSubscribed s id = c.isSubscribed s id := by
        rw [Host.isSubscribed_eq, Host.isSubscribed_eq, (changes.heard related inside).1]
      rw [notify, notify, subscribed]
      refine inductionHypothesis
        (fun entry member => answers entry (List.mem_cons_of_mem _ member)) ?_
      cases c.isSubscribed s id with
      | true => exact react_couples changes reacts related first v
      | false => exact related

theorem setStore_couples (reacts : ∀ i, r.Couples other (reach i) (R i)) {i : ι}
    {s : StoreId} (inside : (reach i).writes s) (v : Value) (related : R i c d) :
    R i (c.setStore r s v) (d.setStore other s v) := by
  have written := changes.write related inside v
  obtain ⟨same, j, sharper, insideToo, answers⟩ := changes.heard written inside
  unfold setStore
  dsimp only
  rw [same]
  exact sharper.more _ _
    (notify_couples changes (reacts j) insideToo v _ answers sharper.holds)

end Client

/-- Every length of chain comes to the same on related clients, if renders do. -/
theorem Reactor.level_couples
    (renders : ∀ n, (∀ i, (Reactor.level n).Couples (.level n) (reach i) (R i)) →
      ∀ i, Relates (R i) (Client.requestRender (.level n) none)
        (Client.requestRender (.level n) none)) (n : Nat) (i : ι) :
    (Reactor.level n).Couples (.level n) (reach i) (R i) := by
  induction n generalizing i with
  | zero =>
      constructor
      · intro c d s related inside v
        have written := changes.write related inside v
        rw [level]
        dsimp only
        rw [(changes.heard written inside).1]
        split
        · exact written
        · exact changes.exhaust written
      · intro c d related
        have sameState := changes.state related
        rw [level]
        dsimp only
        refine ⟨rfl, ?_⟩
        by_cases idle : c.state = .idle
        · rw [if_pos idle, if_pos (sameState.trans idle)]
          exact changes.exhaust related
        · rw [if_neg idle, if_neg (sameState ▸ idle)]
          exact related
  | succ n inductionHypothesis =>
      constructor
      · intro c d s related inside v
        exact Client.setStore_couples changes inductionHypothesis inside v related
      · intro c d related
        obtain ⟨same, rendered⟩ := renders n inductionHypothesis i c d related
        exact ⟨congrArg (fun result => result.toOption.getD false) same, rendered⟩

/-- While a page is being shown, no render comes in between. -/
theorem Reactor.level_couples_busy (busy : ∀ {i c d}, R i c d → c.state ≠ .idle)
    (n : Nat) (i : ι) :
    (Reactor.level n).Couples (.level n) (reach i) (R i) := by
  refine level_couples changes (fun n _ i c d related => ?_) n i
  have busyToo : d.state ≠ .idle := changes.state related ▸ busy related
  rw [Client.requestRender_busy none (busy related),
    Client.requestRender_busy none busyToo]
  exact ⟨rfl, related⟩

end Changes

/-! ## Names -/

/-- A family of relations between clients in which names are bound to the same, and
what they are bound to stays in reach. -/
structure CouplesNames {ι : Type} (reach : ι → Reach)
    (R : ι → Client → Client → Prop) : Prop where
  actions : ∀ i, Couples (reach i) (R i)
  bound : ∀ {i c d}, R i c d → ∀ name, d.bindings.get? name = c.bindings.get? name ∧
    ∀ b, c.bindings.get? name = some b →
      ∃ j, Sharpens R i j c d ∧ b.StaysIn (reach j)

section Names

variable {ι : Type} {reach : ι → Reach} {R : ι → Client → Client → Prop}
  {r other : Reactor} (names : CouplesNames reach R)

include names

namespace Client

variable {c d : Client} {i : ι}

theorem valueOf_couples (related : R i c d) {name : String} {b : Binding}
    (bound : c.bindings.get? name = some b) :
    d.valueOf b = c.valueOf b := by
  obtain ⟨j, sharper, stays⟩ := (names.bound related name).2 b bound
  cases b with
  | value v => rfl
  | store s => exact (names.actions j).read sharper.holds stays
  | function f => rfl

theorem lookup_couples (related : R i c d) (name : String) :
    d.lookup name = c.lookup name := by
  unfold lookup
  rw [(names.bound related name).1]
  cases found : c.bindings.get? name with
  | none => rfl
  | some b =>
      dsimp only
      rw [valueOf_couples names related found]

theorem call_couples (reacts : ∀ i, r.Couples other (reach i) (R i)) (i : ι)
    (name : String) (args : List Value) :
    Relates (R i) (call r name args) (call other name args) := by
  intro c d related
  obtain ⟨same, stays⟩ := names.bound related name
  unfold call
  rw [same]
  cases found : c.bindings.get? name with
  | none => exact ⟨rfl, related⟩
  | some b =>
      obtain ⟨j, sharper, stays⟩ := stays b found
      cases b with
      | value v => exact ⟨rfl, related⟩
      | store s => exact ⟨rfl, related⟩
      | function f =>
          obtain ⟨same, called⟩ := (f args).run_couples (names.actions j) (reacts j)
            (stays args) c d sharper.holds
          exact ⟨same, sharper.more _ _ called⟩

theorem surroundings_couples (reacts : ∀ i, r.Couples other (reach i) (R i)) (i : ι) :
    (surroundings r).Relates (surroundings other) (R i) where
  lookup name _ _ related := lookup_couples names related name
  call := call_couples names reacts i

/-- Programs come to the same on related clients. -/
theorem render_couples (reacts : ∀ i, r.Couples other (reach i) (R i)) (i : ι)
    (program : Program) :
    Relates (R i) (program.render (surroundings r).evaluator)
      (program.render (surroundings other).evaluator) :=
  Instruction.renderAll_relates (surroundings_couples names reacts i) [] program

end Client

end Names

/-! ## Single clients -/

/-- A family of predicates that what actions do by themselves does not break, within
reach, nor what follows from it. -/
structure Withstands {ι : Type} (reach : ι → Reach) (P : ι → Client → Prop) : Prop where
  listen : ∀ {i c s}, P i c → (reach i).writes s → ∀ react : Value → Action,
    (∀ v, (react v).StaysIn (reach i)) → P i (c.askHost (Host.subscribe s (.host react))).2
  forget : ∀ {i c s}, P i c → (reach i).writes s → ∀ id, P i (c.onHost (Host.forget s id))
  keep : ∀ {i c key}, P i c → (reach i).keeps key → ∀ v,
    P i { c with memory := Table.insert key v c.memory }
  note : ∀ {i c}, P i c → ∀ entry, P i { c with log := c.log ++ [entry] }
  write : ∀ {i c s}, P i c → (reach i).writes s → ∀ v,
    P i (c.onHost (Host.onStore s fun store => { store with value := v }))
  exhaust : ∀ {i c}, P i c → P i { c with exhausted := true }
  heard : ∀ {i c s}, P i c → (reach i).writes s →
    ∃ j, P j c ∧ (∀ d, P j d → P i d) ∧ (reach j).writes s ∧
      ∀ entry ∈ c.listeners s, entry.2.Answers (reach j) (Selfsame (P j))

/-- A listener that keeps a slot answers as far as writing to it keeps a predicate. -/
theorem Listener.Answers.slot {reach : Reach} {P : Client → Prop} {client : Nat}
    {area : AreaId} {key : String}
    (writes : ∀ c text, P c → P (c.onHost (Host.writeText area key text))) :
    (Listener.slot client area key).Answers reach (Selfsame P) := by
  rintro c d text ⟨rfl, holds⟩
  exact ⟨rfl, writes _ text holds⟩

section Withstands

variable {ι : Type} {reach : ι → Reach} {P : ι → Client → Prop}
  (withstands : Withstands reach P)

include withstands

theorem Withstands.couplesChanges : CouplesChanges reach fun i => Selfsame (P i) where
  actions i :=
    { read := by
        rintro c d s ⟨rfl, -⟩ -
        rfl
      accept := by
        rintro c d s ⟨rfl, -⟩ - v
        rfl
      listen := by
        rintro c d s ⟨rfl, holds⟩ inside react stays
        exact ⟨rfl, rfl, withstands.listen holds inside react stays⟩
      forget := by
        rintro c d s ⟨rfl, holds⟩ inside id
        exact ⟨rfl, withstands.forget holds inside id⟩
      retrieve := by
        rintro c d key ⟨rfl, -⟩ -
        rfl
      keep := by
        rintro c d key ⟨rfl, holds⟩ inside v
        exact ⟨rfl, withstands.keep holds inside v⟩
      note := by
        rintro c d ⟨rfl, holds⟩ entry
        exact ⟨rfl, withstands.note holds entry⟩ }
  number := by
    rintro i c d ⟨rfl, -⟩
    rfl
  state := by
    rintro i c d ⟨rfl, -⟩
    rfl
  write := by
    rintro i c d s ⟨rfl, holds⟩ inside v
    exact ⟨rfl, withstands.write holds inside v⟩
  heard := by
    rintro i c d s ⟨rfl, holds⟩ inside
    obtain ⟨j, holdsToo, more, insideToo, answers⟩ := withstands.heard holds inside
    refine ⟨rfl, j, ⟨⟨rfl, holdsToo⟩, ?_⟩, insideToo, answers⟩
    rintro c d ⟨rfl, holds⟩
    exact ⟨rfl, more _ holds⟩
  exhaust := by
    rintro i c d ⟨rfl, holds⟩
    exact ⟨rfl, withstands.exhaust holds⟩

theorem Withstands.couplesNames
    (bound : ∀ {i c}, P i c → ∀ name b, c.bindings.get? name = some b →
      ∃ j, P j c ∧ (∀ d, P j d → P i d) ∧ b.StaysIn (reach j)) :
    CouplesNames reach fun i => Selfsame (P i) where
  actions := withstands.couplesChanges.actions
  bound := by
    rintro i c d ⟨rfl, holds⟩ name
    refine ⟨rfl, fun b found => ?_⟩
    obtain ⟨j, holdsToo, more, stays⟩ := bound holds name b found
    refine ⟨j, ⟨⟨rfl, holdsToo⟩, ?_⟩, stays⟩
    rintro c d ⟨rfl, holds⟩
    exact ⟨rfl, more _ holds⟩

/-- The same while a page is being shown. -/
theorem Withstands.busy : Withstands reach fun i c => c.state ≠ .idle ∧ P i c where
  listen holds inside react stays := ⟨holds.1, withstands.listen holds.2 inside react stays⟩
  forget holds inside id := ⟨holds.1, withstands.forget holds.2 inside id⟩
  keep holds inside v := ⟨holds.1, withstands.keep holds.2 inside v⟩
  note holds entry := ⟨holds.1, withstands.note holds.2 entry⟩
  write holds inside v := ⟨holds.1, withstands.write holds.2 inside v⟩
  exhaust holds := ⟨holds.1, withstands.exhaust holds.2⟩
  heard holds inside := by
    obtain ⟨j, holdsToo, more, insideToo, answers⟩ := withstands.heard holds.2 inside
    refine ⟨j, ⟨holds.1, holdsToo⟩, fun d holds => ⟨holds.1, more d holds.2⟩, insideToo,
      fun entry member => ?_⟩
    have answer := answers entry member
    cases shape : entry.2 with
    | host react =>
        rw [shape] at answer
        exact answer
    | slot client area key =>
        rw [shape] at answer
        exact .slot fun d text holds => ⟨holds.1, (answer d d text ⟨rfl, holds.2⟩).2⟩
    | rerender client => trivial

/-- While a page is being shown, no render comes in between. -/
theorem Withstands.reacts_busy (n : Nat) (i : ι) :
    (Reactor.level n).Couples (.level n) (reach i)
      (Selfsame fun c => c.state ≠ .idle ∧ P i c) := by
  refine Reactor.level_couples_busy withstands.busy.couplesChanges ?_ n i
  rintro i c d ⟨-, busy, -⟩
  exact busy

end Withstands

theorem Reach.all.answers {listener : Listener} {P : Client → Prop}
    (writes : ∀ client area key, listener = .slot client area key →
      ∀ c text, P c → P (c.onHost (Host.writeText area key text))) :
    listener.Answers .all (Selfsame P) := by
  cases listener with
  | host react => exact fun v => (react v).staysIn_all
  | slot client area key => exact .slot (writes client area key rfl)
  | rerender client => trivial

theorem Binding.staysIn_all (b : Binding) : b.StaysIn .all := by
  cases b with
  | value v => trivial
  | store s => trivial
  | function f => exact fun args => (f args).staysIn_all

end LivePages
