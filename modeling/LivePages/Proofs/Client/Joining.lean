import LivePages.Proofs.Client.Following
import LivePages.Proofs.Client.Coupling

/-!
# Pages of clients that cannot be told apart

What a page computes, binds and includes comes to the same on clients that look the
same within reach.
-/

namespace LivePages

/-- Whether the value of an export can be had within reach. -/
def Export.ReadsIn (reach : Reach) : Export → Prop
  | .store s => reach.reads s
  | .computed a => a.StaysIn reach
  | _ => True

namespace Client

/-! ## Values of exports -/

section Values

variable {reach : Reach} {R : Client → Client → Prop} {r other : Reactor} {c d : Client}
  (couples : Couples reach R) (reacts : r.Couples other reach R)

include couples reacts

theorem exportValue_couples {e : Export} (reads : e.ReadsIn reach) (related : R c d) :
    (d.exportValue other e).1 = (c.exportValue r e).1 ∧
      R (c.exportValue r e).2 (d.exportValue other e).2 := by
  cases e with
  | value v => exact ⟨rfl, related⟩
  | store s => exact ⟨couples.read related reads, related⟩
  | function f => exact ⟨rfl, related⟩
  | computed a => exact compute_couples couples reacts related reads

theorem snapshotFields_couples {m : Module}
    (reads : ∀ entry ∈ m, entry.2.ReadsIn reach) (related : R c d) :
    (d.snapshotFields other m).1 = (c.snapshotFields r m).1 ∧
      R (c.snapshotFields r m).2 (d.snapshotFields other m).2 := by
  induction m generalizing c d with
  | nil => exact ⟨rfl, related⟩
  | cons entry m inductionHypothesis =>
      obtain ⟨name, e⟩ := entry
      have first := reads (name, e) List.mem_cons_self
      have later := fun entry member => reads entry (List.mem_cons_of_mem _ member)
      cases e with
      | function f => exact inductionHypothesis later related
      | _ =>
          obtain ⟨same, relatedOn⟩ := exportValue_couples couples reacts first related
          obtain ⟨sameRest, relatedRest⟩ := inductionHypothesis later relatedOn
          rw [snapshotFields, snapshotFields]
          · dsimp only
            rw [same, sameRest]
            exact ⟨rfl, relatedRest⟩
          all_goals simp

theorem snapshots_couples {layouts : Table Module}
    (reads : ∀ layout ∈ layouts, ∀ entry ∈ layout.2, entry.2.ReadsIn reach)
    (related : R c d) :
    (d.snapshots other layouts).1 = (c.snapshots r layouts).1 ∧
      R (c.snapshots r layouts).2 (d.snapshots other layouts).2 := by
  induction layouts generalizing c d with
  | nil => exact ⟨rfl, related⟩
  | cons layout layouts inductionHypothesis =>
      obtain ⟨same, relatedOn⟩ := snapshotFields_couples couples reacts
        (reads layout List.mem_cons_self) related
      obtain ⟨sameRest, relatedRest⟩ := inductionHypothesis
        (fun layout member => reads layout (List.mem_cons_of_mem _ member)) relatedOn
      rw [snapshots, snapshots, snapshot, snapshot]
      dsimp only
      rw [same, sameRest]
      exact ⟨rfl, relatedRest⟩

end Values

/-! ## Attaching -/

section Attach

variable (c : Client) (r : Reactor) (name : String)

theorem restore_bindValue (v : Value) (tier : Tier) :
    (c.bindValue name v).restore r name tier =
      match c.load? name tier with
      | some stored => (true, (c.bindValue name v).bindValue name stored)
      | none => (false, c.bindValue name v) := by
  have bound : (c.bindValue name v).bindings.get? name = some (.value v) :=
    (Table.get?_insert _ _ _ _).trans (if_pos rfl)
  have loads : (c.bindValue name v).load? name tier = c.load? name tier := rfl
  unfold restore assign
  rw [loads, bound]
  cases c.load? name tier <;> rfl

theorem restore_bind_store (s : StoreId) (tier : Tier) :
    (c.bind name (.store s)).restore r name tier =
      match (c.load? name tier).map (c.accept s) with
      | some (.ok v) => (true, r.set s v (c.bind name (.store s)))
      | _ => (false, c.bind name (.store s)) :=
  restore_of_bound r tier ((Table.get?_insert _ _ _ _).trans (if_pos rfl))

/-- A value takes over what is stored under its name, or is stored itself. -/
theorem attachValue_bindValue (v : Value) :
    ((c.bindValue name v).attachValue r name v).2 =
      match c.valueTier? name with
      | none => c.bindValue name v
      | some tier =>
        match c.load? name tier with
        | some stored => (c.bindValue name v).bindValue name stored
        | none => ((c.bindValue name v).onHost (Host.writeText (c.area tier)
            (c.storageKey name) (Slot.write v))).bindValue name v := by
  have bound : (c.bindValue name v).bindings.get? name = some (.value v) :=
    (Table.get?_insert _ _ _ _).trans (if_pos rfl)
  have tiers : (c.bindValue name v).valueTier? name = c.valueTier? name := rfl
  unfold attachValue
  rw [tiers]
  cases c.valueTier? name with
  | none => rfl
  | some tier =>
      dsimp only
      rw [restore_bindValue]
      cases c.load? name tier with
      | some stored => rfl
      | none =>
          dsimp only
          rw [if_neg Bool.false_ne_true, record_value bound]
          rfl

/-- What becomes of a client that attaches a store just bound, before a listener keeps
the slot. -/
def reconciled (s : StoreId) (tier : Tier) : Client :=
  match (c.load? name tier).map (c.accept s) with
  | some (.ok v) => r.set s v (c.bind name (.store s))
  | _ => (c.bind name (.store s)).onHost (Host.writeText (c.area tier) (c.storageKey name)
      (Slot.write (c.readStore s)))

/-- A store takes over what is stored under its name, or its value is stored. -/
theorem attachStore_bind (s : StoreId) :
    (c.bind name (.store s)).attachStore r name s =
      match c.storeTier? name (c.persists s) with
      | none => (none, c.bind name (.store s))
      | some tier =>
        let d := c.reconciled r name s tier
        let (id, e) := d.askHost
          (Host.subscribe s (.slot d.number (d.area tier) (d.storageKey name)))
        (some id, e) := by
  have bound : (c.bind name (.store s)).bindings.get? name = some (.store s) :=
    (Table.get?_insert _ _ _ _).trans (if_pos rfl)
  have tiers : (c.bind name (.store s)).storeTier? name
      (((c.bind name (.store s)).stores[s]?).any Store.persist) =
        c.storeTier? name (c.persists s) := rfl
  unfold attachStore
  rw [tiers]
  cases c.storeTier? name (c.persists s) with
  | none => rfl
  | some tier =>
      dsimp only
      rw [restore_bind_store, reconciled]
      rcases (c.load? name tier).map (c.accept s) with _ | _ | v
      · dsimp only
        rw [if_neg Bool.false_ne_true, record_bound bound]
        rfl
      · dsimp only
        rw [if_neg Bool.false_ne_true, record_bound bound]
        rfl
      · rfl

end Attach

/-! ## Binding exports -/

end Client

/-- Whether an export stays in reach, with all that it leads to. -/
def Export.StaysIn (reach : Reach) : Export → Prop
  | .value _ => True
  | .store s => reach.reads s ∧ reach.writes s
  | .function f => ∀ args, (f args).StaysIn reach
  | .computed a => a.StaysIn reach

theorem Export.StaysIn.readsIn {reach : Reach} {e : Export} (stays : e.StaysIn reach) :
    e.ReadsIn reach := by
  cases e with
  | value v => trivial
  | store s => exact stays.1
  | function f => trivial
  | computed a => exact stays

theorem Export.staysIn_all (e : Export) : e.StaysIn .all := by
  cases e with
  | value v => trivial
  | store s => exact ⟨trivial, trivial⟩
  | function f => exact fun args => (f args).staysIn_all
  | computed a => exact a.staysIn_all

/-- What a visit computes and lists stays in reach. -/
structure Visit.StaysIn (visit : Visit) (reach : Reach) : Prop where
  computed : ∀ entry ∈ visit.computed, entry.2.StaysIn reach
  layouts : ∀ layout ∈ visit.layouts, ∀ entry ∈ layout.2, entry.2.StaysIn reach

namespace Client

/-- The parts of a client that decide where names have their slots. -/
structure Alike (c d : Client) : Prop where
  number : d.number = c.number
  settings : d.settings = c.settings
  scope : d.scope = c.scope
  session : d.session = c.session
  durable : d.durable = c.durable

theorem Alike.refl (c : Client) : c.Alike c := ⟨rfl, rfl, rfl, rfl, rfl⟩

section Alike

variable {c d : Client} (alike : c.Alike d)

include alike

theorem Alike.area (tier : Tier) : d.area tier = c.area tier := by
  cases tier with
  | session => exact alike.session
  | durable => exact alike.durable

theorem Alike.storageKey (name : String) : d.storageKey name = c.storageKey name := by
  rw [Client.storageKey, Client.storageKey, alike.scope]

theorem Alike.valueTier (name : String) : d.valueTier? name = c.valueTier? name := by
  rw [valueTier?, valueTier?, alike.settings]

theorem Alike.storeTier (name : String) (persist : Bool) :
    d.storeTier? name persist = c.storeTier? name persist := by
  rw [storeTier?, storeTier?, alike.valueTier]

end Alike

end Client

/-- A relation between clients that survives the binding of an export of that name. -/
structure CouplesExport (reach : Reach) (R : Client → Client → Prop) (name : String) :
    Prop extends Couples reach R where
  alike : ∀ {c d}, R c d → c.Alike d
  persists : ∀ {c d s}, R c d → reach.writes s → d.persists s = c.persists s
  stored : ∀ {c d}, R c d → ∀ tier, d.readText (c.area tier) (c.storageKey name) =
    c.readText (c.area tier) (c.storageKey name)
  bind : ∀ {c d}, R c d → ∀ b : Binding, b.StaysIn reach → R (c.bind name b) (d.bind name b)
  record : ∀ {c d}, R c d → ∀ tier text,
    R (c.onHost (Host.writeText (c.area tier) (c.storageKey name) text))
      (d.onHost (Host.writeText (c.area tier) (c.storageKey name) text))
  slot : ∀ {c d s}, R c d → reach.writes s → ∀ tier,
    let listener := Listener.slot c.number (c.area tier) (c.storageKey name)
    (d.askHost (Host.subscribe s listener)).1 = (c.askHost (Host.subscribe s listener)).1 ∧
      R (c.askHost (Host.subscribe s listener)).2 (d.askHost (Host.subscribe s listener)).2
  watch : ∀ {c d s}, R c d → reach.writes s →
    let listener := Listener.rerender c.number
    (d.askHost (Host.subscribe s listener)).1 = (c.askHost (Host.subscribe s listener)).1 ∧
      R (c.askHost (Host.subscribe s listener)).2 (d.askHost (Host.subscribe s listener)).2

/-- A predicate that binding an export of that name does not break. -/
theorem Withstands.couplesExport {ι : Type} {reach : ι → Reach} {P : ι → Client → Prop}
    (withstands : Withstands reach P) {i : ι} {name : String}
    (bind : ∀ c b, P i c → b.StaysIn (reach i) → P i (c.bind name b))
    (record : ∀ c tier text, P i c →
      P i (c.onHost (Host.writeText (c.area tier) (c.storageKey name) text)))
    (slot : ∀ c s tier, P i c → P i (c.askHost
      (Host.subscribe s (.slot c.number (c.area tier) (c.storageKey name)))).2)
    (watch : ∀ c s, P i c → P i (c.askHost (Host.subscribe s (.rerender c.number))).2) :
    CouplesExport (reach i) (Selfsame (P i)) name where
  toCouples := withstands.couplesChanges.actions i
  alike := by
    rintro c d ⟨rfl, -⟩
    exact .refl d
  persists := by
    rintro c d s ⟨rfl, -⟩ -
    rfl
  stored := by
    rintro c d ⟨rfl, -⟩ tier
    rfl
  bind := by
    rintro c d ⟨rfl, holds⟩ b stays
    exact ⟨rfl, bind _ b holds stays⟩
  record := by
    rintro c d ⟨rfl, holds⟩ tier text
    exact ⟨rfl, record _ tier text holds⟩
  slot := by
    rintro c d s ⟨rfl, holds⟩ - tier
    exact ⟨rfl, rfl, slot _ s tier holds⟩
  watch := by
    rintro c d s ⟨rfl, holds⟩ -
    exact ⟨rfl, rfl, watch _ s holds⟩

namespace Client

section Exports

variable {reach : Reach} {R : Client → Client → Prop} {r other : Reactor} {c d : Client}
  {name : String} (couples : CouplesExport reach R name)

include couples

theorem load?_couples (related : R c d) (tier : Tier) :
    d.load? name tier = c.load? name tier := by
  have alike := couples.alike related
  rw [load?, load?, alike.area, alike.storageKey, couples.stored related]

theorem bindValue_couples (related : R c d) (v : Value) :
    R (c.bindValue name v) (d.bindValue name v) :=
  couples.bind related (.value v) trivial

theorem attachValue_couples (related : R c d) (v : Value) :
    R ((c.bindValue name v).attachValue r name v).2
      ((d.bindValue name v).attachValue other name v).2 := by
  have alike := couples.alike related
  rw [attachValue_bindValue, attachValue_bindValue, alike.valueTier]
  have bound := bindValue_couples couples related v
  cases c.valueTier? name with
  | none => exact bound
  | some tier =>
      dsimp only
      rw [load?_couples couples related, alike.area, alike.storageKey]
      cases c.load? name tier with
      | some stored => exact bindValue_couples couples bound stored
      | none => exact bindValue_couples couples (couples.record bound tier _) v

variable (reacts : r.Couples other reach R)

include reacts

theorem reconciled_couples (related : R c d) {s : StoreId}
    (stays : (Export.store s).StaysIn reach) (tier : Tier) :
    R (c.reconciled r name s tier) (d.reconciled other name s tier) := by
  have alike := couples.alike related
  have bound := couples.bind related (.store s) stays.1
  have accepts : d.accept s = c.accept s :=
    funext fun v => couples.accept related stays.2 v
  unfold reconciled
  rw [load?_couples couples related, accepts, alike.area, alike.storageKey,
    couples.read related stays.1]
  rcases (c.load? name tier).map (c.accept s) with _ | _ | v
  · exact couples.record bound tier _
  · exact couples.record bound tier _
  · exact reacts.set bound stays.2 v

theorem attachStore_couples (related : R c d) {s : StoreId}
    (stays : (Export.store s).StaysIn reach) :
    ((d.bind name (.store s)).attachStore other name s).1 =
        ((c.bind name (.store s)).attachStore r name s).1 ∧
      R ((c.bind name (.store s)).attachStore r name s).2
        ((d.bind name (.store s)).attachStore other name s).2 := by
  have alike := couples.alike related
  rw [attachStore_bind, attachStore_bind, alike.storeTier, couples.persists related stays.2]
  cases c.storeTier? name (c.persists s) with
  | none => exact ⟨rfl, couples.bind related (.store s) stays.1⟩
  | some tier =>
      have reconciled := reconciled_couples couples reacts related stays tier
      have alikeOn := couples.alike reconciled
      obtain ⟨same, kept⟩ := couples.slot reconciled stays.2 tier
      dsimp only
      rw [alikeOn.number, alikeOn.area, alikeOn.storageKey]
      exact ⟨congrArg some same, kept⟩

/-- Binding an export comes to the same on related clients. -/
theorem bindExport_couples (related : R c d) {e : Export} (stays : e.StaysIn reach)
    (visit : Visit) :
    (d.bindExport other name e visit).1 = (c.bindExport r name e visit).1 ∧
      R (c.bindExport r name e visit).2 (d.bindExport other name e visit).2 := by
  cases e with
  | value v => exact ⟨rfl, attachValue_couples couples related v⟩
  | function f => exact ⟨rfl, couples.bind related (.function f) stays⟩
  | computed a =>
      obtain ⟨same, computed⟩ := compute_couples couples.toCouples reacts related stays
      refine ⟨rfl, ?_⟩
      rw [bindExport, bindExport]
      dsimp only
      rw [same]
      exact bindValue_couples couples computed _
  | store s =>
      obtain ⟨same, attached⟩ := attachStore_couples couples reacts related stays
      obtain ⟨sameToo, watched⟩ := couples.watch attached stays.2
      rw [bindExport, bindExport]
      dsimp only
      rw [same, (couples.alike attached).number, sameToo]
      exact ⟨rfl, watched⟩

end Exports

/-! ## What a page computes and lists -/

section Refreshing

variable {reach : Reach} {R : Client → Client → Prop} {r other : Reactor} {c d : Client}
  (reacts : r.Couples other reach R)

include reacts

/-- Computing the exports of a page again comes to the same, if their names can be bound. -/
theorem refreshComputed_exports (same : d.visit = c.visit)
    (stays : ∀ visit, c.visit = some visit →
      ∀ entry ∈ visit.computed, entry.2.StaysIn reach)
    (exports : ∀ visit, c.visit = some visit →
      ∀ entry ∈ visit.computed, CouplesExport reach R entry.1)
    (related : R c d) : R (c.refreshComputed r) (d.refreshComputed other) := by
  unfold refreshComputed
  rw [same]
  cases shown : c.visit with
  | none => exact related
  | some visit =>
      have staysThere := stays visit shown
      have exportsThere := exports visit shown
      dsimp only
      generalize visit.computed = computed at staysThere exportsThere
      clear same shown stays exports
      induction computed generalizing c d with
      | nil => exact related
      | cons entry computed inductionHypothesis =>
          have couples := exportsThere entry List.mem_cons_self
          obtain ⟨same, ran⟩ := compute_couples couples.toCouples reacts related
            (staysThere entry List.mem_cons_self)
          rw [List.foldl_cons, List.foldl_cons, same]
          exact inductionHypothesis (bindValue_couples couples ran _)
            (fun entry member => staysThere entry (List.mem_cons_of_mem _ member))
            fun entry member => exportsThere entry (List.mem_cons_of_mem _ member)

/-- Listing the layouts of a page again comes to the same, unless there are layouts whose
list cannot be bound. -/
theorem refreshLayouts_exports (same : d.visit = c.visit)
    (reads : ∀ visit, c.visit = some visit →
      ∀ layout ∈ visit.layouts, ∀ entry ∈ layout.2, entry.2.ReadsIn reach)
    (exports : ∀ visit, c.visit = some visit → visit.layouts.isEmpty ≠ true →
      CouplesExport reach R layoutsName)
    (related : R c d) : R (c.refreshLayouts r) (d.refreshLayouts other) := by
  unfold refreshLayouts
  rw [same]
  cases shown : c.visit with
  | none => exact related
  | some visit =>
      dsimp only
      by_cases empty : visit.layouts.isEmpty = true
      · rw [if_pos empty, if_pos empty]
        exact related
      · have couples := exports visit shown empty
        obtain ⟨same, listed⟩ :=
          snapshots_couples couples.toCouples reacts (reads visit shown) related
        rw [if_neg empty, if_neg empty, same]
        exact bindValue_couples couples listed _

end Refreshing

/-! ## Binding modules -/

section Modules

variable {reach : Reach} {r : Reactor} {c : Client}

theorem bindExport_staysIn {visit : Visit} (known : visit.StaysIn reach) {e : Export}
    (stays : e.StaysIn reach) (name : String) :
    (c.bindExport r name e visit).1.StaysIn reach := by
  cases e with
  | computed a =>
      refine ⟨fun entry member => ?_, known.layouts⟩
      rcases List.mem_append.1 member with old | new
      · exact known.computed entry old
      · rw [List.mem_singleton.1 new]
        exact stays
  | value v => exact ⟨known.computed, known.layouts⟩
  | store s => exact ⟨known.computed, known.layouts⟩
  | function f => exact ⟨known.computed, known.layouts⟩

theorem bindModule_staysIn {m : Module} (stays : ∀ entry ∈ m, entry.2.StaysIn reach)
    {visit : Visit} (known : visit.StaysIn reach) :
    (c.bindModule r m visit).1.StaysIn reach := by
  induction m generalizing c visit with
  | nil => exact known
  | cons entry m inductionHypothesis =>
      have first := stays entry List.mem_cons_self
      exact inductionHypothesis (fun entry member => stays entry (List.mem_cons_of_mem _ member))
        (bindExport_staysIn known first entry.1)

theorem bindModule_couples {R : Client → Client → Prop} {other : Reactor} {d : Client}
    (couples : ∀ name, CouplesExport reach R name) (reacts : r.Couples other reach R)
    {m : Module} (stays : ∀ entry ∈ m, entry.2.StaysIn reach) (visit : Visit)
    (related : R c d) :
    (d.bindModule other m visit).1 = (c.bindModule r m visit).1 ∧
      R (c.bindModule r m visit).2 (d.bindModule other m visit).2 := by
  induction m generalizing c d visit with
  | nil => exact ⟨rfl, related⟩
  | cons entry m inductionHypothesis =>
      obtain ⟨name, e⟩ := entry
      obtain ⟨same, bound⟩ := bindExport_couples (couples name) reacts related
        (stays (name, e) List.mem_cons_self) visit
      rw [bindModule, bindModule]
      dsimp only
      rw [same]
      exact inductionHypothesis
        (fun entry member => stays entry (List.mem_cons_of_mem _ member)) _ bound

end Modules

end Client

/-- A relation between clients with the same page that survives what is bound for it. -/
structure CouplesPages (reach : Reach) (R : Client → Client → Prop) : Prop where
  exports : ∀ name, CouplesExport reach R name
  visit : ∀ {c d}, R c d → d.visit = c.visit
  known : ∀ {c d}, R c d → ∀ visit, c.visit = some visit → visit.StaysIn reach
  update : ∀ {c d}, R c d → ∀ visit : Visit, visit.StaysIn reach →
    R { c with visit := some visit } { d with visit := some visit }

/-- A relation between clients with the same page that survives all that compiling its
markup makes of it. -/
structure CouplesLayouts (reach : Reach) (R : Client → Client → Prop)
    (registry : AssetRegistry) : Prop extends CouplesPages reach R where
  make : ∀ {c d}, R c d → ∀ layout b, registry.layoutModules.get? layout = some b →
    (d.askHost (Host.instantiate b)).1 = (c.askHost (Host.instantiate b)).1 ∧
      (∀ entry ∈ (c.askHost (Host.instantiate b)).1, entry.2.StaysIn reach) ∧
      R (c.askHost (Host.instantiate b)).2 (d.askHost (Host.instantiate b)).2

namespace Client

section Pages

variable {reach : Reach} {R : Client → Client → Prop} {r other : Reactor} {c d : Client}
  (pages : CouplesPages reach R) (reacts : r.Couples other reach R)

include pages reacts

theorem refreshComputed_couples (related : R c d) :
    R (c.refreshComputed r) (d.refreshComputed other) :=
  refreshComputed_exports reacts (pages.visit related)
    (fun visit shown => (pages.known related visit shown).computed)
    (fun _ _ entry _ => pages.exports entry.1) related

theorem refreshLayouts_couples (related : R c d) :
    R (c.refreshLayouts r) (d.refreshLayouts other) :=
  refreshLayouts_exports reacts (pages.visit related)
    (fun visit shown layout member entry inside =>
      ((pages.known related visit shown).layouts layout member entry inside).readsIn)
    (fun _ _ _ => pages.exports layoutsName) related

/-- Binding the instance of a layout, and listing it, comes to the same. -/
theorem include_couples (related : R c d) {visit : Visit} (known : visit.StaysIn reach)
    {m : Module} (stays : ∀ entry ∈ m, entry.2.StaysIn reach) (layout : String) :
    R (refreshLayouts r { (c.bindModule r m visit).2 with
        visit := some { (c.bindModule r m visit).1 with
          layouts := Table.insert layout m (c.bindModule r m visit).1.layouts } })
      (refreshLayouts other { (d.bindModule other m visit).2 with
        visit := some { (d.bindModule other m visit).1 with
          layouts := Table.insert layout m (d.bindModule other m visit).1.layouts } }) := by
  obtain ⟨sameVisit, bound⟩ := bindModule_couples pages.exports reacts stays visit related
  have knownOn := bindModule_staysIn (r := r) (c := c) stays known
  rw [sameVisit]
  refine refreshLayouts_couples pages reacts (pages.update bound _ ⟨knownOn.computed, ?_⟩)
  intro entry member
  rcases Table.mem_of_mem_insert member with isNew | old
  · rw [isNew]
    exact stays
  · exact knownOn.layouts entry old

end Pages

/-- An instance that can be made on both sides is made alike, and so is one without
exports. -/
theorem instanceOf_couples {reach : Reach} {R : Client → Client → Prop} {c d : Client}
    {blueprint : Option Blueprint}
    (make : ∀ b, blueprint = some b →
      (d.askHost (Host.instantiate b)).1 = (c.askHost (Host.instantiate b)).1 ∧
        (∀ entry ∈ (c.askHost (Host.instantiate b)).1, entry.2.StaysIn reach) ∧
        R (c.askHost (Host.instantiate b)).2 (d.askHost (Host.instantiate b)).2)
    (related : R c d) :
    (instanceOf blueprint d).1 = (instanceOf blueprint c).1 ∧
      (∀ entry ∈ (instanceOf blueprint c).1, entry.2.StaysIn reach) ∧
      R (instanceOf blueprint c).2 (instanceOf blueprint d).2 := by
  cases blueprint with
  | none => exact ⟨rfl, by simp [instanceOf], related⟩
  | some b => exact make b rfl

section Layouts

variable {reach : Reach} {R : Client → Client → Prop} {registry : AssetRegistry}
  {r other : Reactor} {c d : Client} (layouts : CouplesLayouts reach R registry)
  (reacts : r.Couples other reach R)

include layouts reacts

theorem bindLayout_couples (related : R c d) (layout : String) :
    R (c.bindLayout r registry layout) (d.bindLayout other registry layout) := by
  have same := layouts.visit related
  unfold bindLayout
  rw [same]
  cases shown : c.visit with
  | none => exact related
  | some visit =>
      dsimp only
      by_cases included : visit.layouts.contains layout = true
      · rw [if_pos included, if_pos included]
        exact related
      · rw [if_neg included, if_neg included]
        have known := layouts.known related visit shown
        obtain ⟨sameModule, stays, made⟩ :=
          instanceOf_couples (layouts.make related layout) related
        rw [sameModule]
        exact include_couples layouts.toCouplesPages reacts made known stays layout

theorem layoutSource_couples :
    (layoutSource r registry).Relates (layoutSource other registry) R := by
  refine ⟨fun layout => ?_, rfl⟩
  unfold layoutSource
  dsimp only
  cases registry.layoutBodies.get? layout with
  | none => exact .pure none
  | some found =>
      cases found with
      | error cause => exact .throw _
      | ok markup =>
          refine Relates.bind (fun s t related => ?_) fun _ => ?_
          · exact ⟨rfl, bindLayout_couples layouts reacts related layout⟩
          · cases Markup.parse markup with
            | ok nodes => exact .pure _
            | error cause => exact .throw _

end Layouts

/-! ## Passes -/

/-- A pass up to the markup that is to be displayed. -/
def passMarkup (r : Reactor) (registry : AssetRegistry) (body : String) : Showing String := do
  enter .compiling
  modify (refreshComputed r)
  modify (refreshLayouts r)
  let program ← (layoutSource r registry).compile body
  enter .rendering
  let html ← evaluating (program.render (surroundings r).evaluator)
  enter .indexing
  return html

theorem renderPass_eq (r : Reactor) (registry : AssetRegistry) (body : String)
    (focus : Option FocusTarget) :
    renderPass r registry body focus = (do
      let html ← passMarkup r registry body
      modify (showMarkup focus html)) := by
  simp only [renderPass, passMarkup, bind_assoc, pure_bind]

theorem evaluating_relates {α : Type} {R : Client → Client → Prop}
    {e other : Evaluation Client α} (relates : Relates R e other) :
    Relates R (evaluating e) (evaluating other) := by
  intro c d related
  obtain ⟨same, relatedOn⟩ := relates c d related
  exact ⟨congrArg (Except.mapError PageError.eval) same, relatedOn⟩

/-- A pass comes to the same markup on related clients. -/
theorem passMarkup_couples {reach : Reach} {R : Client → Client → Prop}
    {registry : AssetRegistry} {r other : Reactor} (layouts : CouplesLayouts reach R registry)
    (names : CouplesNames (fun _ : Unit => reach) fun _ => R)
    (enters : ∀ c d state, state ≠ .idle → R c d → R { c with state } { d with state })
    (reacts : r.Couples other reach R) (body : String) :
    Relates R (passMarkup r registry body) (passMarkup other registry body) := by
  have entering : ∀ state, state ≠ .idle → Relates R (enter state) (enter state) :=
    fun state busy c d related => ⟨rfl, enters c d state busy related⟩
  have pages := layouts.toCouplesPages
  refine (entering .compiling (by simp)).bind fun _ => ?_
  refine Relates.bind (fun c d related => ⟨rfl, refreshComputed_couples pages reacts related⟩)
    fun _ => ?_
  refine Relates.bind (fun c d related => ⟨rfl, refreshLayouts_couples pages reacts related⟩)
    fun _ => ?_
  refine (LayoutSource.compile_relates (layoutSource_couples layouts reacts) body).bind
    fun program => ?_
  refine (entering .rendering (by simp)).bind fun _ => ?_
  refine (evaluating_relates (render_couples names (fun _ => reacts) () program)).bind
    fun html => ?_
  exact (entering .indexing (by simp)).bind fun _ => .pure html

end Client

end LivePages
