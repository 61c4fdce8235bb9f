import LivePages.Proofs.Asset.Settling
import LivePages.Proofs.Client.Joining
import LivePages.Proofs.Client.Upkeep

/-!
# Modules that keep to themselves

An instance of a private module has stores of its own, and its functions have to do with
these stores only, and with keys that are its own.  What is made for the next instance
depends on nothing but how many stores and instances there are.  And as long as all
modules of a site are private, nothing is ever kept under the keys of instances to come.
-/

namespace LivePages

variable {owner : String → Nat}

/-! ## Reach -/

/-- The reach of those who have to do with these stores and these keys. -/
def Reach.of (stores : StoreId → Prop) (keys : String → Prop) : Reach :=
  ⟨stores, stores, keys, keys⟩

theorem Reach.widens_of {stores wideStores : StoreId → Prop} {keys wideKeys : String → Prop}
    (moreStores : ∀ s, stores s → wideStores s) (moreKeys : ∀ key, keys key → wideKeys key) :
    (Reach.of wideStores wideKeys).Widens (.of stores keys) :=
  ⟨moreStores, moreStores, moreKeys, moreKeys⟩

section Widen

variable {wide narrow : Reach} (widens : wide.Widens narrow)

include widens

theorem Binding.StaysIn.widen {b : Binding} (stays : b.StaysIn narrow) : b.StaysIn wide := by
  cases b with
  | value v => trivial
  | store s => exact widens.reads s stays
  | function f => exact fun args => (stays args).widen widens

theorem Export.StaysIn.widen {e : Export} (stays : e.StaysIn narrow) : e.StaysIn wide := by
  cases e with
  | value v => trivial
  | store s => exact ⟨widens.reads s stays.1, widens.writes s stays.2⟩
  | function f => exact fun args => (stays args).widen widens
  | computed a => exact Action.StaysIn.widen widens stays

theorem Visit.StaysIn.widen {visit : Visit} (stays : visit.StaysIn narrow) :
    visit.StaysIn wide where
  computed entry member := (stays.computed entry member).widen widens
  layouts layout member entry inside := (stays.layouts layout member entry inside).widen widens

end Widen

/-- Whether a listener that an action has left stays in reach. -/
def Listener.StaysIn (reach : Reach) : Listener → Prop
  | .host react => ∀ v, (react v).StaysIn reach
  | _ => True

theorem Listener.StaysIn.widen {wide narrow : Reach} (widens : wide.Widens narrow)
    {listener : Listener} (stays : listener.StaysIn narrow) : listener.StaysIn wide := by
  cases listener with
  | host react => exact fun v => (stays v).widen widens
  | slot client area key => trivial
  | rerender client => trivial

/-! ## Private modules -/

/-- Whether the store of a plan belongs to all instances. -/
def Plan.isShared : Plan → Bool
  | .store _ _ _ shared => shared
  | _ => false

/-- The stores that are made for an instance, if none of them is shared. -/
def newStores (plans : List (String × Plan)) : List (Store Listener) :=
  plans.filterMap fun entry =>
    match entry.2 with
    | .store type initial persist _ => some (.new type initial persist)
    | _ => none

theorem Host.makeStores_unshared (path : String) {plans : List (String × Plan)}
    (unshared : ∀ entry ∈ plans, entry.2.isShared = false) (h : Host) :
    ∃ made, makeStores path plans h =
      (List.range' h.stores.length (newStores plans).length,
        { h with stores := h.stores ++ newStores plans, made }) := by
  induction plans generalizing h with
  | nil => exact ⟨h.made, by simp [makeStores, newStores]⟩
  | cons entry plans inductionHypothesis =>
      obtain ⟨name, plan⟩ := entry
      have first := unshared (name, plan) List.mem_cons_self
      have later := fun entry member => unshared entry (List.mem_cons_of_mem _ member)
      cases plan with
      | store type initial persist shared =>
          cases (first : shared = false)
          obtain ⟨made, shape⟩ := inductionHypothesis later
            (h.makeStore path name type initial persist false).2
          refine ⟨made, ?_⟩
          rw [makeStores]
          dsimp only
          rw [shape]
          simp [makeStore, addStore, newStores, List.range'_succ]
      | _ => exact inductionHypothesis later h

theorem Host.instantiate_unshared {b : Blueprint}
    (unshared : ∀ entry ∈ b.plans, entry.2.isShared = false) (h : Host) :
    ∃ made, (h.instantiate b).2 =
      { h with stores := h.stores ++ newStores b.plans, made, instances := h.instances + 1 } := by
  obtain ⟨made, shape⟩ := makeStores_unshared b.path unshared h
  refine ⟨made, ?_⟩
  rw [instantiate]
  dsimp only
  rw [shape]

/-- The next instance of a module is the same on hosts with as many stores and
instances. -/
theorem Host.instantiate_same {b : Blueprint}
    (unshared : ∀ entry ∈ b.plans, entry.2.isShared = false) {h other : Host}
    (count : other.stores.length = h.stores.length) (instances : other.instances = h.instances) :
    (other.instantiate b).1 = (h.instantiate b).1 := by
  obtain ⟨made, shape⟩ := makeStores_unshared b.path unshared h
  obtain ⟨otherMade, otherShape⟩ := makeStores_unshared b.path unshared other
  rw [instantiate, instantiate]
  dsimp only
  rw [shape, otherShape, count]
  dsimp only
  rw [instances]

/-- What belongs to the instance of a module that a host makes next: the stores that
are made for it, and the keys that are its own. -/
def Host.nextReach (owner : String → Nat) (h : Host) (b : Blueprint) : Reach :=
  .of (fun s => h.stores.length ≤ s ∧ s < (h.instantiate b).2.stores.length)
    fun key => owner key = h.instances

/-- A module whose instances share nothing, if each key belongs to its owner. -/
structure Blueprint.Private (owner : String → Nat) (b : Blueprint) : Prop where
  unshared : ∀ entry ∈ b.plans, entry.2.isShared = false
  stays : ∀ h : Host, ∀ entry ∈ (h.instantiate b).1,
    entry.2.StaysIn (h.nextReach owner b)

/-- A site all of whose modules are private. -/
def AssetSource.Private (owner : String → Nat) (source : AssetSource) : Prop :=
  ∀ path b, source.loadModule path = .ok b → b.Private owner

/-- A site that has been loaded, all of whose modules are private. -/
structure AssetRegistry.Private (owner : String → Nat) (registry : AssetRegistry) : Prop where
  routes : ∀ route b, registry.routeModules.get? route = some b → b.Private owner
  layouts : ∀ layout b, registry.layoutModules.get? layout = some b → b.Private owner

theorem AssetRegistry.load_private {source : AssetSource} (isPrivate : source.Private owner)
    {settings : AssetSettings} {site : AssetRegistry × LoadReport}
    (load : AssetRegistry.load source settings = .ok site) : site.1.Private owner := by
  obtain ⟨m, -, rfl⟩ := loadFrom_eq_ok_iff.1 load
  have settles := loadNamed_settles source.answers settings m
  have there : ∀ path b, (source.answers.module path).toOption = some b → b.Private owner := by
    intro path b found
    apply isPrivate path
    cases answer : source.loadModule path with
    | error cause => simp [AssetSource.answers, answer, Except.toOption] at found
    | ok module => simpa [AssetSource.answers, answer, Except.toOption] using found
  refine ⟨fun route b found => ?_, fun layout b found => ?_⟩
  · rw [settles.routeModule, Option.ite_none_right_eq_some] at found
    exact there _ b found.2
  · rw [settles.layoutModule, Option.ite_none_right_eq_some] at found
    exact there _ b found.2

end LivePages
