import LivePages.Proofs.Client.Joining
import LivePages.Proofs.Client.Shown

/-!
# Values that stay stored

A plain value whose name has a tier takes over what is stored for it when its page is
bound, or is stored itself.  From then on only stores write to slots, and those of
the page have slots of other names.  So the slot holds the value that the name is
bound to for as long as the page is there, unless a script assigns to the name: an
assignment replaces the value and leaves the slot alone.
-/

namespace LivePages

namespace Client

variable {c d : Client} {n : Nat} {name : String} {tier : Tier} {area : AreaId}
  {route : String} {bound : Prop}

/-! ## Slots that nobody keeps -/

/-- A client on which nobody keeps the slot of a name.  Once the name is bound, the
slot holds the value that it is bound to. -/
structure Stored (name : String) (tier : Tier) (area : AreaId) (route : String)
    (bound : Prop) (c : Client) : Prop where
  tiered : c.valueTier? name = some tier
  placed : c.area tier = area
  inside : area < c.areas.length
  scope : c.scope = route
  unkept : ∀ s, ∀ entry ∈ c.listeners s, ¬ entry.2.KeepsSlot area (route ++ "/" ++ name)
  agrees : bound → ∃ v, c.bindings.get? name = some (.value v) ∧
    (c.readText area (route ++ "/" ++ name)).bind Slot.read? = some v

/-- A change of the host that leaves the slot as it is, and to those who leave it. -/
theorem Stored.host (stored : c.Stored name tier area route bound) {h : Host}
    (drifts : c.toHost.Drifts area (route ++ "/" ++ name) h)
    (text : h.readText area (route ++ "/" ++ name) =
      c.readText area (route ++ "/" ++ name)) :
    ({ c with toHost := h }).Stored name tier area route bound where
  tiered := stored.tiered
  placed := stored.placed
  inside := drifts.areas ▸ stored.inside
  scope := stored.scope
  unkept s entry member := by
    obtain ⟨kept, more, shape, -, apart⟩ := drifts.listeners s
    rw [shape] at member
    rcases List.mem_append.1 member with old | new
    · exact stored.unkept s entry (List.mem_filter.1 old).1
    · exact apart entry new
  agrees isBound := by
    obtain ⟨v, found, reads⟩ := stored.agrees isBound
    exact ⟨v, found, text ▸ reads⟩

section Stored

variable (stored : c.Stored name tier area route bound)

include stored

theorem Stored.onStore (s : StoreId) {change : Store Listener → Store Listener}
    (drifted : ∀ store : Store Listener,
      Drifted area (route ++ "/" ++ name) store.listeners (change store).listeners) :
    (c.onHost (Host.onStore s change)).Stored name tier area route bound :=
  stored.host (.onStore s drifted) rfl

theorem Stored.subscribe (s : StoreId) {listener : Listener}
    (apart : ¬ listener.KeepsSlot area (route ++ "/" ++ name)) :
    (c.askHost (Host.subscribe s listener)).2.Stored name tier area route bound := by
  have shape : (c.askHost (Host.subscribe s listener)).2 =
      c.onHost (Host.onStore s fun store => (store.subscribe listener).2) :=
    congrArg (fun h => { c with toHost := h }) (Host.subscribe_eq_onStore s _)
  rw [shape]
  exact stored.onStore s fun store => .subscribe store apart

theorem Stored.writeText {a : AreaId} {key : String}
    (apart : ¬ (a = area ∧ key = route ++ "/" ++ name)) (text : String) :
    (c.onHost (Host.writeText a key text)).Stored name tier area route bound :=
  stored.host (Host.drifts_writeText a key text)
    (Host.readText_writeText_ne (h := c.toHost) apart text)

theorem Stored.instantiate (b : Blueprint) :
    (c.askHost (Host.instantiate b)).2.Stored name tier area route bound := by
  have more : c.toHost.Extends (c.toHost.instantiate b).2 :=
    Host.makeStores_extends b.path b.plans c.toHost
  obtain ⟨stores, made, shape⟩ := c.toHost.instantiate_eq b
  have areas : (c.toHost.instantiate b).2.areas = c.areas := by rw [shape]
  refine stored.host (.of_listeners (congrArg List.length areas) more.listeners_eq) ?_
  exact congrArg (fun areas : List Area => (areas[area]?).bind fun a =>
    a.texts.get? (route ++ "/" ++ name)) areas

theorem Stored.bind {other : String} (apart : other ≠ name) (b : Binding) :
    (c.bind other b).Stored name tier area route bound where
  tiered := stored.tiered
  placed := stored.placed
  inside := stored.inside
  scope := stored.scope
  unkept := stored.unkept
  agrees isBound := by
    obtain ⟨v, found, reads⟩ := stored.agrees isBound
    refine ⟨v, ?_, reads⟩
    rw [Client.bind, Table.get?_insert, if_neg apart]
    exact found

theorem Stored.storageKey_ne {other : String} (apart : other ≠ name) :
    c.storageKey other ≠ route ++ "/" ++ name := by
  rw [storageKey, stored.scope]
  intro same
  exact apart ((String.append_right_inj _).1 same)

end Stored

theorem withstands_stored (name : String) (tier : Tier) (area : AreaId) (route : String)
    (bound : Prop) :
    Withstands (fun _ : Unit => Reach.all) fun _ => Stored name tier area route bound where
  listen stored _ react _ := stored.subscribe _ not_false
  forget stored _ id := stored.onStore _ fun store => .forget store.listeners id
  keep stored _ _ := stored.host (.of_listeners rfl fun _ => rfl) rfl
  note stored _ := stored.host (.of_listeners rfl fun _ => rfl) rfl
  write stored _ _ := stored.onStore _ fun store => .refl store.listeners
  exhaust stored := stored.host (.of_listeners rfl fun _ => rfl) rfl
  heard {_ c s} stored _ := by
    refine ⟨(), stored, fun _ holds => holds, trivial, fun entry member =>
      Reach.all.answers fun client a key shape d text holds => ?_⟩
    have apart := stored.unkept s entry member
    rw [shape] at apart
    exact holds.writeText apart text

/-- Whether a client is in the middle of a pass, with a value that is stored. -/
def StoredAmid (name : String) (tier : Tier) (area : AreaId) (route : String) (bound : Prop)
    (c : Client) : Prop :=
  c.state ≠ .idle ∧ c.Stored name tier area route bound

theorem withstands_storedAmid (name : String) (tier : Tier) (area : AreaId) (route : String)
    (bound : Prop) :
    Withstands (fun _ : Unit => Reach.all) fun _ => StoredAmid name tier area route bound :=
  (withstands_stored name tier area route bound).busy

theorem reacts_storedAmid (name : String) (tier : Tier) (area : AreaId) (route : String)
    (bound : Prop) (n : Nat) :
    (Reactor.level n).Couples (.level n) .all
      (Selfsame (StoredAmid name tier area route bound)) :=
  (withstands_stored name tier area route bound).reacts_busy n ()

/-- Binding an export of another name leaves a stored value alone. -/
theorem couplesExport_storedAmid (bound : Prop) {other : String} (apart : other ≠ name) :
    CouplesExport .all (Selfsame (StoredAmid name tier area route bound)) other :=
  (withstands_storedAmid name tier area route bound).couplesExport (i := ())
    (fun _ b amid _ => ⟨amid.1, amid.2.bind apart b⟩)
    (fun _ _ text amid =>
      ⟨amid.1, amid.2.writeText (fun same => amid.2.storageKey_ne apart same.2) text⟩)
    (fun _ s _ amid =>
      ⟨amid.1, amid.2.subscribe s fun same => amid.2.storageKey_ne apart same.2⟩)
    (fun _ s amid => ⟨amid.1, amid.2.subscribe s not_false⟩)

/-! ## Binding modules -/

theorem Stored.mono {less : Prop} (fewer : less → bound)
    (stored : c.Stored name tier area route bound) :
    c.Stored name tier area route less :=
  { stored with agrees := fun isBound => stored.agrees (fewer isBound) }

end Client

/-- Whether a plan is for a value that its slot brings back. -/
def Plan.IsPlain : Plan → Prop
  | .value v => Slot.read? (Slot.write v) = some v
  | _ => False

/-- Whether a plan is for a value that has a text of its own: anything that JSON can
say, but no text that reads as something else. -/
def Plan.isStorable : Plan → Bool
  | .value (.str text) => text ≠ "" && (Json.read? text).isNone
  | .value v => v.isJson Json.maxDepth
  | _ => false

theorem Plan.isPlain_of_isStorable {plan : Plan} (storable : plan.isStorable = true) :
    plan.IsPlain := by
  cases plan with
  | value v =>
      cases v with
      | str text =>
          rw [isStorable, Bool.and_eq_true, Option.isNone_iff_eq_none] at storable
          refine Slot.read?_write rfl ?_
          rintro _ ⟨⟩
          exact ⟨of_decide_eq_true storable.1, storable.2⟩
      | _ => exact Slot.read?_write storable fun text same => by cases same
  | _ => cases storable

/-- Whether an export is a value that its slot brings back. -/
def Export.IsPlain : Export → Prop
  | .value v => Slot.read? (Slot.write v) = some v
  | _ => False

theorem Plan.Yields.isPlain {plan : Plan} {i : Instance} {stores : List StoreId}
    {e : Export} (yields : plan.Yields i stores e) (isPlain : plan.IsPlain) :
    e.IsPlain := by
  cases plan with
  | value v => exact (yields : e = .value v) ▸ isPlain
  | store type initial persist shared => cases isPlain
  | function call => cases isPlain
  | computed compute => cases isPlain

namespace Client

variable {c d : Client} {n : Nat} {name : String} {tier : Tier} {area : AreaId}
  {route : String} {bound : Prop}

/-- A value that its slot brings back is stored when it is bound, unless there is a
stored one that takes its place. -/
theorem attachValue_stored (stored : c.Stored name tier area route bound) (r : Reactor)
    {v : Value} (readable : Slot.read? (Slot.write v) = some v) :
    ((c.bindValue name v).attachValue r name v).2.Stored name tier area route True := by
  have key : c.storageKey name = route ++ "/" ++ name := by rw [storageKey, stored.scope]
  have isBound : ∀ (c : Client) v, (c.bindValue name v).bindings.get? name = some (.value v) :=
    fun _ _ => (Table.get?_insert _ _ _ _).trans (if_pos rfl)
  rw [attachValue_bindValue, stored.tiered]
  dsimp only
  cases loads : c.load? name tier with
  | some w =>
      rw [load?, stored.placed, key] at loads
      exact { stored with agrees := fun _ => ⟨w, isBound _ w, loads⟩ }
  | none =>
      have listeners : ∀ s, (c.toHost.writeText (c.area tier) (c.storageKey name)
          (Slot.write v)).listeners s = c.listeners s := by
        intro s
        obtain ⟨areas, file, shape, -⟩ := c.toHost.writeText_eq (c.area tier)
          (c.storageKey name) (Slot.write v)
        rw [shape]
        rfl
      have length : (c.toHost.writeText (c.area tier) (c.storageKey name)
          (Slot.write v)).areas.length = c.areas.length := by
        obtain ⟨areas, file, shape, same⟩ := c.toHost.writeText_eq (c.area tier)
          (c.storageKey name) (Slot.write v)
        rw [shape]
        exact same
      refine ⟨stored.tiered, stored.placed, length.symm ▸ stored.inside, stored.scope, ?_, ?_⟩
      · intro s entry member
        exact stored.unkept s entry (listeners s ▸ member)
      · have written := Host.readText_writeText (h := c.toHost) stored.inside
          (route ++ "/" ++ name) (Slot.write v)
        refine fun _ => ⟨v, isBound _ v, ?_⟩
        rw [stored.placed, key]
        exact (congrArg (·.bind Slot.read?) written).trans readable

theorem attachValue_state (r : Reactor) (name : String) (v : Value) (c : Client) :
    ((c.bindValue name v).attachValue r name v).2.state = c.state := by
  rw [attachValue_bindValue]
  cases c.valueTier? name with
  | none => rfl
  | some tier =>
      dsimp only
      cases c.load? name tier <;> rfl

/-- Binding a module stores what it exports under a name, if it exports plain values
only. -/
theorem bindModule_stored {m : Module} (plain : ∀ e, (name, e) ∈ m → e.IsPlain)
    (visit : Visit) (amid : StoredAmid name tier area route bound c) :
    StoredAmid name tier area route (bound ∨ name ∈ Table.names m)
      (c.bindModule (.level n) m visit).2 := by
  induction m generalizing c visit bound with
  | nil => exact ⟨amid.1, amid.2.mono fun either => either.resolve_right List.not_mem_nil⟩
  | cons entry m inductionHypothesis =>
      obtain ⟨other, e⟩ := entry
      have later : ∀ e, (name, e) ∈ m → e.IsPlain :=
        fun e member => plain e (List.mem_cons_of_mem _ member)
      by_cases own : other = name
      · subst own
        have isPlain := plain e List.mem_cons_self
        cases e with
        | value v =>
            have stored : StoredAmid other tier area route True
                (c.bindExport (.level n) other (.value v) visit).2 :=
              ⟨(attachValue_state _ _ v c).symm ▸ amid.1,
                attachValue_stored amid.2 (.level n) isPlain⟩
            obtain ⟨busy, storedOn⟩ := inductionHypothesis later
              (c.bindExport (.level n) other (.value v) visit).1 stored
            exact ⟨busy, storedOn.mono fun _ => .inl trivial⟩
        | store s => cases isPlain
        | function f => cases isPlain
        | computed a => cases isPlain
      · have boundOther := (bindExport_couples
          (couplesExport_storedAmid bound own)
          (reacts_storedAmid name tier area route bound n) ⟨rfl, amid⟩
          (show e.StaysIn .all from e.staysIn_all) visit).2.2
        obtain ⟨busy, storedOn⟩ := inductionHypothesis later
          (c.bindExport (.level n) other e visit).1 boundOther
        refine ⟨busy, storedOn.mono (Or.imp_right fun member => ?_)⟩
        exact (List.mem_cons.1 member).resolve_left (Ne.symm own)

theorem mem_computed_of_bindModule {r : Reactor} {m : Module} {visit : Visit}
    {entry : String × Action} (member : entry ∈ (c.bindModule r m visit).1.computed) :
    entry ∈ visit.computed ∨ (entry.1, Export.computed entry.2) ∈ m := by
  induction m generalizing c visit with
  | nil => exact .inl member
  | cons first m inductionHypothesis =>
      obtain ⟨name, e⟩ := first
      rcases inductionHypothesis member with early | later
      · cases e with
        | computed a =>
            rcases List.mem_append.1 early with old | new
            · exact .inl old
            · rw [List.mem_singleton.1 new]
              exact .inr List.mem_cons_self
        | value v => exact .inl early
        | store s => exact .inl early
        | function f => exact .inl early
      · exact .inr (List.mem_cons_of_mem _ later)

theorem bindModule_route (r : Reactor) (m : Module) (visit : Visit) (c : Client) :
    (c.bindModule r m visit).1.route = visit.route := by
  induction m generalizing c visit with
  | nil => rfl
  | cons entry m inductionHypothesis =>
      obtain ⟨name, e⟩ := entry
      refine (inductionHypothesis _ _).trans ?_
      cases e <;> rfl

/-! ## Pages that export plain values -/

/-- Whether a module of the page that is shown has planned an export. -/
def Offers (c : Client) (name : String) (plan : Plan) : Prop :=
  ∃ registry report visit b, c.loaded = some (registry, report) ∧ c.visit = some visit ∧
    (registry.routeModules.get? visit.route = some b ∨
      ∃ layout, visit.layouts.contains layout = true ∧
        registry.layoutModules.get? layout = some b) ∧
    (name, plan) ∈ b.plans

/-- The plans that the modules of the page that is shown have under a name. -/
def offered (c : Client) (name : String) : List Plan :=
  match c.loaded, c.visit with
  | some (registry, _), some visit =>
    ((registry.routeModules.get? visit.route).toList ++ visit.layouts.filterMap fun entry =>
      registry.layoutModules.get? entry.1).flatMap fun b =>
        (b.plans.filter fun entry => entry.1 = name).map Prod.snd
  | _, _ => []

theorem offers_iff_mem {plan : Plan} : c.Offers name plan ↔ plan ∈ c.offered name := by
  unfold Offers offered
  cases c.loaded with
  | none => simp
  | some site =>
      obtain ⟨registry, report⟩ := site
      cases c.visit with
      | none => simp
      | some visit =>
          simp only [Option.some.injEq, Prod.mk.injEq, Table.contains_iff]
          constructor
          · rintro ⟨_, _, _, b, ⟨rfl, rfl⟩, rfl, isPage, planned⟩
            refine List.mem_flatMap.2 ⟨b, List.mem_append.2 ?_, ?_⟩
            · rcases isPage with isRoute | ⟨layout, ⟨m, included⟩, isLayout⟩
              · exact .inl (Option.mem_toList.2 isRoute)
              · exact .inr (List.mem_filterMap.2 ⟨_, included, isLayout⟩)
            · exact List.mem_map.2 ⟨_, List.mem_filter.2 ⟨planned, decide_eq_true rfl⟩, rfl⟩
          · intro member
            obtain ⟨b, isPage, inside⟩ := List.mem_flatMap.1 member
            obtain ⟨⟨other, p⟩, found, rfl⟩ := List.mem_map.1 inside
            obtain ⟨planned, same⟩ := List.mem_filter.1 found
            obtain rfl : other = name := of_decide_eq_true same
            refine ⟨registry, report, visit, b, ⟨rfl, rfl⟩, rfl, ?_, planned⟩
            rcases List.mem_append.1 isPage with isRoute | isLayout
            · exact .inl (Option.mem_toList.1 isRoute)
            · obtain ⟨⟨layout, m⟩, included, found⟩ := List.mem_filterMap.1 isLayout
              exact .inr ⟨layout, ⟨m, included⟩, found⟩

/-- Whether all that the modules of the page that is shown have planned under a name are
plain values.  If there are layouts, they are listed under a name of their own. -/
structure OffersPlainly (c : Client) (name : String) : Prop where
  shown : ∃ visit, c.visit = some visit
  plans : ∀ plan, c.Offers name plan → plan.IsPlain
  unlisted : name = layoutsName → ∀ visit, c.visit = some visit →
    visit.layouts.isEmpty = true

/-- A client with a page on which the values of a name are stored, once there are any. -/
structure InOrder (name : String) (tier : Tier) (area : AreaId) (route : String)
    (c : Client) : Prop where
  stored : c.Stored name tier area route (∃ plan, c.Offers name plan)
  route : ∀ visit, c.visit = some visit → visit.route = route
  computed : ∀ visit, c.visit = some visit → ∀ entry ∈ visit.computed, entry.1 ≠ name

/-- A client whose page is in order if all that it has planned under a name are plain
values; what else holds in this case is added. -/
def Kept (name : String) (tier : Tier) (area : AreaId) (route : String) (also : Prop)
    (c : Client) : Prop :=
  c.OffersPlainly name → also ∧ c.InOrder name tier area route

theorem offers_of_visit (loaded : d.loaded = c.loaded) (visit : d.visit = c.visit)
    (plan : Plan) : d.Offers name plan ↔ c.Offers name plan := by
  rw [Offers, Offers, loaded, visit]

theorem offersPlainly_of_visit (loaded : d.loaded = c.loaded) (visit : d.visit = c.visit)
    (plainly : d.OffersPlainly name) : c.OffersPlainly name where
  shown := visit ▸ plainly.shown
  plans plan offers := plainly.plans plan ((offers_of_visit loaded visit plan).2 offers)
  unlisted isName := visit ▸ plainly.unlisted isName

variable {also : Prop}

/-- A step that leaves the page as it is. -/
theorem Kept.step (kept : c.Kept name tier area route also) (loaded : d.loaded = c.loaded)
    (visit : d.visit = c.visit)
    (stored : also → c.OffersPlainly name → c.InOrder name tier area route →
      d.Stored name tier area route (∃ plan, c.Offers name plan)) :
    d.Kept name tier area route also := by
  intro plainly
  have plainlyBefore := offersPlainly_of_visit loaded visit plainly
  obtain ⟨more, inOrder⟩ := kept plainlyBefore
  refine ⟨more, ?_, visit ▸ inOrder.route, visit ▸ inOrder.computed⟩
  refine (stored more plainlyBefore inOrder).mono ?_
  rintro ⟨plan, offers⟩
  exact ⟨plan, (offers_of_visit loaded visit plan).1 offers⟩

/-! ## Passes -/

theorem refreshComputed_stored (amid : StoredAmid name tier area route bound c)
    (others : ∀ visit, c.visit = some visit → ∀ entry ∈ visit.computed, entry.1 ≠ name) :
    StoredAmid name tier area route bound (c.refreshComputed (.level n)) :=
  (refreshComputed_exports (reacts_storedAmid name tier area route bound n) rfl
    (fun _ _ entry _ => entry.2.staysIn_all)
    (fun visit shown entry member =>
      couplesExport_storedAmid bound (others visit shown entry member)) ⟨rfl, amid⟩).2

theorem refreshLayouts_stored (amid : StoredAmid name tier area route bound c)
    (unlisted : name = layoutsName → ∀ visit, c.visit = some visit →
      visit.layouts.isEmpty = true) :
    StoredAmid name tier area route bound (c.refreshLayouts (.level n)) :=
  (refreshLayouts_exports (reacts_storedAmid name tier area route bound n) rfl
    (fun _ _ _ _ entry _ => entry.2.staysIn_all.readsIn)
    (fun visit shown listed => couplesExport_storedAmid bound fun same =>
      listed (unlisted same.symm visit shown)) ⟨rfl, amid⟩).2

theorem render_stored (amid : StoredAmid name tier area route bound c) (program : Program) :
    StoredAmid name tier area route bound
      (program.render (surroundings (.level n)).evaluator c).2 := by
  have names := (withstands_storedAmid name tier area route bound).couplesNames
    fun holds _ b _ => ⟨(), holds, fun _ holds => holds, b.staysIn_all⟩
  exact (render_couples names (fun _ => reacts_storedAmid name tier area route bound n) ()
    program c c ⟨rfl, amid⟩).2.2

/-- A client in the middle of a pass over a page of a site that is kept in order. -/
structure KeptAmid (name : String) (tier : Tier) (area : AreaId) (route : String)
    (also : Prop) (registry : AssetRegistry) (c : Client) : Prop where
  busy : c.state ≠ .idle
  loaded : ∃ report, c.loaded = some (registry, report)
  kept : c.Kept name tier area route also

variable {registry : AssetRegistry}

/-- A step of a pass that leaves the page as it is. -/
theorem KeptAmid.step (amid : c.KeptAmid name tier area route also registry)
    (loaded : d.loaded = c.loaded) (visit : d.visit = c.visit) (busy : d.state = c.state)
    (stored : c.OffersPlainly name → c.InOrder name tier area route →
      StoredAmid name tier area route (∃ plan, c.Offers name plan) c →
      StoredAmid name tier area route (∃ plan, c.Offers name plan) d) :
    d.KeptAmid name tier area route also registry where
  busy := busy ▸ amid.busy
  loaded := loaded ▸ amid.loaded
  kept := amid.kept.step loaded visit fun _ plainly inOrder =>
    (stored plainly inOrder ⟨amid.busy, inOrder.stored⟩).2

theorem bindModule_loaded (m : Module) (visit : Visit) (n : Nat) :
    (c.bindModule (.level n) m visit).2.loaded = c.loaded := by
  have rerenders := rerenders_shown fun loaded _ => loaded = c.loaded
  exact (bindModule_agree (fun entry _ => rerenders.bearsExport entry.1)
    (Reactor.level_rerenders rerenders n).agree visit rfl).2

/-- What is planned once a layout has been included has been planned before, or by the
module of the layout. -/
theorem offers_included (name layout : String) (m : Module) (plan : Plan)
    {visit next : Visit} {report : LoadReport} (shown : c.visit = some visit)
    (loaded : c.loaded = some (registry, report)) (loadedOn : d.loaded = c.loaded)
    (route : next.route = visit.route) (layouts : next.layouts = visit.layouts) :
    ({ d with visit := some { next with
        layouts := Table.insert layout m next.layouts } }).Offers name plan ↔
      c.Offers name plan ∨ ∃ b, registry.layoutModules.get? layout = some b ∧
        (name, plan) ∈ b.plans := by
  simp only [Offers, loadedOn, loaded, shown, Option.some.injEq, route, layouts]
  constructor
  · rintro ⟨_, _, _, b, ⟨⟩, rfl, isRoute | ⟨other, isIncluded, found⟩, planned⟩
    · exact .inl ⟨registry, report, visit, b, rfl, rfl, .inl (route ▸ isRoute), planned⟩
    · by_cases same : layout = other
      · exact .inr ⟨b, same ▸ found, planned⟩
      · refine .inl ⟨registry, report, visit, b, rfl, rfl, .inr ⟨other, ?_, found⟩, planned⟩
        simpa [contains_insert, same] using isIncluded
  · rintro (⟨_, _, _, b, ⟨⟩, rfl, isPage, planned⟩ | ⟨b, found, planned⟩)
    · refine ⟨_, _, _, b, rfl, rfl, ?_, planned⟩
      rcases isPage with isRoute | ⟨other, isIncluded, found⟩
      · exact .inl (route ▸ isRoute)
      · exact .inr ⟨other, by simp [contains_insert, isIncluded], found⟩
    · exact ⟨registry, report, _, b, rfl, rfl,
        .inr ⟨layout, by simp [contains_insert], found⟩, planned⟩

theorem instanceOf_stored {blueprint : Option Blueprint} {m : Module} {h : Host}
    (made : instanceOf blueprint c = (m, { c with toHost := h }))
    (stored : c.Stored name tier area route bound) :
    ({ c with toHost := h }).Stored name tier area route bound := by
  have state : (instanceOf blueprint c).2 = { c with toHost := h } := congrArg Prod.snd made
  rw [← state]
  cases blueprint with
  | none => exact stored
  | some b => exact stored.instantiate b

theorem refreshLayouts_kept (amid : c.KeptAmid name tier area route also registry) :
    (c.refreshLayouts (.level n)).KeptAmid name tier area route also registry := by
  have frame := (refreshLayouts_stays (Reactor.level_steady n) amid.busy).frame
  exact amid.step (by rw [frame]) (by rw [frame]) (by rw [frame]) fun plainly _ stored =>
    refreshLayouts_stored stored plainly.unlisted

theorem refreshComputed_kept (amid : c.KeptAmid name tier area route also registry) :
    (c.refreshComputed (.level n)).KeptAmid name tier area route also registry := by
  have frame := (refreshComputed_stays (Reactor.level_steady n) amid.busy).frame
  exact amid.step (by rw [frame]) (by rw [frame]) (by rw [frame]) fun _ inOrder stored =>
    refreshComputed_stored stored inOrder.computed

/-- A layout that is included is in order too. -/
theorem bindLayout_kept (amid : c.KeptAmid name tier area route also registry)
    (layout : String) :
    (c.bindLayout (.level n) registry layout).KeptAmid name tier area route also
      registry := by
  rcases includes_or_binds (.level n) registry layout c with
    includes | ⟨visit, m, h, next, d, shown, made, binds, shape⟩
  · rwa [bindLayout_of_includes includes]
  rw [shape]
  apply refreshLayouts_kept
  obtain ⟨busy, ⟨report, loaded⟩, kept⟩ := amid
  have stateOn := bindModule_state (c := { c with toHost := h }) (Reactor.level_steady n)
    busy m visit
  have loadedOn := bindModule_loaded (c := { c with toHost := h }) m visit n
  have layoutsOn := bindModule_layouts (r := .level n) (c := { c with toHost := h }) m visit
  have routeOn := bindModule_route (.level n) m visit { c with toHost := h }
  rw [binds] at stateOn loadedOn layoutsOn routeOn
  dsimp only at stateOn loadedOn layoutsOn routeOn
  refine ⟨stateOn ▸ busy, ⟨report, loadedOn.trans loaded⟩, fun plainly => ?_⟩
  have offers := fun plan =>
    offers_included name layout m plan shown loaded loadedOn routeOn layoutsOn
  have plainlyBefore : c.OffersPlainly name := by
    refine ⟨⟨visit, shown⟩, fun plan old => plainly.plans plan ((offers plan).2 (.inl old)), ?_⟩
    intro isName
    have empty : Table.insert layout m next.layouts = [] :=
      List.isEmpty_iff.1 (plainly.unlisted isName _ rfl)
    have present := contains_insert next.layouts layout m layout
    rw [empty] at present
    simp [Table.contains, Table.get?] at present
  obtain ⟨more, inOrder⟩ := kept plainlyBefore
  have plain : ∀ e, (name, e) ∈ m → e.IsPlain := by
    intro e member
    obtain ⟨b, found, plan, planned, same, i, stores, yields⟩ :=
      exists_plan_of_mem_instanceOf (c := c) (by rw [made]; exact member)
    obtain ⟨planName, p⟩ := plan
    obtain rfl : planName = name := same
    exact yields.isPlain (plainly.plans p ((offers p).2 (.inr ⟨b, found, planned⟩)))
  have bound := (bindModule_stored (n := n) (c := { c with toHost := h }) plain visit
    ⟨busy, instanceOf_stored made inOrder.stored⟩).2
  rw [binds] at bound
  refine ⟨more, ?_, ?_, ?_⟩
  · refine Stored.mono ?_ { bound with }
    rintro ⟨plan, offered⟩
    refine ((offers plan).1 offered).imp (fun old => ⟨plan, old⟩) ?_
    rintro ⟨b, found, planned⟩
    have named := mem_names_instanceOf planned c
    rwa [← found, made] at named
  · rintro _ ⟨⟩
    exact routeOn.trans (inOrder.route visit shown)
  · rintro _ ⟨⟩ entry member same
    have computedOn := @mem_computed_of_bindModule { c with toHost := h } (.level n) m visit
    rw [binds] at computedOn
    rcases computedOn member with old | new
    · exact inOrder.computed visit shown entry old same
    · exact plain _ (same ▸ new)

/-- A pass leaves a page in order, however it ends. -/
theorem renderPass_kept (loaded : ∃ report, c.loaded = some (registry, report))
    (kept : c.Kept name tier area route also) (body : String)
    (focus : Option FocusTarget) :
    (renderPass (.level n) registry body focus c).2.KeptAmid name tier area route also
      registry := by
  have shows : ∀ (c : Client) state document events, state ≠ .idle →
      c.KeptAmid name tier area route also registry →
      ({ c with state, document, events }).KeptAmid name tier area route also registry :=
    fun c state document events busy amid =>
      ⟨busy, amid.loaded, amid.kept.step rfl rfl fun _ _ inOrder => { inOrder.stored with }⟩
  refine renderPass_steps (P := KeptAmid name tier area route also registry)
    (fun c amid => refreshComputed_kept amid) (fun c amid => refreshLayouts_kept amid)
    (fun layout c amid => bindLayout_kept amid layout) (fun program c amid => ?_)
    (fun state busy c amid => shows c state c.document c.events busy amid)
    (fun c document events amid => shows c c.state document events amid.busy amid)
    body focus ?_
  · obtain ⟨h, frame⟩ := render_frame n program amid.busy
    exact amid.step (by rw [frame]) (by rw [frame]) (by rw [frame]) fun _ _ stored =>
      render_stored stored program
  · exact ⟨by simp, loaded, kept.step rfl rfl fun _ _ inOrder => { inOrder.stored with }⟩

theorem requestRender_kept (n : Nat) (focus : Option FocusTarget) :
    Keeps (Kept name tier area route also) (requestRender (.level n) focus) := by
  intro c kept
  rcases requestRender_exits (.level n) focus c with
    ⟨answer, same⟩ | ⟨m, registry, report, body, -, -, loaded, -, ended⟩
  · rw [same]
    exact kept
  · rw [ended]
    exact (renderPass_kept ⟨report, loaded⟩ kept body focus).kept.step rfl rfl
      fun _ _ inOrder => { inOrder.stored with }

/-! ## Operations -/

/-- Whatever actions do by themselves, a page stays in order.  While those who listen
to a store are told, it is also known that none of them keeps the slot. -/
theorem withstands_kept (name : String) (tier : Tier) (area : AreaId) (route : String) :
    Withstands (fun _ : Prop => Reach.all) fun also => Kept name tier area route also where
  listen kept _ react _ := kept.step rfl rfl fun _ _ inOrder =>
    inOrder.stored.subscribe _ not_false
  forget kept _ id := kept.step rfl rfl fun _ _ inOrder =>
    inOrder.stored.onStore _ fun store => .forget store.listeners id
  keep kept _ _ := kept.step rfl rfl fun _ _ inOrder =>
    inOrder.stored.host (.of_listeners rfl fun _ => rfl) rfl
  note kept _ := kept.step rfl rfl fun _ _ inOrder =>
    inOrder.stored.host (.of_listeners rfl fun _ => rfl) rfl
  write kept _ _ := kept.step rfl rfl fun _ _ inOrder =>
    inOrder.stored.onStore _ fun store => .refl store.listeners
  exhaust kept := kept.step rfl rfl fun _ _ inOrder =>
    inOrder.stored.host (.of_listeners rfl fun _ => rfl) rfl
  heard {also c s} kept _ := by
    refine ⟨also ∧ ∀ entry ∈ c.listeners s, ¬ entry.2.KeepsSlot area (route ++ "/" ++ name),
      fun plainly => ?_, fun d kept plainly => ?_, trivial, fun entry member =>
      Reach.all.answers fun client a key shape d text kept => ?_⟩
    · obtain ⟨more, inOrder⟩ := kept plainly
      exact ⟨⟨more, inOrder.stored.unkept s⟩, inOrder⟩
    · obtain ⟨⟨more, -⟩, inOrder⟩ := kept plainly
      exact ⟨more, inOrder⟩
    · refine kept.step rfl rfl fun known _ inOrder => ?_
      have apart := known.2 entry member
      rw [shape] at apart
      exact inOrder.stored.writeText apart text

theorem reacts_kept (name : String) (tier : Tier) (area : AreaId) (route : String) (n : Nat)
    (also : Prop) :
    (Reactor.level n).Couples (.level n) .all (Selfsame (Kept name tier area route also)) :=
  Reactor.level_couples (withstands_kept name tier area route).couplesChanges
    (fun n _ _ => (requestRender_kept n none).agree.relates) n also

end Client

end LivePages
