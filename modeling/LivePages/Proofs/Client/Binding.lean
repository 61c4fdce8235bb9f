import LivePages.Client.Page
import LivePages.Proofs.Client.Reaction
import LivePages.Proofs.Table

/-!
# What binding keeps

Binding the exports of a page goes further than actions can.  It makes instances of
modules, puts the client's own listeners on stores and binds names to what modules
have made.  A predicate that bears all this is kept when exports and layouts are
bound, and two reactors that agree wherever it holds cannot be told apart by it.
-/

namespace LivePages

/-- A predicate that none of the changes breaks which binding an export of that name
makes one by one. -/
structure BearsExport (P : Client → Prop) (name : String) : Prop extends Allows P where
  bind : ∀ (c : Client) b, P c → P (c.bind name b)
  record : ∀ (c : Client) tier text, P c →
    P (c.onHost (Host.writeText (c.area tier) (c.storageKey name) text))
  slot : ∀ (c : Client) s tier, P c → P (c.askHost
    (Host.subscribe s (.slot c.number (c.area tier) (c.storageKey name)))).2
  watch : ∀ (c : Client) s, P c →
    P (c.askHost (Host.subscribe s (.rerender c.number))).2

/-- A predicate that binding the layouts of a site does not break. -/
structure BearsLayouts (P : Client → Prop) (registry : AssetRegistry) : Prop
    extends Allows P where
  exports : ∀ layout blueprint, registry.layoutModules.get? layout = some blueprint →
    ∀ plan ∈ blueprint.plans, BearsExport P plan.1
  instantiate : ∀ (c : Client) b, P c → P (c.askHost (Host.instantiate b)).2
  visit : ∀ (c : Client) visit, P c → P { c with visit }

/-- A predicate that binding exports does not break, whatever their names. -/
structure Bears (P : Client → Prop) : Prop extends Endures P where
  bind : ∀ (c : Client) name b, P c → P (c.bind name b)
  subscribe : ∀ (c : Client) s listener, listener.heldBy c.number = true → P c →
    P (c.askHost (Host.subscribe s listener)).2
  instantiate : ∀ (c : Client) b, P c → P (c.askHost (Host.instantiate b)).2
  visit : ∀ (c : Client) visit, P c → P { c with visit }

theorem Bears.bearsExport {P : Client → Prop} (bears : Bears P) (name : String) :
    BearsExport P name where
  toAllows := bears.toAllows
  bind c := bears.bind c name
  record c tier := bears.writeText c (c.area tier) (c.storageKey name)
  slot c s _ := bears.subscribe c s _ (decide_eq_true rfl)
  watch c s := bears.subscribe c s _ (decide_eq_true rfl)

theorem Bears.bearsLayouts {P : Client → Prop} (bears : Bears P) (registry : AssetRegistry) :
    BearsLayouts P registry where
  toAllows := bears.toAllows
  exports _ _ _ plan _ := bears.bearsExport plan.1
  instantiate := bears.instantiate
  visit := bears.visit

/-- The export that a plan comes to in an instance with these stores. -/
def Plan.Yields (i : Instance) (stores : List StoreId) : Plan → Export → Prop
  | .value v, e => e = .value v
  | .store .., e => ∃ s ∈ stores, e = .store s
  | .function call, e => e = .function (call i)
  | .computed compute, e => e = .computed (compute i)

namespace Host

variable {i : Instance} {plans : List (String × Plan)}

theorem exists_plan_of_mem_exportsOf {stores : List StoreId} {entry : String × Export}
    (member : entry ∈ exportsOf i plans stores) :
    ∃ plan ∈ plans, plan.1 = entry.1 ∧ plan.2.Yields i stores entry.2 := by
  induction plans generalizing stores with
  | nil => simp [exportsOf] at member
  | cons first plans inductionHypothesis =>
      obtain ⟨name, plan⟩ := first
      have step : ∀ {e : Export} {rest : List StoreId}, plan.Yields i stores e →
          (∀ s ∈ rest, s ∈ stores) → entry ∈ (name, e) :: exportsOf i plans rest →
            ∃ other ∈ (name, plan) :: plans, other.1 = entry.1 ∧
              other.2.Yields i stores entry.2 := by
        intro e rest yields fewer member
        rcases List.mem_cons.1 member with rfl | later
        · exact ⟨(name, plan), List.mem_cons_self, rfl, yields⟩
        · obtain ⟨found, inside, same, yieldsToo⟩ := inductionHypothesis later
          refine ⟨found, List.mem_cons_of_mem _ inside, same, ?_⟩
          cases shape : found.2 with
          | store type initial persist shared =>
              rw [shape] at yieldsToo
              obtain ⟨s, isStore, isExport⟩ := yieldsToo
              exact ⟨s, fewer s isStore, isExport⟩
          | _ => rwa [shape] at yieldsToo
      cases plan with
      | store type initial persist shared =>
          cases stores with
          | nil => simp [exportsOf] at member
          | cons s stores =>
              exact step ⟨s, List.mem_cons_self, rfl⟩
                (fun _ inside => List.mem_cons_of_mem _ inside) member
      | value v => exact step rfl (fun _ inside => inside) member
      | function call => exact step rfl (fun _ inside => inside) member
      | computed compute => exact step rfl (fun _ inside => inside) member

/-- Each plan comes to an export. -/
theorem exists_export_of_mem (path : String) {entry : String × Plan} (member : entry ∈ plans)
    (h : Host) :
    ∃ e, (entry.1, e) ∈ exportsOf i plans (makeStores path plans h).1 := by
  induction plans generalizing h with
  | nil => cases member
  | cons first plans inductionHypothesis =>
      obtain ⟨name, plan⟩ := first
      rcases List.mem_cons.1 member with rfl | later
      · cases plan <;> exact ⟨_, List.mem_cons_self⟩
      · cases plan with
        | store type initial persist shared =>
            obtain ⟨e, exported⟩ := inductionHypothesis later
              (h.makeStore path name type initial persist shared).2
            exact ⟨e, List.mem_cons_of_mem _ exported⟩
        | _ =>
            obtain ⟨e, exported⟩ := inductionHypothesis later h
            exact ⟨e, List.mem_cons_of_mem _ exported⟩

end Host

namespace Client

variable {P : Client → Prop} {r other : Reactor} {c : Client}

/-- What an instance exports, its module has planned. -/
theorem exists_plan_of_mem_instanceOf {blueprint : Option Blueprint}
    {entry : String × Export} (member : entry ∈ (instanceOf blueprint c).1) :
    ∃ b, blueprint = some b ∧ ∃ plan ∈ b.plans, plan.1 = entry.1 ∧
      ∃ i stores, plan.2.Yields i stores entry.2 := by
  cases blueprint with
  | none => cases member
  | some b =>
      have made := Table.mem_of_mem_ofList member
      obtain ⟨plan, planned, same, yields⟩ := Host.exists_plan_of_mem_exportsOf made
      exact ⟨b, rfl, plan, planned, same, _, _, yields⟩

/-- What a module has planned, its instances export. -/
theorem mem_names_instanceOf {b : Blueprint} {plan : String × Plan}
    (planned : plan ∈ b.plans) (c : Client) :
    plan.1 ∈ Table.names (instanceOf (some b) c).1 := by
  obtain ⟨e, exported⟩ := Host.exists_export_of_mem b.path planned c.toHost
  exact Table.mem_names_ofList.2 (List.mem_map_of_mem exported)

/-! ## Computed values -/

section Refresh

variable (allows : Allows P) (agree : r.Agree other P)

include allows

theorem record_keeps {name : String} {v : Value} {tier : Tier}
    (written : P (c.onHost (Host.writeText (c.area tier) (c.storageKey name)
      (Slot.write v)))) :
    P (c.record name v tier) := by
  unfold record
  dsimp only
  split
  · exact written
  · exact allows.bindValue _ name v written

include agree

theorem exportValue_agree (e : Export) (holds : P c) :
    c.exportValue other e = c.exportValue r e ∧ P (c.exportValue r e).2 := by
  cases e with
  | value v => exact ⟨rfl, holds⟩
  | store s => exact ⟨rfl, holds⟩
  | function f => exact ⟨rfl, holds⟩
  | computed a => exact compute_agree allows agree a holds

theorem snapshotFields_agree (m : Module) (holds : P c) :
    c.snapshotFields other m = c.snapshotFields r m ∧ P (c.snapshotFields r m).2 := by
  induction m generalizing c with
  | nil => exact ⟨rfl, holds⟩
  | cons entry m inductionHypothesis =>
      obtain ⟨name, e⟩ := entry
      cases e with
      | function f => exact inductionHypothesis holds
      | _ =>
          obtain ⟨same, kept⟩ := exportValue_agree allows agree _ holds
          obtain ⟨sameRest, keptRest⟩ := inductionHypothesis kept
          rw [snapshotFields, snapshotFields, same]
          · dsimp only
            rw [sameRest]
            exact ⟨rfl, keptRest⟩
          all_goals simp

theorem snapshots_agree (layouts : Table Module) (holds : P c) :
    c.snapshots other layouts = c.snapshots r layouts ∧ P (c.snapshots r layouts).2 := by
  induction layouts generalizing c with
  | nil => exact ⟨rfl, holds⟩
  | cons entry layouts inductionHypothesis =>
      obtain ⟨same, kept⟩ := snapshotFields_agree allows agree entry.2 holds
      obtain ⟨sameRest, keptRest⟩ := inductionHypothesis kept
      rw [snapshots, snapshots, snapshot, snapshot, same]
      dsimp only
      rw [sameRest]
      exact ⟨rfl, keptRest⟩

theorem refreshLayouts_agree (holds : P c) :
    c.refreshLayouts other = c.refreshLayouts r ∧ P (c.refreshLayouts r) := by
  unfold refreshLayouts
  cases c.visit with
  | none => exact ⟨rfl, holds⟩
  | some visit =>
      dsimp only
      by_cases nothing : visit.layouts.isEmpty = true
      · rw [if_pos nothing, if_pos nothing]
        exact ⟨rfl, holds⟩
      · obtain ⟨same, kept⟩ := snapshots_agree allows agree visit.layouts holds
        rw [if_neg nothing, if_neg nothing, same]
        exact ⟨rfl, allows.bindValue _ layoutsName _ kept⟩

theorem refreshComputed_agree (holds : P c) :
    c.refreshComputed other = c.refreshComputed r ∧ P (c.refreshComputed r) := by
  unfold refreshComputed
  cases c.visit with
  | none => exact ⟨rfl, holds⟩
  | some visit =>
      dsimp only
      generalize visit.computed = computed
      induction computed generalizing c with
      | nil => exact ⟨rfl, holds⟩
      | cons entry computed inductionHypothesis =>
          obtain ⟨same, kept⟩ := compute_agree allows agree entry.2 holds
          rw [List.foldl_cons, List.foldl_cons, same]
          exact inductionHypothesis (allows.bindValue _ entry.1 _ kept)

omit agree

theorem refreshLayouts_keeps (keeps : r.Keeps P) (holds : P c) :
    P (c.refreshLayouts r) :=
  (refreshLayouts_agree allows keeps.agree holds).2

theorem refreshComputed_keeps (keeps : r.Keeps P) (holds : P c) :
    P (c.refreshComputed r) :=
  (refreshComputed_agree allows keeps.agree holds).2

/-! ## Exports -/

include agree

theorem restore_agree (name : String) (tier : Tier) (holds : P c) :
    c.restore other name tier = c.restore r name tier ∧
      P (c.restore r name tier).2 := by
  unfold restore
  cases c.load? name tier with
  | none => exact ⟨rfl, holds⟩
  | some v =>
      obtain ⟨same, kept⟩ := assign_agree allows agree name v holds
      dsimp only
      rw [same]
      refine ⟨rfl, ?_⟩
      split
      · rename_i result
        rwa [result] at kept
      · rename_i result
        rwa [result] at kept

theorem attachValue_agree {name : String}
    (record : ∀ (c : Client) tier text, P c →
      P (c.onHost (Host.writeText (c.area tier) (c.storageKey name) text)))
    (v : Value) (holds : P c) :
    c.attachValue other name v = c.attachValue r name v ∧
      P (c.attachValue r name v).2 := by
  unfold attachValue
  cases c.valueTier? name with
  | none => exact ⟨rfl, holds⟩
  | some tier =>
      obtain ⟨same, kept⟩ := restore_agree allows agree name tier holds
      dsimp only
      rw [same]
      refine ⟨rfl, ?_⟩
      by_cases done : (c.restore r name tier).1 = true
      · rw [if_pos done]
        exact kept
      · rw [if_neg done]
        exact record_keeps allows (record _ tier _ kept)

end Refresh

section Export

variable {name : String} (bears : BearsExport P name) (agree : r.Agree other P)

include bears agree

theorem attachStore_agree (s : StoreId) (holds : P c) :
    c.attachStore other name s = c.attachStore r name s ∧
      P (c.attachStore r name s).2 := by
  unfold attachStore
  cases c.storeTier? name ((c.stores[s]?).any Store.persist) with
  | none => exact ⟨rfl, holds⟩
  | some tier =>
      obtain ⟨same, kept⟩ := restore_agree bears.toAllows agree name tier holds
      dsimp only
      rw [same]
      refine ⟨rfl, ?_⟩
      by_cases done : (c.restore r name tier).1 = true
      · rw [if_pos done]
        exact bears.slot _ s tier kept
      · rw [if_neg done]
        exact bears.slot _ s tier
          (record_keeps bears.toAllows (bears.record _ tier _ kept))

theorem bindExport_agree (e : Export) (visit : Visit) (holds : P c) :
    c.bindExport other name e visit = c.bindExport r name e visit ∧
      P (c.bindExport r name e visit).2 := by
  cases e with
  | store s =>
      obtain ⟨same, kept⟩ := attachStore_agree bears agree s
        (bears.bind c (.store s) holds)
      rw [bindExport, bindExport]
      dsimp only
      rw [same]
      exact ⟨rfl, bears.watch _ s kept⟩
  | computed a =>
      obtain ⟨same, kept⟩ := compute_agree bears.toAllows agree a holds
      rw [bindExport, bindExport]
      dsimp only
      rw [same]
      exact ⟨rfl, bears.bindValue _ name _ kept⟩
  | function f => exact ⟨rfl, bears.bind c (.function f) holds⟩
  | value v =>
      obtain ⟨same, kept⟩ := attachValue_agree bears.toAllows agree bears.record v
        (bears.bindValue c name v holds)
      rw [bindExport, bindExport]
      dsimp only
      rw [same]
      exact ⟨rfl, kept⟩

end Export

theorem bindModule_agree {m : Module} (bears : ∀ entry ∈ m, BearsExport P entry.1)
    (agree : r.Agree other P) (visit : Visit) (holds : P c) :
    c.bindModule other m visit = c.bindModule r m visit ∧
      P (c.bindModule r m visit).2 := by
  induction m generalizing c visit with
  | nil => exact ⟨rfl, holds⟩
  | cons entry m inductionHypothesis =>
      obtain ⟨name, e⟩ := entry
      have first : BearsExport P name := bears (name, e) List.mem_cons_self
      have later := fun entry member => bears entry (List.mem_cons_of_mem _ member)
      obtain ⟨same, kept⟩ := bindExport_agree first agree e visit holds
      rw [bindModule, bindModule, same]
      exact inductionHypothesis later _ kept

theorem instanceOf_keeps
    (instantiate : ∀ (c : Client) b, P c → P (c.askHost (Host.instantiate b)).2)
    (blueprint : Option Blueprint) (holds : P c) :
    P (instanceOf blueprint c).2 := by
  cases blueprint with
  | none => exact holds
  | some b => exact instantiate c b holds

section Layout

variable {registry : AssetRegistry} (bears : BearsLayouts P registry)
  (agree : r.Agree other P)

include bears agree

theorem bindLayout_agree (name : String) (holds : P c) :
    c.bindLayout other registry name = c.bindLayout r registry name ∧
      P (c.bindLayout r registry name) := by
  unfold bindLayout
  cases c.visit with
  | none => exact ⟨rfl, holds⟩
  | some visit =>
      dsimp only
      by_cases included : visit.layouts.contains name = true
      · rw [if_pos included, if_pos included]
        exact ⟨rfl, holds⟩
      · have made := instanceOf_keeps bears.instantiate (registry.layoutModules.get? name)
          holds
        have planned : ∀ entry ∈ (instanceOf (registry.layoutModules.get? name) c).1,
            BearsExport P entry.1 := by
          intro entry member
          obtain ⟨b, found, plan, inside, same, -⟩ := exists_plan_of_mem_instanceOf member
          exact same ▸ bears.exports name b found plan inside
        obtain ⟨same, kept⟩ := bindModule_agree planned agree visit made
        rw [if_neg included, if_neg included, same]
        exact refreshLayouts_agree bears.toAllows agree (bears.visit _ _ kept)

theorem layoutSource_agree :
    (layoutSource r registry).Agree (layoutSource other registry) P where
  report := rfl
  resolve name := by
    unfold layoutSource
    dsimp only
    cases registry.layoutBodies.get? name with
    | none => exact .pure none
    | some body =>
        cases body with
        | error e => exact .throw _
        | ok markup =>
            have bound : Agree P (modify (bindLayout r registry name) : Showing PUnit)
                (modify (bindLayout other registry name)) := by
              intro c holds
              obtain ⟨same, kept⟩ := bindLayout_agree bears agree name holds
              exact ⟨congrArg (Prod.mk _) same, kept⟩
            refine bound.bind fun _ => ?_
            cases Markup.parse markup with
            | ok nodes => exact .pure _
            | error e => exact .throw _

end Layout

/-- The layouts of a site keep what binding them keeps. -/
theorem layoutSource_keeps {registry : AssetRegistry}
    (binds : ∀ name c, P c → P (c.bindLayout r registry name)) (name : String) :
    Keeps P ((layoutSource r registry).resolve name) := by
  unfold layoutSource
  dsimp only
  cases registry.layoutBodies.get? name with
  | none => exact .pure none
  | some body =>
      cases body with
      | error e => exact .throw _
      | ok markup =>
          refine Keeps.bind (fun c holds => binds name c holds) fun _ => ?_
          cases Markup.parse markup with
          | ok nodes => exact .pure _
          | error e => exact .throw _

/-! ## Rendering -/

theorem evaluating_keeps {α : Type} {e : Evaluation Client α} (keeps : Keeps P e) :
    Keeps P (evaluating e) :=
  fun c holds => keeps c holds

/-- What each of its steps keeps, a pass keeps. -/
theorem renderPass_steps {registry : AssetRegistry}
    (computes : ∀ c, P c → P (c.refreshComputed r))
    (lists : ∀ c, P c → P (c.refreshLayouts r))
    (binds : ∀ name c, P c → P (c.bindLayout r registry name))
    (renders : ∀ program : Program, Keeps P (program.render (surroundings r).evaluator))
    (enters : ∀ state, state ≠ .idle → ∀ c, P c → P { c with state })
    (displays : ∀ (c : Client) document events, P c → P { c with document, events })
    (body : String) (focus : Option FocusTarget)
    (compiling : P { c with state := .compiling }) :
    P (renderPass r registry body focus c).2 := by
  have rest : Keeps P (do
      modify (refreshComputed r)
      modify (refreshLayouts r)
      let program ← (layoutSource r registry).compile body
      enter .rendering
      let html ← evaluating (program.render (surroundings r).evaluator)
      enter .indexing
      modify (showMarkup focus html) : Showing Unit) := by
    refine Keeps.bind (fun c holds => computes c holds) fun _ => ?_
    refine Keeps.bind (fun c holds => lists c holds) fun _ => ?_
    refine (LayoutSource.compile_keeps (layoutSource_keeps binds) body).bind
      fun program => ?_
    refine Keeps.bind (fun c holds => enters .rendering (by simp) c holds) fun _ => ?_
    refine (evaluating_keeps (renders program)).bind fun html => ?_
    refine Keeps.bind (fun c holds => enters .indexing (by simp) c holds) fun _ => ?_
    exact fun c holds => displays c _ _ holds
  exact rest _ compiling

end Client

/-- A request for a render is dropped, or it ends where rendering the current page
ends. -/
theorem Client.requestRender_exits (r : Reactor) (focus : Option FocusTarget)
    (c : Client) :
    (∃ answer, c.requestRender r focus = (answer, c)) ∨
    ∃ m registry report body, c.state = .idle ∧ c.current = some m ∧
      c.loaded = some (registry, report) ∧ registry.routeBody m.route = .ok body ∧
      c.requestRender r focus =
        ((c.renderPass r registry body focus).1.map fun _ => true,
          { (c.renderPass r registry body focus).2 with state := .idle }) := by
  by_cases idle : c.state = .idle
  · unfold requestRender
    rw [Keeps.get_bind]
    dsimp only
    rw [if_neg (not_not_intro idle)]
    cases current : c.current with
    | none => exact .inl ⟨_, rfl⟩
    | some m =>
        cases loaded : c.loaded with
        | none => exact .inl ⟨_, rfl⟩
        | some site =>
            obtain ⟨registry, report⟩ := site
            dsimp only
            cases found : registry.routeBody m.route with
            | error e => exact .inl ⟨_, rfl⟩
            | ok body =>
                refine .inr ⟨m, registry, report, body, idle, rfl, rfl, found, ?_⟩
                dsimp only
                rw [Keeps.bind_eq, untilIdle]
                rcases c.renderPass r registry body focus with ⟨_ | _, _⟩ <;> rfl
  · exact .inl ⟨_, requestRender_busy focus idle⟩

/-- A predicate that renders with the layouts of a site do not break. -/
structure RerendersWith (P : Client → Prop) (registry : AssetRegistry) : Prop
    extends BearsLayouts P registry where
  enter : ∀ (c : Client) state, P c → P { c with state }
  display : ∀ (c : Client) document events, P c → P { c with document, events }

/-- A predicate that renders do not break, whatever the site. -/
structure Rerenders (P : Client → Prop) : Prop extends Bears P where
  enter : ∀ (c : Client) state, P c → P { c with state }
  display : ∀ (c : Client) document events, P c → P { c with document, events }

theorem Rerenders.rerendersWith {P : Client → Prop} (rerenders : Rerenders P)
    (registry : AssetRegistry) : RerendersWith P registry where
  toBearsLayouts := rerenders.bearsLayouts registry
  enter := rerenders.enter
  display := rerenders.display

/-- Renders leave alone what is loaded and which page is current. -/
theorem rerenders_shown
    (Q : Option (AssetRegistry × LoadReport) → Option Route.Match → Prop) :
    Rerenders fun c => Q c.loaded c.current where
  write _ _ _ holds := holds
  listen _ _ _ holds := holds
  forget _ _ _ holds := holds
  writeText _ _ _ _ holds := holds
  keep _ _ _ holds := holds
  exhaust _ holds := holds
  bindValue _ _ _ holds := holds
  bind _ _ _ holds := holds
  subscribe _ _ _ _ holds := holds
  instantiate _ _ holds := holds
  visit _ _ holds := holds
  enter _ _ holds := holds
  display _ _ _ holds := holds

namespace Client

variable {P : Client → Prop} {r : Reactor}

theorem renderPass_keeps {registry : AssetRegistry} (rerenders : RerendersWith P registry)
    (keeps : r.Keeps P) (body : String) (focus : Option FocusTarget) :
    Keeps P (renderPass r registry body focus) := by
  have allows := rerenders.toAllows
  intro c holds
  refine renderPass_steps (P := P) (fun c => refreshComputed_keeps allows keeps)
    (fun c => refreshLayouts_keeps allows keeps) (fun name c holds => ?_)
    (fun program => Instruction.renderAll_keeps (surroundings_keeps allows keeps) [] program)
    (fun state _ c => rerenders.enter c state) rerenders.display body focus
    (rerenders.enter c _ holds)
  exact (bindLayout_agree rerenders.toBearsLayouts keeps.agree name holds).2

theorem requestRender_keeps (rerenders : Rerenders P) (keeps : r.Keeps P)
    (focus : Option FocusTarget) :
    Keeps P (requestRender r focus) := by
  intro c holds
  rcases requestRender_exits r focus c with
    ⟨answer, same⟩ | ⟨m, registry, report, body, -, -, -, -, ended⟩
  · rw [same]
    exact holds
  · rw [ended]
    exact rerenders.enter _ .idle
      (renderPass_keeps (rerenders.rerendersWith registry) keeps body focus c holds)

end Client

/-- Whatever a change of a store leads to, it keeps what renders keep. -/
theorem Reactor.level_rerenders {P : Client → Prop} (rerenders : Rerenders P) (n : Nat) :
    (Reactor.level n).Keeps P :=
  Reactor.level_keeps rerenders.toEndures
    (fun _ keeps c holds => Client.requestRender_keeps rerenders keeps none c holds) n

end LivePages
