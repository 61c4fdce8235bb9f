import LivePages.Client.Operation
import LivePages.Proofs.Client.Instance

/-!
# Pages that are shown and left

The account of what a client holds is that of the page it shows: the exports of
its route's module, and of the layouts it has included.  A page takes its account
over as it is bound, extends it as layouts are included, and settles it when it
is left.  Between these steps the client can fail at any point, and the account
is still that of the page.
-/

namespace LivePages

namespace Client

variable {c d : Client} {r : Reactor}

/-- The exports of the page that a client shows: those of an instance of its
route's module, and of one instance of each layout it has included. -/
def Live (c : Client) (live : List (String × Export)) : Prop :=
  match c.visit with
  | none => live = []
  | some visit =>
    ∃ registry report module, c.loaded = some (registry, report) ∧
      IsInstance (registry.routeModules.get? visit.route) module ∧
      visit.layouts.names.Nodup ∧
      (∀ entry ∈ visit.layouts,
        IsInstance (registry.layoutModules.get? entry.1) entry.2) ∧
      live = module ++ visit.layouts.flatMap Prod.snd

/-- A client whose account is that of the page it shows. -/
structure Tidy (c : Client) : Prop where
  sound : c.toHost.Sound
  current : c.current.map Route.Match.route = c.visit.map Visit.route
  account : ∃ live, c.Live live ∧ c.Owns live (c.visit.getD default)

theorem Beside.sound (beside : c.Beside d) (sound : c.toHost.Sound) :
    d.toHost.Sound := by
  intro entry member
  rw [beside.made] at member
  exact beside.count ▸ sound entry member

theorem Tidy.stays (tidy : c.Tidy) (stays : c.Stays d) : d.Tidy where
  sound := stays.beside.sound tidy.sound
  current := by
    rw [stays.frame]
    exact tidy.current
  account := by
    obtain ⟨live, isLive, owns⟩ := tidy.account
    have visit : d.visit = c.visit := by rw [stays.frame]
    have loaded : d.loaded = c.loaded := by rw [stays.frame]
    refine ⟨live, ?_, ?_⟩
    · rw [Live, visit, loaded]
      exact isLive
    · rw [visit]
      exact owns.stays stays

/-- What is displayed, and whether a page is being shown, is of no account. -/
theorem Tidy.display (tidy : c.Tidy) (document : Document)
    (events : EventRegistry) (state : RenderState) :
    ({ c with document, events, state }).Tidy := by
  obtain ⟨sound, current, live, isLive, owns⟩ := tidy
  exact ⟨sound, current, live, isLive, owns.holds, owns.refers, owns.named,
    owns.stores⟩

theorem endures_tidy : Endures Tidy :=
  .of_stays fun _ _ stays tidy => tidy.stays stays

/-- A client in the middle of showing a page of a site. -/
structure Amid (registry : AssetRegistry) (c : Client) : Prop where
  busy : c.state ≠ .idle
  tidy : c.Tidy
  loaded : ∃ report, c.loaded = some (registry, report)

theorem Amid.stays {registry : AssetRegistry} (amid : c.Amid registry)
    (stays : c.Stays d) : d.Amid registry where
  busy := by
    rw [stays.frame]
    exact amid.busy
  tidy := amid.tidy.stays stays
  loaded := by
    rw [stays.frame]
    exact amid.loaded

/-- A client that has taken over a page with what it has included so far. -/
theorem Amid.of_owns {registry : AssetRegistry} {visit : Visit}
    (report : LoadReport) (module : Module) (busy : c.state ≠ .idle) (sound : c.toHost.Sound)
    (current : c.current.map Route.Match.route = some visit.route)
    (loaded : c.loaded = some (registry, report))
    (isModule : IsInstance (registry.routeModules.get? visit.route) module)
    (distinct : visit.layouts.names.Nodup)
    (isLayout : ∀ entry ∈ visit.layouts,
      IsInstance (registry.layoutModules.get? entry.1) entry.2)
    (owns : c.Owns (module ++ visit.layouts.flatMap Prod.snd) visit) :
    ({ c with visit := some visit }).Amid registry where
  busy := busy
  tidy := by
    refine ⟨sound, current, _, ?_, owns.holds, owns.refers, owns.named, owns.stores⟩
    exact ⟨registry, report, module, loaded, isModule, distinct, isLayout, rfl⟩
  loaded := ⟨report, loaded⟩

theorem endures_amid (registry : AssetRegistry) : Endures (Amid registry) :=
  .of_stays fun _ _ stays amid => amid.stays stays

end Client

/-- A steady reactor keeps what actions cannot change, while a page is shown. -/
theorem Reactor.Steady.keeps {r : Reactor} (steady : r.Steady)
    {P : Client → Prop} (survives : ∀ c d, c.Stays d → P c → P d)
    (busy : ∀ c, P c → c.state ≠ .idle) : r.Keeps P where
  set s v c holds :=
    survives c _ ((steady c (busy c holds)).set s v c (.refl c)) holds
  render c holds :=
    survives c _ ((steady c (busy c holds)).render c (.refl c)) holds

theorem Reactor.Steady.keeps_amid {r : Reactor} (steady : r.Steady)
    (registry : AssetRegistry) :
    r.Keeps (Client.Amid registry) :=
  steady.keeps (fun _ _ stays amid => amid.stays stays) fun _ amid => amid.busy

namespace Client

variable {c d : Client} {r : Reactor}

/-! ## Leaving a page -/

theorem listeners_unsubscribe (h : Host) (s t : StoreId) (id : ListenerId) :
    (h.unsubscribe s id).listeners t =
      (h.listeners t).filter fun entry => (t, entry.1) ≠ (s, id) := by
  simp only [Host.listeners, Host.unsubscribe, Host.onStore]
  by_cases same : s = t
  · subst same
    cases found : h.stores[s]? with
    | none => simp [found]
    | some store => simp [found, Store.unsubscribe]
  · rw [List.getElem?_modify_ne _ _ same]
    refine (List.filter_eq_self.2 fun entry _ => ?_).symm
    simp [Ne.symm same]

/-- Settling the listeners of an account, one by one. -/
def unsubscribeAll (subscriptions : List (StoreId × ListenerId)) (c : Client) :
    Client :=
  subscriptions.foldl (fun c (s, id) => c.onHost (Host.unsubscribe s id)) c

theorem unsubscribeAll_spec (subscriptions : List (StoreId × ListenerId))
    (c : Client) :
    ∃ stores, unsubscribeAll subscriptions c = { c with stores } ∧
      stores.length = c.stores.length ∧
      ∀ t, Host.listeners { c.toHost with stores } t =
        (c.listeners t).filter fun entry => (t, entry.1) ∉ subscriptions := by
  induction subscriptions generalizing c with
  | nil => exact ⟨c.stores, rfl, rfl, fun t => (List.filter_eq_self.2 (by simp)).symm⟩
  | cons first rest inductionHypothesis =>
      obtain ⟨s, id⟩ := first
      obtain ⟨stores, shape, count, listeners⟩ :=
        inductionHypothesis (c.onHost (Host.unsubscribe s id))
      refine ⟨stores, shape, count.trans (List.length_modify ..), ?_⟩
      intro t
      have here := listeners_unsubscribe c.toHost s t id
      refine (listeners t).trans ?_
      rw [onHost, here, List.filter_filter]
      apply List.filter_congr
      intro entry _
      simp [and_comm]

theorem unbindAll_spec (names : List String) (c : Client) :
    ∃ bindings, names.foldl (fun c name => c.unbind name) c =
        { c with bindings := bindings } ∧
      ∀ name, bindings.get? name =
        if name ∈ names then none else c.bindings.get? name := by
  induction names generalizing c with
  | nil => exact ⟨c.bindings, rfl, by simp⟩
  | cons first rest inductionHypothesis =>
      obtain ⟨bindings, shape, entries⟩ := inductionHypothesis (c.unbind first)
      refine ⟨bindings, shape, ?_⟩
      intro name
      rw [entries name, unbind, Table.get?_erase]
      by_cases later : name ∈ rest
      · simp [later]
      · by_cases same : first = name
        · simp [same]
        · simp [later, same, Ne.symm same]

/-- A page that is left takes its listeners and its names away, and changes nothing
else. -/
theorem exists_of_visit {visit : Visit} (shown : c.visit = some visit) :
    ∃ stores bindings, c.disposeVisit = { c with stores, bindings, visit := none } ∧
      stores.length = c.stores.length ∧
      (∀ t, Host.listeners { c.toHost with stores } t =
        (c.listeners t).filter fun entry => (t, entry.1) ∉ visit.subscriptions) ∧
      ∀ name b, bindings.get? name = some b →
        (name ∉ visit.bound ∧ name ≠ layoutsName) ∧ c.bindings.get? name = some b := by
  obtain ⟨stores, settled, count, listeners⟩ := unsubscribeAll_spec visit.subscriptions c
  obtain ⟨bindings, unbound, entries⟩ := unbindAll_spec visit.bound { c with stores }
  refine ⟨stores, Table.erase bindings layoutsName, ?_, count, listeners, fun name b found => ?_⟩
  · rw [disposeVisit, shown]
    change { (visit.bound.foldl (fun c name => c.unbind name)
      (unsubscribeAll visit.subscriptions c)).unbind layoutsName with visit := none } = _
    rw [settled, unbound]
    rfl
  · rw [Table.get?_erase, entries name] at found
    by_cases isList : layoutsName = name
    · rw [if_pos isList] at found
      cases found
    by_cases isBound : name ∈ visit.bound
    · rw [if_neg isList, if_pos isBound] at found
      cases found
    · rw [if_neg isList, if_neg isBound] at found
      exact ⟨⟨isBound, Ne.symm isList⟩, found⟩

theorem disposeVisit_of_none (shown : c.visit = none) : c.disposeVisit = c := by
  rw [disposeVisit, shown]

theorem exists_of_disposeVisit (c : Client) :
    ∃ stores bindings, c.disposeVisit = { c with stores, bindings, visit := none } ∧
      stores.length = c.stores.length ∧
      (∀ s, ∀ entry ∈ c.disposeVisit.listeners s, entry ∈ c.listeners s) ∧
      ∀ name b, bindings.get? name = some b → c.bindings.get? name = some b := by
  cases shown : c.visit with
  | none =>
      have same := disposeVisit_of_none shown
      refine ⟨c.stores, c.bindings, same.trans (by rw [← shown]), rfl, ?_, fun _ _ => id⟩
      rw [same]
      exact fun _ _ => id
  | some visit =>
      obtain ⟨stores, bindings, left, count, listeners, names⟩ := exists_of_visit shown
      refine ⟨stores, bindings, left, count, fun s entry member => ?_,
        fun name b found => (names name b found).2⟩
      rw [left] at member
      exact (List.mem_filter.1 (listeners s ▸ member)).1

theorem Owns.released {live : List (String × Export)} {visit : Visit}
    (owns : c.Owns live visit) {h : Host}
    (listeners : ∀ t, h.listeners t =
      (c.listeners t).filter fun entry => (t, entry.1) ∉ visit.subscriptions)
    (t : StoreId) :
    h.held c.number t = [] := by
  obtain ⟨held, holds, subscriptions, -⟩ := owns.holds
  have known : ∀ entry ∈ c.held c.number t, (t, entry.1) ∈ visit.subscriptions := by
    intro entry inside
    rw [holds t] at inside
    obtain ⟨post, isPost, rfl⟩ := List.mem_map.1 inside
    obtain ⟨inHeld, here⟩ := List.mem_filter.1 isPost
    rw [← subscriptions, ← of_decide_eq_true here]
    exact List.mem_map_of_mem inHeld
  rw [Host.held, listeners t, List.filter_filter, List.filter_eq_nil_iff]
  intro entry member both
  simp only [Bool.and_eq_true, decide_eq_true_eq] at both
  exact both.2 (known entry (List.mem_filter.2 ⟨member, both.1⟩))

theorem Owns.unbound {live : List (String × Export)} {visit : Visit}
    (owns : c.Owns live visit) {bindings : Bindings}
    (names : ∀ name b, bindings.get? name = some b →
      name ∉ visit.bound ∧ c.bindings.get? name = some b) :
    ({ c with bindings }).Refers [] := by
  intro name b found reference
  obtain ⟨unbound, before⟩ := names name b found
  exact absurd (owns.named _ (owns.refers name b before reference)) unbound

theorem Refers.unbind {live : List (String × Export)} (refers : c.Refers live)
    (name : String) :
    (c.unbind name).Refers live := by
  intro other b found reference
  rw [Client.unbind, Table.get?_erase] at found
  by_cases same : name = other
  · rw [if_pos same] at found
    cases found
  · rw [if_neg same] at found
    exact refers other b found reference

/-- A page that is left leaves nothing behind. -/
theorem disposeVisit_owns (tidy : c.Tidy) :
    ∃ h bindings, c.disposeVisit =
        { c with toHost := h, bindings := bindings, visit := none } ∧
      h.Sound ∧ c.disposeVisit.Owns [] default := by
  obtain ⟨sound, current, live, isLive, owns⟩ := tidy
  cases shown : c.visit with
  | none =>
      have whole : c =
          { c with toHost := c.toHost, bindings := c.bindings, visit := none } := by
        rw [← shown]
      rw [Live, shown] at isLive
      rw [shown, isLive] at owns
      rw [disposeVisit_of_none shown]
      exact ⟨c.toHost, c.bindings, whole, sound, owns⟩
  | some visit =>
      rw [shown] at owns
      obtain ⟨stores, bindings, left, count, listeners, names⟩ := exists_of_visit shown
      have soundOn : Host.Sound { c.toHost with stores } :=
        fun entry member => count.symm ▸ sound entry member
      have refers := owns.unbound fun name b found =>
        ⟨(names name b found).1.1, (names name b found).2⟩
      rw [left]
      exact ⟨_, _, rfl, soundOn, ⟨[], owns.released listeners, rfl, rfl⟩, refers,
        by simp, by simp⟩

/-! ## Layouts -/

/-- Including a layout extends the account of the page by the exports of the
layout, the first time. -/
theorem bindLayout_amid (steady : r.Steady) {registry : AssetRegistry}
    (amid : c.Amid registry) (name : String) :
    (c.bindLayout r registry name).Amid registry := by
  have keeps := steady.keeps_amid registry
  unfold bindLayout
  obtain ⟨busy, ⟨sound, current, live, isLive, owns⟩, report, loaded⟩ := amid
  cases shown : c.visit with
  | none => exact ⟨busy, ⟨sound, current, live, isLive, owns⟩, report, loaded⟩
  | some visit =>
      dsimp only
      by_cases included : visit.layouts.contains name = true
      · rw [if_pos included]
        exact ⟨busy, ⟨sound, current, live, isLive, owns⟩, report, loaded⟩
      · rw [if_neg included]
        rw [Bool.not_eq_true] at included
        obtain ⟨m, h, made, isInstance, more, soundOn, inside⟩ :=
          instanceOf_sound (registry.layoutModules.get? name) sound
        rw [shown, Option.getD_some] at owns
        rw [Live, shown] at isLive
        obtain ⟨site, rest, module, isLoaded, isModule, distinct, others, rfl⟩ :=
          isLive
        obtain ⟨next, d, bound, beside, ownsOn, route, layouts⟩ :=
          bindModule_owns steady (c := { c with toHost := h }) busy m
            (owns.extend more) inside
        rw [made]
        dsimp only
        rw [bound]
        -- What follows binds values only, so the account is settled here.
        apply refreshLayouts_keeps (endures_amid registry).toAllows keeps
        have sameSite : site = registry := by
          rw [loaded] at isLoaded
          cases isLoaded
          rfl
        obtain ⟨added, new⟩ := Table.insert_of_not_contains included m
        refine .of_owns report module (beside.state_eq ▸ busy)
          (beside.sound soundOn) ?_ ?_ ?_ ?_ ?_ ?_
        · rw [beside.frame]
          rw [shown] at current
          exact current.trans (congrArg some route.symm)
        · rw [beside.frame]
          exact loaded
        · rw [← sameSite, route]
          exact isModule
        · rw [layouts, added, Table.names, List.map_append, List.nodup_append]
          refine ⟨distinct, by simp, ?_⟩
          intro old member other isName
          rw [List.mem_singleton.1 isName]
          rintro rfl
          exact new member
        · intro entry member
          rw [layouts, added] at member
          rcases List.mem_append.1 member with old | isNew
          · exact sameSite ▸ others entry old
          · rw [List.mem_singleton.1 isNew]
            exact isInstance
        · rw [layouts, added, List.flatMap_append, List.flatMap_singleton,
            ← List.append_assoc]
          exact ⟨ownsOn.holds, ownsOn.refers, ownsOn.named, ownsOn.stores⟩

/-! ## Passes -/

theorem showMarkup_tidy (tidy : c.Tidy) (focus : Option FocusTarget)
    (markup : String) : (c.showMarkup focus markup).Tidy :=
  tidy.display _ _ c.state

theorem enter_amid {registry : AssetRegistry} {state : RenderState}
    (busy : state ≠ .idle) :
    Keeps (Amid registry) (enter state) :=
  fun _ amid => ⟨busy, amid.tidy.display _ _ state, amid.loaded⟩

/-- The layouts of a page are bound one by one while it is compiled. -/
theorem renderPass_amid (steady : r.Steady) {registry : AssetRegistry}
    (tidy : c.Tidy) (loaded : ∃ report, c.loaded = some (registry, report))
    (body : String) (focus : Option FocusTarget) :
    (renderPass r registry body focus c).2.Amid registry := by
  have allows := (endures_amid registry).toAllows
  have keeps := steady.keeps_amid registry
  refine renderPass_steps (P := Amid registry)
    (fun c amid => refreshComputed_keeps allows keeps amid)
    (fun c amid => refreshLayouts_keeps allows keeps amid)
    (fun name c amid => bindLayout_amid steady amid name)
    (fun program => Instruction.renderAll_keeps (surroundings_keeps allows keeps) [] program)
    (fun state busy c amid => enter_amid busy c amid)
    (fun c document events amid => ⟨amid.busy, amid.tidy.display _ _ c.state, amid.loaded⟩)
    body focus ⟨by simp, tidy.display _ _ _, loaded⟩

/-! ## Navigation -/

/-- The page of a match in place of the current one, bound but not rendered. -/
def openPage (r : Reactor) (registry : AssetRegistry) (m : Route.Match)
    (c : Client) : Client :=
  let c := c.disposeVisit.installContext m
  let (module, c) := instanceOf (registry.routeModules.get? m.route) c
  let (visit, c) := c.bindModule r module ⟨m.route, [], [], [], []⟩
  { c with visit := some visit }

/-- A page takes over an empty account. -/
theorem openPage_amid (steady : r.Steady) {registry : AssetRegistry}
    (amid : c.Amid registry) (m : Route.Match) :
    (c.openPage r registry m).Amid registry := by
  obtain ⟨h, bindings, left, sound, owns⟩ := disposeVisit_owns amid.tidy
  have context : c.disposeVisit.Stays
      ((c.disposeVisit.bindValue routeName (.str m.route)).bindValue contextName
        m.context) :=
    (Stays.bindValue _ routeName _).trans (.bindValue _ contextName _)
  obtain ⟨held, holds, none, -⟩ := (owns.stays context).holds
  have nothing : held = [] := List.map_eq_nil_iff.1 none
  have refers := owns.refers.stays context
  have ownsNew : (c.disposeVisit.installContext m).Owns []
      ⟨m.route, [], [], [], []⟩ :=
    ⟨⟨[], nothing ▸ holds, rfl, rfl⟩, refers, by simp, by simp⟩
  have soundNew : (c.disposeVisit.installContext m).toHost.Sound := by
    rw [left]
    exact sound
  have busy : (c.disposeVisit.installContext m).state ≠ .idle := by
    rw [left]
    exact amid.busy
  have loaded : (c.disposeVisit.installContext m).loaded = c.loaded := by
    rw [left]
    rfl
  have isCurrent : (c.disposeVisit.installContext m).current = some m := rfl
  unfold openPage
  generalize c.disposeVisit.installContext m = installed at *
  obtain ⟨module, h, made, isInstance, more, soundOn, inside⟩ :=
    instanceOf_sound (registry.routeModules.get? m.route) soundNew
  obtain ⟨visit, d, bound, beside, ownsOn, route, layouts⟩ :=
    bindModule_owns steady (c := { installed with toHost := h }) busy module
      (ownsNew.extend more) inside
  dsimp only
  rw [made]
  dsimp only
  rw [bound]
  obtain ⟨report, isLoaded⟩ := amid.loaded
  refine .of_owns report module (beside.state_eq ▸ busy)
    (beside.sound soundOn) ?_ ?_ ?_ ?_ ?_ ?_
  · rw [beside.frame, route]
    change installed.current.map Route.Match.route = some m.route
    rw [isCurrent]
    rfl
  · rw [beside.frame]
    exact loaded.trans isLoaded
  · rwa [route]
  · rw [layouts]
    exact List.nodup_nil
  · rw [layouts]
    simp
  · rw [layouts, List.flatMap_nil, List.append_nil]
    exact ownsOn

end Client

end LivePages
