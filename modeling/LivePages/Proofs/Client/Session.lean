import LivePages.Proofs.Client.Visit

/-!
# Sessions

Whatever is asked of a client from outside, and however it ends, the account of
the client is that of the page it shows.
-/

namespace LivePages

namespace Client

variable {c d : Client} {r : Reactor}

/-! ## Navigation -/

theorem untilIdle_keeps {α : Type} {steps : Showing α} (keeps : Keeps Tidy steps) :
    Keeps Tidy (untilIdle steps) :=
  fun c tidy => (keeps c tidy).display _ _ .idle

/-- Assets are loaded before there is a page. -/
theorem Tidy.load (tidy : c.Tidy) (absent : c.loaded = none)
    (loaded : AssetRegistry × LoadReport) :
    ({ c with loaded := some loaded }).Tidy := by
  obtain ⟨sound, current, live, isLive, owns⟩ := tidy
  refine ⟨sound, current, live, ?_, owns.holds, owns.refers, owns.named, owns.stores⟩
  unfold Live at isLive ⊢
  cases shown : c.visit with
  | none =>
      rw [shown] at isLive
      exact isLive
  | some visit =>
      rw [shown, absent] at isLive
      obtain ⟨_, _, _, missing, _⟩ := isLive
      cases missing

theorem loadedAssets_exits (tidy : c.Tidy) (busy : c.state ≠ .idle) :
    (∃ registry loaded, loadedAssets c = (.ok registry, { c with loaded }) ∧
      ({ c with loaded }).Amid registry) ∨
    ∃ cause, loadedAssets c = (.error cause, c) ∧ c.loaded = none := by
  unfold loadedAssets
  rw [Keeps.get_bind]
  cases found : c.loaded with
  | some site =>
      have same : c = { c with loaded := some site } := by rw [← found]
      have amid : c.Amid site.1 := ⟨busy, tidy, site.2, found⟩
      exact .inl ⟨site.1, some site, congrArg (Prod.mk _) same, same ▸ amid⟩
  | none =>
      dsimp only
      cases AssetRegistry.load c.assets c.settings.assets with
      | ok loaded =>
          exact .inl ⟨loaded.1, some loaded, rfl, busy, tidy.load found loaded, loaded.2, rfl⟩
      | error cause => cases cause <;> exact .inr ⟨_, rfl, rfl⟩

/-- A client without a page, and without anything left of one. -/
theorem Tidy.of_no_visit (sound : c.toHost.Sound) (noVisit : c.visit = none)
    (noCurrent : c.current = none) (owns : c.Owns [] default) :
    c.Tidy where
  sound := sound
  current := by rw [noVisit, noCurrent]; rfl
  account := by
    refine ⟨[], ?_, ?_⟩
    · rw [Live, noVisit]
    · rwa [noVisit]

theorem showNotFound_tidy (tidy : c.Tidy) : c.showNotFound.Tidy := by
  obtain ⟨h, bindings, left, sound, owns⟩ := disposeVisit_owns tidy
  have refers := (owns.refers.unbind routeName).unbind contextName
  apply showMarkup_tidy
  rw [left] at owns refers ⊢
  exact .of_no_visit sound rfl rfl ⟨owns.holds, refers, owns.named, owns.stores⟩

theorem showPage_keeps (steady : r.Steady) (registry : AssetRegistry)
    (m : Route.Match) :
    Keeps (Amid registry) (showPage r registry m) := by
  refine (enter_amid (by simp)).bind fun _ => ?_
  cases registry.routeBody m.route with
  | error e => exact .throw _
  | ok body =>
      refine Keeps.bind (fun c amid => openPage_amid steady amid m) fun _ => ?_
      exact fun c amid => renderPass_amid steady amid.tidy amid.loaded body none

theorem navigateWith_keeps (steady : r.Steady) (path : String)
    (kind : NavigationKind) :
    Keeps Tidy (navigateWith r path kind) := by
  refine (untilIdle_keeps ?_).bind fun m =>
    Keeps.bind (fun c tidy => ?_) fun _ => .pure m
  · intro c tidy
    have matching : ({ c with state := .matching }).Tidy := tidy.display _ _ _
    rw [Keeps.bind_eq]
    change Tidy ((loadedAssets >>= _) { c with state := .matching }).2
    rw [Keeps.bind_eq]
    rcases loadedAssets_exits matching (by simp) with
      ⟨registry, loaded, assets, amid⟩ | ⟨e, assets, -⟩
    · rw [assets]
      dsimp only
      cases Route.resolve registry.routes path with
      | ok m =>
          have steps := (showPage_keeps steady registry m).bind fun _ => .pure m
          exact (steps _ amid).tidy
      | error e =>
          cases e with
          -- Nothing is shown, but the page that was there is left.
          | notFound path => exact showNotFound_tidy amid.tidy
          | _ => exact amid.tidy
    · rw [assets]
      exact matching
  · exact tidy.stays (.host (.of_stores rfl rfl))

theorem requestRender_tidy (steady : r.Steady) (focus : Option FocusTarget) :
    Keeps Tidy (requestRender r focus) := by
  intro c tidy
  rcases requestRender_exits r focus c with
    ⟨answer, same⟩ | ⟨m, registry, report, body, -, -, loaded, -, ended⟩
  · rw [same]
    exact tidy
  · rw [ended]
    exact (renderPass_amid steady tidy ⟨report, loaded⟩ body focus).tidy.display _ _ .idle

end Client

theorem Reactor.level_keeps_tidy (n : Nat) : (Reactor.level n).Keeps Client.Tidy :=
  Reactor.level_keeps Client.endures_tidy
    (fun n _ c tidy => Client.requestRender_tidy (Reactor.level_steady n) none c tidy) n

/-! ## Operations -/

/-- What can be asked of a client from outside.  Actions are carried out for the
host: they change stores, listen to them and forget what they put there. -/
inductive Operation where
  | navigate (path : String) (kind : NavigationKind)
  | start
  | popState (path : String)
  | goBack
  | goForward
  | followLink (link : String)
  | serve (path : String)
  | render
  | dispatch (elementId event : String) (input : Client.EventInput)
  | setStore (s : StoreId) (v : Value)
  | perform (a : Action)

/-- The client that an operation leaves, whether it succeeds or not. -/
def Operation.run : Operation → Client → Client
  | navigate path kind, c => (Client.navigate path kind c).2
  | start, c => (Client.start c).2
  | popState path, c => (Client.popState path c).2
  | goBack, c => (Client.goBack c).2
  | goForward, c => (Client.goForward c).2
  | followLink link, c => (Client.followLink link c).2
  | serve path, c => (Client.serve path c).2
  | render, c => (Client.render c).2
  | dispatch elementId event input, c =>
    (Client.dispatch elementId event input c).2
  | setStore s v, c => (c.setStoreValue s v).2
  | perform a, c => (c.perform a).2

/-- Whether an operation shows another page, and so waits until no other does. -/
def Operation.navigates : Operation → Bool
  | render | dispatch .. | setStore .. | perform _ => false
  | _ => true

/-- An operation that shows another page navigates, wherever in the history it has
moved before, or does nothing. -/
theorem Operation.run_of_navigates {operation : Operation}
    (navigates : operation.navigates = true) (c : Client) :
    operation.run c = c ∨ ∃ path kind history,
      operation.run c = (Client.navigate path kind { c with history }).2 := by
  have travels : ∀ move?, (Client.travel move? c).2 = c ∨ ∃ path kind history,
      (Client.travel move? c).2 = (Client.navigate path kind { c with history }).2 := by
    intro move?
    unfold Client.travel
    rw [Keeps.get_bind]
    cases move? c.history with
    | none => exact .inl rfl
    | some target =>
        refine .inr ⟨target.1, .pop, target.2, ?_⟩
        exact Keeps.bind_pure_state (Client.navigate target.1 .pop) some { c with history := target.2 }
  cases operation with
  | navigate path kind => exact .inr ⟨path, kind, c.history, rfl⟩
  | start => exact .inr ⟨Route.root, .replace, c.history, rfl⟩
  | popState path => exact .inr ⟨path, .pop, c.history, rfl⟩
  | goBack => exact travels History.back?
  | goForward => exact travels History.forward?
  | followLink link =>
      have leads : (Client.followLink link c).2 = c ∨ ∃ path,
          (Client.followLink link c).2 = (Client.navigate path .push c).2 := by
        unfold Client.followLink
        rw [Keeps.get_bind]
        cases Client.linkPath? c.origin link with
        | none => exact .inl rfl
        | some path =>
            exact .inr ⟨path, Keeps.bind_pure_state (Client.navigate path .push) _ c⟩
      exact leads.imp_right fun ⟨path, same⟩ => ⟨path, .push, c.history, same⟩
  | serve path =>
      refine .inr ⟨path, .pop, c.history, ?_⟩
      change (Client.serve path c).2 = (Client.popState path c).2
      unfold Client.serve
      rcases Client.popState path c with ⟨_ | _, d⟩
      · dsimp only
      · rfl
  | render | dispatch | setStore | perform => cases navigates

section Operations

variable {P : Client → Prop} (allows : Allows P) (keeps : Client.reactor.Keeps P)
  (renders : ∀ focus, Keeps P (Client.requestRender Client.reactor focus))
  (shows : ∀ path kind, Keeps P (Client.navigate path kind))
  (moves : ∀ (c : Client) history, P c → P { c with history })

namespace Client

include shows moves in
theorem travel_keeps (move? : History → Option (String × History)) :
    Keeps P (travel move?) := by
  refine Keeps.bind (fun _ holds => holds) fun c => ?_
  cases move? c.history with
  | none => exact .pure none
  | some target =>
      have moved : Keeps P
          (modify fun c => { c with history := target.2 } : Showing PUnit) :=
        fun c holds => moves c target.2 holds
      exact moved.bind fun _ => (shows target.1 .pop).bind fun _ => .pure _

include shows in
theorem followLink_keeps (link : String) : Keeps P (followLink link) := by
  refine Keeps.bind (fun _ holds => holds) fun c => ?_
  cases linkPath? c.origin link with
  | none => exact .pure false
  | some path => exact (shows path .push).bind fun _ => .pure true

include allows keeps renders in
theorem dispatch_keeps (elementId event : String) (input : EventInput) :
    Keeps P (dispatch elementId event input) := by
  have engine : (surroundings reactor).evaluator.Keeps P :=
    Surroundings.evaluator_keeps (surroundings_keeps allows keeps)
  have shown : ∀ focus, Keeps P (do
      let _ ← requestRender reactor focus
      return true : Showing Bool) :=
    fun focus => (renders focus).bind fun _ => .pure true
  refine Keeps.bind (fun _ holds => holds) fun c => ?_
  cases c.events.get? elementId event with
  | none => exact .pure false
  | some binding =>
      dsimp only
      cases binding.action with
      | handler name =>
          refine Keeps.bind (evaluating_keeps fun c holds => ?_) fun _ => shown _
          exact call_keeps allows keeps name _ holds
      | script source =>
          exact (evaluating_keeps (engine.execute source [])).bind fun _ => shown _

end Client

include allows keeps renders

/-- Operations that do not navigate keep what actions and renders keep. -/
theorem Operation.run_keeps_of_not_navigates {operation : Operation}
    (staying : operation.navigates = false) {c : Client} (holds : P c) :
    P (operation.run c) := by
  cases operation with
  | render => exact renders none c holds
  | dispatch elementId event input =>
      exact Client.dispatch_keeps allows keeps renders elementId event input c holds
  | setStore s v => exact Client.offer_keeps keeps s v holds
  | perform a => exact a.run_keeps allows keeps holds
  | _ => cases staying

include shows moves

/-- Operations keep what actions, renders and navigations keep. -/
theorem Operation.run_keeps (operation : Operation) {c : Client} (holds : P c) :
    P (operation.run c) := by
  cases operation with
  | navigate path kind => exact shows path kind c holds
  | start => exact shows Route.root .replace c holds
  | popState path => exact shows path .pop c holds
  | goBack => exact Client.travel_keeps shows moves History.back? c holds
  | goForward => exact Client.travel_keeps shows moves History.forward? c holds
  | followLink link => exact Client.followLink_keeps shows link c holds
  | serve path =>
      have popped := shows path .pop c holds
      change P (Client.serve path c).2
      change P (Client.popState path c).2 at popped
      unfold Client.serve
      generalize Client.popState path c = outcome at popped ⊢
      obtain ⟨_ | _, d⟩ := outcome
      · exact popped
      · exact popped
  | render | dispatch | setStore | perform =>
      exact run_keeps_of_not_navigates allows keeps renders rfl holds

end Operations

namespace Client

variable {c : Client}

/-- The client after some operations, one after the other. -/
def after (operations : List Operation) (c : Client) : Client :=
  operations.foldl (fun c operation => operation.run c) c

theorem after_keeps {P : Client → Prop}
    (each : ∀ (operation : Operation) c, P c → P (operation.run c))
    (operations : List Operation) (holds : P c) :
    P (c.after operations) := by
  induction operations generalizing c with
  | nil => exact holds
  | cons operation operations inductionHypothesis =>
      exact inductionHypothesis (each operation c holds)

/-- Every operation leaves a client whose account is that of the page it
shows. -/
theorem after_tidy (operations : List Operation) (tidy : c.Tidy) :
    (c.after operations).Tidy := by
  have steady : reactor.Steady := Reactor.level_steady maxChain
  have history : ∀ (d : Client) history, d.Tidy → ({ d with history }).Tidy :=
    fun d history tidy => tidy.stays (.host (.of_stores rfl rfl))
  exact after_keeps (fun operation c tidy =>
    operation.run_keeps endures_tidy.toAllows (Reactor.level_keeps_tidy maxChain)
      (requestRender_tidy steady) (navigateWith_keeps steady) history tidy)
    operations tidy

end Client

/-- A host on which nothing stands in the way of a new client. -/
structure Host.Admits (h : Host) (number : Nat) : Prop where
  sound : h.Sound
  unused : ∀ s, h.held number s = []

theorem Host.Admits.of_stores {h after : Host} {number : Nat}
    (admits : h.Admits number) (stores : after.stores = h.stores)
    (made : after.made = h.made) :
    after.Admits number where
  sound := by
    rw [Host.Sound, stores, made]
    exact admits.sound
  unused s := by
    rw [Host.held, Host.listeners, stores]
    exact admits.unused s

namespace Client

theorem new_tidy {host : Host} {number : Nat} (admits : host.Admits number)
    (settings : Settings) (origin : Option Url) (assets : AssetSource)
    (session durable : AreaId) :
    (new host number settings origin assets session durable).Tidy := by
  refine .of_no_visit admits.sound rfl rfl ⟨⟨[], ?_, rfl, rfl⟩, ?_, by simp, by simp⟩
  · exact admits.unused
  · intro name b found
    cases found

/-- The area for durable texts, on the host as it is then. -/
def durableArea (host : Host) (settings : Settings) (durable : Option AreaId) :
    Except PageError (AreaId × Host) :=
  match durable, settings.durableStoragePath with
  | some area, _ => .ok (area, host)
  | none, some _ => host.openFile.mapError .storage
  | none, none => .ok (host.addArea ⟨[], false⟩)

theorem create_eq (host : Host) (number : Nat) (settings : Settings)
    (assets : AssetSource) (session : AreaId) (durable : Option AreaId) :
    create host number settings assets session durable = (do
      let origin ← settings.origin.elim (.ok none) fun text =>
        (Url.read? text).elim (.error .badOrigin) fun u => .ok (some u)
      let (area, host) ← durableArea host settings durable
      return new host number settings origin assets session area) := by
  unfold create durableArea
  cases settings.origin <;> cases durable <;> cases settings.durableStoragePath <;> rfl

theorem durableArea_eq {host : Host} {settings : Settings} {durable : Option AreaId}
    {area : AreaId} {h : Host} (opened : durableArea host settings durable = .ok (area, h)) :
    ∃ areas, h = { host with areas } := by
  unfold durableArea at opened
  split at opened
  · cases opened
    exact ⟨host.areas, rfl⟩
  · unfold Host.openFile at opened
    cases read : StoredTexts.ofFile (host.file.elim .missing .text) with
    | error e =>
        rw [read] at opened
        cases opened
    | ok texts =>
        rw [read] at opened
        cases opened
        exact ⟨_, rfl⟩
  · cases opened
    exact ⟨_, rfl⟩

/-- A client that is created is a new one, on a host with an area more at most. -/
theorem exists_of_create {host : Host} {number : Nat} {settings : Settings}
    {assets : AssetSource} {session : AreaId} {durable : Option AreaId} {c : Client}
    (created : create host number settings assets session durable = .ok c) :
    ∃ areas origin area,
      c = new { host with areas } number settings origin assets session area := by
  rw [create_eq] at created
  obtain ⟨origin, -, created⟩ := exists_of_bind_ok created
  obtain ⟨⟨area, h⟩, opened, created⟩ := exists_of_bind_ok created
  obtain ⟨areas, rfl⟩ := durableArea_eq opened
  cases created
  exact ⟨areas, origin, area, rfl⟩

theorem create_tidy {host : Host} {number : Nat} (admits : host.Admits number)
    {settings : Settings} {assets : AssetSource} {session : AreaId}
    {durable : Option AreaId} {c : Client}
    (created : create host number settings assets session durable = .ok c) :
    c.Tidy := by
  obtain ⟨areas, origin, area, rfl⟩ := exists_of_create created
  have admitsOn : Host.Admits { host with areas } number := admits.of_stores rfl rfl
  exact new_tidy admitsOn settings origin assets session area

end Client

end LivePages
