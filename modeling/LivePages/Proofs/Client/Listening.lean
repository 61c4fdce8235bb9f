import LivePages.Proofs.Client.Upkeep
import LivePages.Proofs.Event.Focus

/-!
# Documents and their listeners

A client takes its document and its listeners from the same indexing, wherever it puts
markup into the document, and nowhere else does it touch either.  So the listeners are
at any time those that the live elements ask for.  A handler is called with the value
of the field that has the listener, which is why there is one.  If the page is rendered
behind it, the focus is where the element is, if it is still there.
-/

namespace LivePages

open EventIndex (ListensTo Registers)

/-! ## Listeners that are asked for -/

namespace Client

variable {P : Client → Prop} {r : Reactor} {c d : Client}

/-- A predicate that leaving pages and rendering them does not break, as long as markup
is put into the document together with its listeners. -/
structure Presents (P : Client → Prop) : Prop extends Outlasts P where
  enter : ∀ (c : Client) state, P c → P { c with state }
  move : ∀ (c : Client) history, P c → P { c with history }
  shows : ∀ (c : Client) focus markup, P c → P (c.showMarkup focus markup)

section Presents

variable (presents : Presents P)

include presents

/-- By induction on the states that are ahead, a pass keeps what the work of each of its
stages keeps. -/
theorem Presents.rest (keeps : r.Keeps P) (stage : Stage) : Keeps P (stage.rest r) := by
  induction ahead : stage.state.onward.length generalizing stage with
  | zero => cases stage <;> cases ahead
  | succ k inductionHypothesis =>
      intro c holds
      have worked := (stage.work_agree keeps.agree presents.toOutlasts presents.shows).keeps
        { c with state := stage.state } (presents.enter c _ holds)
      rw [Stage.rest_eq]
      change P ((stage.work r >>= Stage.onward r) { c with state := stage.state }).2
      rw [Keeps.bind_eq]
      rcases work : stage.work r { c with state := stage.state } with ⟨e | next | m, d⟩
      · rw [work] at worked
        exact worked
      · rw [work] at worked
        have advances := congrArg List.length (Stage.next_of_work work)
        rw [List.length_cons] at advances
        exact inductionHypothesis next (by omega) d worked
      · rw [work] at worked
        exact worked

theorem Presents.requestRender (keeps : r.Keeps P) (focus : Option FocusTarget) :
    Keeps P (requestRender r focus) := by
  intro c holds
  rcases requestRender_exits r focus c with
    ⟨answer, same⟩ | ⟨m, registry, report, body, -, -, -, -, ended⟩
  · rw [same]
    exact holds
  · rw [ended]
    have pass := presents.rest keeps (.compiling registry m body focus) c holds
    rw [Stage.rest, Keeps.bind_pure_state] at pass
    exact presents.enter _ .idle pass

theorem Presents.level (n : Nat) : (Reactor.level n).Keeps P :=
  Reactor.level_keeps presents.toEndures
    (fun _ keeps c holds => presents.requestRender keeps none c holds) n

/-- Whatever is asked of a client. -/
theorem Presents.run (operation : Operation) (holds : P c) : P (operation.run c) := by
  have keeps := presents.level maxChain
  have shows : ∀ path kind, Keeps P (navigate path kind) := by
    intro path kind
    have pass : Keeps P (untilIdle ((Stage.matching path).rest reactor)) :=
      fun c holds => presents.enter _ .idle (presents.rest keeps (.matching path) c holds)
    exact pass.bind fun m => Keeps.bind (fun c holds => presents.move c _ holds) fun _ => .pure m
  exact operation.run_keeps presents.toAllows keeps (presents.requestRender keeps) shows
    presents.move holds

end Presents

/-- Whether the listeners of a client are those that the live elements of its document
ask for. -/
def Listens (settings : BindingSettings) (c : Client) : Prop :=
  c.settings.bindings = settings ∧
    Registers settings (Markup.liveElements c.document.nodes) c.events

theorem presents_listens (settings : BindingSettings) : Presents (Listens settings) where
  write _ _ _ holds := holds
  listen _ _ _ holds := holds
  forget _ _ _ holds := holds
  writeText _ _ _ _ holds := holds
  keep _ _ _ holds := holds
  exhaust _ holds := holds
  bindValue _ _ _ holds := holds
  bind _ _ _ holds := holds
  subscribe _ _ _ _ holds := holds
  instantiate _ _ holds := holds
  visit _ _ holds := holds
  unsubscribe _ _ _ holds := holds
  unbind _ _ holds := holds
  install _ _ _ holds := holds
  load _ _ holds := holds
  enter _ _ holds := holds
  move _ _ holds := holds
  shows c focus markup holds := by
    obtain ⟨-, -, -, registers, -⟩ := EventIndex.index_numbers settings focus
      (c.document.replaceMarkup markup)
    rw [← holds.1] at registers ⊢
    exact ⟨rfl, registers⟩

/-! ## Pages that can be rendered -/

/-- A client without a page, or with one that can be rendered from what is loaded. -/
def Anchored (c : Client) : Prop :=
  c.visit = none ∧ c.current = none ∨ c.loaded.isSome ∧ c.current.isSome

theorem endures_anchored : Endures Anchored where
  write _ _ _ holds := holds
  listen _ _ _ holds := holds
  forget _ _ _ holds := holds
  writeText _ _ _ _ holds := holds
  keep _ _ _ holds := holds
  exhaust _ holds := holds
  bindValue _ _ _ holds := holds

/-- Behind a render there is still what a page can be rendered from. -/
theorem requestRender_renderable {n : Nat} (focus : Option FocusTarget)
    (loaded : c.loaded.isSome) (current : c.current.isSome) :
    (requestRender (.level n) focus c).2.loaded.isSome ∧
      (requestRender (.level n) focus c).2.current.isSome := by
  have rerenders := rerenders_shown fun loaded current => loaded.isSome ∧ current.isSome
  exact requestRender_keeps rerenders (Reactor.level_rerenders rerenders n) focus c
    ⟨loaded, current⟩

theorem requestRender_anchored {n : Nat} (focus : Option FocusTarget) :
    Keeps Anchored (requestRender (.level n) focus) := by
  intro c anchored
  rcases requestRender_exits (.level n) focus c with
    ⟨answer, same⟩ | ⟨m, registry, report, body, -, current, loaded, -, ended⟩
  · rw [same]
    exact anchored
  · exact .inr (requestRender_renderable focus (by rw [loaded]; rfl) (by rw [current]; rfl))

theorem navigate_anchored (path : String) (kind : NavigationKind) (anchored : c.Anchored) :
    (navigate path kind c).2.Anchored := by
  obtain ⟨result, d, history, pass, ended⟩ := exists_of_navigate path kind c
  rw [ended]
  change d.Anchored
  rcases matching_ends pass with
    ⟨-, loaded, state, isLoaded, rfl⟩ | ⟨site, -, rfl⟩ | ⟨site, m, body, -, rfl⟩
  · refine anchored.imp_right fun ⟨was, current⟩ => ⟨?_, current⟩
    rcases isLoaded with same | ⟨site, -, same⟩
    · change loaded.isSome
      rw [same]
      exact was
    · change loaded.isSome
      rw [same]
      rfl
  · exact .inl ⟨disposeVisit_visit _, rfl⟩
  · have rerenders := rerenders_shown fun loaded current => loaded.isSome ∧ current.isSome
    refine .inr (renderPass_keeps (rerenders.rerendersWith _)
      (Reactor.level_rerenders rerenders maxChain) body none _ ⟨?_, ?_⟩)
    · rw [reactor, loaded_openPage]
      rfl
    · rw [reactor, current_openPage]
      rfl

theorem run_anchored (operation : Operation) (anchored : c.Anchored) :
    (operation.run c).Anchored := by
  have keeps : reactor.Keeps Anchored := Reactor.level_keeps endures_anchored
    (fun n _ c anchored => requestRender_anchored none c anchored) maxChain
  exact operation.run_keeps endures_anchored.toAllows keeps requestRender_anchored
    (fun path kind c => navigate_anchored path kind) (fun _ _ anchored => anchored) anchored

/-! ## Dispatched events -/

/-- A client that is idle and can render its page. -/
structure AtRest (c : Client) : Prop where
  idle : c.state = .idle
  loaded : c.loaded.isSome
  current : c.current.isSome

theorem Anchored.atRest (anchored : c.Anchored) (live : c.visit.isSome) (idle : c.state = .idle) :
    c.AtRest := by
  rcases anchored with ⟨noVisit, -⟩ | ⟨loaded, current⟩
  · rw [noVisit] at live
    cases live
  · exact ⟨idle, loaded, current⟩

theorem endures_atRest : Endures AtRest where
  write _ _ _ rest := { rest with }
  listen _ _ _ rest := { rest with }
  forget _ _ _ rest := { rest with }
  writeText _ _ _ _ rest := { rest with }
  keep _ _ _ rest := { rest with }
  exhaust _ rest := { rest with }
  bindValue _ _ _ rest := { rest with }

/-- The renders that a handler causes leave the client at rest. -/
theorem reactor_keeps_atRest : reactor.Keeps AtRest := by
  refine Reactor.level_keeps endures_atRest (fun n _ c rest => ?_) maxChain
  obtain ⟨loaded, current⟩ := requestRender_renderable (n := n) none rest.loaded rest.current
  refine ⟨?_, loaded, current⟩
  rcases requestRender_exits (.level n) none c with ⟨answer, same⟩ | ⟨_, _, _, _, -, -, -, -, ended⟩
  · rw [same]
    exact rest.idle
  · rw [ended]

/-- A render that is asked for at rest is not dropped. -/
theorem AtRest.exists_shown (rest : c.AtRest) {focus : Option FocusTarget} {answer : Bool}
    (done : requestRender r focus c = (.ok answer, d)) :
    ∃ html rendered, d = { showMarkup focus html rendered with state := .idle } := by
  obtain ⟨m, current⟩ := Option.isSome_iff_exists.1 rest.current
  obtain ⟨⟨registry, report⟩, loaded⟩ := Option.isSome_iff_exists.1 rest.loaded
  have answered : answer = true := by
    unfold requestRender at done
    rw [Keeps.get_bind] at done
    dsimp only at done
    rw [if_neg (not_not_intro rest.idle), current, loaded] at done
    dsimp only at done
    cases found : registry.routeBody m.route with
    | error missing =>
        rw [found] at done
        cases done
    | ok body =>
        rw [found] at done
        obtain ⟨_, _, -, ended⟩ := exists_of_bind done
        cases ended
        rfl
  rw [answered] at done
  obtain ⟨_, _, _, _, e, -, -, -, -, pass, rfl⟩ := exists_of_requestRender done
  obtain ⟨_, _, html, rendered, -, -, rfl⟩ := exists_of_renderPass pass
  exact ⟨html, _, rfl⟩

/-- What is left to do behind a handler or a script. -/
def rerender (focus : Option FocusTarget) : Showing Bool := do
  let _ ← requestRender reactor focus
  return true

/-- Behind a render the focus is where it was asked for. -/
theorem AtRest.rerender_focused (rest : c.AtRest) {focus : Option FocusTarget}
    (done : rerender focus c = (.ok true, d)) : d.document.Follows focus := by
  obtain ⟨answer, e, rendered, ended⟩ := exists_of_bind done
  cases ended
  obtain ⟨html, shown, rfl⟩ := rest.exists_shown rendered
  exact EventIndex.index_focused shown.settings.bindings focus html shown.document

section Dispatch

variable {elementId event : String} {binding : EventBinding}
  (registered : c.events.get? elementId event = some binding)

include registered

/-- The element that a listener is registered for is there, with the attribute that asks
for the listener. -/
theorem Listens.exists_element {settings : BindingSettings} (listens : c.Listens settings) :
    ∃ e, c.document.firstLive? elementId = some e := by
  have member := List.mem_of_find?_eq_some registered
  have named := List.find?_some registered
  rw [Bool.and_eq_true, decide_eq_true_eq, decide_eq_true_eq] at named
  obtain ⟨e, isLive, known, -⟩ := (listens.2.entry_iff elementId event).1 ⟨binding, member, named⟩
  exact Option.isSome_iff_exists.1 (List.find?_isSome.2 ⟨e, isLive, by simpa using known⟩)

theorem dispatch_handler (input : EventInput) {name : String} {f : List Value → Action}
    (handles : binding.action = .handler name)
    (bound : c.bindings.get? name = some (.function f)) :
    dispatch elementId event input c =
      (evaluating ((f [.str (fieldValue elementId input c)]).run reactor) >>= fun _ =>
        rerender (some ⟨elementId, input.caret⟩)) c := by
  have called : c.call reactor name [.str (fieldValue elementId input c)] =
      (f [.str (fieldValue elementId input c)]).run reactor c := by
    rw [call, bound]
  unfold dispatch
  rw [Keeps.get_bind, registered]
  dsimp only
  rw [handles]
  change (evaluating (fun c => c.call reactor name [.str (fieldValue elementId input c)]) >>=
    fun _ => rerender (some ⟨elementId, input.caret⟩)) c = _
  rw [Keeps.bind_eq, Keeps.bind_eq, evaluating, evaluating, called]

theorem dispatch_script (input : EventInput) {source : String}
    (runs : binding.action = .script source) :
    dispatch elementId event input c =
      (evaluating ((surroundings reactor).evaluator.execute source []) >>= fun _ =>
        rerender none) c := by
  unfold dispatch
  rw [Keeps.get_bind, registered]
  dsimp only
  rw [runs]
  rfl

end Dispatch

/-! ## Whatever happens to a client -/

/-- A client, some time later.  It has been asked for one thing after the other; a
navigation has begun to wait for the site, or has stopped waiting; and others have
changed the host. -/
inductive Later (c : Client) : Client → Prop where
  | now : Later c c
  | asked {d : Client} (earlier : Later c d) (operation : Operation) : Later c (operation.run d)
  | waited {d : Client} (earlier : Later c d) (state : RenderState) : Later c { d with state }
  | changed {d : Client} (earlier : Later c d) (h : Host) : Later c { d with toHost := h }

theorem create_listens {host : Host} {number : Nat} {settings : Settings}
    {assets : AssetSource} {session : AreaId} {durable : Option AreaId}
    (created : create host number settings assets session durable = .ok c) :
    c.Listens settings.bindings ∧ c.Anchored := by
  obtain ⟨areas, origin, area, rfl⟩ := exists_of_create created
  have nothing : Markup.liveElements Document.empty.nodes = [] := by
    rw [Document.empty, Markup.liveElements]
  refine ⟨⟨rfl, ?_⟩, .inl ⟨rfl, rfl⟩⟩
  change Registers settings.bindings (Markup.liveElements Document.empty.nodes) []
  rw [nothing]
  have named : ∀ e ∈ ([] : List Markup.Element), ∃ id, e.id? = some id := by simp
  exact EventIndex.registers_registerLive named

theorem Later.listens {settings : BindingSettings} (later : c.Later d)
    (listens : c.Listens settings) (anchored : c.Anchored) :
    d.Listens settings ∧ d.Anchored := by
  induction later with
  | now => exact ⟨listens, anchored⟩
  | asked _ operation inductionHypothesis =>
      exact ⟨(presents_listens settings).run operation inductionHypothesis.1,
        run_anchored operation inductionHypothesis.2⟩
  | waited _ state inductionHypothesis => exact inductionHypothesis
  | changed _ h inductionHypothesis => exact inductionHypothesis

/-- Whatever happens to a client, every listener belongs to a live element of the
document that has the attribute of its event.  If the client is idle and has a page, a
handler that is bound is called with the value that comes with the event, or else with
that of the field: the first live element with the id, which there is.  A dispatched
event is nothing but this call and a render behind it, unless the call fails.  If all
succeeds, the focus is on that id as far as it is still there, with the caret inside
the field.  Behind a script nothing is focused. -/
theorem dispatch_follows_listeners {host : Host} {number : Nat} {settings : Settings}
    {assets : AssetSource} {session : AreaId} {durable : Option AreaId}
    (created : create host number settings assets session durable = .ok c)
    (later : c.Later d) :
    (∀ b ∈ d.events, ∃ e ∈ Markup.liveElements d.document.nodes, e.id? = some b.elementId ∧
      ∃ a ∈ e.attributes, ListensTo settings.bindings b.event a) ∧
    (d.state = .idle → d.visit.isSome → ∀ elementId event input binding,
      d.events.get? elementId event = some binding →
      (∀ name f, binding.action = .handler name →
        d.bindings.get? name = some (.function f) →
        ∃ e result called, d.document.firstLive? elementId = some e ∧
          (f [.str (input.value.getD e.fieldValue)]).run reactor d = (result, called) ∧
          dispatch elementId event input d =
            (match result with
            | .ok _ => rerender (some ⟨elementId, input.caret⟩) called
            | .error cause => (.error (.eval cause), called)) ∧
          ∀ after, dispatch elementId event input d = (.ok true, after) →
            after.document.FocusedOn elementId input.caret) ∧
      ∀ source, binding.action = .script source →
        ∀ after, dispatch elementId event input d = (.ok true, after) →
          after.document.Unfocused) := by
  obtain ⟨listensFirst, anchoredFirst⟩ := create_listens created
  obtain ⟨listens, anchored⟩ := later.listens listensFirst anchoredFirst
  refine ⟨fun b member => ?_, fun idle live elementId event input binding registered =>
    ⟨fun name f handles bound => ?_, fun source runs after done => ?_⟩⟩
  · exact (listens.2.entry_iff b.elementId b.event).1 ⟨b, member, rfl, rfl⟩
  · obtain ⟨e, found⟩ := listens.exists_element registered
    have rest := anchored.atRest live idle
    have value : fieldValue elementId input d = input.value.getD e.fieldValue := by
      rw [fieldValue, Document.find?_eq, found]
      rfl
    have dispatched := dispatch_handler registered input handles bound
    rw [value, Keeps.bind_eq, evaluating] at dispatched
    have called := Action.run_keeps endures_atRest.toAllows reactor_keeps_atRest
      (f [.str (input.value.getD e.fieldValue)]) rest
    rcases run : (f [.str (input.value.getD e.fieldValue)]).run reactor d with ⟨result, middle⟩
    rw [run] at dispatched called
    refine ⟨e, result, middle, found, run, ?_, fun after done => ?_⟩
    · cases result with
      | ok answer => exact dispatched
      | error cause => exact dispatched
    · rw [dispatched] at done
      cases result with
      | ok answer => exact called.rerender_focused done
      | error cause => cases done
  · rw [dispatch_script registered input runs] at done
    obtain ⟨_, middle, executed, rendered⟩ := exists_of_bind done
    have rest := anchored.atRest live idle
    have engine := Surroundings.evaluator_keeps
      (surroundings_keeps endures_atRest.toAllows reactor_keeps_atRest)
    have ran := evaluating_keeps (engine.execute source []) d rest
    rw [executed] at ran
    exact ran.rerender_focused rendered

/-- A site whose page has a field that notes what it is called with. -/
def fieldSite : AssetSource where
  texts := .memory [("routes.json", "[]"), ("layouts.json", "[]"),
    ("slugs.json", "\x7b\x7d"),
    ("routes/index.html", "<input id=field value=abc @input=put @focus='put(1)'>")] []
  modules := [("routes/index.js", ⟨"routes/index.js",
    [("put", .function fun _ args => .note (args.headD .null) (.return .null))]⟩)]

/-- Whether a name is bound to a function. -/
def bindsFunction : Binding → Bool
  | .function _ => true
  | _ => false

def fieldClient : Client :=
  new (Host.empty.addArea ⟨[], false⟩).2 0 {} none fieldSite 0 0

/-- The function notes the value of the field once.  The caret is put behind the last
character of the field, although it was asked for further on. -/
theorem dispatch_follows_listeners_field :
    let d := fieldClient.after [.start]
    create Host.empty 0 {} fieldSite 0 none = .ok fieldClient ∧ d.visit.isSome ∧
      d.events = [⟨"field", "input", .handler "put"⟩, ⟨"field", "focus", .script "put(1)"⟩] ∧
      ∃ after, dispatch "field" "input" ⟨none, some 7⟩ d = (.ok true, after) ∧
        after.log.map (· matches .str "abc") = [true] ∧
        after.document.FocusedOn "field" (some 7) ∧ after.document.caret = some 3 := by
  intro d
  have created : create Host.empty 0 {} fieldSite 0 none = .ok fieldClient := rfl
  have later : fieldClient.Later d := .asked .now .start
  obtain ⟨idle, live, listeners, isFunction⟩ : d.state = .idle ∧ d.visit.isSome ∧
      d.events = [⟨"field", "input", .handler "put"⟩, ⟨"field", "focus", .script "put(1)"⟩] ∧
      (d.bindings.get? "put").any bindsFunction = true := by
    decide +kernel
  obtain ⟨succeeds, noted, caret⟩ :
      (dispatch "field" "input" ⟨none, some 7⟩ d).1.toOption = some true ∧
      (dispatch "field" "input" ⟨none, some 7⟩ d).2.log.map (· matches .str "abc") = [true] ∧
      (dispatch "field" "input" ⟨none, some 7⟩ d).2.document.caret = some 3 := by
    decide +kernel
  obtain ⟨f, bound⟩ : ∃ f, d.bindings.get? "put" = some (.function f) := by
    rcases found : d.bindings.get? "put" with _ | _ | _ | f
    case some.function => exact ⟨f, rfl⟩
    all_goals
      rw [found] at isFunction
      cases isFunction
  obtain ⟨-, dispatches⟩ := dispatch_follows_listeners created later
  obtain ⟨handles, -⟩ := dispatches idle live "field" "input" ⟨none, some 7⟩
    ⟨"field", "input", .handler "put"⟩ (by rw [listeners]; rfl)
  obtain ⟨e, result, called, -, -, -, focuses⟩ := handles "put" f rfl bound
  rcases done : dispatch "field" "input" ⟨none, some 7⟩ d with ⟨cause | answer, after⟩
  · rw [done] at succeeds
    cases succeeds
  · rw [done] at succeeds noted caret
    cases succeeds
    exact ⟨created, live, listeners, after, rfl, noted, focuses after done, caret⟩

end Client

end LivePages
