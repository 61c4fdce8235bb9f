import LivePages.Client.Operation
import LivePages.Proofs.Client.Joining
import LivePages.Proofs.Client.Shown

/-!
# Pages whose functions only read

A function that sets no store and keeps nothing learns the same from clients whose
stores hold the same values and who keep the same, and leaves no trace but in the log.
So where a page calls only such functions, what is displayed is up to date at the end
of a pass, whatever binding and computing its exports has set in motion.  Where it
calls others, what has been emitted in front of a call may be out of date behind it.
-/

namespace LivePages

def Reach.reading : Reach where
  reads _ := True
  writes _ := False
  recalls _ := True
  keeps _ := False

/-- Whether an action sets no store, listens to none and keeps nothing. -/
def Action.OnlyReads (a : Action) : Prop := a.StaysIn .reading

namespace Client

variable {c d : Client} {n k : Nat}

/-- A client that has noted something in its log since, and nothing else. -/
def Noted (before after : Client) : Prop := ∃ log, after = { before with log }

/-- Two clients in the middle of a pass whose stores hold the same values and who keep
the same. -/
structure Resembles (c d : Client) : Prop where
  busy : c.state ≠ .idle
  busyToo : d.state ≠ .idle
  stores : ∀ s, d.readStore s = c.readStore s
  memory : ∀ key, d.memory.get? key = c.memory.get? key

theorem Resembles.refl (busy : c.state ≠ .idle) : c.Resembles c :=
  ⟨busy, busy, fun _ => rfl, fun _ => rfl⟩

section Reading

variable (resembles : c.Resembles d)

include resembles

/-- Actions that only read cannot tell such clients apart. -/
theorem couples_reading :
    Couples .reading fun s t => c.Noted s ∧ d.Noted t where
  read := by
    rintro _ _ s ⟨⟨log, rfl⟩, ⟨log', rfl⟩⟩ -
    exact resembles.stores s
  accept _ never := never.elim
  listen _ never := never.elim
  forget _ never := never.elim
  retrieve := by
    rintro _ _ key ⟨⟨log, rfl⟩, ⟨log', rfl⟩⟩ -
    exact resembles.memory key
  keep _ never := never.elim
  note := by
    rintro _ _ ⟨⟨log, rfl⟩, ⟨log', rfl⟩⟩ entry
    exact ⟨⟨_, rfl⟩, _, rfl⟩

theorem reacts_reading (n k : Nat) :
    (Reactor.level n).Couples (.level k) .reading fun s t => c.Noted s ∧ d.Noted t where
  set _ never := never.elim
  render := by
    have refuses : ∀ (n : Nat) (c : Client), c.state ≠ .idle →
        (Reactor.level n).render c = (false, c) := by
      intro n c busy
      cases n with
      | zero => simp [Reactor.level, busy]
      | succ n => simp [Reactor.level, requestRender_busy none busy, Except.toOption]
    rintro s t ⟨noted, notedToo⟩
    have busy : s.state ≠ .idle := by
      obtain ⟨log, rfl⟩ := noted
      exact resembles.busy
    have busyToo : t.state ≠ .idle := by
      obtain ⟨log, rfl⟩ := notedToo
      exact resembles.busyToo
    rw [refuses n s busy, refuses k t busyToo]
    exact ⟨rfl, noted, notedToo⟩

theorem compute_reading {a : Action} (reads : a.OnlyReads) :
    (d.compute (.level k) a).1 = (c.compute (.level n) a).1 ∧
      c.Noted (c.compute (.level n) a).2 := by
  obtain ⟨same, noted, -⟩ := compute_couples (couples_reading resembles)
    (reacts_reading resembles n k) ⟨⟨c.log, rfl⟩, d.log, rfl⟩ reads
  exact ⟨same, noted⟩

theorem snapshots_reading {layouts : Table Module}
    (reads : ∀ layout ∈ layouts, ∀ entry ∈ layout.2, ∀ a,
      entry.2 = .computed a → a.OnlyReads) :
    (d.snapshots (.level k) layouts).1 = (c.snapshots (.level n) layouts).1 ∧
      c.Noted (c.snapshots (.level n) layouts).2 := by
  have within : ∀ layout ∈ layouts, ∀ entry ∈ layout.2, entry.2.ReadsIn .reading := by
    intro layout member entry inside
    cases shape : entry.2 with
    | computed a => exact reads layout member entry inside a shape
    | store s => trivial
    | value v => trivial
    | function f => trivial
  obtain ⟨same, noted, -⟩ := snapshots_couples (couples_reading resembles)
    (reacts_reading resembles n k) within ⟨⟨c.log, rfl⟩, d.log, rfl⟩
  exact ⟨same, noted⟩

/-- Where functions only read, a program comes to the same where names are bound to
the same. -/
theorem render_reading (names : ∀ name, d.bindings.get? name = c.bindings.get? name)
    (functions : ∀ name f, c.bindings.get? name = some (.function f) →
      ∀ args, (f args).OnlyReads) (program : Program) :
    (program.render (surroundings (.level k)).evaluator d).1 =
        (program.render (surroundings (.level n)).evaluator c).1 ∧
      c.Noted (program.render (surroundings (.level n)).evaluator c).2 := by
  have bound : CouplesNames (fun _ : Unit => .reading)
      fun _ s t => c.Noted s ∧ d.Noted t :=
    { actions := fun _ => couples_reading resembles
      bound := by
        rintro i _ _ ⟨⟨log, rfl⟩, ⟨log', rfl⟩⟩ name
        refine ⟨names name, fun b found => ⟨i, .refl ⟨⟨log, rfl⟩, log', rfl⟩, ?_⟩⟩
        cases b with
        | value v => trivial
        | store s => trivial
        | function f => exact functions name f found }
  obtain ⟨same, noted, -⟩ := render_couples bound (fun _ => reacts_reading resembles n k) ()
    program c d ⟨⟨c.log, rfl⟩, d.log, rfl⟩
  exact ⟨same, noted⟩

end Reading

/-! ## Pages that are up to date -/

/-- Whether what is displayed, with its listeners, is this markup. -/
def Displays (c : Client) (html : String) : Prop := ∃ focus, c.showMarkup focus html = c

theorem index_focus (settings : BindingSettings) (focus other : Option FocusTarget)
    (document : Document) :
    (EventIndex.index settings focus document).1 = (EventIndex.index settings other document).1 ∧
      (EventIndex.index settings focus document).2.nodes =
        (EventIndex.index settings other document).2.nodes := by
  have nodes : ∀ focus, (EventIndex.index settings focus document).2.nodes =
      (EventIndex.index settings none document).2.nodes := by
    intro focus
    cases focus with
    | none => rfl
    | some target => exact EventIndex.nodes_focusOn target _
  exact ⟨rfl, (nodes focus).trans (nodes other).symm⟩

/-- Markup is displayed alike wherever the focus goes. -/
theorem Displays.shows {html : String} (displays : c.Displays html)
    (settings : d.settings = c.settings) :
    (d.showMarkup none html).document.toHtml = c.document.toHtml ∧
      (d.showMarkup none html).events = c.events := by
  obtain ⟨focus, shown⟩ := displays
  obtain ⟨events, nodes⟩ := index_focus c.settings.bindings none focus
    (c.document.replaceMarkup html)
  rw [← shown]
  refine ⟨congrArg Markup.toHtml ?_, ?_⟩
  · rw [showMarkup, settings]
    exact nodes
  · rw [showMarkup, settings]
    exact events

/-- Whether the functions that names are bound to only read. -/
def CallsReadOnly (c : Client) : Prop :=
  ∀ name f, c.bindings.get? name = some (.function f) → ∀ args, (f args).OnlyReads

/-- Whether a client displays what the markup of its page comes to where it is: it
compiles to a program without binding anything, and that program, run with the names
as they are bound, emits what is displayed. -/
def UpToDate (c : Client) : Prop :=
  ∃ registry report m body program html, c.loaded = some (registry, report) ∧
    c.current = some m ∧ registry.routeBody m.route = .ok body ∧
    (layoutSource reactor registry).compile body { c with state := .compiling } =
      (.ok program, { c with state := .compiling }) ∧
    (program.render (surroundings reactor).evaluator { c with state := .rendering }).1 =
      .ok html ∧
    c.Displays html

theorem compile_state (registry : AssetRegistry) (body : String) (busy : c.state ≠ .idle) :
    ((layoutSource (.level n) registry).compile body c).2.state = c.state := by
  have outlasts := outlasts_state c.state
  have keeps := Reactor.level_keeps_busy outlasts.toEndures
    (fun d (same : d.state = c.state) => same ▸ busy) n
  exact ((LayoutSource.compile_agree (layoutSource_agree (outlasts.bearsLayouts registry)
    keeps.agree) body) c rfl).2

theorem refreshed_state (c : Client) (n : Nat) :
    (c.refreshed (.level n)).state = .compiling := by
  have steady := Reactor.level_steady n
  have computed := (refreshComputed_stays (c := { c with state := .compiling }) steady
    (by simp)).frame
  have busy : ({ c with state := .compiling }.refreshComputed (.level n)).state ≠ .idle := by
    rw [computed]
    simp
  have listed := (refreshLayouts_stays steady busy).frame
  rw [refreshed, listed, computed]

/-- The pass behind a page whose functions only read: since its markup was compiled,
nothing has changed but the log, and what is displayed. -/
theorem JustShown.exists_compiled (shown : c.JustShown) (readOnly : c.CallsReadOnly) :
    ∃ n registry report m body, ∃ before : Client, ∃ program compiled html,
      c.loaded = some (registry, report) ∧ c.current = some m ∧
      registry.routeBody m.route = .ok body ∧
      (layoutSource (.level n) registry).compile body (before.refreshed (.level n)) =
        (.ok program, compiled) ∧
      compiled.state = .compiling ∧
      (program.render (surroundings (.level n)).evaluator
        { compiled with state := .rendering }).1 = .ok html ∧
      (∃ log document events history,
        c = { compiled with log, document, events, history, state := .idle }) ∧
      c.Displays html := by
  obtain ⟨n, registry, report, m, body, focus, before, after, history, loaded, current,
    found, pass, rfl⟩ := shown.exists_pass
  obtain ⟨program, compiled, html, rendered, compiles, renders, rfl⟩ :=
    exists_of_renderPass pass
  have state : compiled.state = .compiling := by
    have same := compile_state (n := n) (c := before.refreshed (.level n)) registry body
      (by simp [refreshed_state])
    rwa [compiles, refreshed_state] at same
  -- Running the program has bound nothing, so its functions are those bound now.
  obtain ⟨h, frame⟩ := render_frame (c := { compiled with state := .rendering }) n program
    (by simp)
  rw [renders] at frame
  dsimp only at frame
  have bindings : rendered.bindings = compiled.bindings := by rw [frame]
  have functions : ∀ name f, compiled.bindings.get? name = some (.function f) →
      ∀ args, (f args).OnlyReads := by
    intro name f bound
    exact readOnly name f (by rw [← bindings] at bound; exact bound)
  obtain ⟨-, log, noted⟩ := render_reading (n := n) (k := n)
    (Resembles.refl (c := { compiled with state := .rendering }) (by simp)) (fun _ => rfl)
    functions program
  rw [renders] at noted
  dsimp only at noted
  subst noted
  exact ⟨n, registry, report, m, body, before, program, compiled, html, loaded, current,
    found, compiles, state, congrArg Prod.fst renders,
    ⟨log, (showMarkup focus html compiled).document,
      (showMarkup focus html compiled).events, history, rfl⟩, focus, rfl⟩

/-- Whatever computing and binding its exports sets in motion, a page is up to date at
the end of a pass, if the functions that it calls only read.  No request for a render
that was dropped on the way is missed then. -/
theorem upToDate_of_justShown (shown : c.JustShown) (readOnly : c.CallsReadOnly) :
    c.UpToDate := by
  obtain ⟨n, registry, report, m, body, before, program, compiled, html, loaded, current,
    found, compiles, state, renders, ⟨log, document, events, history, shape⟩, displays⟩ :=
    shown.exists_compiled readOnly
  have busy : (before.refreshed (.level n)).state ≠ .idle := by simp [refreshed_state]
  refine ⟨registry, report, m, body, program, html, loaded, current, found, ?_, ?_, displays⟩
  · apply compile_again (Reactor.level_steady n) busy compiles
    intro layout includes
    rw [shape]
    exact includes
  · have resembles : ({ compiled with state := .rendering }).Resembles
        { c with state := .rendering } :=
      ⟨by simp, by simp, by rw [shape]; exact fun _ => rfl, by rw [shape]; exact fun _ => rfl⟩
    have names : ∀ name, c.bindings.get? name = compiled.bindings.get? name := by
      rw [shape]
      exact fun _ => rfl
    have same := (render_reading (n := n) (k := maxChain) resembles names
      (fun name f bound => readOnly name f ((names name).trans bound)) program).1
    exact same.trans renders

/-! ## A function that sets what has been emitted -/

/-- The document that the page comes to when its markup is compiled and rendered where
the client is. -/
def renderedAnew? (c : Client) : Option String := do
  let (registry, _) ← c.loaded
  let m ← c.current
  let body ← (registry.routeBody m.route).toOption
  let program ← ((layoutSource reactor registry).compile body
    { c with state := .compiling }).1.toOption
  let html ← (program.render (surroundings reactor).evaluator
    { c with state := .rendering }).1.toOption
  return (c.showMarkup none html).document.toHtml

theorem UpToDate.renderedAnew (upToDate : c.UpToDate) :
    c.renderedAnew? = some c.document.toHtml := by
  obtain ⟨registry, report, m, body, program, html, loaded, current, found, compiles,
    renders, displays⟩ := upToDate
  have shown : (c.showMarkup none html).document.toHtml = c.document.toHtml :=
    (displays.shows rfl).1
  simp only [renderedAnew?, Option.bind_eq_bind, Option.bind_eq_some_iff]
  exact ⟨_, loaded, _, current, body, by rw [found]; rfl, program, by rw [compiles]; rfl,
    html, by rw [renders]; rfl, congrArg some shown⟩

/-- A page that is started with success has just been shown. -/
theorem justShown_of_start (started : (start c).1.isOk = true) :
    (c.after [.start]).JustShown := by
  change JustShown (start c).2
  have shape : start c = navigateWith (.level maxChain) Route.root .replace c := rfl
  rw [shape] at started ⊢
  generalize done : navigateWith (.level maxChain) Route.root .replace c = outcome at started ⊢
  obtain ⟨result, d⟩ := outcome
  cases result with
  | error cause => cases started
  | ok m => exact .navigated done

/-- Whether no name is bound to a function. -/
def callsNothing (c : Client) : Bool :=
  c.bindings.all fun entry =>
    match entry.2 with
    | .function _ => false
    | _ => true

theorem callsReadOnly_of_callsNothing (nothing : c.callsNothing = true) :
    c.CallsReadOnly := by
  intro name f bound
  have noFunction := List.all_eq_true.1 nothing _ (Table.mem_of_get? bound)
  cases noFunction

/-- A site whose page displays a number which it sets to five: whenever it computes
something, or else behind the place where it is displayed. -/
def numberSite (atOnce : Bool) : AssetSource where
  texts := .memory [("routes.json", "[]"), ("layouts.json", "[]"),
    ("slugs.json", "\x7b\x7d"),
    ("routes/index.html", if atOnce then "$\x7bn\x7d" else "$\x7bn\x7d$\x7bput(5)\x7d")] []
  modules := [("routes/index.js", ⟨"routes/index.js",
    [("n", .store .any (.num (.int 1)) false false),
      if atOnce then
        ("put", .computed fun i => .write ((i.stores.get? "n").getD 0) (.num (.int 5)) fun _ =>
          .return (.str ""))
      else
        ("put", .function fun i args =>
          .write ((i.stores.get? "n").getD 0) (args.headD .null) fun _ => .return (.str ""))]⟩)]

def onlooker (atOnce : Bool) : Client :=
  new (Host.empty.addArea ⟨[], false⟩).2 0 {} none (numberSite atOnce) 0 0

theorem upToDate_of_justShown_atOnce :
    ((onlooker true).after [.start]).JustShown ∧
      ((onlooker true).after [.start]).CallsReadOnly ∧
      ((onlooker true).after [.start]).document.toHtml = "5" ∧
      ((onlooker true).after [.start]).UpToDate := by
  have shown := justShown_of_start (c := onlooker true) (by decide +kernel)
  have readOnly := callsReadOnly_of_callsNothing
    (c := (onlooker true).after [.start]) (by decide +kernel)
  exact ⟨shown, readOnly, by decide +kernel, upToDate_of_justShown shown readOnly⟩

/-- A page that sets a number behind the place where it displays it goes on displaying
the old one, for the request to render it again is dropped. -/
theorem justShown_not_upToDate :
    create Host.empty 0 {} (numberSite false) 0 none = .ok (onlooker false) ∧
      ((onlooker false).after [.start]).JustShown ∧
      ((onlooker false).after [.start]).state = .idle ∧
      Slot.write (((onlooker false).after [.start]).readStore 0) = "5" ∧
      ((onlooker false).after [.start]).document.toHtml = "1" ∧
      ¬ ((onlooker false).after [.start]).UpToDate := by
  refine ⟨rfl, justShown_of_start (by decide +kernel), by decide +kernel, by decide +kernel,
    by decide +kernel, fun upToDate => ?_⟩
  have same := upToDate.renderedAnew
  have anew : ((onlooker false).after [.start]).renderedAnew? = some "5" := by
    decide +kernel
  rw [anew] at same
  exact absurd same (by decide +kernel)

end Client

end LivePages
