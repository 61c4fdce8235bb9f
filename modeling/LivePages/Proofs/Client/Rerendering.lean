import LivePages.Proofs.Client.Reading

/-!
# Rendering a page again

A pass computes what is computed before it compiles the markup, and compiling binds the
exports of the layouts that the page includes for the first time.  So the first pass of
a page can end with names bound to something else than what is computed for them: a
layout may export a name that is computed, or bring stores from storage on which
something computed depends.  Rendering again leaves a page alone that does not stand
like this, and any page from the second time on, if what it calls only reads.
-/

namespace LivePages

/-- What a visit computes for a name: of two exports with one name the last. -/
def Visit.computedAs? (visit : Visit) (name : String) : Option Action :=
  Table.get? visit.computed.reverse name

/-- Whether an action ends without asking for anything. -/
def Action.isFinish : Action → Bool
  | .finish _ => true
  | _ => false

theorem Action.OnlyReads.of_isFinish {a : Action} (finished : a.isFinish = true) :
    a.OnlyReads := by
  cases a with
  | finish result => trivial
  | _ => cases finished

namespace Client

variable {c d : Client} {n k : Nat}

/-- Whether what a page calls and computes only reads. -/
structure OnlyReads (c : Client) : Prop where
  calls : c.CallsReadOnly
  computed : ∀ visit, c.visit = some visit → ∀ entry ∈ visit.computed, entry.2.OnlyReads
  layouts : ∀ visit, c.visit = some visit → ∀ layout ∈ visit.layouts,
    ∀ entry ∈ layout.2, ∀ a, entry.2 = .computed a → a.OnlyReads

/-- What an action comes to for a client in a pass. -/
def comesTo (c : Client) (a : Action) : Value := ({ c with state := .compiling }.compute reactor a).1

/-- The exports of layouts, as a pass lists them. -/
def listing (c : Client) (layouts : Table Module) : Value :=
  Value.ofFields ({ c with state := .compiling }.snapshots reactor layouts).1

/-- Whether all names that the page computes are bound to what is computed for them;
the listing of the layouts, if there is one, takes its name from all else. -/
def InStep (c : Client) : Prop :=
  ∀ visit name a, c.visit = some visit → visit.computedAs? name = some a →
    (name = layoutsName → visit.layouts.isEmpty = true) →
    c.bindings.get? name = some (.value (c.comesTo a))

/-- Whether the layouts of the page are listed as they are. -/
def Lists (c : Client) : Prop :=
  ∀ visit, c.visit = some visit → visit.layouts.isEmpty = false →
    c.bindings.get? layoutsName = some (.value (c.listing visit.layouts))

/-- What a name is bound to at the start of a pass, once everything has been computed. -/
def renewed? (c : Client) (name : String) : Option Binding :=
  match c.visit with
  | none => c.bindings.get? name
  | some visit =>
    if name = layoutsName ∧ visit.layouts.isEmpty = false then
      some (.value (c.listing visit.layouts))
    else ((visit.computedAs? name).map fun a => .value (c.comesTo a)).or (c.bindings.get? name)

/-- A client whose page is displayed as before, with the same listeners, and all of
whose bindings have the values they had. -/
structure Unchanged (before after : Client) : Prop where
  html : after.document.toHtml = before.document.toHtml
  events : after.events = before.events
  bindings : ∀ name, after.bindings.get? name = before.bindings.get? name
  values : ∀ b, after.valueOf b = before.valueOf b

/-! ## Computing anew -/

theorem foldl_compute {computed : List (String × Action)}
    (reads : ∀ entry ∈ computed, entry.2.OnlyReads) (busy : c.state ≠ .idle)
    (log : List Value) (bindings : Bindings) :
    ∃ more names, computed.foldl (fun c (name, a) =>
        let (v, c) := c.compute (.level n) a
        c.bindValue name v) { c with log, bindings } = { c with log := more, bindings := names } ∧
      ∀ name, names.get? name = ((Table.get? computed.reverse name).map fun a =>
        Binding.value (c.compute (.level n) a).1).or (bindings.get? name) := by
  induction computed generalizing log bindings with
  | nil => exact ⟨log, bindings, rfl, fun _ => rfl⟩
  | cons entry computed inductionHypothesis =>
      obtain ⟨own, a⟩ := entry
      have resembles : c.Resembles { c with log, bindings } :=
        ⟨busy, busy, fun _ => rfl, fun _ => rfl⟩
      have readsOwn : a.OnlyReads := reads (own, a) List.mem_cons_self
      have same := (compute_reading (n := n) (k := n) resembles readsOwn).1
      obtain ⟨-, logged, noted⟩ := compute_reading (n := n) (k := n)
        (Resembles.refl resembles.busyToo) readsOwn
      obtain ⟨more, names, shape, entries⟩ := inductionHypothesis
        (fun entry member => reads entry (List.mem_cons_of_mem _ member)) logged
        (bindings.insert own (.value (c.compute (.level n) a).1))
      refine ⟨more, names, ?_, fun name => ?_⟩
      · rw [List.foldl_cons, ← shape]
        dsimp only
        rw [same, noted]
        rfl
      · rw [entries, List.reverse_cons, Table.get?_insert]
        simp only [Table.get?, List.lookup_append]
        cases List.lookup name computed.reverse with
        | some b => rfl
        | none =>
            by_cases isOwn : own = name
            · simp [isOwn]
            · simp [isOwn, List.lookup_cons, beq_eq_false_iff_ne.2 (Ne.symm isOwn)]

theorem refreshComputed_of_visit {visit : Visit} (shown : c.visit = some visit)
    (r : Reactor) :
    c.refreshComputed r = visit.computed.foldl (fun c (name, a) =>
      let (v, c) := c.compute r a
      c.bindValue name v) c := by
  rw [refreshComputed, shown]

theorem refreshLayouts_of_visit {visit : Visit} (shown : c.visit = some visit)
    (r : Reactor) :
    c.refreshLayouts r = if visit.layouts.isEmpty then c
      else (c.snapshots r visit.layouts).2.bindValue layoutsName
        (Value.ofFields (c.snapshots r visit.layouts).1) := by
  rw [refreshLayouts, shown]

theorem refreshLayouts_reading {visit : Visit} (shown : c.visit = some visit)
    (reads : ∀ layout ∈ visit.layouts, ∀ entry ∈ layout.2, ∀ a,
      entry.2 = .computed a → a.OnlyReads) (busy : c.state ≠ .idle) :
    ∃ more, c.refreshLayouts (.level n) = { c with
      log := more
      bindings := if visit.layouts.isEmpty then c.bindings
        else c.bindings.insert layoutsName
          (.value (Value.ofFields (c.snapshots (.level n) visit.layouts).1)) } := by
  rw [refreshLayouts_of_visit shown]
  cases visit.layouts.isEmpty with
  | true => exact ⟨c.log, by simp⟩
  | false =>
      obtain ⟨-, log, noted⟩ := snapshots_reading (n := n) (k := n) (Resembles.refl busy) reads
      refine ⟨log, ?_⟩
      simp only [Bool.false_eq_true, if_false]
      rw [noted]
      rfl

theorem renewed?_of_lists (lists : c.Lists) :
    c.InStep ↔ ∀ name, c.renewed? name = c.bindings.get? name := by
  constructor
  · intro inStep name
    unfold renewed?
    cases shown : c.visit with
    | none => rfl
    | some visit =>
        dsimp only
        split
        · rename_i isListing
          rw [isListing.1]
          exact (lists visit shown isListing.2).symm
        · rename_i other
          cases computed : visit.computedAs? name with
          | none => rfl
          | some a =>
              have unlisted : name = layoutsName → visit.layouts.isEmpty = true := by
                intro isName
                by_contra some
                exact other ⟨isName, Bool.eq_false_iff.2 some⟩
              exact (inStep visit name a shown computed unlisted).symm
  · intro same visit name a shown computed unlisted
    rw [← same name, renewed?, shown]
    have other : ¬ (name = layoutsName ∧ visit.layouts.isEmpty = false) := by
      rintro ⟨isName, some⟩
      rw [unlisted isName] at some
      cases some
    dsimp only
    rw [if_neg other, computed]
    rfl

/-- At the start of a pass over a page that only reads, names are bound anew and notes
may be taken, and that is all. -/
theorem refreshed_reading (reads : c.OnlyReads) :
    ∃ log bindings, c.refreshed reactor = { c with state := .compiling, log, bindings } ∧
      ∀ name, bindings.get? name = c.renewed? name := by
  rcases Option.eq_none_or_eq_some c.visit with shown | ⟨visit, shown⟩
  · refine ⟨c.log, c.bindings, ?_, fun name => ?_⟩
    · rw [refreshed, refreshComputed]
      dsimp only
      rw [shown, refreshLayouts]
    · rw [renewed?, shown]
  · have busy : ({ c with state := .compiling }).state ≠ .idle := by simp
    obtain ⟨log, names, computed, entries⟩ := foldl_compute (n := maxChain)
      (c := { c with state := .compiling }) (reads.computed visit shown) busy c.log c.bindings
    have resembles : ({ c with state := .compiling }).Resembles
        { c with state := .compiling, log, bindings := names } :=
      ⟨by simp, by simp, fun _ => rfl, fun _ => rfl⟩
    have same := (snapshots_reading (n := maxChain) (k := maxChain) resembles
      (reads.layouts visit shown)).1
    obtain ⟨more, listed⟩ := refreshLayouts_reading (n := maxChain)
      (c := { c with state := .compiling, log, bindings := names }) shown
      (reads.layouts visit shown) (by simp)
    let listing := Value.ofFields (({ c with state := .compiling, log, bindings := names }).snapshots
      reactor visit.layouts).1
    refine ⟨more, if visit.layouts.isEmpty then names
      else names.insert layoutsName (.value listing), ?_, fun name => ?_⟩
    · rw [refreshed, refreshComputed_of_visit (c := { c with state := .compiling }) shown]
      exact (congrArg (refreshLayouts reactor) computed).trans listed
    · rw [renewed?, shown]
      dsimp only
      cases empty : visit.layouts.isEmpty with
      | true =>
          rw [if_pos rfl, if_neg (by simp)]
          exact entries name
      | false =>
          rw [if_neg (by simp), Table.get?_insert]
          by_cases isName : layoutsName = name
          · rw [if_pos isName, if_pos ⟨isName.symm, rfl⟩]
            exact congrArg (fun fields => some (Binding.value (Value.ofFields fields))) same
          · rw [if_neg isName, if_neg fun both => isName both.1.symm]
            exact entries name

/-! ## What the first pass leaves -/

section Lists

variable {visit : Visit}
  (reads : ∀ layout ∈ visit.layouts, ∀ entry ∈ layout.2, ∀ a,
    entry.2 = .computed a → a.OnlyReads)

include reads

/-- Whether a client in a pass lists these layouts of its page as they are. -/
theorem refreshLayouts_lists (shown : c.visit = some visit) (busy : c.state ≠ .idle)
    (listed : visit.layouts.isEmpty = false) :
    (c.refreshLayouts (.level n)).bindings.get? layoutsName =
      some (.value (Value.ofFields
        ((c.refreshLayouts (.level n)).snapshots (.level n) visit.layouts).1)) := by
  obtain ⟨log, shape⟩ := refreshLayouts_reading (n := n) shown reads busy
  rw [listed] at shape
  have resembles : c.Resembles (c.refreshLayouts (.level n)) := by
    rw [shape]
    exact ⟨busy, busy, fun _ => rfl, fun _ => rfl⟩
  rw [(snapshots_reading (n := n) (k := n) resembles reads).1, shape]
  dsimp only
  rw [if_neg Bool.false_ne_true, Table.get?_insert, if_pos rfl]

end Lists

theorem bindLayout_exits {r : Reactor} (steady : r.Steady) (busy : c.state ≠ .idle)
    (registry : AssetRegistry) (layout : String) :
    c.bindLayout r registry layout = c ∨
      ∃ d : Client, d.state = c.state ∧ c.bindLayout r registry layout = d.refreshLayouts r := by
  refine (includes_or_binds r registry layout c).imp bindLayout_of_includes ?_
  rintro ⟨visit, m, h, next, d, -, -, bound, shape⟩
  have state := bindModule_state (c := { c with toHost := h }) steady busy m visit
  rw [bound] at state
  refine ⟨_, ?_, shape⟩
  exact state

/-- Compiling the markup of a page leaves the layouts of the page listed as they are. -/
theorem compile_lists {registry : AssetRegistry} {body : String} {program : Program}
    {before : Client}
    (compiled : (layoutSource (.level n) registry).compile body (before.refreshed (.level n)) =
      (.ok program, c))
    {visit : Visit} (shown : c.visit = some visit)
    (reads : ∀ layout ∈ visit.layouts, ∀ entry ∈ layout.2, ∀ a,
      entry.2 = .computed a → a.OnlyReads)
    (listed : visit.layouts.isEmpty = false) :
    c.bindings.get? layoutsName =
      some (.value (Value.ofFields (c.snapshots (.level n) visit.layouts).1)) := by
  have steady := Reactor.level_steady n
  let P : Client → Prop := fun d => d.state ≠ .idle ∧ (d.visit = some visit →
    d.bindings.get? layoutsName =
      some (.value (Value.ofFields (d.snapshots (.level n) visit.layouts).1)))
  have refreshes : ∀ d : Client, d.state ≠ .idle → P (d.refreshLayouts (.level n)) := by
    intro d busy
    have frame := (refreshLayouts_stays steady busy).frame
    refine ⟨by rw [frame]; exact busy, fun same => ?_⟩
    rw [frame] at same
    exact refreshLayouts_lists reads same busy listed
  have keeps : Keeps P ((layoutSource (.level n) registry).compile body) := by
    refine LayoutSource.compile_keeps (layoutSource_keeps fun layout d holds => ?_) body
    rcases bindLayout_exits steady holds.1 registry layout with same | ⟨e, state, shape⟩
    · rwa [same]
    · rw [shape]
      exact refreshes e (state ▸ holds.1)
  have busy : (({ before with state := .compiling }).refreshComputed (.level n)).state ≠
      .idle := by
    rw [(refreshComputed_stays steady (by simp)).frame]
    simp
  have kept := keeps _ (refreshes _ busy)
  change P ((layoutSource (.level n) registry).compile body (before.refreshed (.level n))).2
    at kept
  rw [compiled] at kept
  exact kept.2 shown

/-! ## Rendering again -/

theorem renewed?_function {name : String} {f : List Value → Action}
    (bound : c.renewed? name = some (.function f)) :
    c.bindings.get? name = some (.function f) := by
  unfold renewed? at bound
  split at bound
  · exact bound
  · split at bound
    · cases bound
    · rename_i visit _ _
      cases computed : visit.computedAs? name with
      | none =>
          rw [computed] at bound
          exact bound
      | some a =>
          rw [computed] at bound
          cases bound

theorem comesTo_of_resembles (resembles : ({ c with state := .compiling }).Resembles
    { d with state := .compiling }) {a : Action} (reads : a.OnlyReads) :
    d.comesTo a = c.comesTo a :=
  (compute_reading resembles reads).1

theorem JustShown.lists (shown : c.JustShown) (reads : c.OnlyReads) : c.Lists := by
  obtain ⟨n, registry, report, m, body, before, program, compiled, html, -, -, -, compiles,
    state, -, ⟨log, document, events, history, shape⟩, -⟩ := shown.exists_compiled reads.calls
  intro visit isShown listed
  have same : c.visit = compiled.visit := by rw [shape]
  have bound := compile_lists compiles (same ▸ isShown) (reads.layouts visit isShown) listed
  have resembles : compiled.Resembles { c with state := .compiling } :=
    ⟨by simp [state], by simp, by rw [shape]; exact fun _ => rfl,
      by rw [shape]; exact fun _ => rfl⟩
  have snapshots := (snapshots_reading (n := n) (k := maxChain) resembles
    (reads.layouts visit isShown)).1
  have names : c.bindings.get? layoutsName = compiled.bindings.get? layoutsName := by rw [shape]
  rw [names, bound]
  exact congrArg (fun fields => some (Binding.value (Value.ofFields fields))) snapshots.symm

/-- A page that only reads and has just been shown compiles to the same program again
and binds no layout, so all that a further pass changes is what it computes anew. -/
theorem JustShown.exists_program (shown : c.JustShown) (reads : c.OnlyReads) :
    ∃ registry report m body program html log bindings, c.state = .idle ∧
      c.loaded = some (registry, report) ∧ c.current = some m ∧
      registry.routeBody m.route = .ok body ∧
      c.refreshed reactor = { c with state := .compiling, log, bindings } ∧
      (∀ name, bindings.get? name = c.renewed? name) ∧
      (layoutSource reactor registry).compile body (c.refreshed reactor) =
        (.ok program, c.refreshed reactor) ∧
      c.Displays html ∧
      ((∀ name, c.renewed? name = c.bindings.get? name) →
        (program.render (surroundings reactor).evaluator
          { c with state := .rendering, log, bindings }).1 = .ok html) := by
  obtain ⟨n, registry, report, m, body, before, program, compiled, html, loaded, current,
    found, compiles, state, renders, ⟨noted, document, events, history, shape⟩, displays⟩ :=
    shown.exists_compiled reads.calls
  obtain ⟨log, bindings, refreshes, names⟩ := refreshed_reading reads
  have busy : (before.refreshed (.level n)).state ≠ .idle := by simp [refreshed_state]
  refine ⟨registry, report, m, body, program, html, log, bindings, by rw [shape], loaded,
    current, found, refreshes, names, ?_, displays, fun renewed => ?_⟩
  · apply compile_again (Reactor.level_steady n) busy compiles
    intro layout includes
    rw [refreshes, shape]
    exact includes
  · have resembles : ({ compiled with state := .rendering }).Resembles
        { c with state := .rendering, log, bindings } :=
      ⟨by simp, by simp, by rw [shape]; exact fun _ => rfl, by rw [shape]; exact fun _ => rfl⟩
    have same : ∀ name, c.bindings.get? name = compiled.bindings.get? name := by
      rw [shape]
      exact fun _ => rfl
    have emitted := (render_reading (n := n) (k := maxChain) resembles
      (fun name => ((names name).trans (renewed name)).trans (same name))
      (fun name f bound => reads.calls name f ((same name).trans bound)) program).1
    exact emitted.trans renders

/-- A further render, if it succeeds, changes what is displayed, binds anew what is
computed, and takes notes. -/
theorem exists_of_render (shown : c.JustShown) (reads : c.OnlyReads)
    (done : render c = (.ok true, d)) :
    ∃ log bindings document events, d = { c with log, bindings, document, events } ∧
      ∀ name, bindings.get? name = c.renewed? name := by
  obtain ⟨registry, report, m, body, program, html, log, bindings, idle, loaded, current,
    found, refreshes, names, compiles, -, -⟩ := shown.exists_program reads
  obtain ⟨m', registry', report', body', e, -, isCurrent, isLoaded, isBody, pass, rfl⟩ :=
    exists_of_requestRender done
  cases current.symm.trans isCurrent
  cases loaded.symm.trans isLoaded
  cases found.symm.trans isBody
  obtain ⟨program', compiled, html', rendered, compilesToo, renders, rfl⟩ :=
    exists_of_renderPass pass
  cases compiles.symm.trans compilesToo
  have functions : ∀ name f, bindings.get? name = some (.function f) →
      ∀ args, (f args).OnlyReads :=
    fun name f bound => reads.calls name f (renewed?_function ((names name).symm.trans bound))
  rw [refreshes] at renders
  obtain ⟨-, more, noted⟩ := render_reading (n := maxChain) (k := maxChain)
    (Resembles.refl (c := { c with state := .rendering, log, bindings }) (by simp))
    (fun _ => rfl) functions program
  have rest : rendered = { c with state := .rendering, log := more, bindings } := by
    have ended := congrArg Prod.snd renders
    exact ended.symm.trans noted
  refine ⟨more, bindings, (showMarkup none html' rendered).document,
    (showMarkup none html' rendered).events, ?_, names⟩
  rw [rest, ← idle]
  rfl

/-- A further render of a page whose names would be bound to the same succeeds, and
changes nothing. -/
theorem exists_render (shown : c.JustShown) (reads : c.OnlyReads)
    (renewed : ∀ name, c.renewed? name = c.bindings.get? name) :
    ∃ d, render c = (.ok true, d) ∧ c.Unchanged d := by
  obtain ⟨registry, report, m, body, program, html, log, bindings, idle, loaded, current,
    found, refreshes, names, compiles, displays, renders⟩ := shown.exists_program reads
  have emitted := renders renewed
  have functions : ∀ name f, bindings.get? name = some (.function f) →
      ∀ args, (f args).OnlyReads :=
    fun name f bound => reads.calls name f (renewed?_function ((names name).symm.trans bound))
  obtain ⟨-, more, noted⟩ := render_reading (n := maxChain) (k := maxChain)
    (Resembles.refl (c := { c with state := .rendering, log, bindings }) (by simp))
    (fun _ => rfl) functions program
  have renders : program.render (surroundings reactor).evaluator
      { c.refreshed reactor with state := .rendering } =
      (.ok html, { c with state := .rendering, log := more, bindings }) := by
    rw [refreshes]
    exact Prod.ext emitted noted
  refine ⟨_, requestRender_of_pass idle current loaded found
    (renderPass_of_parts compiles renders), ?_⟩
  obtain ⟨sameHtml, sameEvents⟩ := displays.shows
    (d := { c with state := .indexing, log := more, bindings }) rfl
  refine ⟨sameHtml, sameEvents, fun name => (names name).trans (renewed name), fun b => ?_⟩
  cases b <;> rfl

/-- A page that only reads and has just been shown can be rendered again without any
effect exactly if all that it computes is bound as it is computed.  After a further
render that succeeds, this is so, whatever names the page and its layouts export. -/
theorem render_again (shown : c.JustShown) (reads : c.OnlyReads) :
    (c.InStep ↔ ∃ d, render c = (.ok true, d) ∧ c.Unchanged d) ∧
      ∀ d, render c = (.ok true, d) → ∃ e, render d = (.ok true, e) ∧ d.Unchanged e := by
  have inStep : ∀ d, render c = (.ok true, d) → d.JustShown ∧ d.OnlyReads ∧ d.InStep := by
    intro d done
    obtain ⟨log, bindings, document, events, rfl, names⟩ := exists_of_render shown reads done
    have resembles : ({ c with state := .compiling }).Resembles
        { c with log, bindings, document, events, state := .compiling } :=
      ⟨by simp, by simp, fun _ => rfl, fun _ => rfl⟩
    refine ⟨.rendered done, ⟨fun name f bound => ?_, reads.computed, reads.layouts⟩, ?_⟩
    · exact reads.calls name f (renewed?_function ((names name).symm.trans bound))
    · intro visit name a isShown computed unlisted
      have member : (name, a) ∈ visit.computed :=
        List.mem_reverse.1 (Table.mem_of_get? computed)
      have other : ¬ (name = layoutsName ∧ visit.layouts.isEmpty = false) := by
        rintro ⟨isName, some⟩
        rw [unlisted isName] at some
        cases some
      rw [comesTo_of_resembles resembles (reads.computed visit isShown _ member)]
      refine (names name).trans ?_
      rw [renewed?, show c.visit = some visit from isShown]
      dsimp only
      rw [if_neg other, computed]
      rfl
  refine ⟨⟨fun stands => ?_, ?_⟩, fun d done => ?_⟩
  · exact exists_render shown reads ((renewed?_of_lists (shown.lists reads)).1 stands)
  · rintro ⟨d, done, unchanged⟩
    obtain ⟨log, bindings, document, events, rfl, names⟩ := exists_of_render shown reads done
    refine (renewed?_of_lists (shown.lists reads)).2 fun name => ?_
    exact (names name).symm.trans (unchanged.bindings name)
  · obtain ⟨shownToo, readsToo, stands⟩ := inStep d done
    exact exists_render shownToo readsToo
      ((renewed?_of_lists (shownToo.lists readsToo)).1 stands)

/-! ## A layout that exports what is computed -/

/-- Whether all that is computed is known at once. -/
def computesNothing (c : Client) : Bool :=
  c.visit.all fun visit => visit.computed.all (fun entry => entry.2.isFinish) &&
    visit.layouts.all fun layout => layout.2.all fun entry =>
      match entry.2 with
      | .computed a => a.isFinish
      | _ => true

theorem onlyReads_of_nothing (calls : c.callsNothing = true)
    (computes : c.computesNothing = true) : c.OnlyReads := by
  unfold computesNothing at computes
  refine ⟨callsReadOnly_of_callsNothing calls, ?_, ?_⟩
  · intro visit shown entry member
    rw [shown, Option.all_some, Bool.and_eq_true] at computes
    exact .of_isFinish (List.all_eq_true.1 computes.1 entry member)
  · intro visit shown layout isLayout entry member a isComputed
    rw [shown, Option.all_some, Bool.and_eq_true] at computes
    have finished := List.all_eq_true.1
      (List.all_eq_true.1 computes.2 layout isLayout) entry member
    rw [isComputed] at finished
    exact .of_isFinish finished

/-- A site whose page computes a name that its layout exports as well. -/
def titledSite : AssetSource where
  texts := .memory [("routes.json", "[]"), ("layouts.json", "[\"main\"]"),
    ("slugs.json", "\x7b\x7d"),
    ("routes/index.html", "<template layout=\"main\"></template>"),
    ("layouts/main.html", "$\x7btitle\x7d")] []
  modules := [
    ("routes/index.js", ⟨"routes/index.js",
      [("title", .computed fun _ => .return (.str "Home"))]⟩),
    ("layouts/main.js", ⟨"layouts/main.js", [("title", .value (.str "Site"))]⟩)]

def titleReader : Client :=
  new (Host.empty.addArea ⟨[], false⟩).2 0 {} none titledSite 0 0

theorem titleReader_justShown : (titleReader.after [.start]).JustShown :=
  justShown_of_start (by decide +kernel)

theorem titleReader_onlyReads : (titleReader.after [.start]).OnlyReads :=
  onlyReads_of_nothing (by decide +kernel) (by decide +kernel)

theorem titleReader_changes {d : Client}
    (done : render (titleReader.after [.start]) = (.ok true, d)) :
    d.document.toHtml ≠ (titleReader.after [.start]).document.toHtml := by
  have same : (render (titleReader.after [.start])).2 = d := congrArg Prod.snd done
  rw [← same]
  decide +kernel

/-- The page is rendered once to show what it computes, and from then on without
effect. -/
theorem render_again_titleReader :
    (titleReader.after [.start]).JustShown ∧ (titleReader.after [.start]).OnlyReads ∧
      ¬ (titleReader.after [.start]).InStep ∧
      ∃ d e, render (titleReader.after [.start]) = (.ok true, d) ∧
        render d = (.ok true, e) ∧ d.Unchanged e := by
  have again := render_again titleReader_justShown titleReader_onlyReads
  have rendered : (render (titleReader.after [.start])).1.toOption = some true := by
    decide +kernel
  have done : render (titleReader.after [.start]) =
      (.ok true, (render (titleReader.after [.start])).2) :=
    Prod.ext (eq_ok_of_toOption rendered) rfl
  obtain ⟨e, doneAgain, unchanged⟩ := again.2 _ done
  refine ⟨titleReader_justShown, titleReader_onlyReads, fun inStep => ?_, _, e, done,
    doneAgain, unchanged⟩
  obtain ⟨d, doneToo, same⟩ := again.1.1 inStep
  exact titleReader_changes doneToo same.html

/-- A layout takes a name from what is computed for it until the page is rendered
again. -/
theorem render_changes_title :
    create Host.empty 0 {} titledSite 0 none = .ok titleReader ∧
      (titleReader.after [.start]).JustShown ∧ (titleReader.after [.start]).OnlyReads ∧
      (titleReader.after [.start]).state = .idle ∧
      (titleReader.after [.start]).document.toHtml = "Site" ∧
      (titleReader.after [.start, .render]).document.toHtml = "Home" ∧
      ¬ ∃ d, render (titleReader.after [.start]) = (.ok true, d) ∧
        (titleReader.after [.start]).Unchanged d := by
  refine ⟨rfl, titleReader_justShown, titleReader_onlyReads, by decide +kernel,
    by decide +kernel, by decide +kernel, ?_⟩
  rintro ⟨d, done, unchanged⟩
  exact titleReader_changes done unchanged.html

end Client

end LivePages
