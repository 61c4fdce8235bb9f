import LivePages.Proofs.Client.Upkeep

/-!
# What pages leave bound

A page that is left takes along all names that it has bound, and the one under which
its layouts are listed.  Whatever a client binds on its own account while it shows a page
is under such a name, or under one of the two for the route.  So what stays bound are
the names that scripts have assigned to although no page had bound them.
-/

namespace LivePages.Client

variable {c d : Client} {name : String} {n : Nat} {registry : AssetRegistry}

/-! ## Leaving a page -/

/-- Whether the page of a visit takes a name along. -/
def Takes (visit : Visit) (name : String) : Prop := name ∈ visit.bound ∨ name = layoutsName

instance (visit : Visit) (name : String) : Decidable (Takes visit name) :=
  inferInstanceAs (Decidable (_ ∨ _))

/-- What a name is still bound to when the page is left. -/
def left? (c : Client) (name : String) : Option Binding :=
  if c.visit.any fun visit => Takes visit name then none else c.bindings.get? name

theorem get?_disposeVisit (c : Client) (name : String) :
    c.disposeVisit.bindings.get? name = c.left? name := by
  cases shown : c.visit with
  | none =>
      rw [disposeVisit_of_none shown, left?, shown]
      rfl
  | some visit =>
      obtain ⟨stores, settled, -⟩ := unsubscribeAll_spec visit.subscriptions c
      obtain ⟨bindings, unbound, entries⟩ := unbindAll_spec visit.bound { c with stores }
      have erased : c.disposeVisit.bindings = Table.erase bindings layoutsName := by
        rw [disposeVisit, shown]
        change ((visit.bound.foldl (fun c name => c.unbind name)
          (unsubscribeAll visit.subscriptions c)).unbind layoutsName).bindings = _
        rw [settled, unbound]
        rfl
      rw [erased, Table.get?_erase, entries, left?, shown]
      by_cases isList : layoutsName = name
      · simp [Takes, isList]
      · by_cases isBound : name ∈ visit.bound
        · simp [Takes, isList, isBound]
        · simp [Takes, isList, isBound, Ne.symm isList]

/-- What stays bound when the page is left is plain. -/
theorem isValue_of_left (tidy : c.Tidy) {b : Binding} (left : c.left? name = some b) :
    ∃ v, b = .value v := by
  obtain ⟨-, -, -, -, owns⟩ := disposeVisit_owns tidy
  rw [← get?_disposeVisit] at left
  cases b with
  | value v => exact ⟨v, rfl⟩
  | store s => cases owns.refers name (.store s) left rfl
  | function f => cases owns.refers name (.function f) left rfl

theorem left?_of_none (noVisit : c.visit = none) : c.left? name = c.bindings.get? name := by
  rw [left?, noVisit]
  rfl

theorem left?_eq_none_iff {visit : Visit} (shown : c.visit = some visit) :
    c.left? name = none ↔ Takes visit name ∨ c.bindings.get? name = none := by
  rw [left?, shown, Option.any_some]
  by_cases takes : Takes visit name <;> simp [takes]

/-! ## While a page is being shown -/

/-- A client that is busy and has not bound a name. -/
def Lacks (name : String) (c : Client) : Prop := c.state ≠ .idle ∧ c.bindings.get? name = none

theorem withstands_lacks (name : String) :
    Withstands (fun _ : Unit => Reach.all) fun _ => Lacks name :=
  withstands_of_host fun _ _ lacks => lacks

theorem reacts_lacks (name : String) (n : Nat) :
    (Reactor.level n).Couples (.level n) .all (Selfsame (Lacks name)) := by
  refine Reactor.level_couples_busy (withstands_lacks name).couplesChanges ?_ n ()
  rintro _ c d ⟨-, busy, -⟩
  exact busy

theorem Lacks.bind (lacks : c.Lacks name) {other : String} (apart : other ≠ name)
    (b : Binding) : (c.bind other b).Lacks name := by
  refine ⟨lacks.1, ?_⟩
  rw [Client.bind, Table.get?_insert, if_neg apart]
  exact lacks.2

theorem couplesExport_lacks {other : String} (apart : other ≠ name) :
    CouplesExport .all (Selfsame (Lacks name)) other :=
  (withstands_lacks name).couplesExport (i := ()) (fun _ b lacks _ => lacks.bind apart b)
    (fun _ _ _ lacks => lacks) (fun _ _ _ lacks => lacks) fun _ _ lacks => lacks

/-- A module binds its names, and the visit knows them. -/
theorem bound_bindModule (r : Reactor) (m : Module) (visit : Visit) (c : Client) :
    (c.bindModule r m visit).1.bound = visit.bound ++ Table.names m := by
  induction m generalizing c visit with
  | nil => exact (List.append_nil _).symm
  | cons entry m inductionHypothesis =>
      obtain ⟨name, e⟩ := entry
      have first : (c.bindExport r name e visit).1.bound = visit.bound ++ [name] := by
        cases e <;> rfl
      rw [bindModule]
      dsimp only
      rw [inductionHypothesis, first, List.append_assoc]
      rfl

/-- A module binds no other names. -/
theorem bindModule_lacks {m : Module} (absent : name ∉ Table.names m) (visit : Visit)
    (lacks : c.Lacks name) : (c.bindModule (.level n) m visit).2.Lacks name := by
  induction m generalizing c visit with
  | nil => exact lacks
  | cons entry m inductionHypothesis =>
      obtain ⟨other, e⟩ := entry
      obtain ⟨apart, later⟩ := not_or.1 (mt List.mem_cons.2 absent)
      have bound := (bindExport_couples (couplesExport_lacks (Ne.symm apart))
        (reacts_lacks name n) ⟨rfl, lacks⟩ (show e.StaysIn .all from e.staysIn_all) visit).2.2
      exact inductionHypothesis later _ bound

theorem bindModule_takes {m : Module} {visit : Visit} (busy : c.state ≠ .idle)
    (free : Takes visit name ∨ c.bindings.get? name = none) :
    Takes (c.bindModule (.level n) m visit).1 name ∨
      (c.bindModule (.level n) m visit).2.bindings.get? name = none := by
  rw [Takes, bound_bindModule, List.mem_append]
  rcases free with (known | isList) | absent
  · exact .inl (.inl (.inl known))
  · exact .inl (.inr isList)
  · by_cases own : name ∈ Table.names m
    · exact .inl (.inl (.inr own))
    · exact .inr (bindModule_lacks own visit ⟨busy, absent⟩).2

theorem refreshComputed_lacks (lacks : c.Lacks name)
    (others : ∀ visit, c.visit = some visit → ∀ entry ∈ visit.computed, entry.1 ≠ name) :
    (c.refreshComputed (.level n)).Lacks name :=
  (refreshComputed_exports (reacts_lacks name n) rfl (fun _ _ entry _ => entry.2.staysIn_all)
    (fun visit shown entry member => couplesExport_lacks (others visit shown entry member))
    ⟨rfl, lacks⟩).2

theorem refreshLayouts_lacks (lacks : c.Lacks name) (apart : layoutsName ≠ name) :
    (c.refreshLayouts (.level n)).Lacks name :=
  (refreshLayouts_exports (reacts_lacks name n) rfl
    (fun _ _ _ _ entry _ => entry.2.staysIn_all.readsIn)
    (fun _ _ _ => couplesExport_lacks apart) ⟨rfl, lacks⟩).2

/-! ## Pages that leave nothing under a name -/

/-- A client that will leave nothing bound under a name, and whose page computes only
what it has bound. -/
structure Clear (name : String) (c : Client) : Prop where
  computed : ∀ visit, c.visit = some visit → ∀ entry ∈ visit.computed, entry.1 ∈ visit.bound
  left : c.left? name = none

/-- The same while a page is being shown. -/
structure ClearAmid (name : String) (c : Client) : Prop where
  busy : c.state ≠ .idle
  clear : c.Clear name

theorem Clear.of_page (clear : c.Clear name) (visit : d.visit = c.visit)
    (bindings : d.bindings.get? name = c.bindings.get? name) : d.Clear name where
  computed := visit ▸ clear.computed
  left := by
    rw [left?, visit, bindings]
    exact clear.left

/-- What a client does while it shows a page leaves a name clear, if it does not bind the
name unless the page takes it along. -/
theorem ClearAmid.stays (amid : c.ClearAmid name) (stays : c.Stays d)
    (lacks : c.Lacks name → (∀ visit, c.visit = some visit → ¬ Takes visit name) →
      d.Lacks name) : d.ClearAmid name := by
  have visit : d.visit = c.visit := by rw [stays.frame]
  have state : d.state = c.state := by rw [stays.frame]
  refine ⟨state ▸ amid.busy, visit ▸ amid.clear.computed, ?_⟩
  cases shown : c.visit with
  | none =>
      have absent := amid.clear.left
      rw [left?_of_none shown] at absent
      rw [left?_of_none (visit.trans shown)]
      exact (lacks ⟨amid.busy, absent⟩ fun visit isShown => by
        cases shown.symm.trans isShown).2
  | some page =>
      rw [left?_eq_none_iff (visit.trans shown)]
      by_cases takes : Takes page name
      · exact .inl takes
      · have absent := ((left?_eq_none_iff shown).1 amid.clear.left).resolve_left takes
        refine .inr (lacks ⟨amid.busy, absent⟩ fun visit isShown => ?_).2
        cases shown.symm.trans isShown
        exact takes

theorem refreshComputed_clear (amid : c.ClearAmid name) :
    (c.refreshComputed (.level n)).ClearAmid name := by
  refine amid.stays (refreshComputed_stays (Reactor.level_steady n) amid.busy)
    fun lacks others => refreshComputed_lacks lacks fun visit shown entry member same => ?_
  exact others visit shown (.inl (same ▸ amid.clear.computed visit shown entry member))

theorem refreshLayouts_clear (amid : c.ClearAmid name) :
    (c.refreshLayouts (.level n)).ClearAmid name := by
  refine amid.stays (refreshLayouts_stays (Reactor.level_steady n) amid.busy)
    fun lacks others => ?_
  rcases Option.eq_none_or_eq_some c.visit with shown | ⟨visit, shown⟩
  · rw [refreshLayouts, shown]
    exact lacks
  · exact refreshLayouts_lacks lacks fun same => others visit shown (.inr same.symm)

/-- Binding the exports of a module for a visit leaves a name clear. -/
theorem bindModule_clear {m : Module} {visit next : Visit} (busy : c.state ≠ .idle)
    (computed : ∀ entry ∈ visit.computed, entry.1 ∈ visit.bound)
    (free : Takes visit name ∨ c.bindings.get? name = none)
    (binds : c.bindModule (.level n) m visit = (next, d)) {shown : Visit}
    (bound : shown.bound = next.bound) (computes : shown.computed = next.computed) :
    ({ d with visit := some shown }).ClearAmid name := by
  have state := bindModule_state (Reactor.level_steady n) busy m visit
  have names := bound_bindModule (.level n) m visit c
  have takes := bindModule_takes (n := n) (m := m) busy free
  have computedBy := @mem_computed_of_bindModule c (.level n) m visit
  rw [binds] at state names takes computedBy
  refine ⟨state ▸ busy, ?_, ?_⟩
  · rintro _ ⟨⟩ entry member
    rw [computes] at member
    rw [bound, names, List.mem_append]
    rcases computedBy member with old | new
    · exact .inl (computed entry old)
    · exact .inr (List.mem_map_of_mem new)
  · refine (left?_eq_none_iff rfl).2 ?_
    rw [Takes, bound]
    exact takes

theorem bindLayout_clear (amid : c.ClearAmid name) (layout : String) :
    (c.bindLayout (.level n) registry layout).ClearAmid name := by
  rcases includes_or_binds (.level n) registry layout c with
    includes | ⟨visit, m, h, next, d, shown, -, binds, shape⟩
  · rwa [bindLayout_of_includes includes]
  rw [shape]
  apply refreshLayouts_clear
  exact bindModule_clear (c := { c with toHost := h }) amid.busy
    (amid.clear.computed visit shown) ((left?_eq_none_iff shown).1 amid.clear.left) binds rfl rfl

/-- A pass leaves a name clear, however it ends. -/
theorem renderPass_clear (clear : c.Clear name) (body : String) (focus : Option FocusTarget) :
    (renderPass (.level n) registry body focus c).2.ClearAmid name := by
  refine renderPass_steps (P := ClearAmid name) (fun c amid => refreshComputed_clear amid)
    (fun c amid => refreshLayouts_clear amid) (fun layout c amid => bindLayout_clear amid layout)
    (fun program c amid => ?_) (fun state busy c amid => ⟨busy, amid.clear.of_page rfl rfl⟩)
    (fun c document events amid => ⟨amid.busy, amid.clear.of_page rfl rfl⟩) body focus
    ⟨by simp, clear.of_page rfl rfl⟩
  obtain ⟨h, frame⟩ := render_frame n program amid.busy
  rw [frame]
  exact ⟨amid.busy, amid.clear.of_page rfl rfl⟩

theorem requestRender_clear (n : Nat) (focus : Option FocusTarget) :
    Keeps (Clear name) (requestRender (.level n) focus) := by
  intro c clear
  rcases requestRender_exits (.level n) focus c with
    ⟨answer, same⟩ | ⟨m, registry, report, body, -, -, -, -, ended⟩
  · rw [same]
    exact clear
  · rw [ended]
    exact (renderPass_clear clear body focus).clear.of_page rfl rfl

/-! ## Operations -/

theorem withstands_clear (name : String) :
    Withstands (fun _ : Unit => Reach.all) fun _ => Clear name :=
  withstands_of_host fun _ _ clear => clear.of_page rfl rfl

theorem reacts_clear (name : String) (n : Nat) :
    (Reactor.level n).Couples (.level n) .all (Selfsame (Clear name)) :=
  Reactor.level_couples (withstands_clear name).couplesChanges
    (fun n _ _ => (requestRender_clear n none).agree.relates) n ()

/-- A client without a page that has not bound a name. -/
theorem Clear.of_no_visit (noVisit : c.visit = none) (absent : c.bindings.get? name = none) :
    c.Clear name where
  computed visit shown := by cases noVisit.symm.trans shown
  left := (left?_of_none noVisit).trans absent

theorem Clear.absent (clear : c.Clear name) : c.disposeVisit.bindings.get? name = none :=
  (get?_disposeVisit c name).trans clear.left

theorem openPage_clear (clear : c.Clear name) (busy : c.state ≠ .idle)
    (isRoute : routeName ≠ name) (isContext : contextName ≠ name) (m : Route.Match) :
    (c.openPage (.level n) registry m).ClearAmid name := by
  have busyOn : (c.disposeVisit.installContext m).state ≠ .idle := by
    rwa [state_installContext]
  have absent : (c.disposeVisit.installContext m).bindings.get? name = none := by
    simp only [installContext, Client.bindValue, Client.bind, Table.get?_insert]
    rw [if_neg isContext, if_neg isRoute]
    exact clear.absent
  obtain ⟨module, h, next, d, -, binds, shape⟩ := exists_of_openPage (.level n) registry m c
  rw [shape]
  exact bindModule_clear (c := { c.disposeVisit.installContext m with toHost := h }) busyOn
    (by simp) (.inr absent) binds rfl rfl

/-- A navigation leaves a name clear, unless it is one of those for the route. -/
theorem navigate_clear (path : String) (kind : NavigationKind) (clear : c.Clear name)
    (isRoute : routeName ≠ name) (isContext : contextName ≠ name) :
    (navigate path kind c).2.Clear name := by
  obtain ⟨result, d, history, pass, ended⟩ := exists_of_navigate path kind c
  rw [ended]
  rcases matching_ends pass with
    ⟨-, loaded, state, -, rfl⟩ | ⟨site, -, rfl⟩ | ⟨site, m, body, -, rfl⟩
  · exact clear.of_page rfl rfl
  · have matching : ({ c with state := .matching, loaded := some site }).Clear name :=
      clear.of_page rfl rfl
    refine .of_no_visit (disposeVisit_visit _) ?_
    simp only [showNotFound, Client.showMarkup, Client.unbind, Table.get?_erase]
    rw [if_neg isContext, if_neg isRoute]
    exact matching.absent
  · have loading : ({ c with state := .loading, loaded := some site }).Clear name :=
      clear.of_page rfl rfl
    have opened : (openPage (.level maxChain) site.1 m
        { c with state := .loading, loaded := some site }).ClearAmid name :=
      openPage_clear loading (by simp) isRoute isContext m
    exact (renderPass_clear opened.clear body none).clear.of_page rfl rfl

theorem dispatch_clear {elementId event : String} {input : EventInput}
    (spares : (Operation.dispatch elementId event input).spares name c = true)
    (clear : c.Clear name) : (dispatch elementId event input c).2.Clear name := by
  have names := (withstands_clear name).couplesNames fun clear _ b _ =>
    ⟨(), clear, fun _ clear => clear, b.staysIn_all⟩
  refine dispatch_of_spares (i := ()) names (fun _ => reacts_clear name maxChain)
    (fun _ => trivial) (requestRender_clear maxChain) spares (fun apart c v clear => ?_) clear
  exact clear.of_page rfl ((Table.get?_insert _ _ _ _).trans (if_neg apart))

/-- Nothing but a script that assigns to a name leaves it bound. -/
theorem run_clear {operation : Operation} (isRoute : routeName ≠ name)
    (isContext : contextName ≠ name) (spares : operation.spares name c = true)
    (clear : c.Clear name) : (operation.run c).Clear name := by
  by_cases navigates : operation.navigates = true
  · rcases operation.run_of_navigates navigates c with
      same | ⟨path, kind, history, same⟩
    · rwa [same]
    · rw [same]
      exact navigate_clear path kind (clear.of_page rfl rfl) isRoute isContext
  · have actions := (withstands_clear name).couplesChanges.actions ()
    have reacts := reacts_clear name maxChain
    cases operation with
    | render => exact requestRender_clear maxChain none c clear
    | dispatch elementId event input => exact dispatch_clear spares clear
    | setStore s v => exact offer_keeps (reacts.keeps fun _ => trivial) s v clear
    | perform a => exact (a.run_couples actions reacts a.staysIn_all c c ⟨rfl, clear⟩).2.2
    | _ => exact absurd rfl navigates

/-- Only names that scripts have assigned to in the course of some operations are left
bound by the page that is then shown, apart from those for its route. -/
theorem after_clear {operations : List Operation} (isRoute : routeName ≠ name)
    (isContext : contextName ≠ name) (spares : c.spares name operations = true)
    (clear : c.Clear name) : (c.after operations).Clear name := by
  induction operations generalizing c with
  | nil => exact clear
  | cons operation operations inductionHypothesis =>
      rw [Client.spares, Bool.and_eq_true] at spares
      exact inductionHypothesis spares.2 (run_clear isRoute isContext spares.1 clear)

end LivePages.Client
