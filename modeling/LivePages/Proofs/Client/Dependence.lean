import LivePages.Proofs.Client.Coupling
import LivePages.Proofs.Program.Enclosing
import LivePages.Proofs.Program.Stack
import LivePages.Proofs.Table

/-!
# What a page depends on

A page is rendered from the bindings of a client.  Only those of the names that it
mentions make a difference, as long as the functions among them have nothing to do with
bindings: then another table that agrees on these names gives the same text, or the same
error.  That is so for each part of a page too, with the variables of the loops around it.
-/

namespace LivePages

variable {r : Reactor} {c : Client} {names : List String} {other : Bindings}

/-! ## Tables -/

/-- The same client with another table of bindings. -/
def Client.rebind (bindings : Bindings) (c : Client) : Client := { c with bindings }

/-- Whether an action neither reads nor changes the bindings of a client. -/
def Action.SparesBindings (r : Reactor) (a : Action) (c : Client) : Prop :=
  ∀ other, a.run r (c.rebind other) = ((a.run r c).1, (a.run r c).2.rebind other)

namespace Client

@[simp] theorem valueOf_rebind (b : Binding) : (c.rebind other).valueOf b = c.valueOf b := by
  cases b <;> rfl

@[simp] theorem rebind_bindings : (c.rebind other).bindings = other := rfl

/-- What a client may become when functions that it binds to some names are called. -/
inductive AfterCalls (r : Reactor) (names : List String) (c : Client) : Client → Prop
  | start : AfterCalls r names c c
  | call {d : Client} {name : String} {f : List Value → Action}
      (before : AfterCalls r names c d) (mentioned : name ∈ names)
      (bound : c.bindings.get? name = some (.function f)) (args : List Value) :
      AfterCalls r names c ((f args).run r d).2

/-- Whether the functions of some names neither read nor change bindings, whenever they
are called. -/
def SparesBindings (r : Reactor) (names : List String) (c : Client) : Prop :=
  ∀ d, c.AfterCalls r names d → ∀ name ∈ names, ∀ f,
    c.bindings.get? name = some (.function f) → ∀ args, (f args).SparesBindings r d

/-- Whether a table agrees with that of a client on a name, as long as functions of some
names are called.  Both bind the name to the same or not at all.  Or both bind it to
something with one value, in the table or in a store, which no call changes. -/
inductive AgreesOn (r : Reactor) (names : List String) (c : Client) (other : Bindings)
    (name : String) : Prop
  | same (same : other.get? name = c.bindings.get? name)
  | value {b otherB : Binding} (bound : c.bindings.get? name = some b)
      (otherBound : other.get? name = some otherB) (noFunction : ∀ f, b ≠ .function f)
      (otherNoFunction : ∀ f, otherB ≠ .function f)
      (shows : ∀ d, c.AfterCalls r names d →
        d.valueOf b = c.valueOf b ∧ d.valueOf otherB = c.valueOf b)

theorem AfterCalls.bindings (spares : c.SparesBindings r names) {d : Client}
    (after : c.AfterCalls r names d) : d.bindings = c.bindings := by
  induction after with
  | start => rfl
  | @call d name f before mentioned bound args kept =>
      have same := spares d before name mentioned f bound args d.bindings
      exact (congrArg (fun ran => ran.2.bindings) same).trans kept

theorem call_of_noFunction {name : String} {b : Binding} (bound : c.bindings.get? name = some b)
    (noFunction : ∀ f, b ≠ .function f) (args : List Value) :
    c.call r name args = (.error (.notCallable name), c) := by
  unfold call
  rw [bound]
  cases b with
  | value v => rfl
  | store s => rfl
  | function f => exact absurd rfl (noFunction f)

/-! ## Two runs -/

/-- A client after some calls, and the same client with another table. -/
def Rebound (r : Reactor) (names : List String) (c : Client) (other : Bindings)
    (d e : Client) : Prop :=
  c.AfterCalls r names d ∧ e = d.rebind other

section Tables

variable (spares : c.SparesBindings r names)

include spares

theorem lookup_rebound {name : String} (agrees : c.AgreesOn r names other name) {d : Client}
    (after : c.AfterCalls r names d) : (d.rebind other).lookup name = d.lookup name := by
  unfold lookup
  rw [after.bindings spares, rebind_bindings]
  cases agrees with
  | same same =>
      rw [same]
      cases c.bindings.get? name with
      | none => rfl
      | some b => exact congrArg Except.ok (valueOf_rebind b)
  | value bound otherBound _ _ shows =>
      rw [bound, otherBound]
      dsimp only
      rw [valueOf_rebind, (shows d after).1, (shows d after).2]

theorem call_rebound {name : String} (mentioned : name ∈ names)
    (agrees : c.AgreesOn r names other name) (args : List Value) :
    Relates (Rebound r names c other) (call r name args) (call r name args) := by
  rintro d _ ⟨after, rfl⟩
  have kept := after.bindings spares
  cases agrees with
  | same same =>
      unfold call
      rw [kept, rebind_bindings, same]
      cases bound : c.bindings.get? name with
      | none => exact ⟨rfl, after, rfl⟩
      | some b =>
          cases b with
          | value v => exact ⟨rfl, after, rfl⟩
          | store s => exact ⟨rfl, after, rfl⟩
          | function f =>
              have ran := spares d after name mentioned f bound args other
              dsimp only
              rw [ran]
              exact ⟨rfl, after.call mentioned bound args, rfl⟩
  | value bound otherBound noFunction otherNoFunction _ =>
      have otherCall : (d.rebind other).call r name args = (.error (.notCallable name), _) :=
        call_of_noFunction otherBound otherNoFunction args
      rw [← kept] at bound
      rw [otherCall, call_of_noFunction bound noFunction args]
      exact ⟨rfl, after, rfl⟩

/-- A name that two tables agree on means the same with both. -/
theorem sameMeaning_rebound {locals : Locals} {name : String}
    (mentioned : locals.lookup name = none → name ∈ names)
    (agrees : name ∈ names → c.AgreesOn r names other name) :
    SameMeaning (Rebound r names c other) (surroundings r) locals (surroundings r) locals
      name where
  lookup := by
    rintro d _ ⟨after, rfl⟩
    unfold Expr.lookup
    cases isVariable : locals.lookup name with
    | some v => exact ⟨rfl, after, rfl⟩
    | none =>
        exact ⟨lookup_rebound spares (agrees (mentioned isVariable)) after, after, rfl⟩
  call args := by
    unfold Expr.callName
    cases isVariable : locals.lookup name with
    | some v => exact .throw _
    | none =>
        exact call_rebound spares (mentioned isVariable) (agrees (mentioned isVariable)) args

end Tables

section Parts

variable {locals : Locals} {part : List Instruction}

/-- A part of a page comes to the same with a table that agrees on the names it
mentions. -/
theorem renderAll_rebound (spares : c.SparesBindings r (Instruction.freeNames locals part))
    (agrees : ∀ name ∈ Instruction.freeNames locals part,
      c.AgreesOn r (Instruction.freeNames locals part) other name) :
    let render := Instruction.renderAll (surroundings r).evaluator locals part
    (render c).2.bindings = c.bindings ∧
      render (c.rebind other) = ((render c).1, (render c).2.rebind other) := by
  intro render
  have same : Relates (Rebound r (Instruction.freeNames locals part) c other) render render :=
    Instruction.renderAll_sameMeaning part fun name inside =>
      sameMeaning_rebound spares (Instruction.mem_freeNames inside) (agrees name)
  obtain ⟨result, after, rebound⟩ := same c (c.rebind other) ⟨.start, rfl⟩
  exact ⟨after.bindings spares, Prod.ext result rebound⟩

/-- Whether a client stays as it is when functions that it binds to some names are
called. -/
def UnmovedBy (r : Reactor) (names : List String) (c : Client) : Prop :=
  ∀ name ∈ names, ∀ f, c.bindings.get? name = some (.function f) →
    ∀ args, ((f args).run r c).2 = c

theorem UnmovedBy.call (unmoved : c.UnmovedBy r names) {name : String} (mentioned : name ∈ names)
    (args : List Value) : (Client.call r name args c).2 = c := by
  unfold Client.call
  cases bound : c.bindings.get? name with
  | none => rfl
  | some b =>
      cases b with
      | value v => rfl
      | store s => rfl
      | function f => exact unmoved name mentioned f bound args

theorem UnmovedBy.renderAll (unmoved : c.UnmovedBy r (Instruction.freeNames locals part)) :
    (Instruction.renderAll (surroundings r).evaluator locals part c).2 = c := by
  have same : Relates (fun d e => d = c ∧ e = c)
      (Instruction.renderAll (surroundings r).evaluator locals part)
      (Instruction.renderAll (surroundings r).evaluator locals part) := by
    refine Instruction.renderAll_sameMeaning part fun name inside => ⟨?_, fun args => ?_⟩
    · rintro _ _ ⟨rfl, rfl⟩
      unfold Expr.lookup
      cases locals.lookup name <;> exact ⟨rfl, rfl, rfl⟩
    · unfold Expr.callName
      cases free : locals.lookup name with
      | some v => exact .throw _
      | none =>
          have called := unmoved.call (Instruction.mem_freeNames inside free) args
          rintro _ _ ⟨rfl, rfl⟩
          exact ⟨rfl, called, called⟩
  exact (same c c ⟨rfl, rfl⟩).2.1

theorem AfterCalls.eq_of_unmoved (unmoved : c.UnmovedBy r names) {d : Client}
    (after : c.AfterCalls r names d) : d = c := by
  induction after with
  | start => rfl
  | call before mentioned bound args same =>
      rw [same]
      exact unmoved _ mentioned _ bound args

/-- If no function moves the client, two bindings need to have one value only now. -/
theorem UnmovedBy.agreesOn (unmoved : c.UnmovedBy r names) {name : String} {b otherB : Binding}
    (bound : c.bindings.get? name = some b) (otherBound : other.get? name = some otherB)
    (noFunction : ∀ f, b ≠ .function f) (otherNoFunction : ∀ f, otherB ≠ .function f)
    (same : c.valueOf otherB = c.valueOf b) : c.AgreesOn r names other name := by
  refine .value bound otherBound noFunction otherNoFunction fun d after => ?_
  rw [after.eq_of_unmoved unmoved]
  exact ⟨rfl, same⟩

/-- If the functions of a page leave the client as it is, the text of the page has that
of each of its parts in it. -/
theorem exists_middle {before after : List Instruction}
    (unmoved : c.UnmovedBy r (Instruction.freeNames locals (before ++ part ++ after)))
    {text : String}
    (done : (Instruction.renderAll (surroundings r).evaluator locals
      (before ++ part ++ after) c).1 = .ok text) :
    ∃ front middle back, text = front ++ middle ++ back ∧
      (Instruction.renderAll (surroundings r).evaluator locals part c).1 = .ok middle := by
  have unmovedBefore : c.UnmovedBy r (Instruction.freeNames locals before) := by
    intro name mentioned
    apply unmoved name
    rw [Instruction.freeNames_append, Instruction.freeNames_append]
    exact List.mem_append_left _ (List.mem_append_left _ mentioned)
  rcases result : Instruction.renderAll (surroundings r).evaluator locals
    (before ++ part ++ after) c with ⟨outcome, last⟩
  rw [result] at done
  subst done
  rw [Instruction.renderAll_append, Instruction.renderAll_append] at result
  obtain ⟨start, _, startDone, result⟩ := exists_of_bind result
  obtain ⟨front, d, frontDone, startDone⟩ := exists_of_bind startDone
  obtain ⟨middle, _, middleDone, startDone⟩ := exists_of_bind startDone
  obtain ⟨back, _, -, result⟩ := exists_of_bind result
  cases startDone
  cases result
  have still := unmovedBefore.renderAll
  rw [frontDone] at still
  obtain rfl : d = c := still
  exact ⟨front, middle, back, rfl, congrArg Prod.fst middleDone⟩

end Parts

/-! ## While a page is being shown -/

/-- A busy client, and the same client with another table. -/
def BusyRebound (other : Bindings) (d e : Client) : Prop := e = d.rebind other ∧ d.state ≠ .idle

namespace BusyRebound

variable {d e : Client}

theorem host (rebound : BusyRebound other d e) : e.toHost = d.toHost := by
  rw [rebound.1]
  rfl

theorem onHost (rebound : BusyRebound other d e) (change : Host → Host) :
    BusyRebound other (d.onHost change) (e.onHost change) := by
  obtain ⟨rfl, busy⟩ := rebound
  exact ⟨rfl, busy⟩

theorem couples (other : Bindings) : Couples .all (BusyRebound other) where
  read rebound _ := congrArg (fun h : Host => h.readStore _) rebound.host
  accept rebound _ v := congrArg (fun h : Host => h.accept _ v) rebound.host
  listen rebound _ react _ :=
    ⟨congrArg (fun h : Host => (h.subscribe _ (.host react)).1) rebound.host,
      rebound.onHost fun h => (h.subscribe _ (.host react)).2⟩
  forget rebound _ id := rebound.onHost (Host.forget _ id)
  retrieve rebound _ := congrArg (fun h : Host => h.memory.get? _) rebound.host
  keep rebound _ v := rebound.onHost fun h => { h with memory := Table.insert _ v h.memory }
  note rebound entry := rebound.onHost fun h => { h with log := h.log ++ [entry] }

theorem couplesChanges (other : Bindings) :
    CouplesChanges (fun _ : Unit => .all) fun _ => BusyRebound other where
  actions _ := couples other
  number rebound := by
    rw [rebound.1]
    rfl
  state rebound := by
    rw [rebound.1]
    rfl
  write rebound _ v := rebound.onHost (Host.onStore _ fun store => { store with value := v })
  heard {_ c d s} rebound _ := by
    have same : d.listeners s = c.listeners s :=
      congrArg (fun h : Host => h.listeners s) rebound.host
    refine ⟨same, (), .refl rebound, trivial, fun entry _ => ?_⟩
    cases entry.2 with
    | host react => exact fun v => (react v).staysIn_all
    | slot client area key => exact fun c d text rebound => rebound.onHost _
    | rerender client => trivial
  exhaust rebound := rebound.onHost fun h => { h with exhausted := true }

end BusyRebound

/-- While a page is being shown no action has to do with bindings: a render would, but
none is begun. -/
theorem run_busyRebound (n : Nat) (a : Action) (busy : c.state ≠ .idle) (other : Bindings) :
    BusyRebound other (a.run (.level n) c).2 (a.run (.level n) (c.rebind other)).2 ∧
      (a.run (.level n) (c.rebind other)).1 = (a.run (.level n) c).1 := by
  have changes := BusyRebound.couplesChanges other
  obtain ⟨result, rebound⟩ := a.run_couples (changes.actions ())
    (Reactor.level_couples_busy changes And.right n ()) a.staysIn_all c _ ⟨rfl, busy⟩
  exact ⟨rebound, result⟩

theorem sparesBindings_of_busy (busy : c.state ≠ .idle) (n : Nat) (names : List String) :
    c.SparesBindings (.level n) names := by
  intro d after name _ f _ args table
  have busyToo : d.state ≠ .idle := by
    induction after with
    | start => exact busy
    | call before mentioned bound args busyBefore =>
        exact (run_busyRebound n _ busyBefore []).1.2
  obtain ⟨rebound, result⟩ := run_busyRebound n (f args) busyToo table
  exact Prod.ext result rebound.1

/-! ## Dependence -/

/-- The text of a part of a page, or the error it ends with, depends on nothing but the
names that the part mentions and that are no variables of loops around it, as long as
their functions spare bindings, as all do while a page is being shown.  A whole program
is a part without loops around it.  So a name that is bound does not change a part that
does not mention it, and if no function moves the client, it does not change that part
within a page either.  And the variables of loops are bound nowhere: a stack that holds
them is afterwards what it was. -/
theorem render_depends_on_names (r : Reactor) (c : Client) (locals : Locals)
    (part : List Instruction) :
    let render := Instruction.renderAll (surroundings r).evaluator locals
    let names := Instruction.freeNames locals part
    (c.SparesBindings r names →
      (render part c).2.bindings = c.bindings ∧
      (∀ other, (∀ name ∈ names, c.AgreesOn r names other name) →
        render part (c.rebind other) = ((render part c).1, (render part c).2.rebind other)) ∧
      (∀ name, name ∉ names → ∀ b,
        render part (c.bind name b) = ((render part c).1, (render part c).2.bind name b)) ∧
      ∀ before after other, (∀ name ∈ names, c.AgreesOn r names other name) →
        let page := before ++ part ++ after
        c.UnmovedBy r (Instruction.freeNames locals page) →
        (c.rebind other).UnmovedBy r (Instruction.freeNames locals page) →
        ∀ text otherText, (render page c).1 = .ok text →
          (render page (c.rebind other)).1 = .ok otherText →
          ∃ front middle back otherFront otherBack, (render part c).1 = .ok middle ∧
            text = front ++ middle ++ back ∧ otherText = otherFront ++ middle ++ otherBack) ∧
    (∀ n, c.state ≠ .idle → c.SparesBindings (.level n) names) ∧
    Instruction.renderStackedAll (surroundings r).evaluator part (locals, c) =
      ((render part c).1, locals, (render part c).2) := by
  intro render names
  refine ⟨fun spares => ⟨?_, fun other agrees => ?_, fun name unmentioned b => ?_, ?_⟩,
    fun n busy => sparesBindings_of_busy busy n names, ?_⟩
  · have agrees : ∀ name ∈ names, c.AgreesOn r names c.bindings name := fun _ _ => .same rfl
    exact (renderAll_rebound spares agrees).1
  · exact (renderAll_rebound spares agrees).2
  · have agrees : ∀ mentioned ∈ names,
        c.AgreesOn r names (Table.insert name b c.bindings) mentioned := by
      intro mentioned inside
      refine .same ?_
      rw [Table.get?_insert, if_neg (ne_of_mem_of_not_mem inside unmentioned).symm]
    have kept : (render part c).2.bindings = c.bindings := (renderAll_rebound spares agrees).1
    rw [bind, bind, kept]
    exact (renderAll_rebound spares agrees).2
  · intro before after other agrees page unmoved otherUnmoved text otherText done otherDone
    obtain ⟨front, middle, back, shape, middleDone⟩ := exists_middle unmoved done
    obtain ⟨otherFront, otherMiddle, otherBack, otherShape, otherMiddleDone⟩ :=
      exists_middle otherUnmoved otherDone
    rw [(renderAll_rebound spares agrees).2, middleDone] at otherMiddleDone
    cases otherMiddleDone
    exact ⟨front, middle, back, otherFront, otherBack, middleDone, shape, otherShape⟩
  · rw [Instruction.renderStackedAll_eq]
    rfl

/-- Some items, each as a function writes it, and how many there are. -/
def itemList : List Instruction :=
  [.loop "x of xs" [.append ⟨[.expr "show(x)", .literal ";"]⟩], .append ⟨[.expr "n"]⟩]

/-- A function that gives back what it is called with. -/
def giveBack (args : List Value) : Action := .return (args.headD .null)

/-- A client in the middle of a pass.  A store holds how many items there are. -/
def itemClient : Client :=
  { bare {} with
    stores := [.new .integer (.num (.int 2)) false]
    state := .rendering
    bindings := [("title", .value (.str "A:")), ("show", .function giveBack),
      ("xs", .value (.arr [.str "a", .str "b"])), ("n", .store 0)] }

/-- The same names under another title, and with a value in the place of the store. -/
def retitled : Bindings :=
  [("n", .value (.num (.int 2))), ("show", .function giveBack),
    ("xs", .value (.arr [.str "a", .str "b"])), ("title", .value (.str "B:"))]

theorem unmovedBy_of_giveBack
    (onlyOne : ∀ name f, (name, Binding.function f) ∈ c.bindings → f = giveBack) :
    c.UnmovedBy r names := by
  intro name _ f bound args
  rw [onlyOne name f (Table.mem_of_get? bound)]
  rfl

/-- The list does not mention the title, so it is the same under both titles. -/
theorem render_depends_on_names_items :
    let names := Instruction.freeNames [] itemList
    let page := [.append ⟨[.expr "title"]⟩] ++ itemList ++ []
    let render := Instruction.renderAll (surroundings reactor).evaluator []
    itemClient.SparesBindings reactor names ∧
      (∀ name ∈ names, itemClient.AgreesOn reactor names retitled name) ∧
      itemClient.UnmovedBy reactor (Instruction.freeNames [] page) ∧
      (itemClient.rebind retitled).UnmovedBy reactor (Instruction.freeNames [] page) ∧
      render itemList (itemClient.rebind retitled) =
        ((render itemList itemClient).1, (render itemList itemClient).2.rebind retitled) ∧
      ∃ front middle back otherFront otherBack,
        (render itemList itemClient).1 = .ok middle ∧ "A:a;b;2" = front ++ middle ++ back ∧
          "B:a;b;2" = otherFront ++ middle ++ otherBack := by
  intro names page render
  obtain ⟨dependence, busy, -⟩ := render_depends_on_names reactor itemClient [] itemList
  have spares : itemClient.SparesBindings reactor names := busy maxChain (by decide)
  have unmoved : ∀ mentioned, itemClient.UnmovedBy reactor mentioned :=
    fun _ => unmovedBy_of_giveBack (by simp [itemClient])
  have otherUnmoved : ∀ mentioned,
      (itemClient.rebind retitled).UnmovedBy reactor mentioned :=
    fun _ => unmovedBy_of_giveBack (by simp [retitled])
  have agrees : ∀ name ∈ names, itemClient.AgreesOn reactor names retitled name := by
    have mentioned : names = ["xs", "show", "n"] := by decide +kernel
    intro name inside
    rw [mentioned] at inside
    simp only [List.mem_cons, List.not_mem_nil, or_false] at inside
    rcases inside with rfl | rfl | rfl
    · exact .same rfl
    · exact .same rfl
    · exact (unmoved names).agreesOn (b := .store 0) rfl rfl nofun nofun rfl
  have done : (render page itemClient).1.toOption = some "A:a;b;2" := by decide +kernel
  have otherDone : (render page (itemClient.rebind retitled)).1.toOption =
      some "B:a;b;2" := by
    decide +kernel
  obtain ⟨-, rebound, -, parts⟩ := dependence spares
  refine ⟨spares, agrees, unmoved _, otherUnmoved _, rebound retitled agrees, ?_⟩
  exact parts _ [] retitled agrees (unmoved _) (otherUnmoved _) _ _
    (eq_ok_of_toOption done) (eq_ok_of_toOption otherDone)

/-- A loop variable hides a name that is bound, and not behind the loop. -/
example :
    let page : Program :=
      [.loop "x of xs" [.append ⟨[.expr "x", .literal ";"]⟩], .append ⟨[.expr "x"]⟩]
    let client := (bare {}).rebind
      [("xs", .value (.arr [.str "a", .str "b"])), ("x", .value (.str "c"))]
    Instruction.freeNames [] page = ["xs", "x"] ∧
      (page.render (surroundings reactor).evaluator client).1.toOption = some "a;b;c" := by
  decide +kernel

end Client

end LivePages
