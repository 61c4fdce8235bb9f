import LivePages.Proofs.Event.Numbering
import LivePages.Proofs.Text

/-!
# Indexed documents

Indexing walks over the live elements once.  An element gets its id first and has its
event attributes registered then, so the listeners can be read off the numbered tree:
for each id and event the last attribute that asks for it wins, and what it gives is
the name of a handler or a script.  In a numbered tree every live element has its id,
and a second walk finds nothing to number.
-/

namespace LivePages.EventIndex

open Markup

/-! ## Registered attributes -/

/-- Whether an attribute is that of an event: the sigil with the event behind it. -/
def ListensTo (settings : BindingSettings) (event : String) (a : Attribute) : Prop :=
  event ≠ "" ∧ a.name.toList = settings.eventSigil :: event.toList

instance (settings : BindingSettings) (event : String) (a : Attribute) :
    Decidable (ListensTo settings event a) :=
  inferInstanceAs (Decidable (_ ∧ _))

/-- The attributes that ask for an event on the elements with that id, in document
order. -/
def asking (settings : BindingSettings) (id event : String) (elements : List Element) :
    List Attribute :=
  (elements.filter fun e => e.id? = some id).flatMap fun e =>
    e.attributes.filter fun a => ListensTo settings event a

/-- What an attribute gives for its event: the name of a handler, without the blanks
around it, for an event of input, and a script for any other. -/
inductive Gives (settings : BindingSettings) (event : String) (a : Attribute) :
    EventAction → Prop where
  | handler {name : String} (input : event ∈ settings.inputEvents)
      (trims : Text.Trims (a.value.getD "").toList name.toList) :
      Gives settings event a (.handler name)
  | script (other : event ∉ settings.inputEvents) :
      Gives settings event a (.script (a.value.getD ""))

/-- The listener of an element to an event, as an attribute asks for it. -/
def listenerOf (settings : BindingSettings) (id event : String) (a : Attribute) : EventBinding :=
  ⟨id, event, actionOf settings event a.valueOrEmpty⟩

variable {settings : BindingSettings}

theorem eventOf?_eq_some_iff {a : Attribute} {event : String} :
    eventOf? settings a = some event ↔ ListensTo settings event a := by
  unfold eventOf? ListensTo
  cases spelled : a.name.toList with
  | nil => simp
  | cons c rest =>
      have named : String.ofList rest = event ↔ rest = event.toList := by
        rw [← String.toList_inj, String.toList_ofList]
      have filled : rest = event.toList → (rest ≠ [] ↔ event ≠ "") := by
        rintro rfl
        rw [not_iff_not, String.toList_eq_nil_iff]
      dsimp only
      rw [Option.ite_none_right_eq_some, Option.some.injEq, named, List.cons.injEq]
      constructor
      · rintro ⟨⟨sigil, some⟩, same⟩
        exact ⟨(filled same).1 some, sigil, same⟩
      · rintro ⟨some, sigil, same⟩
        exact ⟨⟨sigil, (filled same).2 some⟩, same⟩

/-- An attribute gives one action for an event. -/
theorem gives_iff {event : String} {a : Attribute} {action : EventAction} :
    Gives settings event a action ↔ actionOf settings event a.valueOrEmpty = action := by
  rw [actionOf, BindingSettings.isInputEvent, Attribute.valueOrEmpty]
  by_cases input : event ∈ settings.inputEvents
  · rw [if_pos (List.contains_iff_mem.2 input)]
    constructor
    · rintro (⟨-, trims⟩ | other)
      · rw [Text.trim_eq_iff.2 trims, String.ofList_toList]
      · exact absurd input other
    · rintro rfl
      apply Gives.handler input
      rw [String.toList_ofList]
      exact Text.trims_trim _
  · rw [if_neg (mt List.contains_iff_mem.1 input)]
    constructor
    · rintro (⟨isInput, -⟩ | -)
      · exact absurd isInput input
      · rfl
    · rintro rfl
      exact .script input

/-- Two listeners that a registry cannot hold at once. -/
def Meets (b c : EventBinding) : Prop := b.elementId = c.elementId ∧ b.event = c.event

/-- A registry with at most one listener for each element and event. -/
def Distinct (registry : EventRegistry) : Prop := registry.Pairwise fun b c => ¬ Meets b c

theorem get?_cons (b : EventBinding) (registry : EventRegistry) (id event : String) :
    EventRegistry.get? (b :: registry) id event =
      if b.elementId = id ∧ b.event = event then some b else registry.get? id event := by
  rw [EventRegistry.get?, List.find?_cons]
  by_cases same : b.elementId = id ∧ b.event = event
  · rw [if_pos same]
    simp [same]
  · rw [if_neg same]
    have other : (decide (b.elementId = id) && decide (b.event = event)) = false := by
      simpa using same
    rw [other]
    rfl

theorem get?_register (new : EventBinding) (registry : EventRegistry) (id event : String) :
    (registry.register new).get? id event =
      if new.elementId = id ∧ new.event = event then some new
      else registry.get? id event := by
  induction registry with
  | nil => exact get?_cons new [] id event
  | cons b registry inductionHypothesis =>
      rw [EventRegistry.register]
      by_cases meets : b.elementId = new.elementId ∧ b.event = new.event
      · rw [if_pos meets, get?_cons, get?_cons, meets.1, meets.2]
        by_cases same : new.elementId = id ∧ new.event = event
        · rw [if_pos same, if_pos same]
        · rw [if_neg same, if_neg same, if_neg same]
      · rw [if_neg meets, get?_cons, inductionHypothesis, get?_cons]
        by_cases same : b.elementId = id ∧ b.event = event
        · have apart : ¬ (new.elementId = id ∧ new.event = event) := by
            rintro ⟨rfl, rfl⟩
            exact meets same
          rw [if_pos same, if_neg apart, if_pos same]
        · rw [if_neg same, if_neg same]

theorem mem_of_mem_register {new b : EventBinding} {registry : EventRegistry}
    (member : b ∈ registry.register new) : b = new ∨ b ∈ registry := by
  induction registry with
  | nil => exact .inl (List.mem_singleton.1 member)
  | cons c registry inductionHypothesis =>
      rw [EventRegistry.register] at member
      split at member
      · rcases List.mem_cons.1 member with here | later
        · exact .inl here
        · exact .inr (List.mem_cons_of_mem _ later)
      · rcases List.mem_cons.1 member with here | later
        · exact .inr (here ▸ List.mem_cons_self)
        · exact (inductionHypothesis later).imp_right (List.mem_cons_of_mem _)

theorem distinct_register {registry : EventRegistry} (distinct : Distinct registry)
    (new : EventBinding) : Distinct (registry.register new) := by
  induction registry with
  | nil => exact List.pairwise_singleton _ _
  | cons b registry inductionHypothesis =>
      obtain ⟨apart, later⟩ := List.pairwise_cons.1 distinct
      rw [EventRegistry.register]
      by_cases meets : b.elementId = new.elementId ∧ b.event = new.event
      · rw [if_pos meets]
        refine List.pairwise_cons.2 ⟨fun c member same => ?_, later⟩
        exact apart c member ⟨meets.1.trans same.1, meets.2.trans same.2⟩
      · rw [if_neg meets]
        refine List.pairwise_cons.2 ⟨fun c member same => ?_, inductionHypothesis later⟩
        rcases mem_of_mem_register member with rfl | old
        · exact meets same
        · exact apart c old same

theorem registerAll_cons (own : String) (a : Attribute) (attributes : List Attribute)
    (registry : EventRegistry) :
    registerAll settings own (a :: attributes) registry =
      registerAll settings own attributes
        (match eventOf? settings a with
        | some event => registry.register (listenerOf settings own event a)
        | none => registry) := rfl

theorem distinct_registerAll (own : String) (attributes : List Attribute)
    {registry : EventRegistry} (distinct : Distinct registry) :
    Distinct (registerAll settings own attributes registry) := by
  induction attributes generalizing registry with
  | nil => exact distinct
  | cons a attributes inductionHypothesis =>
      rw [registerAll_cons]
      apply inductionHypothesis
      cases eventOf? settings a with
      | none => exact distinct
      | some event => exact distinct_register distinct _

/-- The last of the attributes that ask for an event is the one that counts. -/
theorem get?_registerAll_self (id : String) (attributes : List Attribute)
    (registry : EventRegistry) (event : String) :
    (registerAll settings id attributes registry).get? id event =
      ((attributes.filter fun a => ListensTo settings event a).getLast?.map
        (listenerOf settings id event)).or (registry.get? id event) := by
  induction attributes generalizing registry with
  | nil => rfl
  | cons a attributes inductionHypothesis =>
      rw [registerAll_cons, inductionHypothesis]
      by_cases listens : ListensTo settings event a
      · rw [eventOf?_eq_some_iff.2 listens, List.filter_cons_of_pos (by simpa using listens),
          List.getLast?_cons, get?_register, if_pos ⟨rfl, rfl⟩]
        cases (attributes.filter fun a => ListensTo settings event a).getLast? <;> rfl
      · rw [List.filter_cons_of_neg (by simpa using listens)]
        cases other : eventOf? settings a with
        | none => rfl
        | some e =>
            have apart : ¬ (id = id ∧ e = event) := by
              rintro ⟨-, rfl⟩
              exact listens (eventOf?_eq_some_iff.1 other)
            dsimp only
            rw [get?_register, listenerOf, if_neg apart]

theorem get?_registerAll_other {own id : String} (other : own ≠ id)
    (attributes : List Attribute) (registry : EventRegistry) (event : String) :
    (registerAll settings own attributes registry).get? id event = registry.get? id event := by
  induction attributes generalizing registry with
  | nil => rfl
  | cons a attributes inductionHypothesis =>
      rw [registerAll_cons, inductionHypothesis]
      cases eventOf? settings a with
      | none => rfl
      | some e =>
          dsimp only
          rw [get?_register, listenerOf, if_neg fun same => other same.1]

/-- Registers the listeners of elements that have their ids. -/
def registerLive (settings : BindingSettings) (elements : List Element)
    (registry : EventRegistry) : EventRegistry :=
  elements.foldl (fun registry e => registerAll settings (e.id?.getD "") e.attributes registry)
    registry

theorem distinct_registerLive (elements : List Element) {registry : EventRegistry}
    (distinct : Distinct registry) : Distinct (registerLive settings elements registry) := by
  induction elements generalizing registry with
  | nil => exact distinct
  | cons e elements inductionHypothesis =>
      exact inductionHypothesis (distinct_registerAll _ e.attributes distinct)

theorem get?_registerLive {elements : List Element}
    (named : ∀ e ∈ elements, ∃ id, e.id? = some id) (registry : EventRegistry)
    (id event : String) :
    (registerLive settings elements registry).get? id event =
      ((asking settings id event elements).getLast?.map
        (listenerOf settings id event)).or (registry.get? id event) := by
  induction elements generalizing registry with
  | nil => rfl
  | cons e elements inductionHypothesis =>
      obtain ⟨⟨own, known⟩, named⟩ := List.forall_mem_cons.1 named
      have step : registerLive settings (e :: elements) registry =
          registerLive settings elements (registerAll settings own e.attributes registry) := by
        rw [registerLive, List.foldl_cons, known]
        rfl
      rw [step, inductionHypothesis named]
      by_cases same : own = id
      · have front : asking settings id event (e :: elements) =
            (e.attributes.filter fun a => ListensTo settings event a) ++
              asking settings id event elements := by
          rw [asking, List.filter_cons_of_pos (by simp [known, same]), List.flatMap_cons]
          rfl
        rw [front, List.getLast?_append, same, get?_registerAll_self, Option.map_or,
          Option.or_assoc]
      · have front : asking settings id event (e :: elements) =
            asking settings id event elements := by
          rw [asking, List.filter_cons_of_neg (by simp [known, same])]
          rfl
        rw [front, get?_registerAll_other same]

/-! ## The walk -/

theorem mapLive_other {σ : Type} {change : String → List Attribute → σ → List Attribute × σ}
    {node : Node} (noElement : ∀ tag attributes children, node ≠ .element tag attributes children)
    (rest : List Node) (s : σ) :
    mapLive change (node :: rest) s =
      (node :: (mapLive change rest s).1, (mapLive change rest s).2) := by
  rw [mapLive]
  exact noElement

theorem mapLive_element {σ : Type} {change : String → List Attribute → σ → List Attribute × σ}
    {tag : String} {attributes changed : List Attribute} {s t : σ}
    (visited : change tag attributes s = (changed, t)) (children rest : List Node) :
    mapLive change (.element tag attributes children :: rest) s =
      let inside := if isInert tag then (children, t) else mapLive change children t
      let after := mapLive change rest inside.2
      (.element tag changed inside.1 :: after.1, after.2) := by
  rw [mapLive, visited]

theorem visit_spec (settings : BindingSettings) (taken : List String) (tag : String)
    (attributes : List Attribute) (last : Nat) (registry : EventRegistry) :
    ∃ changed own final, Labels attributes own changed ∧ CountsOn taken last own final ∧
      visit settings taken tag attributes (last, registry) =
        (changed, final, registerAll settings ((idOf? changed).getD "") changed registry) := by
  rw [visit]
  cases known : idOf? attributes with
  | some id =>
      refine ⟨attributes, [], last, .kept known, .done last, ?_⟩
      rw [known]
      rfl
  | none =>
      have labels := labels_setAttribute known (freshNumber taken last)
      obtain ⟨id, found, shape⟩ := labels.exists_id
      rw [known] at shape
      cases shape
      refine ⟨_, _, _, labels, .next (isNext_freshNumber taken last) (.done _), ?_⟩
      rw [found]
      rfl

/-- What a walk makes of a tree and of the state it starts from. -/
structure Walks (settings : BindingSettings) (taken : List String) (nodes : List Node)
    (start : Nat × EventRegistry) (numbers : List Nat)
    (walked : List Node × Nat × EventRegistry) : Prop where
  numbered : Numbered nodes numbers walked.1
  counts : CountsOn taken start.1 numbers walked.2.1
  registered : walked.2.2 = registerLive settings (liveElements walked.1) start.2

theorem registerLive_append (first second : List Element) (registry : EventRegistry) :
    registerLive settings (first ++ second) registry =
      registerLive settings second (registerLive settings first registry) :=
  List.foldl_append

theorem exists_walks (settings : BindingSettings) (taken : List String) :
    (nodes : List Node) → (start : Nat × EventRegistry) →
      ∃ numbers, Walks settings taken nodes start numbers
        (mapLive (visit settings taken) nodes start)
  | [], start => by
      rw [mapLive]
      exact ⟨[], .nil, .done start.1, by simp [liveElements, registerLive]⟩
  | .element tag attributes children :: rest, start => by
      obtain ⟨changed, own, middle, labels, counts, visited⟩ :=
        visit_spec settings taken tag attributes start.1 start.2
      rw [mapLive_element visited]
      dsimp only
      by_cases closed : isInert tag = true
      -- The walk goes on behind an element with what its content has left, if it is walked.
      · rw [if_pos closed]
        obtain ⟨outer, later⟩ := exists_walks settings taken rest
          (middle, registerAll settings ((idOf? changed).getD "") changed start.2)
        refine ⟨own ++ outer, .inert children closed labels later.numbered,
          counts.append later.counts, ?_⟩
        rw [liveElements_inert _ _ _ closed, later.registered]
        rfl
      · rw [Bool.not_eq_true] at closed
        rw [if_neg (by simp [closed])]
        obtain ⟨inner, within⟩ := exists_walks settings taken children
          (middle, registerAll settings ((idOf? changed).getD "") changed start.2)
        obtain ⟨outer, later⟩ := exists_walks settings taken rest
          (mapLive (visit settings taken) children
            (middle, registerAll settings ((idOf? changed).getD "") changed start.2)).2
        refine ⟨own ++ (inner ++ outer), .live closed labels within.numbered later.numbered,
          counts.append (within.counts.append later.counts), ?_⟩
        rw [liveElements_live _ _ _ closed, ← List.cons_append, registerLive_append,
          later.registered, within.registered]
        rfl
  | .text text :: rest, start => by
      obtain ⟨numbers, later⟩ := exists_walks settings taken rest start
      rw [mapLive_other (by simp)]
      refine ⟨numbers, .other (by simp) later.numbered, later.counts, ?_⟩
      rw [liveElements_other _ (by simp)]
      exact later.registered
  | .comment text :: rest, start => by
      obtain ⟨numbers, later⟩ := exists_walks settings taken rest start
      rw [mapLive_other (by simp)]
      refine ⟨numbers, .other (by simp) later.numbered, later.counts, ?_⟩
      rw [liveElements_other _ (by simp)]
      exact later.registered

theorem nodes_focusOn (target : FocusTarget) (d : Document) :
    (focusOn target d).nodes = d.nodes := by
  unfold focusOn
  cases focused : d.focus? target.elementId with
  | none => rfl
  | some shown =>
      obtain ⟨e, -, rfl⟩ := Option.map_eq_some_iff.1 focused
      cases target.caret with
      | none => rfl
      | some offset =>
          dsimp only
          unfold Document.setCaret?
          split
          · rfl
          · split <;> rfl

/-- What indexing makes of a document, whatever is focused in it. -/
structure Indexes (settings : BindingSettings) (nodes : List Node) (numbers : List Nat)
    (indexed : EventRegistry × Document) : Prop where
  numbered : Numbered nodes numbers indexed.2.nodes
  skips : SkipsTaken (liveIds nodes) numbers
  registered : indexed.1 = registerLive settings (liveElements indexed.2.nodes) []

theorem exists_indexes (settings : BindingSettings) (focus : Option FocusTarget)
    (d : Document) :
    ∃ numbers, Indexes settings d.nodes numbers (index settings focus d) := by
  obtain ⟨numbers, walks⟩ := exists_walks settings (authoredIds d.nodes) d.nodes (0, [])
  have same : (index settings focus d).2.nodes =
      (mapLive (visit settings (authoredIds d.nodes)) d.nodes (0, [])).1 := by
    cases focus with
    | none => rfl
    | some target => exact nodes_focusOn target _
  refine ⟨numbers, ?_, walks.counts.skipsTaken.congr fun _ => mem_authoredIds, ?_⟩
  · rw [same]
    exact walks.numbered
  · rw [same]
    exact walks.registered

/-- The listeners of a numbered tree. -/
structure Registers (settings : BindingSettings) (elements : List Element)
    (registry : EventRegistry) : Prop where
  distinct : Distinct registry
  entry_iff : ∀ id event,
    (∃ b ∈ registry, b.elementId = id ∧ b.event = event) ↔
      ∃ e ∈ elements, e.id? = some id ∧ ∃ a ∈ e.attributes, ListensTo settings event a
  /-- The last of the attributes that ask for an event gives the action. -/
  last : ∀ id event b, registry.get? id event = some b ↔
    b.elementId = id ∧ b.event = event ∧
      ∃ a, (asking settings id event elements).getLast? = some a ∧
        Gives settings event a b.action

theorem registers_registerLive {elements : List Element}
    (named : ∀ e ∈ elements, ∃ id, e.id? = some id) :
    Registers settings elements (registerLive settings elements []) := by
  have found : ∀ id event, (registerLive settings elements []).get? id event =
      (asking settings id event elements).getLast?.map (listenerOf settings id event) := by
    intro id event
    rw [get?_registerLive named]
    exact Option.or_none
  refine ⟨distinct_registerLive elements .nil, fun id event => ?_, fun id event b => ?_⟩
  · have isFound : (∃ b ∈ registerLive settings elements [], b.elementId = id ∧ b.event = event) ↔
        ((registerLive settings elements []).get? id event).isSome = true := by
      simp [EventRegistry.get?, List.find?_isSome]
    have isAsked : (asking settings id event elements).getLast?.isSome = true ↔
        ∃ a, a ∈ asking settings id event elements := by
      rw [Option.isSome_iff_ne_none, ne_eq, List.getLast?_eq_none_iff]
      exact ⟨List.exists_mem_of_ne_nil _, fun ⟨a, member⟩ => List.ne_nil_of_mem member⟩
    rw [isFound, found, Option.isSome_map, isAsked]
    simp only [asking, List.mem_flatMap, List.mem_filter, decide_eq_true_eq]
    constructor
    · rintro ⟨a, e, ⟨member, known⟩, inside, listens⟩
      exact ⟨e, member, known, a, inside, listens⟩
    · rintro ⟨e, member, known, a, inside, listens⟩
      exact ⟨a, e, ⟨member, known⟩, inside, listens⟩
  · rw [found, Option.map_eq_some_iff]
    constructor
    · rintro ⟨a, isLast, rfl⟩
      exact ⟨rfl, rfl, a, isLast, gives_iff.2 rfl⟩
    · rintro ⟨rfl, rfl, a, isLast, gives⟩
      exact ⟨a, isLast, by rw [listenerOf, gives_iff.1 gives]⟩

/-- Indexing numbers the live elements that have no id and changes the tree in no other
way.  Afterwards all live elements have an id, and these differ if they did before.  The
listeners are those that the numbered tree asks for, each with what the last of its
attributes gives.  And nothing is left to do when the document is indexed again. -/
theorem index_numbers (settings : BindingSettings) (focus : Option FocusTarget)
    (d : Document) :
    let indexed := index settings focus d
    (∃ numbers, Numbered d.nodes numbers indexed.2.nodes ∧
      SkipsTaken (liveIds d.nodes) numbers ∧ (numbers.map toString).Nodup ∧
      ∀ n ∈ numbers, toString n ∉ liveIds d.nodes) ∧
    (∀ e ∈ liveElements indexed.2.nodes, ∃ id, id ≠ "" ∧ e.id? = some id) ∧
    ((liveIds d.nodes).Nodup → (liveIds indexed.2.nodes).Nodup) ∧
    Registers settings (liveElements indexed.2.nodes) indexed.1 ∧
    ∀ again, (index settings again indexed.2).1 = indexed.1 ∧
      (index settings again indexed.2).2.nodes = indexed.2.nodes := by
  intro indexed
  obtain ⟨numbers, first⟩ := exists_indexes settings focus d
  have named := first.numbered.exists_id
  refine ⟨⟨numbers, first.numbered, first.skips, first.skips.nodup, first.skips.free⟩,
    ?_, ?_, ?_, ?_⟩
  · intro e member
    obtain ⟨id, known⟩ := named e member
    exact ⟨id, ne_empty_of_idOf? known, known⟩
  · intro distinct
    rw [first.numbered.liveIds_perm.nodup_iff]
    refine first.skips.nodup.append distinct ?_
    intro id isNew isOld
    obtain ⟨n, member, rfl⟩ := List.mem_map.1 isNew
    exact first.skips.free n member isOld
  · rw [first.registered]
    exact registers_registerLive named
  · intro again
    obtain ⟨others, second⟩ := exists_indexes settings again indexed.2
    obtain ⟨-, same⟩ := second.numbered.eq_of_ids named
    exact ⟨by rw [second.registered, first.registered, same], same⟩

/-- Ids that are there already are left out, those of a template's content are not. -/
example :
    let markup : List Node :=
      [.element "p" [⟨"@click", some "n = 1"⟩] [], .element "i" [⟨"id", some "2"⟩] [],
        .element "template" [⟨"id", none⟩] [.element "b" [⟨"id", some "3"⟩] []]]
    (index {} none ⟨markup, none, none⟩).2.nodes =
      [.element "p" [⟨"@click", some "n = 1"⟩, ⟨"id", some "1"⟩] [],
        .element "i" [⟨"id", some "2"⟩] [],
        .element "template" [⟨"id", some "3"⟩] [.element "b" [⟨"id", some "3"⟩] []]] := by
  cbv

end LivePages.EventIndex
