import LivePages.Proofs.Client.Ownership

/-!
# New instances of modules

Making an instance adds stores to the host that nobody listens to yet, and
leaves all others alone.  Every store that an instance exports exists.
-/

namespace LivePages

namespace Host

/-- The stores that have been made for exports exist. -/
def Sound (h : Host) : Prop := ∀ entry ∈ h.made, entry.2.2 < h.stores.length

/-- A host with more stores, to which nobody listens. -/
def Extends (before after : Host) : Prop :=
  ∃ new, after.stores = before.stores ++ new ∧
    ∀ store ∈ new, store.listeners = []

theorem Extends.refl (h : Host) : h.Extends h :=
  ⟨[], (List.append_nil _).symm, by simp⟩

theorem Extends.trans {a b c : Host} (first : a.Extends b) (second : b.Extends c) :
    a.Extends c := by
  obtain ⟨new, shape, unheard⟩ := first
  obtain ⟨more, shapeOn, unheardOn⟩ := second
  refine ⟨new ++ more, by rw [shapeOn, shape, List.append_assoc], ?_⟩
  intro store member
  rcases List.mem_append.1 member with member | member
  · exact unheard store member
  · exact unheardOn store member

theorem Extends.count_le {a b : Host} (more : a.Extends b) :
    a.stores.length ≤ b.stores.length := by
  obtain ⟨new, shape, -⟩ := more
  rw [shape, List.length_append]
  exact Nat.le_add_right _ _

theorem Extends.listeners_eq {a b : Host} (more : a.Extends b) (s : StoreId) :
    b.listeners s = a.listeners s := by
  obtain ⟨new, shape, unheard⟩ := more
  rw [listeners, listeners, shape]
  by_cases old : s < a.stores.length
  · rw [List.getElem?_append_left old]
  · rw [List.getElem?_append_right (Nat.le_of_not_lt old),
      List.getElem?_eq_none (Nat.le_of_not_lt old)]
    cases found : new[s - a.stores.length]? with
    | none => rfl
    | some store => exact unheard store (List.mem_of_getElem? found)

theorem Extends.persists_eq {a b : Host} (more : a.Extends b) {s : StoreId}
    (old : s < a.stores.length) :
    b.persists s = a.persists s := by
  obtain ⟨new, shape, -⟩ := more
  rw [persists, persists, shape, List.getElem?_append_left old]

/-- Making stores changes nothing else on a host. -/
theorem makeStores_eq (path : String) (plans : List (String × Plan)) (h : Host) :
    ∃ stores made, (makeStores path plans h).2 = { h with stores, made } := by
  induction plans generalizing h with
  | nil => exact ⟨h.stores, h.made, rfl⟩
  | cons plan plans inductionHypothesis =>
      obtain ⟨name, plan⟩ := plan
      cases plan with
      | store type initial persist shared =>
          have first : ∃ stores made,
              (h.makeStore path name type initial persist shared).2 =
                { h with stores, made } := by
            unfold makeStore
            split
            · exact ⟨h.stores, h.made, rfl⟩
            · exact ⟨_, _, rfl⟩
          obtain ⟨stores, made, shape⟩ := first
          obtain ⟨storesOn, madeOn, shapeOn⟩ := inductionHypothesis
            (h.makeStore path name type initial persist shared).2
          exact ⟨storesOn, madeOn, shapeOn.trans (congrArg
            (fun h => { h with stores := storesOn, made := madeOn }) shape)⟩
      | value v => exact inductionHypothesis h
      | function call => exact inductionHypothesis h
      | computed compute => exact inductionHypothesis h

theorem instantiate_eq (b : Blueprint) (h : Host) :
    ∃ stores made,
      (h.instantiate b).2 = { h with stores, made, instances := h.instances + 1 } := by
  obtain ⟨stores, made, shape⟩ := makeStores_eq b.path b.plans h
  exact ⟨stores, made, congrArg (fun h => { h with instances := h.instances + 1 }) shape⟩

theorem makeStore_sound {h : Host} (sound : h.Sound) (path name : String)
    (type : StoreType) (initial : Value) (persist shared : Bool) :
    ∃ s after, h.makeStore path name type initial persist shared = (s, after) ∧
      h.Extends after ∧ after.Sound ∧ s < after.stores.length := by
  unfold makeStore
  cases found : (if shared then (h.storesMade path name).head? else none) with
  | some s =>
      refine ⟨s, h, rfl, .refl h, sound, ?_⟩
      have member : s ∈ h.storesMade path name := by
        by_cases isShared : shared = true
        · rw [if_pos isShared] at found
          exact List.mem_of_head? found
        · rw [if_neg isShared] at found
          cases found
      obtain ⟨entry, inside, rfl⟩ := List.mem_map.1 member
      exact sound entry (List.mem_filter.1 inside).1
  | none =>
      refine ⟨_, _, rfl, ⟨[Store.new type initial persist], rfl, ?_⟩, ?_, ?_⟩
      · intro store member
        rw [List.mem_singleton.1 member]
        rfl
      · intro entry member
        have count : (h.addStore (Store.new type initial persist)).2.stores.length =
            h.stores.length + 1 :=
          List.length_append
        rcases List.mem_append.1 member with old | isNew
        · exact Nat.lt_of_lt_of_eq (Nat.lt_succ_of_lt (sound entry old)) count.symm
        · rw [List.mem_singleton.1 isNew]
          exact Nat.lt_of_lt_of_eq (Nat.lt_succ_self _) count.symm
      · simp

theorem makeStores_sound (path : String) (plans : List (String × Plan)) {h : Host}
    (sound : h.Sound) :
    ∃ stores after, makeStores path plans h = (stores, after) ∧
      h.Extends after ∧ after.Sound ∧ ∀ s ∈ stores, s < after.stores.length := by
  induction plans generalizing h with
  | nil => exact ⟨[], h, rfl, .refl h, sound, by simp⟩
  | cons plan plans inductionHypothesis =>
      obtain ⟨name, plan⟩ := plan
      cases plan with
      | store type initial persist shared =>
          obtain ⟨s, mid, made, first, soundMid, inside⟩ :=
            makeStore_sound sound path name type initial persist shared
          obtain ⟨stores, after, rest, second, soundAfter, insideAll⟩ :=
            inductionHypothesis soundMid
          refine ⟨s :: stores, after, ?_, first.trans second, soundAfter, ?_⟩
          · rw [makeStores, made]
            dsimp only
            rw [rest]
          · intro t member
            rcases List.mem_cons.1 member with rfl | member
            · exact Nat.lt_of_lt_of_le inside second.count_le
            · exact insideAll t member
      | value v => exact inductionHypothesis sound
      | function call => exact inductionHypothesis sound
      | computed compute => exact inductionHypothesis sound

theorem mem_of_mem_exportsOf {i : Instance} {plans : List (String × Plan)}
    {stores : List StoreId} {name : String} {s : StoreId}
    (member : (name, Export.store s) ∈ exportsOf i plans stores) :
    s ∈ stores := by
  obtain ⟨plan, -, -, yields⟩ := exists_plan_of_mem_exportsOf member
  cases shape : plan.2 with
  | store type initial persist shared =>
      rw [shape] at yields
      obtain ⟨t, isStore, same⟩ := yields
      exact Export.store.inj same ▸ isStore
  | _ =>
      rw [shape] at yields
      cases yields

theorem instantiate_sound (b : Blueprint) {h : Host} (sound : h.Sound) :
    ∃ m after, instantiate b h = (m, after) ∧ h.Extends after ∧ after.Sound ∧
      ∀ name s, (name, Export.store s) ∈ m → s < after.stores.length := by
  obtain ⟨stores, after, made, extended, soundAfter, inside⟩ :=
    makeStores_sound b.path b.plans sound
  unfold instantiate
  rw [made]
  refine ⟨_, _, rfl, extended, soundAfter, ?_⟩
  intro name s member
  exact inside s (mem_of_mem_exportsOf (Table.mem_of_mem_ofList member))

end Host

/-- Whether a module can be the instance of a blueprint, or the empty one if
there is none. -/
def IsInstance (blueprint : Option Blueprint) (m : Module) : Prop :=
  ∃ c : Client, (Client.instanceOf blueprint c).1 = m

namespace Client

variable {c : Client}

theorem instanceOf_sound (blueprint : Option Blueprint) (sound : c.toHost.Sound) :
    ∃ m h, instanceOf blueprint c = (m, { c with toHost := h }) ∧
      IsInstance blueprint m ∧ c.toHost.Extends h ∧ h.Sound ∧
      ∀ name s, (name, Export.store s) ∈ m → s < h.stores.length := by
  cases blueprint with
  | none => exact ⟨[], c.toHost, rfl, ⟨c, rfl⟩, .refl _, sound, by simp⟩
  | some b =>
      obtain ⟨m, h, made, extended, soundOn, inside⟩ :=
        Host.instantiate_sound b sound
      have step : instanceOf (some b) c = (m, { c with toHost := h }) := by
        rw [instanceOf, askHost, made]
      exact ⟨m, h, step, ⟨c, by rw [step]⟩, extended, soundOn, inside⟩

theorem Owns.extend {live : List (String × Export)} {visit : Visit}
    (owns : c.Owns live visit) {h : Host} (more : c.toHost.Extends h) :
    ({ c with toHost := h }).Owns live visit where
  holds := by
    obtain ⟨held, holds, subscriptions, posts⟩ := owns.holds
    refine ⟨held, ?_, subscriptions, ?_⟩
    · intro s
      rw [← holds s, Host.held, Host.held, more.listeners_eq]
    · have same : ∀ entry ∈ live,
          c.posts entry = ({ c with toHost := h }).posts entry := by
        rintro ⟨name, e⟩ member
        cases e with
        | store s =>
            have persists := more.persists_eq (owns.stores name s member)
            rw [Client.posts, Client.posts, persists]
            rfl
        | value v => rfl
        | function f => rfl
        | computed a => rfl
      rw [posts, List.flatMap_def, List.flatMap_def, List.map_congr_left same]
  refers := owns.refers
  named := owns.named
  stores name s member := Nat.lt_of_lt_of_le (owns.stores name s member) more.count_le

end Client

end LivePages
