import LivePages.Table

/-! # Entries of tables -/

namespace LivePages.Table

variable {α : Type}

theorem get?_cons (name : String) (entry : α) (t : Table α) (other : String) :
    Table.get? ((name, entry) :: t) other =
      if name = other then some entry else Table.get? t other := by
  by_cases same : name = other
  · simp [get?, same]
  · simp [get?, List.lookup_cons, same, beq_eq_false_iff_ne.2 (Ne.symm same)]

theorem mem_of_get? {t : Table α} {name : String} {entry : α}
    (found : t.get? name = some entry) : (name, entry) ∈ t := by
  obtain ⟨before, behind, shape, -⟩ := List.lookup_eq_some_iff.1 found
  rw [shape]
  exact List.mem_append_right before List.mem_cons_self

theorem get?_insert (name : String) (entry : α) (t : Table α) (other : String) :
    (t.insert name entry).get? other =
      if name = other then some entry else t.get? other := by
  induction t with
  | nil => rw [insert, get?_cons]
  | cons first t inductionHypothesis =>
      obtain ⟨n, e⟩ := first
      rw [insert]
      by_cases same : n = name
      · rw [if_pos same, get?_cons, get?_cons, same]
        by_cases found : name = other
        · rw [if_pos found, if_pos found]
        · rw [if_neg found, if_neg found, if_neg found]
      · rw [if_neg same, get?_cons, get?_cons, inductionHypothesis]
        by_cases found : n = other
        · rw [if_pos found, if_pos found, if_neg (found ▸ Ne.symm same)]
        · rw [if_neg found, if_neg found]

theorem get?_erase (t : Table α) (name other : String) :
    (t.erase name).get? other = if name = other then none else t.get? other := by
  induction t with
  | nil => simp [erase, get?]
  | cons first t inductionHypothesis =>
      obtain ⟨n, e⟩ := first
      rw [erase] at inductionHypothesis ⊢
      by_cases same : n = name
      · rw [List.filter_cons_of_neg (by simpa using same), inductionHypothesis,
          get?_cons, same]
        by_cases found : name = other
        · rw [if_pos found, if_pos found]
        · rw [if_neg found, if_neg found, if_neg found]
      · rw [List.filter_cons_of_pos (by simpa using same), get?_cons, get?_cons,
          inductionHypothesis]
        by_cases found : n = other
        · rw [if_pos found, if_pos found, if_neg (found ▸ Ne.symm same)]
        · rw [if_neg found, if_neg found]

theorem mem_of_mem_insert {name : String} {entry : α} {t : Table α}
    {other : String × α} (member : other ∈ t.insert name entry) :
    other = (name, entry) ∨ other ∈ t := by
  induction t with
  | nil => exact .inl (List.mem_singleton.1 member)
  | cons first t inductionHypothesis =>
      obtain ⟨n, e⟩ := first
      rw [insert] at member
      by_cases same : n = name
      · rw [if_pos same] at member
        rcases List.mem_cons.1 member with here | later
        · exact .inl here
        · exact .inr (List.mem_cons_of_mem _ later)
      · rw [if_neg same] at member
        rcases List.mem_cons.1 member with here | later
        · exact .inr (here ▸ List.mem_cons_self)
        · rcases inductionHypothesis later with here | later
          · exact .inl here
          · exact .inr (List.mem_cons_of_mem _ later)

theorem mem_of_mem_ofList {entries : List (String × α)} {entry : String × α}
    (member : entry ∈ ofList entries) :
    entry ∈ entries := by
  have general : ∀ t : Table α,
      entry ∈ entries.foldl (fun t entry => t.insert entry.1 entry.2) t →
        entry ∈ t ∨ entry ∈ entries := by
    clear member
    induction entries with
    | nil => exact fun _ member => .inl member
    | cons first entries inductionHypothesis =>
        intro t member
        rcases inductionHypothesis _ member with inside | later
        · rcases mem_of_mem_insert inside with rfl | inside
          · exact .inr List.mem_cons_self
          · exact .inl inside
        · exact .inr (List.mem_cons_of_mem _ later)
  rcases general [] member with inside | later
  · cases inside
  · exact later

theorem mem_names_insert {t : Table α} {name other : String} {entry : α} :
    other ∈ (t.insert name entry).names ↔ other = name ∨ other ∈ t.names := by
  induction t with
  | nil => simp [insert, names]
  | cons first t inductionHypothesis =>
      obtain ⟨n, e⟩ := first
      rw [insert]
      by_cases same : n = name
      · rw [if_pos same]
        simp [names, same]
      · simp only [names] at inductionHypothesis ⊢
        rw [if_neg same, List.map_cons, List.mem_cons, inductionHypothesis, List.map_cons,
          List.mem_cons]
        exact or_left_comm

/-- A table has an entry for each name that it is made from. -/
theorem mem_names_ofList {entries : List (String × α)} {name : String} :
    name ∈ (ofList entries).names ↔ name ∈ entries.map Prod.fst := by
  have general : ∀ t : Table α,
      name ∈ names (entries.foldl (fun t entry => t.insert entry.1 entry.2) t) ↔
        name ∈ t.names ∨ name ∈ entries.map Prod.fst := by
    induction entries with
    | nil => simp
    | cons first entries inductionHypothesis =>
        intro t
        rw [List.foldl_cons, inductionHypothesis, mem_names_insert, List.map_cons,
          List.mem_cons, or_comm (a := name = first.1), or_assoc]
  exact (general []).trans (by simp [names])

/-- An entry with a new name is added at the end. -/
theorem contains_iff {t : Table α} {name : String} :
    t.contains name = true ↔ ∃ entry, (name, entry) ∈ t := by
  induction t with
  | nil => simp [contains, get?]
  | cons first t inductionHypothesis =>
      obtain ⟨other, e⟩ := first
      rw [contains, get?_cons]
      by_cases same : other = name
      · simp [same]
      · rw [if_neg same, ← contains, inductionHypothesis]
        simp [Ne.symm same]

theorem insert_of_not_contains {t : Table α} {name : String}
    (absent : t.contains name = false) (entry : α) :
    t.insert name entry = t ++ [(name, entry)] ∧ name ∉ t.names := by
  induction t with
  | nil => exact ⟨rfl, List.not_mem_nil⟩
  | cons first t inductionHypothesis =>
      obtain ⟨n, e⟩ := first
      rw [contains, get?_cons] at absent
      by_cases same : n = name
      · rw [if_pos same] at absent
        cases absent
      · rw [if_neg same] at absent
        obtain ⟨shape, new⟩ := inductionHypothesis absent
        rw [insert, if_neg same, shape]
        refine ⟨rfl, ?_⟩
        rw [names, List.map_cons, List.mem_cons]
        rintro (here | later)
        · exact same here.symm
        · exact new later

end LivePages.Table
