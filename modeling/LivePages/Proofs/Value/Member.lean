import Mathlib.Tactic.SplitIfs
import LivePages.Expr.Access
import LivePages.Proofs.Decimal.Numeral
import LivePages.Proofs.Json.RoundTrip

/-!
# Members of values

The items of an array and the code points of a text stand at positions.  A position is
written in decimal and read back, and it is never taken for the name of the length.  An
object keeps the keys that it is made of in order, and finds each field by its key.
-/

namespace LivePages.Value

theorem toString_ne_length (n : Nat) : toString n ≠ "length" := by
  intro same
  have member : 'l' ∈ (toString n).toList := by
    rw [same]
    decide
  exact absurd (Decimal.isDigit_of_mem_toString member) (by decide)

/-! ## Arrays and texts -/

/-- The items of an array, and the code points of a text, each as a text of its own. -/
def items? : Value → Option (List Value)
  | arr items => some items
  | str s => some (s.toList.map fun c => str (String.singleton c))
  | _ => none

theorem itemAt_toString (items : List Value) {i : Nat} (inside : i < items.length)
    (fits : i < UInt64.size) : itemAt (toString i) items = items[i] := by
  rw [itemAt, Decimal.readIndex?_toString fits, Option.bind_some,
    List.getElem?_eq_getElem inside, Option.getD_some]

section Items

variable {v : Value} {items : List Value} (has : v.items? = some items)

include has

theorem member_length : v.member "length" = .ok (nat items.length) := by
  cases v with
  | arr =>
      cases has
      rfl
  | str s =>
      cases has
      rw [member, if_pos rfl, List.length_map, String.length_toList]
  | _ => cases has

theorem member_position {i : Nat} (inside : i < items.length) (fits : i < UInt64.size) :
    v.member (toString i) = .ok items[i] := by
  cases v with
  | arr =>
      cases has
      rw [member, if_neg (toString_ne_length i), itemAt_toString items inside fits]
  | str s =>
      cases has
      rw [member, if_neg (toString_ne_length i), characters, itemAt_toString _ inside fits]
  | _ => cases has

end Items

/-! ## Objects -/

theorem ascending_cons {first : String × Value} {fields : List (String × Value)} :
    ascending (first :: fields) = true ↔
      (∀ key ∈ fields.map Prod.fst, first.1 < key) ∧ ascending fields = true := by
  simp [ascending, List.pairwise_cons]

theorem mem_keys_insertField {key other : String} {value : Value}
    {fields : List (String × Value)} :
    other ∈ (insertField key value fields).map Prod.fst ↔
      other = key ∨ other ∈ fields.map Prod.fst := by
  induction fields with
  | nil => simp [insertField]
  | cons first fields inductionHypothesis =>
      obtain ⟨k, v⟩ := first
      rw [insertField]
      split_ifs with before same
      · simp
      · simp [same]
      · simp only [List.map_cons, List.mem_cons, inductionHypothesis]
        exact or_left_comm

theorem ascending_insertField {fields : List (String × Value)}
    (ordered : ascending fields = true) (key : String) (value : Value) :
    ascending (insertField key value fields) = true := by
  induction fields with
  | nil => rfl
  | cons first fields inductionHypothesis =>
      obtain ⟨k, v⟩ := first
      obtain ⟨least, later⟩ := ascending_cons.1 ordered
      rw [insertField]
      split_ifs with before same
      · refine ascending_cons.2 ⟨fun other member => ?_, ordered⟩
        rcases List.mem_cons.1 member with rfl | member
        · exact before
        · exact String.lt_trans before (least other member)
      · exact ascending_cons.2 ⟨same ▸ least, later⟩
      · refine ascending_cons.2 ⟨fun other member => ?_, inductionHypothesis later⟩
        rcases mem_keys_insertField.1 member with rfl | member
        · exact Std.lt_of_le_of_ne (String.not_lt.1 before) (Ne.symm same)
        · exact least other member

/-- An object has the keys of the fields that it is made of, each once and in order. -/
theorem exists_ofFields (pairs : List (String × Value)) :
    ∃ fields, ofFields pairs = .obj fields ∧ ascending fields = true ∧
      ∀ key, key ∈ fields.map Prod.fst ↔ key ∈ pairs.map Prod.fst := by
  have general : ∀ sorted, ascending sorted = true →
      let fields := pairs.foldl (fun sorted pair => insertField pair.1 pair.2 sorted) sorted
      ascending fields = true ∧ ∀ key, key ∈ fields.map Prod.fst ↔
        key ∈ sorted.map Prod.fst ∨ key ∈ pairs.map Prod.fst := by
    induction pairs with
    | nil =>
        intro sorted ordered
        simpa using ordered
    | cons pair pairs inductionHypothesis =>
        intro sorted ordered
        obtain ⟨later, keys⟩ :=
          inductionHypothesis _ (ascending_insertField ordered pair.1 pair.2)
        refine ⟨later, fun key => ?_⟩
        rw [List.foldl_cons, keys, mem_keys_insertField, List.map_cons, List.mem_cons,
          or_assoc, or_left_comm]
  obtain ⟨ordered, keys⟩ := general [] rfl
  refine ⟨_, rfl, ordered, fun key => ?_⟩
  rw [keys]
  simp

theorem lookup_of_ascending {fields : List (String × Value)}
    (ordered : ascending fields = true) {field : String × Value} (member : field ∈ fields) :
    fields.lookup field.1 = some field.2 := by
  induction fields with
  | nil => cases member
  | cons first fields inductionHypothesis =>
      obtain ⟨least, later⟩ := ascending_cons.1 ordered
      rcases List.mem_cons.1 member with rfl | member
      · exact List.lookup_cons_self
      · have greater : first.1 < field.1 := least _ (List.mem_map_of_mem member)
        have apart : (field.1 == first.1) = false :=
          beq_eq_false_iff_ne.2 (String.ne_of_lt greater).symm
        rw [List.lookup_cons, apart]
        exact inductionHypothesis later member

/-- In an object with its keys in order, each field is found by its key. -/
theorem member_key {fields : List (String × Value)} (ordered : ascending fields = true)
    {field : String × Value} (member : field ∈ fields) :
    (obj fields).member field.1 = .ok field.2 := by
  rw [Value.member, lookup_of_ascending ordered member, Option.getD_some]

end LivePages.Value
