import LivePages.Proofs.Json.Scalar
import LivePages.Storage

/-!
# Written values read back

A value without floats is written as a JSON text that reads as this value, whatever
ends it.  Arrays and objects are followed item by item, and each item is read with
one level of nesting less.
-/

namespace LivePages

/-- Whether keys stand in ascending order, each of them once. -/
def Value.ascending (fields : List (String × Value)) : Bool :=
  decide (fields.Pairwise fun first second => first.1 < second.1)

mutual

/-- Whether JSON texts hold a value as it is: no floats, integers of 64 bits with or
without a sign, and arrays and objects nested at most `depth` deep. -/
def Value.isJson (depth : Nat) : Value → Bool
  | .null => true
  | .bool _ => true
  | .num (.int n) => decide (Json.IsInteger n)
  | .num (.float _) => false
  | .str _ => true
  | .arr items => decide (0 < depth) && Value.areJson (depth - 1) items
  | .obj fields =>
    decide (0 < depth) && Value.areFieldsJson (depth - 1) fields && ascending fields

def Value.areJson (depth : Nat) : List Value → Bool
  | [] => true
  | item :: rest => item.isJson depth && Value.areJson depth rest

def Value.areFieldsJson (depth : Nat) : List (String × Value) → Bool
  | [] => true
  | (_, value) :: rest => value.isJson depth && Value.areFieldsJson depth rest

end

namespace Value

/-- A field with a greater key than all others goes to the end. -/
theorem insertField_of_greatest {key : String} {fields : List (String × Value)}
    (greatest : ∀ field ∈ fields, field.1 < key) (value : Value) :
    insertField key value fields = fields ++ [(key, value)] := by
  induction fields with
  | nil => rfl
  | cons first fields inductionHypothesis =>
      obtain ⟨k, v⟩ := first
      have below : k < key := greatest (k, v) List.mem_cons_self
      have notBefore : ¬ key < k := String.lt_asymm below
      have apart : key ≠ k := by
        rintro rfl
        exact String.lt_irrefl key below
      rw [insertField, if_neg notBefore, if_neg apart,
        inductionHypothesis fun field member =>
          greatest field (List.mem_cons_of_mem _ member)]
      rfl

/-- Fields in ascending order make an object of just these fields. -/
theorem ofFields_of_ascending {fields : List (String × Value)}
    (ordered : ascending fields = true) : ofFields fields = .obj fields := by
  have general : ∀ (later earlier : List (String × Value)),
      (earlier ++ later).Pairwise (fun first second => first.1 < second.1) →
      later.foldl (fun sorted field => insertField field.1 field.2 sorted) earlier =
        earlier ++ later := by
    intro later
    induction later with
    | nil => simp
    | cons field later inductionHypothesis =>
        intro earlier ordered
        obtain ⟨-, -, across⟩ := List.pairwise_append.1 ordered
        have greatest : ∀ other ∈ earlier, other.1 < field.1 :=
          fun other member => across other member field List.mem_cons_self
        rw [List.foldl_cons, insertField_of_greatest greatest,
          inductionHypothesis _ (by simpa using ordered)]
        simp
  rw [ofFields]
  exact congrArg obj (general fields [] (of_decide_eq_true ordered))

end Value

namespace Json

/-! ## Starts of values -/

/-- What values start with in a text without blanks. -/
def StartsValue (cs : List Char) : Prop :=
  ∃ c rest, cs = c :: rest ∧ isSpace c = false ∧ c ≠ ']'

theorem StartsValue.append {cs : List Char} (starts : StartsValue cs) (rest : List Char) :
    StartsValue (cs ++ rest) := by
  obtain ⟨c, more, rfl, solid, noEnd⟩ := starts
  exact ⟨c, more ++ rest, rfl, solid, noEnd⟩

theorem StartsValue.skipSpace {cs : List Char} (starts : StartsValue cs) :
    skipSpace cs = cs := by
  obtain ⟨c, rest, rfl, solid, -⟩ := starts
  simp [Json.skipSpace, solid]

theorem solid_of_number {c : Char} (starts : c.isDigit = true ∨ c = '-') :
    isSpace c = false ∧ c ≠ ']' := by
  rcases starts with digit | rfl
  · constructor
    · cases space : isSpace c with
      | false => rfl
      | true =>
          simp only [isSpace, Bool.or_eq_true, decide_eq_true_eq] at space
          rcases space with ((rfl | rfl) | rfl) | rfl <;> contradiction
    · rintro rfl
      contradiction
  · decide

theorem readValue?_number (build : List (String × Value) → Value) (depth : Nat)
    {c : Char} (starts : c.isDigit = true ∨ c = '-') (rest : List Char) :
    readValue? build depth (c :: rest) =
      (readNumber? (c :: rest)).map fun (n, rest) => (.num n, rest) := by
  have skipped : skipSpace (c :: rest) = c :: rest := by
    simp [skipSpace, (solid_of_number starts).1]
  rw [readValue?, skipped]
  split
  -- No other kind of value starts with a digit or a sign.
  iterate 6
    · rename_i same
      cases same
      exact absurd starts (by decide)
  · rfl

theorem startsValue_write {depth : Nat} {v : Value} (isJson : v.isJson depth = true) :
    StartsValue (write v) := by
  cases v with
  | null => exact ⟨'n', _, rfl, by decide⟩
  | bool b =>
      cases b with
      | true => exact ⟨'t', _, rfl, by decide⟩
      | false => exact ⟨'f', _, rfl, by decide⟩
  | num n =>
      cases n with
      | int n =>
          obtain ⟨c, rest, written, starts⟩ := numberText_head n
          exact ⟨c, rest, written, solid_of_number starts⟩
      | float f => cases isJson
  | str s => exact ⟨'"', _, rfl, by decide⟩
  | arr items =>
      cases items with
      | nil => exact ⟨'[', _, rfl, by decide⟩
      | cons item items => exact ⟨'[', _, rfl, by decide⟩
  | obj fields =>
      cases fields with
      | nil => exact ⟨'\x7b', _, rfl, by decide⟩
      | cons field fields => exact ⟨'\x7b', _, rfl, by decide⟩

/-! ## Entries -/

theorem length_writeItems (items : List Value) :
    items.length < (writeItems items).length := by
  induction items with
  | nil => decide
  | cons item items inductionHypothesis =>
      rw [writeItems, List.length_append, List.length_cons, List.length_cons]
      omega

theorem length_writeFields (fields : List (String × Value)) :
    fields.length < (writeFields fields).length := by
  induction fields with
  | nil => decide
  | cons field fields inductionHypothesis =>
      rw [writeFields]
      simp only [List.length_append, List.length_cons]
      omega

/-- An entry behind which a comma stands, and others. -/
theorem readEntries?_cons {α : Type} {entry : List Char → Option (α × List Char)}
    {close : Char} {fuel : Nat} {cs more rest : List Char} {first : α} {others : List α}
    (read : entry cs = some (first, ',' :: more))
    (later : readEntries? entry close fuel more = some (others, rest)) :
    readEntries? entry close (fuel + 1) cs = some (first :: others, rest) := by
  rw [readEntries?, read]
  have skipped : skipSpace (',' :: more) = ',' :: more := rfl
  simp only [skipped, later]
  rfl

theorem readEntries?_last {α : Type} {entry : List Char → Option (α × List Char)}
    {close : Char} {cs rest : List Char} {last : α} (solid : isSpace close = false)
    (noComma : close ≠ ',') (read : entry cs = some (last, close :: rest)) (fuel : Nat) :
    readEntries? entry close (fuel + 1) cs = some ([last], rest) := by
  have skipped : skipSpace (close :: rest) = close :: rest := by
    simp [skipSpace, solid]
  rw [readEntries?, read]
  dsimp only
  rw [skipped]
  split
  · rename_i same
    exact absurd (List.cons.inj same).1 noComma
  · rename_i same
    obtain ⟨rfl, rfl⟩ := List.cons.inj same
    rw [if_pos rfl]
  · contradiction

theorem readField?_write {value : List Char → Option (Value × List Char)} {v : Value}
    {cs rest : List Char} (key : String) (read : value cs = some (v, rest)) :
    readField? value (quoteString key ++ ':' :: cs) = some ((key, v), rest) := by
  have skipped : skipSpace (quoteString key ++ ':' :: cs) =
      '"' :: (key.toList.flatMap escapeChar ++ '"' :: ':' :: cs) := by
    rw [quoteString]
    simp [skipSpace, isSpace]
  have colon : skipSpace (':' :: cs) = ':' :: cs := rfl
  have named := readString?_quote key (':' :: cs)
  simp only [readField?, skipped, named, colon, read, Option.map_some]

/-- Behind the bracket of an array that has items, they are read one by one. -/
theorem readValue?_array (build : List (String × Value) → Value) (depth : Nat)
    {cs : List Char} (starts : StartsValue cs) :
    readValue? build (depth + 1) ('[' :: cs) =
      (readEntries? (readValue? build depth) ']' cs.length cs).map
        fun (items, tail) => (.arr items, tail) := by
  have skipped := starts.skipSpace
  obtain ⟨c, more, rfl, -, noEnd⟩ := starts
  have bracket : skipSpace ('[' :: c :: more) = '[' :: c :: more := rfl
  rw [readValue?, bracket]
  simp only [skipped]
  split
  · rename_i same
    exact absurd (List.cons.inj same).1 noEnd
  · rfl

theorem readValue?_object (build : List (String × Value) → Value) (depth : Nat)
    (key : String) (cs : List Char) :
    readValue? build (depth + 1) ('\x7b' :: (quoteString key ++ cs)) =
      (readEntries? (readField? (readValue? build depth)) '\x7d'
          (quoteString key ++ cs).length (quoteString key ++ cs)).map
        fun (fields, tail) => (build fields, tail) := by
  have brace : skipSpace ('\x7b' :: (quoteString key ++ cs)) =
      '\x7b' :: (quoteString key ++ cs) := rfl
  have skipped : skipSpace (quoteString key ++ cs) = quoteString key ++ cs := rfl
  rw [readValue?, brace]
  simp only [skipped]
  rfl

mutual

/-- A value reads back from its text, whatever ends it there. -/
theorem readValue?_write {depth : Nat} : (v : Value) → v.isJson depth = true →
    {rest : List Char} → EndsValue rest →
    readValue? Value.ofFields depth (write v ++ rest) = some (v, rest)
  | .null, _, rest, _ => by
      rw [readValue?]
      rfl
  | .bool true, _, rest, _ => by
      rw [readValue?]
      rfl
  | .bool false, _, rest, _ => by
      rw [readValue?]
      rfl
  | .num (.int n), isJson, rest, ends => by
      rw [Value.isJson, decide_eq_true_eq] at isJson
      obtain ⟨c, more, written, starts⟩ := numberText_head n
      have read := readNumber?_write isJson ends
      rw [write]
      rw [written] at read ⊢
      rw [List.cons_append] at read ⊢
      rw [readValue?_number _ depth starts, read]
      rfl
  | .num (.float _), isJson, _, _ => by cases isJson
  | .str s, _, rest, _ => by
      have skipped : skipSpace (quoteString s ++ rest) =
          '"' :: (s.toList.flatMap escapeChar ++ '"' :: rest) := by
        rw [quoteString]
        simp [skipSpace, isSpace]
      have read := readString?_quote s rest
      rw [write, readValue?, skipped]
      simp only [read, Option.map_some]
  | .arr [], isJson, rest, _ => by
      cases depth with
      | zero => simp [Value.isJson] at isJson
      | succ depth =>
          rw [readValue?]
          rfl
  | .arr (item :: items), isJson, rest, _ => by
      cases depth with
      | zero => simp [Value.isJson] at isJson
      | succ depth =>
          rw [Value.isJson, Bool.and_eq_true, Nat.add_sub_cancel, Value.areJson,
            Bool.and_eq_true] at isJson
          obtain ⟨-, itemJson, itemsJson⟩ := isJson
          have starts := (startsValue_write itemJson).append (writeItems items ++ rest)
          have enough : items.length <
              (write item ++ (writeItems items ++ rest)).length := by
            have many := length_writeItems items
            simp only [List.length_append]
            omega
          have read := readEntries?_writeItems item items itemJson itemsJson enough rest
          rw [write, List.cons_append, List.cons_append, List.append_assoc,
            readValue?_array _ depth starts, read]
          rfl
  | .obj [], isJson, rest, _ => by
      cases depth with
      | zero => simp [Value.isJson] at isJson
      | succ depth =>
          rw [readValue?]
          rfl
  | .obj ((key, value) :: fields), isJson, rest, _ => by
      cases depth with
      | zero => simp [Value.isJson] at isJson
      | succ depth =>
          rw [Value.isJson, Bool.and_eq_true, Bool.and_eq_true, Nat.add_sub_cancel,
            Value.areFieldsJson, Bool.and_eq_true] at isJson
          obtain ⟨⟨-, valueJson, fieldsJson⟩, ordered⟩ := isJson
          have enough : fields.length < (quoteString key ++
              ':' :: (write value ++ (writeFields fields ++ rest))).length := by
            have many := length_writeFields fields
            simp only [List.length_append, List.length_cons]
            omega
          have read := readEntries?_writeFields key value fields valueJson fieldsJson
            enough rest
          have whole : write (.obj ((key, value) :: fields)) ++ rest = '\x7b' ::
              (quoteString key ++ ':' :: (write value ++ (writeFields fields ++ rest))) := by
            simp [write]
          have built := Value.ofFields_of_ascending ordered
          rw [whole, readValue?_object, read, Option.map_some]
          dsimp only
          rw [built]

/-- The items of an array read back up to the end of it. -/
theorem readEntries?_writeItems {depth : Nat} : (item : Value) →
    (items : List Value) → item.isJson depth = true → Value.areJson depth items = true →
    {fuel : Nat} → items.length < fuel → (rest : List Char) →
    readEntries? (readValue? Value.ofFields depth) ']' fuel
      (write item ++ (writeItems items ++ rest)) = some (item :: items, rest)
  | item, [], isJson, _, fuel + 1, _, rest => by
      have ends : EndsValue (']' :: rest) := by
        simp [EndsValue]
      exact readEntries?_last rfl (by decide) (readValue?_write item isJson ends) fuel
  | item, next :: items, isJson, areJson, fuel + 1, enough, rest => by
      rw [Value.areJson, Bool.and_eq_true] at areJson
      have later := readEntries?_writeItems next items areJson.1 areJson.2
        (Nat.lt_of_succ_lt_succ enough) rest
      have ends : EndsValue (',' :: (write next ++ (writeItems items ++ rest))) := by
        simp [EndsValue]
      have read := readEntries?_cons (readValue?_write item isJson ends) later
      simpa [writeItems] using read

theorem readEntries?_writeFields {depth : Nat} : (key : String) → (value : Value) →
    (fields : List (String × Value)) → value.isJson depth = true →
    Value.areFieldsJson depth fields = true →
    {fuel : Nat} → fields.length < fuel → (rest : List Char) →
    readEntries? (readField? (readValue? Value.ofFields depth)) '\x7d' fuel
      (quoteString key ++ ':' :: (write value ++ (writeFields fields ++ rest))) =
        some ((key, value) :: fields, rest)
  | key, value, [], isJson, _, fuel + 1, _, rest => by
      have ends : EndsValue ('\x7d' :: rest) := by
        simp [EndsValue]
      have read := readField?_write key (readValue?_write value isJson ends)
      exact readEntries?_last rfl (by decide) read fuel
  | key, value, (next, nextValue) :: fields, isJson, areJson, fuel + 1, enough, rest => by
      rw [Value.areFieldsJson, Bool.and_eq_true] at areJson
      have later := readEntries?_writeFields next nextValue fields areJson.1 areJson.2
        (Nat.lt_of_succ_lt_succ enough) rest
      have ends : EndsValue (',' :: (quoteString next ++ ':' ::
          (write nextValue ++ (writeFields fields ++ rest)))) := by
        simp [EndsValue]
      have read := readField?_write key (readValue?_write value isJson ends)
      have read := readEntries?_cons read later
      simpa [writeFields] using read

end

/-- The text of a value without floats reads as the value. -/
theorem read?_print {v : Value} (isJson : v.isJson maxDepth = true) :
    read? (print v) = some v := by
  have ends : EndsValue [] := by
    simp [EndsValue]
  have read := readValue?_write v isJson ends
  rw [List.append_nil] at read
  rw [read?, readAll?, print, String.toList_ofList, read]
  rfl

theorem write_ne_nil {depth : Nat} {v : Value} (isJson : v.isJson depth = true) :
    write v ≠ [] := by
  obtain ⟨c, rest, written, -⟩ := startsValue_write isJson
  rw [written]
  exact List.cons_ne_nil c rest

end Json

/-! ## Slots -/

namespace Slot

/-- Whether a text comes back from a slot as it is: it is not empty, and not itself
the JSON text of some value. -/
def KeepsText (text : String) : Prop := text ≠ "" ∧ Json.read? text = none

/-- Values that are not texts come back from a slot, and so do texts that do not
read as something else. -/
theorem read?_write {v : Value} (isJson : v.isJson Json.maxDepth = true)
    (plain : ∀ text, v = .str text → KeepsText text) :
    read? (write v) = some v := by
  cases v with
  | str text =>
      obtain ⟨filled, unread⟩ := plain text rfl
      rw [write, read?, if_neg filled, unread]
      rfl
  | _ =>
      rw [write, read?, if_neg, Json.read?_print isJson]
      · rfl
      · intro empty
        exact Json.write_ne_nil isJson (String.ofList_eq_empty_iff.1 empty)
      · exact nofun

end Slot

end LivePages
