import LivePages.Proofs.Expr.Header
import LivePages.Proofs.Program.Layout
import LivePages.Proofs.Program.Naming
import LivePages.Proofs.Value.Member

/-!
# Loops over keys and over items

A loop over the keys of an array or a text and a loop over its items run in step: the
value at each key is the item of the same round.  An expression means in the rounds of a
loop what it means outside, unless it mentions the variable of the loop.
-/

namespace LivePages

variable {σ : Type}

/-! ## What loops run over -/

namespace Expr

theorem iterate_items {v : Value} {items : List Value} (has : v.items? = some items) :
    iterate .items v = .ok items := by
  cases v with
  | arr => exact congrArg Except.ok (Option.some.inj has)
  | str => exact congrArg Except.ok (Option.some.inj has)
  | _ => cases has

theorem iterate_keys {v : Value} {items : List Value} (has : v.items? = some items) :
    iterate .keys v = .ok ((List.range items.length).map fun i => .str (toString i)) := by
  cases v with
  | arr =>
      cases has
      rfl
  | str s =>
      cases has
      rw [iterate, List.length_map, String.length_toList]
  | _ => cases has

section Value

variable {env : Surroundings σ} {locals : Locals} {s t : σ} {e : Expr} {v w : Value}
  (value : e.eval env locals s = (.ok v, t))

include value

theorem iterate_of_eval {header binding : String} {kind : LoopKind} {items : List Value}
    (parsed : parseLoopHeader header = .ok ⟨binding, kind, e⟩)
    (found : iterate kind v = .ok items) :
    env.evaluator.iterate header locals s = (.ok (binding, items), t) := by
  rw [env.iterate_of_parse locals parsed, Keeps.bind_eq, value]
  dsimp only
  rw [found]
  rfl

theorem eval_member {property : String} (found : v.member property = .ok w) :
    (member e property).eval env locals s = (.ok w, t) := by
  rw [eval, Keeps.bind_eq, value]
  dsimp only
  rw [found]
  rfl

/-- The value at the key of a round. -/
theorem eval_index_push {k key : String} (apart : k ∉ e.names)
    (found : v.member key = .ok w) :
    (index e (name k)).eval env ((k, .str key) :: locals) s = (.ok w, t) := by
  have own : (name k).eval env ((k, .str key) :: locals) t = (.ok (.str key), t) := by
    rw [eval, lookup, List.lookup_cons_self]
  rw [eval, Keeps.bind_eq, eval_push apart, value]
  dsimp only
  rw [Keeps.bind_eq, own]
  dsimp only
  rw [Value.display, found]
  rfl

end Value

end Expr

/-! ## Sources around an expression -/

namespace Lexeme

theorem parseExpression_source {ls : List Lexeme} {e : Expr}
    (spelled : Numerals.Spell (.expr .conditional e) ls) :
    Expr.parseExpression (source ls) = .ok e := by
  obtain ⟨ts, read, tokens⟩ := tokenize_source spelled.legible
  have derived := spelled.derives
  rw [← tokens] at derived
  exact (Expr.bind_of_ok read _).trans (Expr.parseAll_anyExpression_iff.2 derived)

theorem parseLoopHeader_source {ls : List Lexeme} {header : LoopHeader}
    (legible : ∀ l ∈ ls, l.Legible) (heads : Grammar.Heads header (ls.map token)) :
    Expr.parseLoopHeader (source ls) = .ok header := by
  obtain ⟨ts, read, tokens⟩ := tokenize_source legible
  rw [← tokens] at heads
  exact Expr.parseLoopHeader_of_heads read heads

end Lexeme

/-- The sources around an expression: loops over the keys and over the items of its value,
the value at a key, and the number of items. -/
structure LoopSources (k x : String) (e : Expr) where
  keys : String
  items : String
  item : String
  length : String
  keysRead : Expr.parseLoopHeader keys = .ok ⟨k, .keys, e⟩
  itemsRead : Expr.parseLoopHeader items = .ok ⟨x, .items, e⟩
  itemRead : Expr.parseExpression item = .ok (.index e (.name k))
  lengthRead : Expr.parseExpression length = .ok (.member e "length")

/-- Names that loops can bind and expressions can mention. -/
structure IsVariable (name : String) : Prop where
  legible : (Lexeme.name name).Legible
  noKeyword : name ∉ Grammar.keywords
  noValue : name ∉ Grammar.valueNames

namespace LoopSources

open Grammar (Derives Heads loopWord)
open Numerals (Spell AllLegible allLegible_cons)

variable {k x : String} {e : Expr} {ls : List Lexeme}

theorem spell_loop {binding : String} (isVariable : IsVariable binding) (kind : LoopKind)
    (spelled : Spell (.expr .conditional e) ls) :
    Expr.parseLoopHeader (Lexeme.source (.name binding :: .name (loopWord kind) :: ls)) =
      .ok ⟨binding, kind, e⟩ := by
  have word : (Lexeme.name (loopWord kind)).Legible := by
    cases kind with
    | items => exact ⟨'o', ['f'], rfl, by decide, fun _ => rfl⟩
    | keys => exact ⟨'i', ['n'], rfl, by decide, fun _ => rfl⟩
  have legible : AllLegible (.name binding :: .name (loopWord kind) :: ls) :=
    allLegible_cons.2 ⟨isVariable.legible, allLegible_cons.2 ⟨word, spelled.legible⟩⟩
  exact Lexeme.parseLoopHeader_source legible (.plain kind isVariable.noKeyword spelled.derives)

theorem spell_index (spelled : Spell (.expr .postfixed e) ls) (key : IsVariable k) :
    Spell (.expr (Expr.index e (.name k)).grade (.index e (.name k)))
      (ls ++ .mark .openBracket :: [.name k] ++ [.mark .closeBracket]) where
  derives := by
    have position : Derives (.expr .conditional (.name k)) [.name k] :=
      (Derives.name key.noValue).loosenTo (by decide)
    have derived := Derives.index spelled.derives position
    simpa [Lexeme.token, Expr.grade] using derived
  legible :=
    (spelled.legible.behind .openBracket
      (allLegible_cons.2 ⟨key.legible, List.forall_mem_nil _⟩)).closed .closeBracket

theorem spell_length (spelled : Spell (.expr .postfixed e) ls) :
    Spell (.expr (Expr.member e "length").grade (.member e "length"))
      (ls ++ [.mark .dot, .name "length"]) where
  derives := by
    have derived : Derives (.expr .postfixed (.member e "length")) _ := .member spelled.derives
    simpa [Lexeme.token, Expr.grade] using derived
  legible := by
    have word : (Lexeme.name "length").Legible :=
      ⟨'l', ['e', 'n', 'g', 't', 'h'], rfl, by decide, fun _ => rfl⟩
    exact spelled.legible.behind .dot (allLegible_cons.2 ⟨word, List.forall_mem_nil _⟩)

/-- The sources around an expression as it is spelled, if need be in parentheses. -/
def ofSpelled (spelled : Spell (.expr e.grade e) ls) (key : IsVariable k)
    (item : IsVariable x) : LoopSources k x e :=
  let operand := Numerals.place .postfixed e ls
  have inside : Spell (.expr .postfixed e) operand := spelled.place .postfixed
  { keys := Lexeme.source (.name k :: .name "in" :: ls)
    items := Lexeme.source (.name x :: .name "of" :: ls)
    item := Lexeme.source (operand ++ .mark .openBracket :: [.name k] ++ [.mark .closeBracket])
    length := Lexeme.source (operand ++ [.mark .dot, .name "length"])
    keysRead := spell_loop key .keys spelled.loosest
    itemsRead := spell_loop item .items spelled.loosest
    itemRead := Lexeme.parseExpression_source (spell_index inside key).loosest
    lengthRead := Lexeme.parseExpression_source (spell_length inside).loosest }

end LoopSources

/-! ## Loops that run in step -/

/-- Where the value of an expression is an array or a text, a loop over its keys runs over
the positions in order, a loop over its items over as many items, and the value at each
position is the item there.  Positions are read back as numbers of 64 bits, which arrays and
texts do not exceed.  Where the value is an object, a loop over its keys runs over them in
order, each once, and the value at each is that of its field. -/
theorem loops_and_indexing_agree {k x : String} {e : Expr} (sources : LoopSources k x e)
    (apart : k ∉ e.names) (env : Surroundings σ) (locals : Locals) {s t : σ} {v : Value}
    (value : e.eval env locals s = (.ok v, t)) :
    (∀ items, v.items? = some items →
      let keys := (List.range items.length).map fun i => Value.str (toString i)
      env.evaluator.iterate sources.keys locals s = (.ok (k, keys), t) ∧
      env.evaluator.iterate sources.items locals s = (.ok (x, items), t) ∧
      env.evaluator.evaluate sources.length locals s = (.ok (.nat items.length), t) ∧
      (items.length ≤ UInt64.size →
        keys.map (fun key => env.evaluator.evaluate sources.item ((k, key) :: locals) s) =
          items.map fun item => (.ok item, t))) ∧
    ∀ pairs, v = .ofFields pairs → ∃ fields, v = .obj fields ∧
      env.evaluator.iterate sources.keys locals s =
        (.ok (k, fields.map fun field => .str field.1), t) ∧
      (fields.map Prod.fst).Pairwise (· < ·) ∧
      (∀ key, key ∈ fields.map Prod.fst ↔ key ∈ pairs.map Prod.fst) ∧
      ∀ field ∈ fields,
        env.evaluator.evaluate sources.item ((k, .str field.1) :: locals) s =
          (.ok field.2, t) := by
  refine ⟨fun items has => ⟨?_, ?_, ?_, fun fits => ?_⟩, ?_⟩
  · exact Expr.iterate_of_eval value sources.keysRead (Expr.iterate_keys has)
  · exact Expr.iterate_of_eval value sources.itemsRead (Expr.iterate_items has)
  · rw [env.evaluate_of_parse locals sources.lengthRead]
    exact Expr.eval_member value (Value.member_length has)
  · -- the two loops are compared round by round
    refine List.ext_getElem (by simp) fun i inside _ => ?_
    have position : i < items.length := by simpa using inside
    rw [List.getElem_map, List.getElem_map, List.getElem_map, List.getElem_range,
      env.evaluate_of_parse _ sources.itemRead]
    exact Expr.eval_index_push value apart
      (Value.member_position has position (Nat.lt_of_lt_of_le position fits))
  · rintro pairs rfl
    obtain ⟨fields, made, ordered, keys⟩ := Value.exists_ofFields pairs
    rw [made] at value ⊢
    refine ⟨fields, rfl, Expr.iterate_of_eval value sources.keysRead rfl, ?_, keys, ?_⟩
    · rw [List.pairwise_map]
      exact of_decide_eq_true ordered
    · intro field member
      rw [env.evaluate_of_parse _ sources.itemRead]
      exact Expr.eval_index_push value apart (Value.member_key ordered member)

theorem loops_and_indexing_agree_variable :
    let around : Value → Locals := fun v => [("v", v)]
    let engine := Surroundings.empty.evaluator
    let word : Value := .str "n\u00e9"
    let record := Value.ofFields [("b", .null), ("a", .int 1)]
    "k" ∉ (Expr.name "v").names ∧
    ((Expr.name "v").eval .empty (around word) () = (.ok word, ()) ∧
      engine.iterate "k in v " (around word) () = (.ok ("k", [.str "0", .str "1"]), ()) ∧
      engine.iterate "x of v " (around word) () =
        (.ok ("x", [.str "n", .str "\u00e9"]), ()) ∧
      engine.evaluate "v . length " (around word) () = (.ok (.int 2), ()) ∧
      [Value.str "0", .str "1"].map
          (fun key => engine.evaluate "v [ k ] " (("k", key) :: around word) ()) =
        [(.ok (.str "n"), ()), (.ok (.str "\u00e9"), ())]) ∧
    (Expr.name "v").eval .empty (around record) () = (.ok record, ()) ∧
    engine.iterate "k in v " (around record) () = (.ok ("k", [.str "a", .str "b"]), ()) ∧
    engine.evaluate "v [ k ] " (("k", .str "a") :: around record) () = (.ok (.int 1), ()) ∧
    engine.evaluate "v [ k ] " (("k", .str "b") :: around record) () = (.ok .null, ()) := by
  intro around engine word record
  have legible : (Lexeme.name "v").Legible := ⟨'v', [], rfl, by decide, fun _ => rfl⟩
  have spelled : Numerals.Spell (.expr .primary (.name "v")) [.name "v"] :=
    ⟨.name (by decide), Numerals.allLegible_cons.2 ⟨legible, List.forall_mem_nil _⟩⟩
  have key : IsVariable "k" :=
    ⟨⟨'k', [], rfl, by decide, fun _ => rfl⟩, by decide, by decide⟩
  have item : IsVariable "x" :=
    ⟨⟨'x', [], rfl, by decide, fun _ => rfl⟩, by decide, by decide⟩
  let sources : LoopSources "k" "x" (.name "v") := .ofSpelled spelled key item
  have apart : "k" ∉ (Expr.name "v").names := by decide
  have value (v : Value) : (Expr.name "v").eval .empty (around v) () = (.ok v, ()) := rfl
  obtain ⟨keys, items, length, inStep⟩ :=
    (loops_and_indexing_agree sources apart .empty _ (value word)).1 _ rfl
  obtain ⟨fields, made, fieldKeys, -, -, found⟩ :=
    (loops_and_indexing_agree sources apart .empty _ (value record)).2 _ rfl
  have inOrder : record = .obj [("a", .int 1), ("b", .null)] := rfl
  cases inOrder.symm.trans made
  refine ⟨apart, ⟨value word, keys, items, length, inStep (by decide)⟩, value record,
    fieldKeys, found _ List.mem_cons_self, ?_⟩
  exact found ("b", .null) (List.mem_cons_of_mem _ List.mem_cons_self)

end LivePages
