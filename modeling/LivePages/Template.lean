import LivePages.Expr.Eval
import LivePages.Markup.Entity

/-! Markup with interpolated expressions. An interpolation ends at the first closing brace that
stands outside of quotes and of inner braces. -/

namespace LivePages

/-- A part of a template: text that stands as it is, or the source of an expression. -/
inductive Segment where
  | literal (text : String)
  | expr (source : String)
deriving DecidableEq, Inhabited

/-- Markup text with interpolations. -/
structure Template where
  segments : List Segment
deriving DecidableEq, Inhabited

namespace Template

/-- The body of an interpolation, up to the brace that closes it, and what follows the brace. Braces
nest, and those in quoted texts do not count; a quoted text returns to the depth it started at. -/
def splitBody? (depth : Nat) (quote : Option Char) (escaped : Bool) :
    List Char → Option (List Char × List Char)
  | [] => none
  | c :: rest =>
    let go := fun depth quote escaped =>
      (splitBody? depth quote escaped rest).map fun (body, after) => (c :: body, after)
    match quote with
    | some q =>
      if escaped then go depth quote false
      else if c = '\\' then go depth quote true
      else go depth (if c = q then none else quote) false
    | none =>
      match c with
      | '\'' | '"' | '\x60' => go depth (some c) false
      | '\x7b' => go (depth + 1) none false
      | '\x7d' => if depth = 0 then some ([], rest) else go (depth - 1) none false
      | _ => go depth none false

/-- The text before the first start of an interpolation, and what follows the start. -/
def splitStart? : List Char → Option (List Char × List Char)
  | [] => none
  | '$' :: '\x7b' :: rest => some ([], rest)
  | c :: rest => (splitStart? rest).map fun (before, after) => (c :: before, after)

theorem length_splitStart? {cs before after : List Char}
    (h : splitStart? cs = some (before, after)) : after.length < cs.length := by
  fun_induction splitStart? cs generalizing before with
  | case1 => simp at h
  | case2 =>
    simp only [Option.some.injEq, Prod.mk.injEq] at h
    simp only [List.length_cons, h.2]
    omega
  | case3 c rest _ ih =>
    obtain ⟨⟨b, a⟩, hs, he⟩ := Option.map_eq_some_iff.1 h
    obtain ⟨rfl, rfl⟩ := Prod.mk.inj he
    exact Nat.lt_succ_of_lt (ih hs)

theorem length_splitBody? {depth : Nat} {quote : Option Char} {escaped : Bool}
    {cs body after : List Char} (h : splitBody? depth quote escaped cs = some (body, after)) :
    after.length < cs.length := by
  induction cs generalizing depth quote escaped body with
  | nil => simp [splitBody?] at h
  | cons c rest ih =>
    have step : ∀ {d q e}, (splitBody? d q e rest).map (fun (b, a) => (c :: b, a)) =
        some (body, after) → after.length < (c :: rest).length := by
      intro d q e hm
      obtain ⟨⟨b, a⟩, hs, he⟩ := Option.map_eq_some_iff.1 hm
      obtain ⟨rfl, rfl⟩ := Prod.mk.inj he
      exact Nat.lt_succ_of_lt (ih hs)
    unfold splitBody? at h
    repeat' split at h
    all_goals first
      | exact step h
      | simp_all

/-- The segment of a text that stands as it is; empty text has none. -/
def literals (text : List Char) : List Segment :=
  if text.isEmpty then [] else [.literal (String.ofList text)]

/-- The segments of a markup text; or the rest of the text from an interpolation without a closing
brace on. The source of an expression is trimmed and its entities are decoded. -/
def segmentsOf (cs : List Char) : Except (List Char) (List Segment) :=
  match _hs : splitStart? cs with
  | none => .ok (literals cs)
  | some (before, inside) =>
    match _hb : splitBody? 0 none false inside with
    | none => .error (cs.drop before.length)
    | some (body, after) =>
      let source := String.ofList (Markup.decodeEntities (Text.trim body))
      (segmentsOf after).map fun more => literals before ++ .expr source :: more
termination_by cs.length
decreasing_by
  have := length_splitStart? _hs
  have := length_splitBody? _hb
  omega

/-- Splits markup at its interpolations. The error is the byte offset of one that is not closed. -/
def parse (markup : String) : Except Nat Template :=
  match segmentsOf markup.toList with
  | .ok segments => .ok ⟨segments⟩
  | .error rest => .error (markup.utf8ByteSize - Text.byteLength rest)

/-- Whether the template has no interpolations. -/
def isStatic (t : Template) : Bool :=
  t.segments.all fun segment =>
    match segment with
    | .literal _ => true
    | .expr _ => false

/-- The text of a segment. -/
def Segment.render {σ : Type} (engine : Evaluator σ) (locals : Locals) :
    Segment → Evaluation σ String
  | .literal text => pure text
  | .expr source => do return (← engine.evaluate source locals).display

/-- The text of a template, its expressions evaluated from left to right. -/
def render {σ : Type} (engine : Evaluator σ) (locals : Locals) (t : Template) :
    Evaluation σ String := do
  return String.join (← t.segments.mapM (Segment.render engine locals))

end Template

end LivePages
