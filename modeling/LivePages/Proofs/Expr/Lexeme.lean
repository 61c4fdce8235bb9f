import LivePages.Proofs.Expr.Tiling

/-!
# Tokens as they are written

A lexeme is a token together with its spelling.  Written one behind the other
with blanks between them, lexemes are read as their tokens, and every token that
is read anywhere has a lexeme.
-/

namespace LivePages

open LivePages.Expr (IsRun Spans Tiles unescaped)
open Template (Quoted)

/-- A token as it is written. -/
inductive Lexeme where
  | numeral (digits : List Char)
  | text (value : String)
  | name (value : String)
  | mark (value : Mark)

namespace Lexeme

def token : Lexeme → Token
  | numeral digits => .number ((Decimal.read? digits).getD 0)
  | text s => .text s
  | name n => .name n
  | mark m => .mark m

/-- A character of a text between quotes. -/
def escape (c : Char) : List Char :=
  if c = '"' ∨ c = '\\' then ['\\', c] else [c]

def chars : Lexeme → List Char
  | numeral digits => digits
  | text s => '"' :: (s.toList.flatMap escape ++ ['"'])
  | name n => n.toList
  | mark m => m.text

/-- In front of a blank the lexeme is read as its token, whatever follows. -/
def Legible (l : Lexeme) : Prop :=
  ∃ c cs, l.chars = c :: cs ∧ Text.isBlank c = false ∧
    ∀ more, Expr.scan c (cs ++ ' ' :: more) = .ok (l.token, cs.length)

/-- Lexemes as a text, each with a blank behind it. -/
def source (ls : List Lexeme) : String :=
  String.ofList (ls.flatMap fun l => l.chars ++ [' '])

/-! ## Legible lexemes -/

theorem legible_mark (m : Mark) : (mark m).Legible := by
  cases m <;> exact ⟨_, _, rfl, by decide, fun more => rfl⟩

/-- It is enough to have a span in front of every blank. -/
theorem legible_of_spans {l : Lexeme} (spans : ∀ more, Spans l.token l.chars (' ' :: more)) :
    l.Legible := by
  obtain ⟨c, cs, shape, visible, -⟩ := Expr.scan_of_spans (spans [])
  refine ⟨c, cs, shape, visible, fun more => ?_⟩
  obtain ⟨d, ds, same, -, scanned⟩ := Expr.scan_of_spans (spans more)
  rw [shape] at same
  cases same
  exact scanned

theorem quoted_escape (cs : List Char) : Quoted '"' (cs.flatMap escape) := by
  induction cs with
  | nil => exact .nil
  | cons c cs inductionHypothesis =>
      rw [List.flatMap_cons, escape]
      by_cases special : c = '"' ∨ c = '\\'
      · rw [if_pos special]
        exact .escaped c inductionHypothesis
      · rw [if_neg special]
        obtain ⟨noQuote, noEscape⟩ := not_or.1 special
        exact .plain noQuote noEscape inductionHypothesis

theorem unescaped_escape (cs : List Char) : unescaped (cs.flatMap escape) = cs := by
  induction cs with
  | nil => rfl
  | cons c cs inductionHypothesis =>
      rw [List.flatMap_cons, escape]
      by_cases special : c = '"' ∨ c = '\\'
      · have same : Expr.unescape c = c := by
          rcases special with rfl | rfl
          · rfl
          · rfl
        rw [if_pos special, List.cons_append, List.singleton_append, unescaped,
          inductionHypothesis, same]
      · rw [if_neg special, List.singleton_append, unescaped, inductionHypothesis]
        exact fun d more isEscape _ => special (.inr isEscape)

theorem legible_text (s : String) : (text s).Legible := by
  refine legible_of_spans fun more => ?_
  have spans := Spans.text (' ' :: more) (.inl rfl) (quoted_escape s.toList)
  rwa [unescaped_escape, String.ofList_toList] at spans

/-- A run of other characters ends in front of a blank. -/
theorem isRun_blank {p : Char → Bool} {run rest : List Char} (isRun : IsRun p run rest)
    (stops : p ' ' = false) (more : List Char) : IsRun p run (' ' :: more) := by
  refine ⟨isRun.inside, fun c first => ?_⟩
  cases first
  exact stops

theorem exists_legible_of_spans {t : Token} {span rest : List Char}
    (spans : Spans t span rest) : ∃ l : Lexeme, l.token = t ∧ l.Legible := by
  cases spans with
  | @number f _ _ starts run read =>
      have same : (numeral span).token = .number f := by
        rw [token, read]
        rfl
      refine ⟨numeral span, same, legible_of_spans fun more => ?_⟩
      rw [same]
      exact .number ((starts.of_run run).append _) (isRun_blank run (by decide) more) read
  | text _ _ _ => exact ⟨text _, rfl, legible_text _⟩
  | @name c more _ starts run =>
      refine ⟨name (String.ofList (c :: more)), rfl, legible_of_spans fun behind => ?_⟩
      rw [chars, String.toList_ofList]
      exact .name starts (isRun_blank run (by decide) behind)
  | @mark m => exact ⟨mark m, rfl, legible_mark m⟩

/-- Every token of an input has a lexeme. -/
theorem exists_legible_of_tiles {before cs rest : List Char} {ts : List Located}
    (tiles : Tiles before cs rest ts) :
    ∀ t ∈ ts.map Located.token, ∃ l : Lexeme, l.token = t ∧ l.Legible := by
  induction tiles with
  | nil => exact List.forall_mem_nil _
  | blank _ _ inductionHypothesis => exact inductionHypothesis
  | token spans _ inductionHypothesis =>
      exact List.forall_mem_cons.2 ⟨exists_legible_of_spans spans, inductionHypothesis⟩

theorem exists_legible_of_tokenize {input : String} {ts : List Located}
    (read : Expr.tokenize input = .ok ts) :
    ∀ t ∈ ts.map Located.token, ∃ l : Lexeme, l.token = t ∧ l.Legible :=
  exists_legible_of_tiles (Expr.tiles_of_tokenize read)

theorem Legible.spans {l : Lexeme} (legible : l.Legible) (more : List Char) :
    Spans l.token l.chars (' ' :: more) := by
  obtain ⟨c, cs, shape, -, scanned⟩ := legible
  obtain ⟨inside, behind, split, length, spans⟩ := Expr.exists_spans_of_scan (scanned more)
  obtain ⟨rfl, rfl⟩ := List.append_inj split length.symm
  rwa [shape]

/-- Written lexemes are laid out in their tokens. -/
theorem exists_tiles_of_legible {ls : List Lexeme} (legible : ∀ l ∈ ls, l.Legible)
    (before : List Char) :
    ∃ ts, Tiles before (ls.flatMap fun l => l.chars ++ [' ']) [] ts ∧
      ts.map Located.token = ls.map token := by
  induction ls generalizing before with
  | nil => exact ⟨[], .nil before [], rfl⟩
  | cons l ls inductionHypothesis =>
      obtain ⟨first, others⟩ := List.forall_mem_cons.1 legible
      obtain ⟨ts, later, tokens⟩ := inductionHypothesis others (before ++ l.chars ++ [' '])
      have blank : Text.isBlank ' ' = true := by decide
      have spans := first.spans ((ls.flatMap fun l => l.chars ++ [' ']) ++ [])
      rw [List.flatMap_cons, List.append_assoc, List.singleton_append]
      exact ⟨_, .token spans (.blank blank later), by rw [List.map_cons, List.map_cons, tokens]⟩

/-- Written lexemes are read as their tokens. -/
theorem tokenize_source {ls : List Lexeme} (legible : ∀ l ∈ ls, l.Legible) :
    ∃ ts, Expr.tokenize (source ls) = .ok ts ∧
      ts.map Located.token = ls.map token := by
  obtain ⟨ts, tiles, tokens⟩ := exists_tiles_of_legible legible []
  refine ⟨ts, Expr.tokenize_of_tiles ?_, tokens⟩
  rwa [source, String.toList_ofList]

end Lexeme

end LivePages
