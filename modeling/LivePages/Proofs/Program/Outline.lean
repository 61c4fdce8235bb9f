import LivePages.Program.Compile

/-!
# Outlines of siblings

Compiling walks over siblings once, with markup, an open branch and waiting
text in hand.  This module says what comes out of it without such a walk.  The
name of its first attribute says what a wrapper is.  An outline looks ahead along
the siblings and names

* each branch with all of its arms,
* every other wrapper element that leaves instructions,
* the run of nodes in front of each of them, and the run after the last one.

Two runs never meet, and the arms of a branch are well formed, because the
types leave no room for anything else.  The main statement is that compiling
siblings does what their outline says, with the same layouts looked up in the
same order and the same error if there is one.
-/

namespace LivePages

/-- What a sibling is to the list it stands in.  Compiled contents are a `β`. -/
inductive Sibling (β : Type) where
  /-- A wrapper without attributes. -/
  | skipped
  /-- A node that is emitted as it stands. -/
  | plain (node : Markup.Node)
  /-- A wrapper that starts a branch. -/
  | opening (condition : String) (body : β)
  /-- A wrapper that goes on with a branch; the last resort has no condition. -/
  | continuing (condition : Option String) (body : β)
  | loop (header : String) (body : β)
  | layout (name : String) (body : β)
  /-- Any other wrapper; its content stands in its place. -/
  | inPlace (body : β)

namespace Sibling

variable {β : Type}

/-- What a wrapper is, as the name of its first attribute says.  Its contents
are compiled to `body`, or by `expand` for a layout. -/
def ofWrapper (attributes : List Markup.Attribute) (body : β)
    (expand : String → β) : Sibling β :=
  match attributes with
  | [] => skipped
  | first :: _ =>
    let value := first.value.getD ""
    match first.name with
    | ":for" => loop value body
    | ":if" => opening value body
    | ":else-if" => continuing (some value) body
    | ":else" => continuing none body
    | "layout" => layout value (expand value)
    | _ => inPlace body

/-- Siblings that a branch reaches across: texts, comments and skipped
wrappers. -/
def isGap : Sibling β → Bool
  | skipped | plain (.text _) | plain (.comment _) => true
  | _ => false

/-- The next arm of a branch that has come this far, and what follows the
arm. -/
def nextArm? (siblings : List (Sibling β)) :
    Option ((Option String × β) × List (Sibling β)) :=
  match siblings.dropWhile isGap with
  | continuing condition body :: rest => some ((condition, body), rest)
  | _ => none

end Sibling

/-- A branch: at least one arm, all with a condition, and perhaps a last
resort without one. -/
structure Chain (β : Type) where
  first : String × β
  further : List (String × β)
  fallback : Option β

/-- What stands between two runs. -/
inductive Item (β : Type) where
  | chain (chain : Chain β)
  | loop (header : String) (body : β)
  | layout (name : String) (body : β)
  | inPlace (body : β)
  /-- An arm that has no branch to go on with. -/
  | orphan (directive : String) (body : β)

/-- Siblings grouped: runs of plain nodes, with one item between each two. -/
inductive Outline (β : Type) where
  | run (nodes : List Markup.Node)
  | item (lead : List Markup.Node) (item : Item β) (rest : Outline β)

namespace Outline

variable {β : Type}

/-- Puts a node in front of the first run. -/
def prepend (node : Markup.Node) : Outline β → Outline β
  | run nodes => run (node :: nodes)
  | item lead i rest => item (node :: lead) i rest

end Outline

namespace Sibling

variable {β : Type}

theorem length_nextArm? {siblings rest : List (Sibling β)}
    {arm : Option String × β}
    (found : nextArm? siblings = some (arm, rest)) :
    rest.length < siblings.length := by
  unfold nextArm? at found
  split at found
  · rename_i shape
    have shorter := (List.dropWhile_suffix (l := siblings) isGap).length_le
    simp only [Option.some.injEq, Prod.mk.injEq] at found
    rw [shape, List.length_cons, found.2] at shorter
    omega
  · cases found

/-- The arms that go on with a branch: those with a condition, the last
resort, and the siblings after all of them. -/
def arms (siblings : List (Sibling β)) :
    List (String × β) × Option β × List (Sibling β) :=
  match _found : nextArm? siblings with
  | none => ([], none, siblings)
  | some ((none, body), rest) => ([], some body, rest)
  | some ((some condition, body), rest) =>
    let (further, fallback, after) := arms rest
    ((condition, body) :: further, fallback, after)
termination_by siblings.length
decreasing_by exact length_nextArm? _found

theorem length_arms_le (siblings : List (Sibling β)) :
    (arms siblings).2.2.length ≤ siblings.length := by
  fun_induction arms siblings with
  | case1 => exact Nat.le_refl _
  | case2 siblings body rest found =>
      exact Nat.le_of_lt (length_nextArm? found)
  | case3 siblings condition body rest found further fallback after shape ih =>
      rw [shape] at ih
      exact Nat.le_trans ih (Nat.le_of_lt (length_nextArm? found))

theorem arms_of_none {siblings : List (Sibling β)}
    (found : nextArm? siblings = none) :
    arms siblings = ([], none, siblings) := by
  rw [arms]
  split <;> simp_all

theorem arms_of_fallback {siblings rest : List (Sibling β)} {body : β}
    (found : nextArm? siblings = some ((none, body), rest)) :
    arms siblings = ([], some body, rest) := by
  rw [arms]
  split <;> simp_all

theorem arms_of_condition {siblings rest : List (Sibling β)}
    {condition : String} {body : β}
    (found : nextArm? siblings = some ((some condition, body), rest)) :
    arms siblings =
      ((condition, body) :: (arms rest).1, (arms rest).2.1, (arms rest).2.2) := by
  rw [arms]
  split <;> simp_all

theorem nextArm?_cons_gap {sibling : Sibling β} (rest : List (Sibling β))
    (gap : sibling.isGap = true) :
    nextArm? (sibling :: rest) = nextArm? rest := by
  simp [nextArm?, gap]

theorem nextArm?_cons_continuing (condition : Option String) (body : β)
    (rest : List (Sibling β)) :
    nextArm? (continuing condition body :: rest) =
      some ((condition, body), rest) :=
  rfl

theorem nextArm?_cons_other {sibling : Sibling β} (rest : List (Sibling β))
    (noGap : sibling.isGap = false)
    (noArm : ∀ condition body, sibling ≠ continuing condition body) :
    nextArm? (sibling :: rest) = none := by
  cases sibling <;> simp_all [nextArm?]

/-- A gap in front of another arm is left out. -/
theorem arms_cons_gap {sibling : Sibling β} {rest : List (Sibling β)}
    (gap : sibling.isGap = true) (found : nextArm? rest ≠ none) :
    arms (sibling :: rest) = arms rest := by
  have same := nextArm?_cons_gap rest gap
  cases next : nextArm? rest with
  | none => exact absurd next found
  | some arm =>
      obtain ⟨⟨condition, body⟩, after⟩ := arm
      rw [next] at same
      cases condition with
      | none => rw [arms_of_fallback same, arms_of_fallback next]
      | some condition => rw [arms_of_condition same, arms_of_condition next]

/-- The directive that an arm is named after in messages. -/
def armName : Option String → String
  | some _ => ":else-if"
  | none => ":else"

/-- Groups siblings. -/
def outline : List (Sibling β) → Outline β
  | [] => .run []
  | skipped :: rest => outline rest
  | plain node :: rest => (outline rest).prepend node
  | opening condition body :: rest =>
    let chain := ⟨(condition, body), (arms rest).1, (arms rest).2.1⟩
    .item [] (.chain chain) (outline (arms rest).2.2)
  | continuing condition body :: rest =>
    .item [] (.orphan (armName condition) body) (outline rest)
  | loop header body :: rest => .item [] (.loop header body) (outline rest)
  | layout name body :: rest => .item [] (.layout name body) (outline rest)
  | inPlace body :: rest => .item [] (.inPlace body) (outline rest)
termination_by siblings => siblings.length
decreasing_by
  all_goals simp only [List.length_cons]
  all_goals have := length_arms_le rest
  all_goals omega

end Sibling

/-! ## Compiling an outline -/

/-- The instructions of a run with that markup.  Empty markup leaves none. -/
def runInstructions (markup : String) :
    Except CompileError (List Instruction) :=
  if markup = "" then .ok []
  else
    match Template.parse markup with
    | .ok template => .ok [.append template]
    | .error offset => .error (.unterminatedInterpolation offset)

namespace LayoutSource

variable {σ ε : Type}

/-- The arms behind the first one of a branch. -/
def compileArms (further : List (String × ExceptT ε (StateM σ) (List Instruction)))
    (fallback : Option (ExceptT ε (StateM σ) (List Instruction))) :
    ExceptT ε (StateM σ) (List Arm) := do
  let conditional ← further.mapM fun (condition, body) => do
    let is ← body
    return (some condition, is)
  let last ← fallback.toList.mapM fun body => do
    let is ← body
    return (none, is)
  return conditional ++ last

/-- The instructions of an item behind a run with the markup `lead`.  The
content of the item, or that of its first arm, is compiled before the template
of the run is read. -/
def compileItem (source : LayoutSource σ ε) (lead : String)
    (item : Item (ExceptT ε (StateM σ) (List Instruction))) :
    ExceptT ε (StateM σ) (List Instruction) :=
  let behindLead := fun body (make : List Instruction → List Instruction) => do
    let is ← body
    let before ← source.check (runInstructions lead)
    return before ++ make is
  match item with
  | .chain chain => do
    let is ← chain.first.2
    let before ← source.check (runInstructions lead)
    let more ← compileArms chain.further chain.fallback
    return before ++ [.branch ((some chain.first.1, is) :: more)]
  | .loop header body => behindLead body fun is => [.loop header is]
  | .layout name body => behindLead body fun is => [.layout name is]
  | .inPlace body => behindLead body id
  | .orphan directive body => do
    let _ ← body
    throw (source.report (.orphanBranch directive))

/-- The instructions of an outline, in the order of its runs and items. -/
def compileOutline (source : LayoutSource σ ε) :
    Outline (ExceptT ε (StateM σ) (List Instruction)) →
      ExceptT ε (StateM σ) (List Instruction)
  | .run nodes => source.check (runInstructions (Markup.toHtml nodes))
  | .item lead item rest => do
    let first ← source.compileItem (Markup.toHtml lead) item
    let more ← source.compileOutline rest
    return first ++ more

/-- The siblings of a list of nodes.  The content of a wrapper is compiled by
its own outline, that of a layout by `expand`. -/
def siblings (source : LayoutSource σ ε)
    (expand : String → List Markup.Node →
      ExceptT ε (StateM σ) (List Instruction)) :
    List Markup.Node →
      List (Sibling (ExceptT ε (StateM σ) (List Instruction)))
  | [] => []
  | .element tag attributes children :: rest =>
    let sibling :=
      if tag = "template" then
        let body := source.compileOutline
          (Sibling.outline (siblings source expand children))
        .ofWrapper attributes body fun name => expand name children
      else .plain (.element tag attributes children)
    sibling :: siblings source expand rest
  | node :: rest => .plain node :: siblings source expand rest

/-- Compiles siblings by their outline, with at most `depth` more layouts
inside each other. -/
def compileSiblings (source : LayoutSource σ ε) :
    Nat → List Markup.Node → ExceptT ε (StateM σ) (List Instruction)
  | depth, nodes =>
    let expand := fun name content =>
      match depth with
      | 0 => throw (source.report (.layoutDepthExceeded maxLayoutDepth))
      | depth + 1 => do
        match ← source.resolve name with
        | none => throw (source.report (.unknownLayout name))
        | some layout =>
          let filled := Markup.replaceFirst? slotTag content layout
          compileSiblings source depth (filled.getD layout)
    source.compileOutline (Sibling.outline (source.siblings expand nodes))

end LayoutSource

end LivePages
