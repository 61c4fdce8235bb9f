import Mathlib
import LivePages.Proofs.Program.Layout
import LivePages.Proofs.Template.Escape

/-!
# Interpolations in the attributes of a page

The markup of a run of siblings is split into segments as a whole.  The value of an
attribute stands in it escaped, between two quotes, so what is in front of it and what is
behind it split by themselves, and the segments of the value are those of the escaped text.
-/

namespace LivePages

open Markup (Node Attribute Frame writeAll writeAttribute escapeAttribute)
open Template (Splits SurvivesEscape Joins segmentsOf sourcesOf glue attributeSegments)

/-- The place of an attribute value: an attribute of an element in the gap of a frame. -/
structure Place where
  frame : Frame
  tag : String
  before : List Attribute
  name : String
  after : List Attribute
  children : List Node

namespace Place

def fill (value : String) (place : Place) : List Node :=
  place.frame.fill
    [.element place.tag (place.before ++ ⟨place.name, some value⟩ :: place.after)
      place.children]

/-- The markup in front of the value, with the quote that opens it. -/
def left (place : Place) : List Char :=
  place.frame.left ++ '<' :: place.tag.toList ++ place.before.flatMap writeAttribute ++
    ' ' :: place.name.toList ++ ['='] ++ ['"']

def right (place : Place) : List Char :=
  '"' :: (place.after.flatMap writeAttribute ++ '>' ::
    ((if Markup.isVoid place.tag then []
      else writeAll place.children ++ '<' :: '/' :: place.tag.toList ++ ['>']) ++
        place.frame.right))

theorem writeAll_fill {place : Place} (isShown : place.frame.IsShown) (value : String) :
    writeAll (place.fill value) =
      place.left ++ (escapeAttribute value.toList ++ place.right) := by
  rw [fill, Frame.writeAll_fill isShown, writeAll, Markup.write, left, right]
  simp [writeAll, writeAttribute]

theorem runInstructions_fill {place : Place} (isShown : place.frame.IsShown)
    (value : String) {segments : List Segment} :
    runInstructions (Markup.toHtml (place.fill value)) = .ok [.append ⟨segments⟩] ↔
      segmentsOf (place.left ++ (escapeAttribute value.toList ++ place.right)) =
        .ok segments := by
  have written := writeAll_fill isShown value
  have filled : Markup.toHtml (place.fill value) ≠ "" := by
    rw [Markup.toHtml, written]
    intro empty
    have none := congrArg String.toList empty
    simp [left] at none
  rw [runInstructions, if_neg filled, Template.parse, Markup.toHtml, String.toList_ofList,
    written]
  cases segmentsOf (place.left ++ (escapeAttribute value.toList ++ place.right)) <;> simp

variable {place : Place} {value : String} {first : List Char}
  {more : List (List Char × List Char)} {front back : List Segment}

theorem segmentsOf_fill (inFront : segmentsOf place.left = .ok front) :
    segmentsOf (place.left ++ (escapeAttribute value.toList ++ place.right)) =
      (segmentsOf (escapeAttribute value.toList ++ place.right)).map (glue front) := by
  apply Template.segmentsOf_append inFront
  intro last
  rw [left, List.getLast?_concat] at last
  cases last

theorem segmentsOf_fill_of_survive (splits : Splits value.toList first more)
    (survive : ∀ part ∈ more, SurvivesEscape part.1)
    (inFront : segmentsOf place.left = .ok front) (behind : segmentsOf place.right = .ok back) :
    segmentsOf (place.left ++ (escapeAttribute value.toList ++ place.right)) =
      .ok (glue front (glue (attributeSegments first more) back)) := by
  have escaped := Template.segmentsOf_escape splits survive
  have joins : Joins (escapeAttribute value.toList) place.right := by
    intro _ brace
    simp [right] at brace
  rw [segmentsOf_fill inFront, Template.segmentsOf_append escaped joins, behind]
  rfl

end Place

/-- An attribute value with interpolations, in a run that splits in front of it and behind
it: the expressions of the run are those of the value, between those around it, exactly if
each interpolation survives.  A page that is such a run compiles to it. -/
theorem compile_attribute {place : Place} {value : String} {first : List Char}
    {more : List (List Char × List Char)} {front back : List Segment}
    (isShown : place.frame.IsShown) (splits : Splits value.toList first more)
    (inFront : segmentsOf place.left = .ok front)
    (behind : segmentsOf place.right = .ok back) :
    ((∃ segments,
        runInstructions (Markup.toHtml (place.fill value)) = .ok [.append ⟨segments⟩] ∧
          sourcesOf segments = sourcesOf front ++
            ((more.map fun part => String.ofList (Text.trim part.1)) ++ sourcesOf back)) ↔
      ∀ part ∈ more, SurvivesEscape part.1) ∧
    ((∀ part ∈ more, SurvivesEscape part.1) →
      ∀ {σ ε : Type} (source : LayoutSource σ ε) {markup : String},
        Markup.parse markup = .ok (place.fill value) →
        (∀ node ∈ place.fill value, isWrapper node = false) →
        ∀ s, source.compile markup s =
          (.ok [.append ⟨glue front (glue (attributeSegments first more) back)⟩], s)) := by
  have made : (∀ part ∈ more, SurvivesEscape part.1) →
      runInstructions (Markup.toHtml (place.fill value)) =
        .ok [.append ⟨glue front (glue (attributeSegments first more) back)⟩] :=
    fun survive => (Place.runInstructions_fill isShown value).2
      (Place.segmentsOf_fill_of_survive splits survive inFront behind)
  refine ⟨⟨?_, fun survive => ⟨_, made survive, ?_⟩⟩, ?_⟩
  · rintro ⟨segments, run, sources⟩
    have split := (Place.runInstructions_fill isShown value).1 run
    rw [Place.segmentsOf_fill inFront] at split
    cases escaped : segmentsOf (escapeAttribute value.toList ++ place.right) with
    | error rest =>
        rw [escaped] at split
        cases split
    | ok others =>
        rw [escaped] at split
        cases split
        -- The value splits together with what is behind it, so its own sources are only
        -- known to be the first ones.
        rw [Template.sourcesOf_glue, List.append_cancel_left_eq] at sources
        exact Template.survivesEscape_of_sources splits escaped ⟨_, sources.symm⟩
  · rw [Template.sourcesOf_glue, Template.sourcesOf_glue,
      Template.sourcesOf_attributeSegments]
  · intro survive σ ε source markup parsed ordinary s
    rw [LayoutSource.compile_of_ordinary parsed ordinary, made survive]
    rfl

/-- Quotes around a text without braces survive. -/
theorem compile_attribute_double_quotes :
    let markup :=
      "<b><i id=a title='$\x7b f(\"s\", \x7b\x7d) \x7d & $\x7bx[\"k\"]\x7d'>$\x7bn\x7d</i></b>"
    (LayoutSource.ofLookup fun _ => none).compile markup () =
      (.ok [.append ⟨[.literal "<b><i id=\"a\" title=\"", .expr "f(\"s\", \x7b\x7d)",
        .literal " &amp; ", .expr "x[\"k\"]", .literal "\">", .expr "n",
        .literal "</i></b>"]⟩], ()) := by
  intro markup
  let place : Place :=
    ⟨.inside [] "b" [] (.here [] []) [], "i", [⟨"id", some "a"⟩], "title", [],
      [.text "$\x7bn\x7d"]⟩
  let value := "$\x7b f(\"s\", \x7b\x7d) \x7d & $\x7bx[\"k\"]\x7d"
  let more : List (List Char × List Char) :=
    [(" f(\"s\", \x7b\x7d) ".toList, " & ".toList), ("x[\"k\"]".toList, [])]
  have isShown : place.frame.IsShown := ⟨by decide, trivial⟩
  have splits : Splits value.toList [] more := by
    constructor <;> decide +kernel
  have inFront : segmentsOf place.left = .ok [.literal "<b><i id=\"a\" title=\""] := by
    decide +kernel
  have behind : segmentsOf place.right =
      .ok [.literal "\">", .expr "n", .literal "</i></b>"] := by
    decide +kernel
  have survive : ∀ part ∈ more, SurvivesEscape part.1 := by
    decide +kernel
  have parsed : Markup.parse markup = .ok (place.fill value) := by
    decide +kernel
  exact (compile_attribute isShown splits inFront behind).2 survive _ parsed (by decide) ()

/-- A closing brace between double quotes ends the interpolation, and an opening one leaves
it open. -/
theorem compile_attribute_differs :
    Splits "$\x7bsay(\"\x7d\")\x7d".toList [] [("say(\"\x7d\")".toList, [])] ∧
      (LayoutSource.ofLookup fun _ => none).compile "<p title='$\x7bsay(\"\x7d\")\x7d'></p>" () =
        (.ok [.append ⟨[.literal "<p title=\"", .expr "say(\"",
          .literal "&quot;)\x7d\"></p>"]⟩], ()) ∧
    Splits "$\x7bsay(\"\x7b\")\x7d".toList [] [("say(\"\x7b\")".toList, [])] ∧
      (LayoutSource.ofLookup fun _ => none).compile "<p title='$\x7bsay(\"\x7b\")\x7d'></p>" () =
        (.error (.unterminatedInterpolation 10), ()) := by
  refine ⟨?_, ?_, ?_, ?_⟩
  · constructor <;> decide +kernel
  · have parsed : Markup.parse "<p title='$\x7bsay(\"\x7d\")\x7d'></p>" =
        .ok [.element "p" [⟨"title", some "$\x7bsay(\"\x7d\")\x7d"⟩] []] := by
      decide +kernel
    rw [LayoutSource.compile_of_ordinary parsed (by decide)]
    with_unfolding_all rfl
  · constructor <;> decide +kernel
  · have parsed : Markup.parse "<p title='$\x7bsay(\"\x7b\")\x7d'></p>" =
        .ok [.element "p" [⟨"title", some "$\x7bsay(\"\x7b\")\x7d"⟩] []] := by
      decide +kernel
    rw [LayoutSource.compile_of_ordinary parsed (by decide)]
    with_unfolding_all rfl

end LivePages
