/-! The entities of attribute values. -/

namespace LivePages.Markup

/-- Replaces every occurrence of the text `first :: more`, from left to right. -/
def replaceAll (first : Char) (more replacement : List Char) : List Char → List Char
  | [] => []
  | c :: rest =>
    if c = first && more.isPrefixOf rest then
      replacement ++ replaceAll first more replacement (rest.drop more.length)
    else c :: replaceAll first more replacement rest
termination_by cs => cs.length
decreasing_by all_goals simp only [List.length_cons, List.length_drop]; omega

/-- The entities of attribute values in the order in which they are replaced. The ampersand comes
last, so that no replacement makes a new entity. -/
def entities : List (List Char × Char) :=
  [(['q', 'u', 'o', 't', ';'], '"'), (['#', '3', '9', ';'], '\''),
    (['a', 'p', 'o', 's', ';'], '\''), (['l', 't', ';'], '<'),
    (['g', 't', ';'], '>'), (['a', 'm', 'p', ';'], '&')]

/-- Decodes the entities of a text, one kind after the other. -/
def decodeEntities (cs : List Char) : List Char :=
  entities.foldl (fun text (name, c) => replaceAll '&' name [c] text) cs

/-- How a character is written in an attribute value. -/
def escapeEntity : Char → List Char
  | '&' => ['&', 'a', 'm', 'p', ';']
  | '"' => ['&', 'q', 'u', 'o', 't', ';']
  | c => [c]

/-- Escapes an attribute value that is written between double quotes. -/
def escapeAttribute (cs : List Char) : List Char := cs.flatMap escapeEntity

end LivePages.Markup
