/-! The values of TOML texts. -/

namespace LivePages

/-- How a table of a TOML text came about. -/
inductive TableOrigin where
  /-- From a header of its own, or as the whole text. -/
  | header
  /-- From the header of a table inside it. Its own header may still come. -/
  | implied
  /-- From a key with dots. -/
  | dotted
  /-- From a value in braces, which cannot grow any more. -/
  | braces
deriving DecidableEq, Inhabited

/-- A value of a TOML text. -/
inductive Toml where
  | text (text : String)
  | integer (value : Int)
  | float (value : Float)
  | boolean (value : Bool)
  /-- A date, a time of day, or both. -/
  | time (text : String)
  | array (items : List Toml)
  /-- The tables under headers in double brackets; each is the list of its entries. -/
  | tables (elements : List (List (String × Toml)))
  | table (origin : TableOrigin) (entries : List (String × Toml))
deriving Inhabited

end LivePages
