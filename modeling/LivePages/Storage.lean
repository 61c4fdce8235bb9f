import LivePages.Json.Printer
import LivePages.Json.Reader
import LivePages.Table

/-! Stored texts: the values they stand for, the areas that hold them, and the file that holds an
area. Texts are stored as they are, so reading a value tries JSON first. -/

namespace LivePages

namespace Slot

/-- The text a value is stored as: a text as it is, all else as JSON. -/
def write : Value → String
  | .str s => s
  | v => Json.print v

/-- The value of a stored text: JSON if it reads as JSON, otherwise the text. An empty slot holds
nothing. -/
def read? (raw : String) : Option Value :=
  if raw = "" then none else some ((Json.read? raw).getD (.str raw))

end Slot

/-- What a path of the file system leads to. -/
inductive FileContent where
  | missing
  | directory
  | text (content : String)
deriving DecidableEq, Inhabited

/-- Where a slot lives: as long as the client, or longer than that. -/
inductive Tier where
  | session
  | durable
deriving DecidableEq, Inhabited

/-- Why a file of stored texts cannot be opened. -/
inductive StorageError where
  | unreadable
  | malformed
deriving DecidableEq, Inhabited

/-- Stored texts by key. -/
abbrev StoredTexts := Table String

namespace StoredTexts

/-- The fields of an object as texts, if all of them are. -/
def textsOf? : List (String × Value) → Option (List (String × String))
  | [] => some []
  | (key, .str text) :: rest => (textsOf? rest).map ((key, text) :: ·)
  | _ => none

/-- Opens a file of stored texts: a JSON object of texts. A missing file is empty. -/
def ofFile : FileContent → Except StorageError StoredTexts
  | .missing => .ok []
  | .directory => .error .unreadable
  | .text content =>
    match Json.readInOrder? content with
    | some (.obj fields) => ((textsOf? fields).map Table.ofList).elim (.error .malformed) .ok
    | _ => .error .malformed

/-- The content of the file of stored texts: one line for each, indented by two spaces. -/
def toFile (texts : StoredTexts) : String :=
  let line := fun ((key, text) : String × String) =>
    "  " ++ String.ofList (Json.quoteString key) ++ ": " ++ String.ofList (Json.quoteString text)
  if texts.isEmpty then "\x7b\x7d"
  else "\x7b\n" ++ String.intercalate ",\n" (texts.map line) ++ "\n\x7d"

end StoredTexts

end LivePages
