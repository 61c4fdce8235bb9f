import LivePages.Url.Host

/-! URLs as far as links need them: where a link leads from a page, and whether it stays on the
site. A file may name a drive where others name a host. -/

namespace LivePages

/-- What follows the host of a URL. -/
inductive UrlPath where
  | segments (segments : List String)
  /-- A path that links cannot lead on from. -/
  | verbatim (text : String)
deriving DecidableEq, Inhabited

/-- What matters of a URL for following links. -/
structure Url where
  scheme : String
  host : Option Url.Host
  /-- The number after the host, unless it is the usual one of the scheme. -/
  portNumber : Option Nat
  path : UrlPath
deriving DecidableEq, Inhabited

namespace Url

/-- The schemes that have an origin, each with the number it usually listens on. -/
def usualPorts : List (String × Nat) :=
  [("ftp", 21), ("http", 80), ("https", 443), ("ws", 80), ("wss", 443)]

/-- Whether URLs of a scheme have a host and are written with slashes of either kind. -/
def isSpecial (scheme : String) : Bool := scheme = "file" || (usualPorts.lookup scheme).isSome

def isSlash (special : Bool) (c : Char) : Bool := c = '/' || (special && c = '\\')

/-- Whether the path has ended at a character. -/
def endsPath (c : Char) : Bool := c = '?' || c = '#'

private def dots (part : List Char) : Option Nat :=
  match String.ofList (part.map Char.toLower) with
  | "." | "%2e" => some 1
  | ".." | ".%2e" | "%2e." | "%2e%2e" => some 2
  | _ => none

private def isDriveLetter : List Char → Bool
  | [c, mark] => c.isAlpha && (mark = ':' || mark = '|')
  | _ => false

/-- The directory above. Nothing is above a drive. -/
def above (here : List String) : List String :=
  if here.getLast?.any fun name => isDriveLetter name.toList then here else here.dropLast

/-- Follows the parts of a path from a directory. One dot stays there, two dots lead to the
directory above; either at the end means a directory. -/
def follow (here : List String) : List (List Char) → List String
  | [] => here
  | part :: rest =>
    let last := if rest = [] then [""] else []
    match dots part with
    | some 1 => follow (here ++ last) rest
    | some _ => follow (above here ++ last) rest
    | none => follow (here ++ [String.ofList (percentEncode isPathEscaped part)]) rest

/-- The path that `cs` leads to from a directory, up to a query or fragment. -/
def pathFrom (special : Bool) (here : List String) (cs : List Char) : UrlPath :=
  .segments (follow here (Text.splitWhere (isSlash special) (cs.takeWhile fun c => !endsPath c)))

/-- The path after a host, which starts with a slash or is empty. -/
private def pathAfterHost (special : Bool) (cs : List Char) : UrlPath :=
  match cs with
  | c :: rest => pathFrom special [] (if isSlash special c then rest else cs)
  | [] => if special then .segments [""] else .segments []

/-- The text of a host ends at a colon outside of brackets. -/
private def hostChars (inBrackets : Bool) : List Char → List Char × List Char
  | [] => ([], [])
  | c :: rest =>
    if c = ':' ∧ !inBrackets then ([], c :: rest)
    else
      let (host, tail) := hostChars (c = '[' || (inBrackets && c ≠ ']')) rest
      (c :: host, tail)

private def readPort? (scheme : String) (cs : List Char) : Option (Option Nat) :=
  if cs = [] then some none
  else
    let n := Decimal.natOfDigits cs
    if cs.all Char.isDigit ∧ n < 0x10000 then
      some (if usualPorts.lookup scheme = some n then none else some n)
    else none

/-- Whether a URL may go without a host, as far as its credentials tell: there are none, or a blank
name with a blank password, or a blank name at the end. -/
private def mayLackHost (authority rest : List Char) : Bool :=
  authority = [] || authority = [':', '@'] || (authority = ['@'] && rest = [])

/-- Reads what follows the two slashes: credentials, which are passed over, a host, a number,
a path. Only a scheme of its own may leave out the host. -/
def readAuthority? (scheme : String) (cs : List Char) : Option Url := do
  let special := isSpecial scheme
  let isInside := fun c => !(isSlash special c || endsPath c)
  let authority := cs.takeWhile isInside
  let rest := cs.dropWhile isInside
  let server := (authority.reverse.takeWhile (· ≠ '@')).reverse
  let (name, tail) := hostChars false server
  if name = [] ∧ (special ∨ !mayLackHost authority rest) then none
  let host ←
    if special then Host.read? name
    else if name = [] then some (Host.domain "")
    else Host.readVerbatim? name
  let number ← readPort? scheme ((tail.drop 1).takeWhile (· ≠ '\\'))
  let path := (tail.drop 1).dropWhile (· ≠ '\\') ++ rest
  return ⟨scheme, some host, number, pathAfterHost special path⟩

/-- Reads what follows the scheme of a file: the host may be missing. -/
def readFile? (cs : List Char) : Option Url :=
  let path := fun (cs : List Char) => pathAfterHost true cs
  match cs with
  | a :: b :: rest =>
    if isSlash true a ∧ isSlash true b then
      let isInside := fun c => !(isSlash true c || endsPath c)
      let name := rest.takeWhile isInside
      if name = [] ∨ isDriveLetter name then some ⟨"file", none, none, path rest⟩
      else
        (Host.read? name).map fun host =>
          let host := if host = .domain "localhost" then none else some host
          ⟨"file", host, none, path (rest.dropWhile isInside)⟩
    else some ⟨"file", none, none, path cs⟩
  | _ => some ⟨"file", none, none, path cs⟩

private def isSchemeChar (c : Char) : Bool := c.isAlphanum || c = '+' || c = '-' || c = '.'

/-- The scheme at the start of a text, in lower case, and what follows its colon. -/
def readScheme? (cs : List Char) : Option (String × List Char) :=
  match cs, cs.dropWhile isSchemeChar with
  | c :: _, ':' :: rest =>
    if c.isAlpha then some (String.ofList ((cs.takeWhile isSchemeChar).map Char.toLower), rest)
    else none
  | _, _ => none

/-- Follows a link without a scheme. -/
def followRelative? (base : Url) (directory : List String) (cs : List Char) : Option Url :=
  match cs with
  | [] => some base
  | '/' :: '/' :: rest => readAuthority? base.scheme rest
  | c :: rest =>
    if endsPath c then some base
    else if isSlash true c then
      match rest with
      | d :: _ =>
        if isSlash true d then readAuthority? base.scheme (rest.dropWhile (isSlash true))
        else some { base with path := pathFrom (isSpecial base.scheme) [] rest }
      | [] => some { base with path := .segments [""] }
    else some { base with path := pathFrom (isSpecial base.scheme) directory cs }

/-- Reads a URL that has a scheme. A special scheme without two slashes is relative to a base of the
same scheme. -/
def readWithScheme? (base : Option Url) (scheme : String) (cs : List Char) : Option Url :=
  if scheme = "file" then readFile? cs
  else if isSpecial scheme then
    let slashes := cs.takeWhile (isSlash true)
    let absolute := readAuthority? scheme (cs.dropWhile (isSlash true))
    match base with
    | some b =>
      if slashes.length < 2 ∧ b.scheme = scheme then
        match b.path with
        | .segments segments => followRelative? b segments.dropLast cs
        | .verbatim _ => absolute
      else absolute
    | none => absolute
  else
    match cs with
    | '/' :: '/' :: rest => readAuthority? scheme rest
    | '/' :: rest => some ⟨scheme, none, none, pathFrom false [] rest⟩
    | _ =>
      let text := cs.takeWhile fun c => !endsPath c
      some ⟨scheme, none, none, .verbatim (String.ofList (percentEncode isControl text))⟩

/-- A written URL without the blanks around it and the line breaks inside. -/
def strip (s : String) : List Char :=
  let start := s.toList.dropWhile (· ≤ ' ')
  let trimmed := (start.reverse.dropWhile (· ≤ ' ')).reverse
  trimmed.filter fun c => c ≠ '\t' && c ≠ '\n' && c ≠ '\x0d'

private def readFrom? (base : Option Url) (s : String) : Option Url :=
  let cs := strip s
  match readScheme? cs, base with
  | some (scheme, rest), _ => readWithScheme? base scheme rest
  | none, none => none
  | none, some b =>
    match b.path with
    | .segments segments => followRelative? b segments.dropLast cs
    | .verbatim _ => if cs.head? = some '#' then some b else none

/-- Reads an absolute URL. -/
def read? (s : String) : Option Url := readFrom? none s

/-- Where a link on the page of a URL leads. -/
def join? (base : Url) (link : String) : Option Url := readFrom? (some base) link

def pathText (u : Url) : String :=
  match u.path with
  | .segments segments => "/" ++ String.intercalate "/" segments
  | .verbatim text => text

/-- What tells one site from another. -/
structure Origin where
  scheme : String
  host : Host
  portNumber : Nat
deriving DecidableEq, Inhabited

private def ownOrigin? (u : Url) : Option Origin :=
  match u.host, usualPorts.lookup u.scheme with
  | some host, some usual => some ⟨u.scheme, host, u.portNumber.getD usual⟩
  | _, _ => none

/-- The origin of a URL that holds at most `depth` others, one in the other. -/
def originWithin? : Nat → Url → Option Origin
  | 0, u => ownOrigin? u
  | depth + 1, u =>
    if u.scheme = "blob" then (read? u.pathText).bind (originWithin? depth) else ownOrigin? u

/-- The origin of a URL. A blob has that of the URL it holds; most schemes have none. -/
def origin? (u : Url) : Option Origin := originWithin? u.pathText.length u

end Url

end LivePages
