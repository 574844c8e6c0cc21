import Dialogue.Url.Host

/-!
# Addresses

An absolute address has a scheme, a host where there is one, a path and a query.  Whatever
reads addresses is told how to read one; `Url.parse?` is one way, in which blanks and
controls around the address and line breaks within it do not count, and what follows a
number sign is left out.  It follows the standard but for names of hosts beyond ASCII, in
which it only knows what is dropped and refused character by character: it lets through
characters that are not assigned, marks at the front of a name and a wrong mix of
directions.
-/

namespace Dialogue

/-- An absolute address. -/
structure Url where
  /-- The scheme in lower case. -/
  scheme : String
  /-- The host. -/
  host : Option Url.Host
  /-- The path, with dot segments resolved and reserved characters encoded. -/
  path : String
  /-- What follows the question mark. -/
  query : Option String
deriving DecidableEq

namespace Url

/-- A way to read addresses: the address that a text denotes, if it denotes one. -/
abbrev Reader := String → Option Url

/-- How the rest of an address is read, which depends on its scheme. -/
inductive SchemeKind where
  /-- A host is required. -/
  | network
  /-- A local file. -/
  | file
  /-- Any other scheme. -/
  | other
deriving DecidableEq

/-- The kind of a scheme. -/
def SchemeKind.ofScheme (scheme : String) : SchemeKind :=
  if ["http", "https", "ws", "wss", "ftp"].contains scheme then .network
  else if scheme = "file" then .file
  else .other

/-- Whether backslashes count as slashes. -/
def SchemeKind.isSpecial (kind : SchemeKind) : Bool :=
  kind != .other

/-- Whether a character separates the segments of a path. -/
def isSlash (special : Bool) (char : Char) : Bool :=
  char == '/' || special && char == '\\'

/-- Whether a character ends a path. -/
def endsPath (char : Char) : Bool :=
  char == '?' || char == '#'

/-- Whether a character does not count at the ends. -/
def isPadding (char : Char) : Bool :=
  char.toNat ≤ 0x20

/-- Whether a character does not count anywhere. -/
def isBreak (char : Char) : Bool :=
  char == '\t' || char == '\n' || char == '\r'

/-- The characters that count. -/
def significant (text : String) : List Char :=
  let chars := text.toList.dropWhile isPadding
  ((chars.reverse.dropWhile isPadding).reverse).filter (!isBreak ·)

/-- Whether a character can stand in a scheme. -/
def isSchemeChar (char : Char) : Bool :=
  char.isAlphanum || char == '+' || char == '-' || char == '.'

/-- The scheme in front of the first colon, and what follows. -/
def readScheme? (chars : List Char) : Option (String × List Char) :=
  match chars.span isSchemeChar with
  | (first :: scheme, ':' :: rest) =>
      if first.isAlpha then some (String.ofList ((first :: scheme).map Char.toLower), rest)
      else none
  | _ => none

/-- Splits a host from the number behind it at the first colon outside of brackets. -/
def cutNumber (inside : Bool) : List Char → List Char × Option (List Char)
  | [] => ([], none)
  | char :: chars =>
      if char == ':' && !inside then ([], some chars)
      else
        let inside := if char = '[' then true else if char = ']' then false else inside
        let (host, number) := cutNumber inside chars
        (char :: host, number)

/-- Reads the number behind a host, which has sixteen bits and may be empty, up to the
end or a backslash, and gives what follows. -/
def readNumber? (chars : List Char) : Option (List Char) :=
  let (digits, rest) := chars.span Char.isDigit
  let number := (numberIn? 10 digits).getD 0
  if number < 65536 ∧ (rest.isEmpty ∨ rest.head? = some '\\') then some rest else none

/-- The host of an authority, and what follows it.  An authority ends at a slash, a
question mark or a number sign; credentials stand before the last at sign. -/
def readAuthority? (kind : SchemeKind) (chars : List Char) :
    Option (Option Host × List Char) := do
  let isEnd := fun char => isSlash kind.isSpecial char || endsPath char
  let (authority, rest) := chars.span (!isEnd ·)
  let (credentials, place) := Text.cutLast (· == '@') authority
  let (name, number) := cutNumber false place
  let behind ← match number with
    | none => some []
    | some number => readNumber? number
  if name.isEmpty then
    let isNamed := credentials.any fun credentials => !credentials.isEmpty && credentials != [':']
    let isDangling := credentials == some [] && !rest.isEmpty && place.isEmpty
    if kind.isSpecial || isNamed || isDangling || number.isSome then none
    else return (none, rest)
  else
    let host ← if kind.isSpecial then Host.ofChars? name else Host.ofOpaque? name
    return (some host, behind ++ rest)

/-- Whether a host is the letter of a drive. -/
def isDrive : List Char → Bool
  | [letter, mark] => letter.isAlpha && (mark == ':' || mark == '|')
  | _ => false

/-- The host of a file and its path. -/
def readFile? (chars : List Char) : Option (Option Host × List Char) :=
  let (slashes, rest) := (chars.take 2, chars.drop 2)
  if slashes.length = 2 ∧ slashes.all (isSlash true) then
    let (name, behind) := rest.span fun char => !(isSlash true char || endsPath char)
    if name.isEmpty then some (none, behind)
    else if isDrive name then some (none, rest)
    else (Host.ofChars? name).map fun host => (some host, behind)
  else some (none, chars)

/-- Whether a segment of a path stands for the segment that holds it. -/
def isSelf (segment : String) : Bool :=
  segment == "." || segment.toLower == "%2e"

/-- Whether a segment of a path stands for the segment above. -/
def isParent (segment : String) : Bool :=
  ["..", ".%2e", "%2e.", "%2e%2e"].contains segment.toLower

/-- The characters of a path that are encoded. -/
def isPathReserved (char : Char) : Bool :=
  ['"', '#', '<', '>', '?', '^', '\x60', '\x7b', '\x7d'].contains char

/-- The characters of a query that are encoded. -/
def isQueryReserved (special : Bool) (char : Char) : Bool :=
  ['"', '#', '<', '>'].contains char || special && char == '\''

/-- The segments of a path with dot segments resolved; those read so far are given
last one first. -/
def resolve (read : List String) : List String → List String
  | [] => read.reverse
  | segment :: segments =>
      let isLast := segments.isEmpty
      if isParent segment then resolve (if isLast then "" :: read.drop 1 else read.drop 1) segments
      else if isSelf segment then resolve (if isLast then "" :: read else read) segments
      else resolve (segment :: read) segments

/-- A path with segments. -/
def pathOf (special : Bool) (chars : List Char) : String :=
  let chars := match chars with
    | char :: rest => if isSlash special char then rest else char :: rest
    | [] => []
  let segments := (Text.split (isSlash special) chars).map fun segment =>
    String.ofList (encode isPathReserved segment)
  "/" ++ "/".intercalate (resolve [] segments)

/-- An address with the path and query that a text spells. -/
def withPath (scheme : String) (special : Bool) (host : Option Host) (chars : List Char) : Url :=
  let (path, rest) := chars.span (!endsPath ·)
  let isRooted := special || path.head? == some '/'
  let query := match rest with
    | '?' :: query => some (String.ofList (encode (isQueryReserved special)
        (query.takeWhile (· != '#'))))
    | _ => none
  { scheme := scheme
    host := host
    path := if isRooted then pathOf special path
      else String.ofList (path.flatMap fun char =>
        if char.toNat < 0x20 || 0x7F ≤ char.toNat then encodeChar char else [char])
    query := query }

/-- The address that a text denotes. -/
def parse? (text : String) : Option Url := do
  let (scheme, rest) ← readScheme? (significant text)
  let kind := SchemeKind.ofScheme scheme
  let (host, path) ← match kind with
    | .network => readAuthority? kind (rest.dropWhile (isSlash true))
    | .file => readFile? rest
    | .other =>
        match rest with
        | '/' :: '/' :: rest => readAuthority? kind rest
        | _ => some (none, rest)
  return withPath scheme kind.isSpecial host path

end Url

end Dialogue
