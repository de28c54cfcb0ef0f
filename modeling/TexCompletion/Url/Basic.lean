import TexCompletion.Json.Decoder
import TexCompletion.Text.Blank
import TexCompletion.Url.Host
import TexCompletion.Url.Path

/-!
# URLs

The absolute URLs by which an editor names documents.  `Url.parse` reads one as the URL standard
has it, without a base, and `Url.text` writes it; the text of a parsed URL is the name under which
a document is kept, so all spellings of a URL name one document.

After the scheme a URL is read by cutting: the fragment behind the first `#`, the query behind the
first `?`, and the authority in front of the first slash of the rest.
-/

namespace TexCompletion

namespace Url

/-- User, host and port. -/
structure Authority where
  user : String := ""
  /-- The password, empty if there is none. -/
  password : String := ""
  host : Option Host := none
  /-- The port, if it is not the usual one of the scheme. -/
  port : Option Nat := none
deriving DecidableEq, Repr

/-- What follows the authority. -/
inductive Path where
  /-- A path that is not made of segments. -/
  | plain (text : String)
  | segments (segments : List String)
deriving DecidableEq, Repr

end Url

/-- An absolute URL. -/
structure Url where
  scheme : String
  authority : Option Url.Authority
  path : Url.Path
  query : Option String
  fragment : Option String
deriving DecidableEq, Repr

namespace Url

/-! ## Writing -/

/-- The text of an authority. -/
def Authority.text (a : Authority) : String :=
  let userinfo := a.user ++ if a.password.isEmpty then "" else ":" ++ a.password
  (if userinfo.isEmpty then "" else userinfo ++ "@") ++
    (a.host.map Host.text).getD "" ++
    (a.port.map fun p => ":" ++ toString p).getD ""

/-- The text of a path. -/
def Path.text : Path → String
  | plain text => text
  | segments ss => String.join (ss.map ("/" ++ ·))

/-- A path that begins with an empty segment needs a mark in front when there is no authority, since
it would be read as one. -/
def pathMark (url : Url) : String :=
  match url.authority, url.path with
  | none, .segments ("" :: _ :: _) => "/."
  | _, _ => ""

/-- The text of a URL. -/
def text (url : Url) : String :=
  url.scheme ++ ":" ++ (url.authority.map ("//" ++ ·.text)).getD "" ++ url.pathMark ++
    url.path.text ++ (url.query.map ("?" ++ ·)).getD "" ++ (url.fragment.map ("#" ++ ·)).getD ""

instance : ToString Url := ⟨text⟩

/-! ## Reading -/

/-- The port a special scheme uses unless another one is given. -/
def usualPort? (scheme : String) : Option Nat :=
  [("http", 80), ("https", 443), ("ws", 80), ("wss", 443), ("ftp", 21)].lookup scheme

/-- A scheme whose URLs always have a host and a path, and take a backslash for a slash. -/
def isSpecial (scheme : String) : Bool :=
  scheme = "file" || (usualPort? scheme).isSome

/-- A character that separates the parts of a path. -/
def isSlash (special : Bool) (c : Char) : Bool :=
  c = '/' || (special && c = '\\')

/-- A tab or a line break, which is passed over wherever it stands. -/
def isIgnored (c : Char) : Bool :=
  c == '\t' || c == '\n' || c == '\r'

/-- The text as it is read, without tabs and line breaks. -/
def clean (cs : List Char) : List Char :=
  cs.filter (!isIgnored ·)

/-- The text without control characters and blanks around it. -/
def strip (cs : List Char) : List Char :=
  Text.dropEndWhile (·.toNat ≤ 0x20) (cs.dropWhile (·.toNat ≤ 0x20))

/-- Cuts the scheme off. -/
def cutScheme? (cs : List Char) : Option (String × List Char) :=
  let isSchemeChar (c : Char) :=
    c.isAlphanum || c == '+' || c == '-' || c == '.' || isIgnored c
  match clean (cs.takeWhile isSchemeChar), cs.dropWhile isSchemeChar with
  | c :: name, ':' :: rest =>
    if c.isAlpha then some (String.ofList ((c :: name).map Char.toLower), rest) else none
  | _, _ => none

/-- Cuts at the first `mark`; what follows it is missing if there is none. -/
def cutAt (mark : Char) (cs : List Char) : List Char × Option (List Char) :=
  match cs.dropWhile (· ≠ mark) with
  | [] => (cs, none)
  | _ :: rest => (cs.takeWhile (· ≠ mark), some rest)

/-- Cuts the user and the password off.  They end at the last `@` in front of the first slash.
A lone `@` is refused if anything follows it but a host; `more` says that a query or a fragment
does. -/
def cutUserinfo (special more : Bool) (cs : List Char) :
    Except Error (String × String × List Char) :=
  let front := cs.takeWhile (!isSlash special ·)
  match (Text.splitWhere (· = '@') front).getLast? with
  | none => .ok ("", "", cs)
  | some host =>
    if host.length = front.length then .ok ("", "", cs)
    else
      let userinfo := front.take (front.length - host.length - 1)
      let rest := cs.drop (userinfo.length + 1)
      if userinfo.isEmpty && host.isEmpty && (more || !rest.isEmpty) then .error .emptyHost
      else
        let (user, password) := cutAt ':' userinfo
        let encoded cs := String.ofList (encode inUserinfo cs)
        .ok (encoded user, encoded (password.getD []), rest)

/-- The length of the host that the text begins with.  A colon ends it except in brackets. -/
def hostLength (special inBrackets : Bool) : List Char → Nat
  | [] => 0
  | c :: cs =>
    if isSlash special c || (c == ':' && !inBrackets) then 0
    else 1 + hostLength special (c == '[' || (inBrackets && c != ']')) cs

/-- Reads a port.  It may be empty, and it ends at a slash of either sort. -/
def cutPort (scheme : String) (cs : List Char) : Except Error (Option Nat × List Char) :=
  let digits := cs.takeWhile Char.isDigit
  let rest := cs.dropWhile Char.isDigit
  match digitsIn? 10 digits with
  | none => .error .badPort
  | some port =>
    if 65535 < port then .error .badPort
    else if rest.head?.all (isSlash true) then
      .ok (if digits.isEmpty ∨ usualPort? scheme = some port then none else some port, rest)
    else .error .badPort

/-- Reads an authority and returns what follows it. -/
def cutAuthority (scheme : String) (more : Bool) (cs : List Char) :
    Except Error (Authority × List Char) := do
  let special := isSpecial scheme
  let (user, password, cs) ← cutUserinfo special more cs
  let length := hostLength special false cs
  let hostText := cs.take length
  let rest := cs.drop length
  if special && hostText.isEmpty then throw .emptyHost
  let host ← if special then Host.ofDomain hostText else Host.ofOpaque hostText
  let host? := if hostText.isEmpty then none else some host
  let (port, rest) ←
    match rest with
    | ':' :: digits => if host?.isNone then throw .emptyHost else cutPort scheme digits
    | _ => pure (none, rest)
  if host?.isNone && !(user.isEmpty && password.isEmpty) then throw .emptyHost
  return (⟨user, password, host?, port⟩, rest)

/-- A written path. -/
def pathOf (written : List Char) : Path :=
  .segments ((Text.splitWhere (· = '/') (written.drop 1)).map String.ofList)

/-- Reads what follows a scheme that is not special. -/
def readPlain (scheme : String) (more : Bool) (cs : List Char) :
    Except Error (Option Authority × Path) := do
  let tail (cs : List Char) : Path := pathOf (walk false (isSlash false) isIgnored .root cs).written
  match cs with
  | '/' :: '/' :: cs =>
    let (authority, rest) ← cutAuthority scheme more cs
    let path := match rest with
      | [] => .segments []
      | '/' :: cs => tail cs
      | cs => tail cs
    return (some authority, path)
  | '/' :: cs => return (none, tail cs)
  | cs => return (none, .plain (String.ofList (encode isControl cs)))

/-- Reads what follows a special scheme other than `file`, in front of which any number of slashes
may stand. -/
def readSpecial (scheme : String) (more : Bool) (cs : List Char) :
    Except Error (Option Authority × Path) := do
  let (authority, rest) ← cutAuthority scheme more (cs.dropWhile (isSlash true))
  return (some authority, pathOf (walk false (isSlash true) isIgnored .root (rest.drop 1)).written)

/-- Cuts off a slash. -/
def cutSlash? (cs : List Char) : Option (List Char) :=
  match cs.dropWhile isIgnored with
  | c :: rest => if isSlash true c then some rest else none
  | [] => none

/-- Reads the host of a `file` URL behind the two slashes and returns it with what follows.  The
host may be missing, `localhost` means none, and a drive is none. -/
def cutFileHost (cs : List Char) : Except Error (Option Host × List Char) :=
  let name := clean (cs.takeWhile (!isSlash true ·))
  let rest := cs.dropWhile (!isSlash true ·)
  if name.isEmpty then .ok (none, rest)
  else if isDrive name then .ok (none, cs)
  else do
    let host ← Host.ofDomain name
    return (if host = .name "localhost" then none else some host, rest)

/-- Reads what follows the scheme `file`.  The slash in front of the path belongs to it if a host
stands before it; without one the path begins with an empty segment, so that no drive is looked for
behind it.  A drive at the start of the path leaves no place for a host. -/
def readFile (cs : List Char) : Except Error (Option Authority × Path) := do
  let onward (cs : List Char) : Walk := walk true (isSlash true) isIgnored .root cs
  let (host, w) ←
    match cutSlash? cs with
    | none => pure (none, onward cs)
    | some rest =>
      match cutSlash? rest with
      | none => pure (none, onward rest)
      | some rest => do
        let (host, rest) ← cutFileHost rest
        pure (host, onward (if host.isSome then (cutSlash? rest).getD rest else rest))
  return (some { host := if w.onDrive then none else host }, pathOf w.trimmed)

/-- Reads a URL. -/
def parse (source : String) : Except Error Url := do
  let some (scheme, rest) := cutScheme? (strip source.toList) | throw .noScheme
  let (rest, fragment) := cutAt '#' rest
  let (rest, query) := cutAt '?' rest
  let more := query.isSome || fragment.isSome
  let (authority, path) ←
    if scheme = "file" then readFile rest
    else if isSpecial scheme then readSpecial scheme more (clean rest)
    else readPlain scheme more (clean rest)
  let inQuery := if isSpecial scheme then inSpecialQuery else inQuery
  return {
    scheme
    authority
    path
    query := query.map fun cs => String.ofList (encode inQuery (clean cs))
    fragment := fragment.map fun cs => String.ofList (encode inFragment (clean cs)) }

/-- The text of the URL that a text spells. -/
def normalize (source : String) : Except Error String :=
  text <$> parse source

open Json in
/-- A URL as a JSON string, in normal form. -/
def decoder : Decoder String :=
  .parsed "a string representing an URL" fun source =>
    (normalize source).mapError fun error =>
      .refused (error.message ++ ": " ++ Text.quoted source)

end Url

end TexCompletion
