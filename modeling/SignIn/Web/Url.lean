import SignIn.Web.Host

/-!
# Addresses of resources

An address is taken apart the way browsers do it.  White space around it and line
breaks within it are dropped, the scheme and the host are brought to lower case, dot
segments are resolved, a port that the scheme implies is left out, and characters
that may not stand for themselves are escaped.  An existing escape is never touched.
-/

namespace SignIn

/-- An address taken apart.  User name, password, segments, query and fragment are in
their escaped form. -/
structure Url where
  scheme : String
  username : String
  password : Option String
  host : Host
  port : Option Nat
  segments : List String
  query : Option String
  fragment : Option String
  deriving DecidableEq, Repr

namespace Url

/-- Schemes whose addresses always name a host, and the ports they imply. -/
def impliedPorts : List (String × Nat) :=
  [("http", 80), ("https", 443), ("ws", 80), ("wss", 443), ("ftp", 21)]

/-- The port that a scheme implies. -/
def impliedPort? (scheme : String) : Option Nat :=
  (impliedPorts.find? (·.1 == scheme)).map Prod.snd

/-- A text with some of its characters escaped; characters beyond ASCII and controls
always are. -/
def escape (special : String) (text : List Char) : String :=
  let octets := Percent.encode (fun octet =>
      octet < 0x20 || 0x7E < octet || special.toList.contains (Char.ofNat octet.toNat))
    (Utf8.encodeChars text)
  String.ofList (octets.map fun octet => Char.ofNat octet.toNat)

def pathSpecial : String := " \"#<>?`\x7b\x7d"

def userSpecial : String := " \"#<>?`\x7b\x7d/:;=@[\\]^|"

/-- What is escaped in a query. -/
def querySpecial (plain : Bool) : String :=
  if plain then " \"#<>" else " \"#<>'"

def fragmentSpecial : String := " \"<>`"

def cut (stop : Char → Bool) (text : List Char) : List Char × List Char :=
  (text.takeWhile (!stop ·), text.dropWhile (!stop ·))

/-- The scheme at the front of an address, in lower case, and what follows its colon. -/
def parseScheme? (text : List Char) : Option (String × List Char) :=
  let (front, rest) := cut (· = ':') text
  if rest.isEmpty || !(front.head?.map Char.isAlpha).getD false ||
      front.any (fun character =>
        !(character.isAlphanum || character = '+' || character = '-' || character = '.'))
  then none
  else some (String.ofList (front.map Char.toLower), rest.drop 1)

/-- Whether a segment is the dot that stands for its place, also when escaped. -/
def isSingleDot (segment : String) : Bool :=
  segment.toLower == "." || segment.toLower == "%2e"

/-- Whether a segment is the two dots that stand for the place above. -/
def isDoubleDot (segment : String) : Bool :=
  ["..", ".%2e", "%2e.", "%2e%2e"].contains segment.toLower

/-- Whether a segment names a drive, which two dots do not leave. -/
def isDrive (segment : String) : Bool :=
  match segment.toList with
  | [letter, mark] => letter.isAlpha && (mark = ':' || mark = '|')
  | _ => false

/-- The segments left after two dots, the last segment first. -/
def leave (reversed : List String) : List String :=
  match reversed with
  | [] => []
  | last :: above => if isDrive last then last :: above else above

/-- The segments of a path with the dots resolved.  Dots at the end leave an empty
segment. -/
def resolve : (reversed : List String) → List String → List String
  | reversed, [] => reversed.reverse
  | reversed, [last] =>
    if isDoubleDot last then ("" :: leave reversed).reverse
    else if isSingleDot last then ("" :: reversed).reverse
    else (last :: reversed).reverse
  | reversed, segment :: next :: rest =>
    if isDoubleDot segment then resolve (leave reversed) (next :: rest)
    else if isSingleDot segment then resolve reversed (next :: rest)
    else resolve (segment :: reversed) (next :: rest)

/-- Characters that separate segments: for schemes that name a host the backslash is
one of them. -/
def isSlash (special : Bool) (character : Char) : Bool :=
  character = '/' || (special && character = '\\')

def parsePath (special : Bool) (path : List Char) : List String :=
  let slashed := path.map fun character => if isSlash special character then '/' else character
  let relative :=
    match slashed with
    | '/' :: rest => rest
    | other => other
  if path.isEmpty && !special then []
  else resolve [] ((relative.splitOn '/').map (escape pathSpecial))

/-- The user name and the password before the last `@` of an authority.  An empty
password is no password, and both are absent before an `@` at the front. -/
def parseUser (user : List Char) : String × Option String :=
  let (name, rest) := cut (· = ':') user
  let password := rest.drop 1
  (escape userSpecial name,
    if password.isEmpty then none else some (escape userSpecial password))

/-- The port after a host: nothing, or a colon and digits up to 65535. -/
def parsePort? (scheme : String) (text : List Char) : Option (Option Nat) :=
  match text with
  | [] => some none
  | _ :: digits =>
    if digits.isEmpty then some none
    else if !digits.all Char.isDigit then none
    else
      let port := digits.foldl (fun port digit => port * 10 + (digit.toNat - 48)) 0
      if 65535 < port then none
      else some (if impliedPort? scheme = some port then none else some port)

/-- The host at the front of an authority without its user, and the rest from the
colon of a port on; a colon between square brackets belongs to the host. -/
def splitHost : (inside : Bool) → List Char → List Char × List Char
  | _, [] => ([], [])
  | inside, character :: rest =>
    if character = ':' && !inside then ([], character :: rest)
    else
      let split := splitHost
        (if character = '[' then true else if character = ']' then false else inside) rest
      (character :: split.1, split.2)

/-- The text before the last `@` and the text behind it. -/
def splitUser (authority : List Char) : Option (List Char) × List Char :=
  let reversed := authority.reverse
  if reversed.contains '@' then
    (some ((reversed.dropWhile (· != '@')).drop 1).reverse,
      (reversed.takeWhile (· != '@')).reverse)
  else
    (none, authority)

/-- The address behind the slashes that follow a scheme. -/
def parseAuthority? (scheme : String) (special : Bool) (text : List Char) :
    Option Url := do
  let (authority, rest) := cut (fun character =>
    isSlash special character || character = '?' || character = '#') text
  let (user, place) := splitUser authority
  if user.isSome && place.isEmpty then none
  let (hostText, portText) := splitHost false place
  if hostText.isEmpty then none
  let host ← if special then Host.parse? hostText else Host.parseOpaque? hostText
  let port ← parsePort? scheme portText
  let (beforeFragment, fragment) := cut (· = '#') rest
  let (path, query) := cut (· = '?') beforeFragment
  let (username, password) := parseUser (user.getD [])
  return {
    scheme, username, password, host, port
    segments := parsePath special path
    query :=
      if query.isEmpty then none else some (escape (querySpecial (!special)) (query.drop 1))
    fragment :=
      if fragment.isEmpty then none
      else some (escape fragmentSpecial (fragment.drop 1)) }

/-- A file address that names a host other than this machine. -/
def parseFile? (text : List Char) : Option Url := do
  match text with
  | first :: second :: rest =>
    if isSlash true first && isSlash true second then
      let url ← parseAuthority? "file" true rest
      if url.host = .name "localhost" || url.port.isSome || url.username != "" ||
          url.password.isSome then none
      else some url
    else none
  | _ => none

/-- The address that a text spells, if it spells one that names a host. -/
def parse? (text : String) : Option Url := do
  let isEdge (character : Char) : Bool := character.toNat ≤ 0x20
  let trimmed := ((text.toList.dropWhile isEdge).reverse.dropWhile isEdge).reverse
  let cleaned := trimmed.filter fun character =>
    character != '\t' && character != '\n' && character != '\r'
  let (scheme, rest) ← parseScheme? cleaned
  if (impliedPort? scheme).isSome then
    parseAuthority? scheme true (rest.dropWhile (isSlash true))
  else if scheme = "file" then
    parseFile? rest
  else
    match rest with
    | '/' :: '/' :: rest => parseAuthority? scheme false rest
    | _ => none

def path (url : Url) : String :=
  String.join (url.segments.map ("/" ++ ·))

/-- The path and the query of an address: what a server is asked for. -/
def target (url : Url) : String :=
  url.path ++ (url.query.map ("?" ++ ·)).getD ""

def print (url : Url) : String :=
  let user :=
    if url.username = "" && url.password.isNone then ""
    else url.username ++ (url.password.map (":" ++ ·)).getD "" ++ "@"
  url.scheme ++ "://" ++ user ++ url.host.print ++
    (url.port.map fun port => ":" ++ toString port).getD "" ++ url.target ++
    (url.fragment.map ("#" ++ ·)).getD ""

end Url

end SignIn
