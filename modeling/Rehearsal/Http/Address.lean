import Rehearsal.Decimal.Integer
import Rehearsal.Http.Host
import Rehearsal.Http.Percent

/-!
# Addresses

An address has a scheme, an authority with a host, a path, a query and a fragment, each of which may be missing.
`Address.ofText` reads one and brings it into its written form: what may not stand in a part is escaped, the
scheme and the host are in small letters, a port that the scheme implies is left out, and dots in the path are taken
away where there is a scheme or an authority. `toString` writes an address down; what it writes reads back as the
same address.

An address without scheme or host is relative.
-/

namespace Rehearsal.Http

/-- An address in its written form. -/
structure Address where
  scheme : String
  userInfo : String
  host : String
  port : Option Int
  path : String
  query : Option String
  fragment : Option String
  deriving DecidableEq, Repr, Inhabited

namespace Address

/-- Why a text is no address. -/
inductive Error where
  | tooLong
  | partTooLong (part : String)
  | control (part : Option String) (c : Char) (position : Nat)
  | port (text : String)
  | host (e : Host.Error)
  | pathWithoutSlash
  | relativeSlashes
  | relativeColon
  deriving DecidableEq, Repr, Inhabited

/-- The wording of an error. -/
def Error.message : Error → String
  | .tooLong => "URL too long"
  | .partTooLong part => s!"URL component '{part}' too long"
  | .control none c position =>
    s!"Invalid non-printable ASCII character in URL, {Quoted.text (String.singleton c)} at position {position}."
  | .control (some part) c position =>
    let shown := Quoted.text (String.singleton c)
    s!"Invalid non-printable ASCII character in URL {part} component, {shown} at position {position}."
  | .port text => s!"Invalid port: {Quoted.text text}"
  | .host e => e.message
  | .pathWithoutSlash => "For absolute URLs, path must be empty or begin with '/'"
  | .relativeSlashes => "Relative URLs cannot have a path starting with '//'"
  | .relativeColon => "Relative URLs cannot have a path starting with ':'"

/-- The most characters of an address or of a part of it. -/
def maxLength : Nat := 65536

/-- Whether a character is a control character of ASCII. -/
def isControl (c : Char) : Bool := c.toNat < 0x20 || c.toNat == 0x7F

/-- Whether a character may stand in a fragment. -/
def keptInFragment (c : Char) : Bool :=
  0x20 < c.toNat && c.toNat < 0x7F && !"\x22<>\x60".toList.contains c

/-- Whether a character may stand in a query. -/
def keptInQuery (c : Char) : Bool := 0x20 < c.toNat && c.toNat < 0x7F && !"\x22#<>".toList.contains c

/-- Whether a character may stand in a path. -/
def keptInPath (c : Char) : Bool := keptInQuery c && !"?\x60\x7b\x7d".toList.contains c

/-- Whether a character may stand in the part for a user. -/
def keptInUser (c : Char) : Bool := keptInPath c && !"/;=@[\\]^|".toList.contains c

/-- The port that a scheme implies. -/
def defaultPort? (scheme : String) : Option Int :=
  [("ftp", 21), ("http", 80), ("https", 443), ("ws", 80), ("wss", 443)].lookup scheme

/-- A text cut at the last place where a character stands, if it stands anywhere. -/
def cutAtLast (c : Char) (cs : List Char) : Option (List Char × List Char) :=
  if cs.contains c then
    let behind := (cs.reverse.takeWhile (· != c)).reverse
    some (cs.take (cs.length - behind.length - 1), behind)
  else none

/-- The texts of user, host and port in an authority. -/
def splitAuthority (cs : List Char) : List Char × List Char × List Char :=
  let (user, rest) := (cutAtLast '@' cs).getD ([], cs)
  let host :=
    match rest.head? == some '[', cutAtLast ']' rest with
    | true, some (front, _) => front ++ [']']
    | _, _ => rest.takeWhile (· != ':')
  let port := rest.drop host.length
  (user, host, if port.head? == some ':' then port.drop 1 else port)

/-- The port that a text names, if it is not the one the scheme implies. -/
def portOf (scheme port : String) : Except Error (Option Int) :=
  if port.isEmpty then .ok none
  else match Integer.ofText port with
    | .ok n => .ok (if some n == defaultPort? scheme then none else some n)
    | .error _ => .error (.port port)

/-- Takes back one part of a path for each pair of dots, and leaves single dots out. -/
def foldDots (parts : List (List Char)) : List (List Char) :=
  (parts.foldl (fun done part =>
    if part == ['.'] then done
    else if part == ['.', '.'] then if done.isEmpty || done == [[]] then done else done.drop 1
    else part :: done) []).reverse

/-- A path without dots. -/
def normalPath (path : List Char) : List Char := ['/'].intercalate (foldDots (Line.splitOn '/' path))

/-- The texts of the parts of an address, before they are looked into. -/
structure Parts where
  scheme : String
  authority : String
  path : String
  query : Option String
  fragment : Option String
  deriving DecidableEq, Repr, Inhabited

/-- The address that texts of parts make. A host given apart takes the place of the one in the authority. -/
def ofParts (p : Parts) (host? : Option String) : Except Error Address := do
  let (user, host, port) := splitAuthority p.authority.toList
  let userInfo := String.ofList (Percent.complete keptInUser user)
  let host ← match Host.ofText (host?.getD (String.ofList host)) with
    | .ok h => pure h
    | .error e => throw (.host e)
  let port ← portOf p.scheme (String.ofList port)
  let hasAuthority := !userInfo.isEmpty || !host.isEmpty || port.isSome
  let path := p.path.toList
  if hasAuthority && !path.isEmpty && path.head? != some '/' then throw .pathWithoutSlash
  if p.scheme.isEmpty && !hasAuthority then
    if "//".toList.isPrefixOf path then throw .relativeSlashes
    if path.head? == some ':' then throw .relativeColon
  let path := if p.scheme.isEmpty && !hasAuthority then path else normalPath path
  let text (keep : Char → Bool) (s : String) : String := String.ofList (Percent.complete keep s.toList)
  return ⟨lowerCase p.scheme, userInfo, host, port, String.ofList (Percent.complete keptInPath path),
    p.query.map (text keptInQuery), p.fragment.map (text keptInFragment)⟩

/-- The scheme in front of a text, with what stands behind its colon. -/
def splitScheme (cs : List Char) : List Char × List Char :=
  let name := cs.takeWhile fun c => c.isAlphanum || c == '+' || c == '.' || c == '-'
  let fits := match name with
    | [] => true
    | c :: _ => c.isAlpha
  match cs.drop name.length with
  | ':' :: rest => if fits then (name, rest) else ([], cs)
  | _ => ([], cs)

/-- A text cut at a character, with what is behind it if it occurs. -/
def cut (c : Char) (cs : List Char) : List Char × Option String :=
  match cs.span (· != c) with
  | (front, _ :: rest) => (front, some (String.ofList rest))
  | (front, []) => (front, none)

/-- The texts of the parts of an address. -/
def split (s : String) : Parts :=
  let (scheme, rest) := splitScheme s.toList
  let (rest, fragment) := cut '#' rest
  let (rest, query) := cut '?' rest
  let (authority, path) := match rest with
    | '/' :: '/' :: more => more.span (· != '/')
    | _ => ([], rest)
  ⟨String.ofList scheme, String.ofList authority, String.ofList path, query, fragment⟩

/-- Refuses a text that holds a control character. -/
def checkControl (part : Option String) (s : String) : Except Error Unit :=
  match s.toList.findIdx? isControl, s.toList.find? isControl with
  | some i, some c => .error (.control part c i)
  | _, _ => .ok ()

/-- Reads an address. -/
def ofText (s : String) : Except Error Address := do
  if maxLength < s.length then throw .tooLong
  checkControl none s
  ofParts (split s) none

/-- The host with its port. -/
def site (a : Address) : String :=
  (if a.host.contains ':' then "[" ++ a.host ++ "]" else a.host) ++
    match a.port with
    | some n => ":" ++ toString n
    | none => ""

/-- The authority as it is written. -/
def authority (a : Address) : String := (if a.userInfo.isEmpty then "" else a.userInfo ++ "@") ++ a.site

/-- An address as it is written. -/
def toString (a : Address) : String :=
  (if a.scheme.isEmpty then "" else a.scheme ++ ":") ++
    (if a.authority.isEmpty then "" else "//" ++ a.authority) ++ a.path ++
    (match a.query with
      | some q => "?" ++ q
      | none => "") ++
    match a.fragment with
    | some f => "#" ++ f
    | none => ""

/-- The texts of the parts of an address as they are written. -/
def parts (a : Address) : Parts := ⟨a.scheme, a.authority, a.path, a.query, a.fragment⟩

/-- Checks the parts of an address that is put together anew, and reads them. -/
def rebuild (p : Parts) (host? : Option String) : Except Error Address := do
  let check (name : String) (s : String) : Except Error Unit := do
    if maxLength < s.length then throw (.partTooLong name)
    checkControl (some name) s
  check "scheme" p.scheme
  check "authority" p.authority
  check "path" p.path
  if let some q := p.query then check "query" q
  if let some f := p.fragment then check "fragment" f
  ofParts p host?

/-- An address with another query. -/
def withQuery (a : Address) (query : String) : Except Error Address :=
  rebuild { a.parts with query := some query } none

/-- An address with another fragment. -/
def withFragment (a : Address) (fragment : String) : Except Error Address :=
  rebuild { a.parts with fragment := some fragment } none

/-- An address with another host. -/
def withHost (a : Address) (host : String) : Except Error Address :=
  rebuild a.parts (some (if host.contains ':' then "[" ++ host ++ "]" else host))

/-- Whether an address has both a scheme and a host. -/
def isAbsolute (a : Address) : Bool := !a.scheme.isEmpty && !a.host.isEmpty

/-- The address a request goes to when it is given one: a relative one is taken from the root, without its
fragment. -/
def fromRoot (a : Address) : Except Error Address :=
  if a.isAbsolute then .ok a
  else
    let path := String.ofList ('/' :: a.path.toList.dropWhile (· == '/'))
    rebuild ⟨"", "", path, a.query, none⟩ none

/-- The user and the password in an address, read back from their escapes. -/
def credentials (a : Address) : String × String :=
  let (user, password) := cut ':' a.userInfo.toList
  (Percent.decode (String.ofList user), Percent.decode (password.getD ""))

/-- The port that is used, as far as it is known. -/
def usedPort? (a : Address) : Option Int :=
  match a.port with
  | some n => some n
  | none => [("http", (80 : Int)), ("https", 443)].lookup a.scheme

/-- Whether two addresses have scheme, host and port in common. -/
def sameOrigin (a b : Address) : Bool := a.scheme == b.scheme && a.host == b.host && a.usedPort? == b.usedPort?

/-- Whether one address is the other on the secure scheme, both on the usual ports. -/
def isSecured (old new : Address) : Bool :=
  old.host == new.host && old.scheme == "http" && old.usedPort? == some 80 && new.scheme == "https" &&
    new.usedPort? == some 443

end Address

end Rehearsal.Http
