import Rehearsal.Decimal.Integer
import Rehearsal.Http.Address
import Rehearsal.Http.Date
import Rehearsal.Http.Headers

/-!
# Cookies

A server may ask for texts to be sent back to it. A cookie goes back to the site it came from, or to the domain it names
if that includes the site, for addresses below its path; a secure one only over a secure scheme. What a header asks for is
a cookie to be kept, or, if it has expired when it comes, one to be taken away.

Headers that cannot be read spoil their own cookie, and some of them all cookies of their answer.

What this does not decide: cookies of a version from two on are not kept at all.
-/

namespace Rehearsal.Http

/-- A cookie. -/
structure Cookie where
  name : String
  value : Option String
  version : Int
  domain : String
  /-- Whether the cookie named the domain itself. -/
  namesDomain : Bool
  path : String
  isSecure : Bool
  port : Option String
  /-- Whether the cookie named its ports itself. -/
  namesPort : Bool
  expires : Option Int
  deriving DecidableEq, Repr, Inhabited

namespace Cookie

/-- A text without quotes around it. -/
def unquote (s : String) : String :=
  let cs := if s.toList.head? == some '"' then s.toList.drop 1 else s.toList
  let cs := if cs.getLast? == some '"' then cs.dropLast else cs
  String.ofList cs

/-- What a header says of a cookie, besides its name and its value. -/
inductive Attribute where
  | domain (text : Option String)
  | path (text : Option String)
  | port (text : Option String)
  | secure (text : Option String)
  | version (text : Option String)
  | age (text : Option String)
  /-- The time of expiry, if it is one. -/
  | expires (time : Option Int)
  | other
  deriving DecidableEq, Repr, Inhabited

/-- The attribute of a name and a text. -/
def Attribute.read (now : Int) (name : String) (text : Option String) : Except Date.Error Attribute :=
  match name.toLower with
  | "domain" => .ok (.domain text)
  | "path" => .ok (.path text)
  | "port" => .ok (.port text)
  | "secure" => .ok (.secure text)
  | "version" => .ok (.version (text.map unquote))
  | "max-age" => .ok (.age text)
  | "expires" =>
    match text with
    | some t => (Date.ofText now (unquote t)).map .expires
    | none => .ok (.expires none)
  | _ => .ok .other

/-- The names of a header, each with its text if it has one, in pieces between semicolons. A header whose first piece has
no name has none; other pieces without a name are passed over. -/
def pieces (header : String) : List (String × Option String) :=
  let pairs := (Line.splitOn ';' header.toList).map fun piece =>
    let key := piece.takeWhile (· != '=')
    (trim (String.ofList key),
      if key.length < piece.length then some (trim (String.ofList (piece.drop (key.length + 1)))) else none)
  match pairs with
  | first :: rest => if first.1.isEmpty then [] else first :: rest.filter fun (k, _) => !k.isEmpty
  | [] => []

/-- What is known of the site a cookie comes from or goes to. -/
structure Site where
  host : String
  /-- The port, as long as it is a number. -/
  port : Option String
  path : String
  isSecure : Bool
  deriving DecidableEq, Repr, Inhabited

/-- The port that is compared with those of cookies. -/
def Site.effectivePort (s : Site) : String := s.port.getD "80"

/-- The host of a site as domains are compared with it. -/
def Site.effective (s : Site) : String := if s.host.toList.contains '.' then s.host else s.host ++ ".local"

/-- A path with what may not stand in one escaped, and all escapes in capitals. -/
def escapedPath (path : String) : String :=
  let keeps (c : Char) : Bool := "%/;:@&=+$,!~*'()".toList.contains c
  let rec capitals : List Char → List Char
    | [] => []
    | '%' :: a :: b :: rest =>
      if (Percent.hexDigit? a).isSome && (Percent.hexDigit? b).isSome then
        '%' :: a.toUpper :: b.toUpper :: capitals rest
      else '%' :: capitals (a :: b :: rest)
    | c :: rest => c :: capitals rest
  termination_by cs => cs.length
  String.ofList (capitals (Percent.encode keeps path.toList))

/-- The site of an address. -/
def Site.ofAddress (a : Address) : Site :=
  let authority := a.authority.toList
  let digits := (authority.reverse.takeWhile Host.isFigure).reverse
  let front := authority.take (authority.length - digits.length)
  let host := if !digits.isEmpty && front.getLast? == some ':' then front.dropLast else authority
  let path := escapedPath a.path
  let port := match (Percent.decodeChars authority).dropWhile (· != ':') with
    | _ :: text => match Integer.ofText (String.ofList text) with
      | .ok _ => some (String.ofList text)
      | .error _ => none
    | [] => some "80"
  ⟨lowerCase (String.ofList host), port, if path.startsWith "/" then path else "/" ++ path,
    a.scheme == "https" || a.scheme == "wss"⟩

/-- What is wanted of a cookie. The first attribute of a name counts; only an age takes the place of an earlier age or
date. -/
structure Wishes where
  domain : Option String
  path : Option String
  port : Option (Option String)
  isSecure : Option Bool
  version : Option String
  expires : Option Int
  deriving DecidableEq, Repr, Inhabited

/-- Why a header's cookie is not taken. -/
inductive Flaw where
  /-- Only this cookie is left out. -/
  | cookie
  /-- Every cookie of the answer is left out. -/
  | answer
  deriving DecidableEq, Repr, Inhabited

/-- Takes in an attribute. -/
def Wishes.take (now : Int) (w : Wishes) : Attribute → Except Flaw Wishes
  | .domain text =>
    if w.domain.isSome then .ok w
    else match text with
      | some t => .ok { w with domain := some (lowerCase t) }
      | none => .error .cookie
  | .path text =>
    if w.path.isSome then .ok w
    else match text with
      | some t => .ok { w with path := some t }
      | none => .error .cookie
  | .port text => .ok (if w.port.isSome then w else { w with port := some text })
  | .secure text => .ok (if w.isSecure.isSome then w else { w with isSecure := some (text != some "") })
  | .version text =>
    if w.version.isSome then .ok w
    else match text with
      | some t => .ok { w with version := some t }
      | none => .error .cookie
  | .expires time => .ok (if w.expires.isSome then w else { w with expires := time })
  | .age text =>
    match text with
    | none => .error .answer
    | some t =>
      match Integer.ofText t with
      | .ok n => .ok { w with expires := some (now + n) }
      | .error _ => .error .cookie
  | .other => .ok w

/-- The path of a cookie that names none: that of the site up to its last slash, which counts only in later versions. -/
def usualPath (version : Int) (path : String) : String :=
  let front := path.toList.reverse.dropWhile (· != '/')
  let front := if version == 0 then front.drop 1 else front
  if front.isEmpty then "/" else String.ofList front.reverse

/-- What a header asks for. -/
inductive Order where
  | keep (c : Cookie)
  | remove (c : Cookie)
  deriving DecidableEq, Repr, Inhabited

/-- What a site asks for with a name, a value and wishes, if the version is a number. -/
def orderOf (now : Int) (s : Site) (name : String) (value : Option String) (w : Wishes) : Option Order :=
  match Integer.ofText (w.version.getD "0") with
  | .error _ => none
  | .ok version =>
    let path := match w.path.filter fun p => !p.isEmpty with
      | some p => escapedPath p
      | none => usualPath version s.path
    let domain := match w.domain with
      | none => s.effective
      | some d => if d.startsWith "." then d else "." ++ d
    let port := match w.port with
      | none => none
      | some none => s.port
      | some (some list) => some (String.ofList (list.toList.filter fun c => !isBlank c))
    let c : Cookie := ⟨name, value, if version == 1 then 0 else version, domain, w.domain.isSome, path,
      w.isSecure.getD false, port, w.port.any (·.isSome), w.expires⟩
    some (if c.expires.any (· ≤ now) then .remove c else .keep c)

/-- What a header is about: a name, a value and attributes. -/
def attributes (now : Int) (header : String) :
    Except Date.Error (Option (String × Option String × List Attribute)) :=
  match pieces header with
  | [] => .ok none
  | (name, value) :: rest => do return some (name, value, ← rest.mapM fun (k, t) => Attribute.read now k t)

/-- What headers ask for, unless one of them spoils them all. -/
def ordersOf (now : Int) (s : Site) (headers : List String) : Except Flaw (List Order) := do
  let found ← (headers.mapM (attributes now)).mapError fun _ => .answer
  let orders ← (found.filterMap id).mapM fun (name, value, given) =>
    match given.foldlM (Wishes.take now) ⟨none, none, none, none, none, none⟩ with
    | .ok w => .ok (orderOf now s name value w)
    | .error .cookie => .ok none
    | .error .answer => .error .answer
  return orders.filterMap id

/-- Whether a site is among ports. What stands in front of it has to be numbers. -/
def portsHold (s : Site) : List String → Bool
  | [] => false
  | p :: rest =>
    match Integer.ofText p with
    | .ok _ => p == s.effectivePort || portsHold s rest
    | .error _ => false

/-- Whether a domain may be named by a site: it has dots inside, or the site is local, and the site belongs to it. -/
def mayName (c : Cookie) (s : Site) : Bool :=
  let own := s.effective
  let inner := if c.domain.startsWith "." then c.domain.toList.drop 1 else c.domain.toList
  (inner.contains '.' || own.endsWith ".local") &&
    (c.version != 0 || own.endsWith c.domain || own.endsWith (String.ofList inner ++ ".local") || own.startsWith "." ||
      ("." ++ own).endsWith c.domain)

/-- Whether a site may give a cookie. -/
def mayComeFrom (c : Cookie) (s : Site) : Bool :=
  c.version ≤ 0 && (!c.namesDomain || c.mayName s) &&
    (!c.namesPort || portsHold s ((c.port.getD "").splitOn ","))

/-- A name with a dot in front. -/
def dotted (d : String) : String := if d.startsWith "." then d else "." ++ d

/-- Whether a site belongs to a domain at all. -/
def reaches (domain : String) (s : Site) : Bool :=
  let d := if domain.isEmpty then domain else dotted domain
  (dotted s.host).endsWith d || (dotted s.effective).endsWith d

/-- Whether a path is at or below another. -/
def covers (top path : String) : Bool :=
  path == top || (path.startsWith top &&
    (top.endsWith "/" || (path.toList.drop top.length).head? == some '/'))

/-- Whether a cookie is sent to a site that its domain and its path hold. -/
def goesTo (c : Cookie) (now : Int) (s : Site) : Bool :=
  (!c.isSecure || s.isSecure) && c.expires.all (now < ·) &&
    (c.port.all fun ports => ports.isEmpty || (ports.splitOn ",").contains s.effectivePort) &&
    (c.version != 0 || ("." ++ s.effective).endsWith (if c.domain.isEmpty then "" else dotted c.domain))

/-- A cookie as it is sent. -/
def text (c : Cookie) : String :=
  match c.value with
  | some v => c.name ++ "=" ++ v
  | none => c.name

end Cookie

/-!
## Jars of cookies

The cookies that are kept are ordered by domain, by path and by name, each at the place where it came up first, even when
its last cookie has gone since. They are sent with the longest path first and else in this order.

All cookies of an answer are looked at before any of them is kept, so that one which has expired takes away only cookies
that came before the answer.
-/

/-- The cookies that are kept, by domain, path and name. -/
abbrev Jar := List (String × List (String × List (String × Cookie)))

namespace Jar

/-- Entries with one of them changed. One that is missing is made from nothing, at the end. -/
def change {α : Type} (key : String) (nothing : α) (f : α → α) : List (String × α) → List (String × α)
  | [] => [(key, f nothing)]
  | (k, a) :: rest => if k == key then (k, f a) :: rest else (k, a) :: change key nothing f rest

/-- Keeps a cookie. -/
def put (j : Jar) (c : Cookie) : Jar :=
  change c.domain [] (change c.path [] (change c.name c fun _ => c)) j

/-- Takes away the cookie that has the name, the path and the domain of another. -/
def remove (j : Jar) (c : Cookie) : Jar :=
  j.map fun (domain, paths) =>
    if domain == c.domain then
      (domain, paths.map fun (path, names) =>
        if path == c.path then (path, names.filter fun (name, _) => name != c.name) else (path, names))
    else (domain, paths)

/-- Whether no cookie is kept. -/
def isBare (j : Jar) : Bool := j.all fun (_, paths) => paths.all fun (_, names) => names.isEmpty

/-- A jar after an answer from an address. -/
def receive (j : Jar) (now : Int) (a : Address) (headers : Headers) : Jar :=
  let s := Cookie.Site.ofAddress a
  match Cookie.ordersOf now s (headers.values "set-cookie") with
  | .error _ => j
  | .ok orders =>
    let left := orders.foldl (fun j o => match o with
      | .remove c => j.remove c
      | .keep _ => j) j
    orders.foldl (fun j o => match o with
      | .keep c => if c.mayComeFrom s then j.put c else j
      | .remove _ => j) left

/-- The cookies that go to an address, in their order. -/
def going (j : Jar) (now : Int) (s : Cookie.Site) : List Cookie :=
  (j.filter fun (domain, _) => Cookie.reaches domain s).flatMap fun (_, paths) =>
    (paths.filter fun (path, _) => Cookie.covers path s.path).flatMap fun (_, names) =>
      (names.map Prod.snd).filter fun c => c.goesTo now s

/-- What is sent to an address, if anything is. -/
def header? (j : Jar) (now : Int) (a : Address) : Option String :=
  let sorted := (j.going now (Cookie.Site.ofAddress a)).mergeSort fun a b => b.path.length ≤ a.path.length
  if sorted.isEmpty then none else some ("; ".intercalate (sorted.map Cookie.text))

end Jar

end Rehearsal.Http
