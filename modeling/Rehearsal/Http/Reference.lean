import Rehearsal.Http.Address

/-!
# Relative references

An answer may point elsewhere by a part of an address only. `Address.join` completes such a reference from the address
it was found at: what comes before the first part that is given is taken over, and a relative path goes on from the
directory of the old one. Dots are taken back on the way.
-/

namespace Rehearsal.Http.Reference

/-- The texts of an address as a reference is completed from them. What stands behind the first semicolon of the last
name of a path is kept apart. -/
structure Texts where
  scheme : String
  site : String
  path : String
  params : String
  query : String
  fragment : String
  deriving DecidableEq, Repr, Inhabited

/-- The schemes whose references can be completed. -/
def completed : List String :=
  ["", "ftp", "http", "gopher", "nntp", "imap", "wais", "file", "https", "shttp", "mms", "prospero", "rtsp", "rtsps",
    "rtspu", "sftp", "svn", "svn+ssh", "ws", "wss"]

/-- The schemes with parameters behind a semicolon. -/
def withParams : List String :=
  ["", "ftp", "hdl", "prospero", "http", "https", "shttp", "rtsp", "rtsps", "rtspu", "sip", "sips", "mms", "sftp",
    "tel"]

/-- A text cut at the first place of a character; the rest is empty if there is none. -/
def cutAt (c : Char) (cs : List Char) : List Char × List Char :=
  let front := cs.takeWhile (· != c)
  (front, cs.drop (front.length + 1))

/-- The scheme of a text, if one stands in front. -/
def schemeOf (usual : String) (cs : List Char) : String × List Char :=
  let name := cs.takeWhile (· != ':')
  let fits := name.length < cs.length && name.head?.any Char.isAlpha &&
    name.all fun c => c.isAlphanum || c == '+' || c == '-' || c == '.'
  if fits then (String.ofList (name.map Char.toLower), cs.drop (name.length + 1)) else (usual, cs)

/-- A path cut at the first semicolon of its last name. -/
def cutParams (path : List Char) : List Char × List Char :=
  let last := (path.reverse.takeWhile (· != '/')).reverse
  let (name, params) := cutAt ';' last
  (path.take (path.length - last.length) ++ name, params)

/-- The texts of an address; a missing scheme is the usual one. -/
def textsOf (usual s : String) : Texts :=
  let (scheme, rest) := schemeOf usual s.toList
  let (site, rest) := match rest with
    | '/' :: '/' :: more => more.span fun c => c != '/' && c != '?' && c != '#'
    | _ => ([], rest)
  let (rest, fragment) := cutAt '#' rest
  let (path, query) := cutAt '?' rest
  let (path, params) := if withParams.contains scheme then cutParams path else (path, [])
  ⟨scheme, String.ofList site, String.ofList path, String.ofList params, String.ofList query, String.ofList fragment⟩

/-- An address made of its texts. -/
def Texts.toString (t : Texts) : String :=
  let path := if t.params.isEmpty then t.path else t.path ++ ";" ++ t.params
  let rooted := !t.site.isEmpty || (!t.scheme.isEmpty && completed.contains t.scheme && !path.startsWith "//")
  let body :=
    if rooted then
      "//" ++ t.site ++ (if !path.isEmpty && !path.startsWith "/" then "/" ++ path else path)
    else path
  (if t.scheme.isEmpty then "" else t.scheme ++ ":") ++ body ++ (if t.query.isEmpty then "" else "?" ++ t.query) ++
    (if t.fragment.isEmpty then "" else "#" ++ t.fragment)

/-- The names of a completed path: dots are left out, and a pair of dots takes back a name. -/
def resolve (names : List (List Char)) : List (List Char) :=
  let done := (names.foldl (fun done name =>
    if name == ['.', '.'] then done.drop 1 else if name == ['.'] then done else name :: done) []).reverse
  match names.getLast? with
  | some last => if last == ['.'] || last == ['.', '.'] then done ++ [[]] else done
  | none => done

/-- A path that continues from another. -/
def joinPaths (base path : List Char) : List Char :=
  let names := Line.splitOn '/' path
  let all :=
    if path.head? == some '/' then names
    else
      let front := Line.splitOn '/' base
      let front := if front.getLast? == some [] then front else front.dropLast
      let joined := front ++ names
      joined.take 1 ++ ((joined.drop 1).dropLast.filter fun n => !n.isEmpty) ++
        (if joined.length ≤ 1 then [] else joined.getLast?.toList)
  let resolved := ['/'].intercalate (resolve all)
  if resolved.isEmpty then ['/'] else resolved

/-- A reference completed from the address it was found at. -/
def join (base reference : String) : String :=
  if base.isEmpty then reference
  else if reference.isEmpty then base
  else
    let b := textsOf "" base
    let r := textsOf b.scheme reference
    if r.scheme != b.scheme || !completed.contains r.scheme then reference
    else if !r.site.isEmpty then r.toString
    else
      let r := { r with site := b.site }
      if r.path.isEmpty && r.params.isEmpty then
        let query := if r.query.isEmpty then b.query else r.query
        Texts.toString { r with path := b.path, params := b.params, query }
      else
        Texts.toString { r with path := String.ofList (joinPaths b.path.toList r.path.toList) }

end Rehearsal.Http.Reference
