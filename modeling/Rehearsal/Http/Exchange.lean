import Rehearsal.Http.Coding
import Rehearsal.Http.ContentType
import Rehearsal.Http.Cookie
import Rehearsal.Http.Multipart
import Rehearsal.Http.Reference
import Rehearsal.Http.Server
import Rehearsal.Duration

/-!
# Exchanges

Carrying out a request: it is made from a template, sent, sent on where an answer points elsewhere, and sent again from
the start as long as the answer's status asks for it and the template allows it. The last answer is sorted: a status
from 400 on is a fault of the request, one from 500 on and every failure of the connection an internal error, all else
success. The close of an idle connection is no failure.

How a draft is carried and how time passes between the attempts is for a `Transport` to say. `network` is the one there is:
it sends messages to a server and follows where the answers point, for at most `maxHops` of them.
-/

namespace Rehearsal.Http

/-- A message that a server was sent. -/
structure Message where
  method : String
  url : String
  headers : Headers
  body : Bytes
  deriving DecidableEq, Repr, Inhabited

/-- What an exchange comes to: a body where it belongs, the status, and what went wrong if something did. -/
structure Result where
  stdout : String
  stderr : String
  status : Nat
  error : Option String
  deriving DecidableEq, Repr, Inhabited

namespace Exchange

/-- Why an exchange comes to nothing. -/
inductive Failure where
  /-- The template says too little. -/
  | argument (e : ArgumentError)
  /-- A field of the query cannot be written. -/
  | query (e : Query.Error)
  /-- A header holds characters beyond ASCII, from a position on. -/
  | header (c : Char) (position count : Nat)
  /-- The address has no scheme. -/
  | noScheme (url : String)
  /-- The content type of the answer cannot be read. -/
  | contentType (e : ContentType.Error)
  /-- The body of the answer cannot be taken for text. -/
  | body (e : Encoding.Error)
  /-- The time is over. -/
  | outOfTime
  deriving DecidableEq, Repr, Inhabited

/-- The wording of a failure. -/
def Failure.message : Failure → String
  | .argument e => e.message
  | .query e => e.message
  | .header c position 1 =>
    let escape := String.ofList (if c.toNat < 0x100 then '\\' :: 'x' :: Quoted.hexPadded 2 c.toNat
      else if c.toNat < 0x10000 then '\\' :: 'u' :: Quoted.hexPadded 4 c.toNat
      else '\\' :: 'U' :: Quoted.hexPadded 8 c.toNat)
    s!"'ascii' codec can't encode character '{escape}' in position {position}: ordinal not in range(128)"
  | .header _ position count =>
    s!"'ascii' codec can't encode characters in position {position}-{position + count - 1}: " ++
      "ordinal not in range(128)"
  | .noScheme url => s!"unknown url type: {Quoted.text url}"
  | .contentType e => e.message
  | .body e => e.message
  | .outOfTime => "out of time"

/-- Where an exchange takes place: how forms are bounded, the time of day in seconds since 1970, and how long it may take,
if that is limited. -/
structure Surroundings where
  boundary : String
  now : Int
  limit : Option Time
  deriving Repr, Inhabited

/-- What changes in the course of an exchange: the server, the messages it was sent, last one first, the cookies and the
time that has passed. -/
structure Course where
  server : Server
  sent : List Message
  jar : Jar
  span : Time
  deriving Repr, Inhabited

/-- What ends an attempt early: a failure, or an error that is part of the result. -/
inductive Break where
  | failure (f : Failure)
  | error (message : String)
  deriving DecidableEq, Repr, Inhabited

/-- A step of an exchange. -/
abbrev Step := ExceptT Break (StateM Course)

/-- A request before it is addressed to anyone in particular. -/
structure Draft where
  method : String
  url : String
  fields : List Query.Field
  headers : Headers
  body : Bytes
  /-- The headers the body asks for, unless they are given. -/
  bodyHeaders : Headers
  auth : Option (String × String)
  deriving Repr, Inhabited

/-- The content types of kinds of body. -/
def contentType : BodyType → String
  | .json => "application/json"
  | .form => "application/x-www-form-urlencoded"
  | .text => "text/plain; charset=utf-8"

/-- The kind of a body that nothing was said about. -/
def bodyTypeOf (body : String) : Except Failure BodyType :=
  match Json.ofText body with
  | .ok _ => .ok .json
  | .error .malformed => .ok .text
  | .error (.number e) => .error (.query (.number e))
  | .error (.tooDeep isTable) => .error (.query (.tooDeep isTable))

/-- The headers that name a length, if there is something to be sent. -/
def lengthHeaders (d : Bytes) : Headers := if d.isEmpty then [] else [("Content-Length", toString d.length)]

/-- The headers of a template. A body that is sent as it is has its type told, unless a header does. -/
def typedHeaders (t : Template) : Except Failure Headers :=
  match t.body with
  | none => .ok t.headers
  | some body =>
    if !t.files.isEmpty || t.headers.has "Content-Type" then .ok t.headers
    else
      let type : Except Failure BodyType := match t.bodyType with
        | some b => .ok b
        | none => bodyTypeOf body
      type.map fun b => t.headers ++ [("Content-Type", contentType b)]

/-- What is sent of a template, and the headers that asks for: its body, or a form if there are files. -/
def payload (s : Surroundings) (t : Template) : Bytes × Headers :=
  if t.files.isEmpty then
    let data := Utf8.encode (t.body.getD "")
    (data, lengthHeaders data)
  else
    let boundary := ((t.headers.get? "Content-Type").bind Multipart.boundaryIn?).getD s.boundary
    let data := Multipart.render boundary (Multipart.parts t.body t.files)
    (data, [("Content-Length", toString data.length), ("Content-Type", Multipart.contentType boundary)])

/-- The request that a template describes. -/
def Draft.ofTemplate (s : Surroundings) (t : Template) : Except Failure Draft := do
  if t.url.isEmpty then throw (.argument .noUrl)
  let fields ← (Query.allFields t.query).mapError .query
  let headers ← typedHeaders t
  let (body, bodyHeaders) := payload s t
  return ⟨t.method, t.url, fields, headers, body, bodyHeaders, t.auth⟩

/-- A request on its way to an address. -/
structure Request where
  method : String
  address : Address
  headers : Headers
  body : Bytes
  deriving Repr, Inhabited

/-- Refuses a text with characters beyond ASCII. -/
def checkAscii (s : String) : Except Failure Unit :=
  let cs := s.toList
  match cs.findIdx? fun c => 128 ≤ c.toNat with
  | some i =>
    let run := (cs.drop i).takeWhile fun c => 128 ≤ c.toNat
    .error (.header (run.head?.getD ' ') i run.length)
  | none => .ok ()

/-- Refuses headers with characters beyond ASCII. -/
def checkHeaders : Headers → Except Failure Unit
  | [] => .ok ()
  | (k, v) :: rest => do
    checkAscii k
    checkAscii v
    checkHeaders rest

/-- The value of six bits in the alphabet of base 64. -/
def sixBits (n : Nat) : Char :=
  if n < 26 then Char.ofNat (65 + n) else if n < 52 then Char.ofNat (71 + n) else if n < 62 then Char.ofNat (n - 4)
  else if n = 62 then '+' else '/'

/-- Bytes in base 64. -/
def base64 : Bytes → List Char
  | [] => []
  | [a] => [sixBits (a.toNat / 4), sixBits (a.toNat % 4 * 16), '=', '=']
  | [a, b] =>
    [sixBits (a.toNat / 4), sixBits (a.toNat % 4 * 16 + b.toNat / 16), sixBits (b.toNat % 16 * 4), '=']
  | a :: b :: c :: rest =>
    [sixBits (a.toNat / 4), sixBits (a.toNat % 4 * 16 + b.toNat / 16),
      sixBits (b.toNat % 16 * 4 + c.toNat / 64), sixBits (c.toNat % 64)] ++ base64 rest

/-- The header that a user and a password are sent in. -/
def authorization (user password : String) : String :=
  "Basic " ++ String.ofList (base64 (Utf8.encode user ++ Bytes.ascii ":" ++ Utf8.encode password))

/-- Whether a method expects a body, so that a missing one has a length. -/
def expectsBody (method : String) : Bool := method == "POST" || method == "PUT" || method == "PATCH"

/-- The headers of a request before it is signed: those of the body where they are not given, and in front the host and
the length of a missing body. -/
def completeHeaders (method : String) (a : Address) (headers bodyHeaders : Headers) : Headers :=
  let headers := bodyHeaders.foldl (fun h (k, v) => h.putNew k v) headers
  let hasLength := headers.has "Content-Length" || headers.has "Transfer-Encoding"
  (if !headers.has "Host" && !a.host.isEmpty then [("Host", a.site)] else []) ++
    (if !hasLength && expectsBody method then [("Content-Length", "0")] else []) ++ headers

/-- Headers with the cookies that belong to an address, unless they have some already. -/
def addCookies (now : Int) (j : Jar) (a : Address) (headers : Headers) : Headers :=
  match j.header? now a with
  | some text => if headers.has "Cookie" then headers else headers ++ [("Cookie", text)]
  | none => headers

/-- The result of a reading as a step. An address that cannot be read is an error of the result. -/
def addressed {α : Type} : Except Address.Error α → Step α
  | .ok a => return a
  | .error e => throw (.error e.message)

/-- The result of a check as a step. -/
def checked {α : Type} : Except Failure α → Step α
  | .ok a => return a
  | .error e => throw (.failure e)

/-- Refuses an address that a jar cannot look into: one that does not begin with a name and a colon. -/
def checkKind (a : Address) : Step Unit := do
  let cs := a.toString.toList
  let (front, fragment) := (Address.cutAtLast '#' cs).getD (cs, [])
  let name := front.takeWhile fun c => c != '/' && c != ':'
  if name.isEmpty || front[name.length]? != some ':' then
    throw (.failure (.noScheme (String.ofList (if fragment.isEmpty then front else cs))))

/-- The headers of a request with the cookies for its address. -/
def withCookies (s : Surroundings) (a : Address) (headers : Headers) : Step Headers := do
  let jar := (← get).jar
  if jar.isBare then return headers
  checkKind a
  return addCookies s.now jar a headers

/-- The first request of a draft. -/
def Draft.request (s : Surroundings) (d : Draft) : Step Request := do
  let given ← addressed (Address.ofText d.url)
  let given ← addressed given.fromRoot
  checked (checkHeaders d.headers)
  let address ← if d.fields.isEmpty then pure given else do
    let query ← checked ((Query.write d.fields).mapError .query)
    addressed (given.withQuery query)
  let headers ← withCookies s address d.headers
  let headers := completeHeaders d.method address headers d.bodyHeaders
  let (user, password) := d.auth.getD address.credentials
  let headers :=
    if d.auth.isSome || !user.isEmpty || !password.isEmpty then
      headers.put "Authorization" (authorization user password)
    else headers
  return ⟨d.method, address, headers, d.body⟩

/-- An answer. -/
structure Answer where
  status : Nat
  headers : Headers
  body : Bytes
  deriving DecidableEq, Repr, Inhabited

/-- Sends a request once. -/
def send (s : Surroundings) (r : Request) : Step Answer := do
  let c ← get
  let (reply, server) := c.server.serve (r.method ++ " " ++ r.address.toString)
  set { c with server, sent := ⟨r.method, r.address.toString, r.headers, r.body⟩ :: c.sent }
  match reply with
  | .failure message => throw (.error message)
  | .silence => throw (.failure .outOfTime)
  | .answer status headers body =>
    checked (checkHeaders headers)
    let body ← match Coding.undoAll (Coding.ofHeaders headers) body with
      | .ok body => pure body
      | .error e => throw (.error e.message)
    checkKind r.address
    modify fun c => { c with jar := c.jar.receive s.now r.address headers }
    return ⟨status, headers, body⟩

/-- Where an answer points, if it points elsewhere. -/
def Answer.target? (a : Answer) : Option String :=
  if [301, 302, 303, 307, 308].contains a.status then a.headers.get? "Location" else none

/-- The method of a request that is sent on. -/
def nextMethod (status : Nat) (method : String) : String :=
  if (status == 303 || status == 302) && method != "HEAD" then "GET"
  else if status == 301 && method == "POST" then "GET"
  else method

/-- The address that a target means, seen from the address it was found at. A fragment is kept if the target has
none. -/
def nextAddress (a : Address) (target : String) : Step Address := do
  let new ← match Address.ofText target with
    | .ok new => pure new
    | .error e => throw (.error s!"Invalid URL in location header: {e.message}.")
  let new ← if !new.scheme.isEmpty && new.host.isEmpty then addressed (new.withHost a.host) else pure new
  let new ← if new.isAbsolute then pure new
    else addressed (Address.ofText (Reference.join a.toString new.toString))
  let fragment (a : Address) : String := Percent.decode (a.fragment.getD "")
  if !(fragment a).isEmpty && (fragment new).isEmpty then addressed (new.withFragment (fragment a)) else return new

/-- The request that follows an answer which points elsewhere. Another origin is told no credentials, and a request that
loses its body loses the headers about it. -/
def nextRequest (s : Surroundings) (r : Request) (a : Answer) (target : String) : Step Request := do
  let method := nextMethod a.status r.method
  let address ← nextAddress r.address target
  let headers :=
    if address.sameOrigin r.address then r.headers
    else
      let h := if r.address.isSecured address then r.headers else r.headers.drop "Authorization"
      h.put "Host" address.site
  let emptied := method != r.method && method == "GET"
  let headers := if emptied then (headers.drop "Content-Length").drop "Transfer-Encoding" else headers
  let headers ← withCookies s address (headers.drop "Cookie")
  if emptied then return ⟨method, address, completeHeaders method address headers [], []⟩
  else return ⟨method, address, headers, r.body⟩

/-- The most messages of one attempt. -/
def maxHops : Nat := 21

/-- Sends a request and goes where the answers point, for a number of messages. -/
def follow (s : Surroundings) (r : Request) : Nat → Step Answer
  | 0 => throw (.error "Exceeded maximum allowed redirects.")
  | n + 1 => do
    let a ← send s r
    match a.target? with
    | none => return a
    | some target => follow s (← nextRequest s r a target) n

/-- Lets time pass between attempts. -/
def pause (s : Surroundings) (span : Time) : Step Unit := do
  let c ← get
  match s.limit with
  | some limit =>
    if span != 0 && limit < c.span + span then throw (.failure .outOfTime)
    else set { c with span := c.span + span }
  | none => set { c with span := c.span + span }

/-- What carries drafts: it gives the answer to one, wherever that is found in the end, and lets time pass between two of
them. Either may be broken off. -/
structure Transport (σ : Type) where
  request : Draft → ExceptT Break (StateM σ) Answer
  pause : Float → ExceptT Break (StateM σ) Unit

/-- The transport that sends messages to a server. -/
def network (s : Surroundings) : Transport Course where
  request d := do follow s (← d.request s) maxHops
  pause delay := pause s (Time.ofSeconds delay)

/-- Carries out a draft, again as often as the status asks for it and a number allows. -/
def attempts {σ : Type} (via : Transport σ) (d : Draft) (r : Retry) : Nat → ExceptT Break (StateM σ) Answer
  | 0 => via.request d
  | n + 1 => do
    let a ← via.request d
    if r.codes.contains (a.status : Int) then
      via.pause r.delay
      attempts via d r n
    else return a

/-- The text of the body of an answer. What the content type says of no bytes does not matter. -/
def Answer.text (a : Answer) : Except Failure String := do
  if a.body.isEmpty then return ""
  let encoding ← (ContentType.encoding (a.headers.get? "Content-Type")).mapError .contentType
  (encoding.decode a.body).mapError .body

/-- The result of an answer. A body ends in a newline more than it was sent with. -/
def Answer.result (a : Answer) : Except Failure Result := do
  let body := (← a.text) ++ "\n"
  if 500 ≤ a.status then return ⟨"", body, a.status, some s!"Internal Error:\nHTTP {a.status}\n{body}"⟩
  else if 400 ≤ a.status then return ⟨"", body, a.status, some s!"Bad Request:\nHTTP {a.status}\n{body}"⟩
  else return ⟨body, "", a.status, none⟩

/-- The result of an error. -/
def errorResult (message : String) : Result :=
  ⟨"", "", 0, if isIdleClose message then none else some s!"Internal Error:\n{message}\n"⟩

/-- What an exchange comes to by its last attempt. An error of that is part of the result. -/
def classify : Except Break Answer → Except Failure Result
  | .ok a => a.result
  | .error (.error message) => .ok (errorResult message)
  | .error (.failure f) => .error f

/-- Carries out the request that a template describes by means of a transport. -/
def performBy {σ : Type} (via : Transport σ) (s : Surroundings) (t : Template) : StateM σ (Except Failure Result) :=
  match Draft.ofTemplate s t with
  | .error f => return .error f
  | .ok d => return classify (← (attempts via d t.retry t.retry.count).run)

/-- What is left of an exchange. -/
structure Outcome where
  result : Except Failure Result
  server : Server
  /-- The messages sent, in order. -/
  sent : List Message
  span : Time
  deriving Inhabited

/-- Carries out the request that a template describes. -/
def perform (s : Surroundings) (t : Template) (server : Server) : Outcome :=
  let (result, c) := (performBy (network s) s t).run ⟨server, [], [], 0⟩
  ⟨result, c.server, c.sent.reverse, c.span⟩

end Exchange

end Rehearsal.Http
