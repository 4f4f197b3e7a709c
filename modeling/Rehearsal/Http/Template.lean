import Rehearsal.Duration
import Rehearsal.Http.Headers
import Rehearsal.Table
import Rehearsal.Text.Case

/-!
# Requests as they are written

A request is described by arguments of the form `KEY=VALUE`, whose keys may be in either case, by bare names of
methods, and by a bare address. Each argument sets or extends one field of a template; arguments are applied from
the left, and the first that cannot be understood ends the reading.

A value that begins with `@` names a file to be read. How files are read is up to the caller, who may have errors
of another kind.
-/

namespace Rehearsal.Http

/-- The methods of requests. -/
def methods : List String := ["GET", "POST", "HEAD", "PUT", "DELETE", "PATCH", "OPTIONS"]

/-- The kinds of body a request may be declared to have. -/
inductive BodyType where
  | json | form | text
  deriving DecidableEq, Repr, Inhabited

/-- The name of a kind of body. -/
def BodyType.name : BodyType → String
  | .json => "json"
  | .form => "form"
  | .text => "text"

/-- The kinds in order. -/
def BodyType.all : List BodyType := [.json, .form, .text]

/-- When a request is sent again: how often at most, after how many seconds, and after which status codes. The
codes are in rising order and occur once. -/
structure Retry where
  count : Nat
  delay : Float
  codes : List Int
  deriving Repr, Inhabited

/-- Never again. -/
def Retry.never : Retry := ⟨0, Float.ofBits 0, []⟩

/-- A file sent along with a form. -/
structure Upload where
  fileName : String
  fieldName : String
  content : String
  deriving DecidableEq, Repr, Inhabited

/-- The description of a request. -/
structure Template where
  method : String
  url : String
  headers : Headers
  query : List String
  body : Option String
  bodyType : Option BodyType
  files : List Upload
  auth : Option (String × String)
  retry : Retry
  deriving Repr, Inhabited

/-- The request that nothing has been said about. -/
def Template.fresh : Template := ⟨"GET", "", [], [], none, none, [], none, .never⟩

/-- Why an argument is not understood. -/
inductive ArgumentError where
  | retryUsage
  | badRetry (spec reason : String)
  | badRetryCount (count : Int)
  | notPair (what value : String)
  | unknownBodyType (value : String)
  | unknownMethod (value : String)
  | unknownArgument (argument key : String)
  | unknownClient (name : String)
  | clientUsage
  | clientOperation
  | noUrl
  deriving DecidableEq, Repr, Inhabited

/-- The wording of an error. -/
def ArgumentError.message : ArgumentError → String
  | .retryUsage => "http retry usage: RETRY='<count> <timer> [codes...]'"
  | .badRetry spec reason => s!"bad http retry spec {Quoted.text spec}: {reason}"
  | .badRetryCount count => s!"bad http retry count {count}"
  | .notPair what value => s!"http {what} must look like 'name:value', got {Quoted.text value}"
  | .unknownBodyType value =>
    s!"unknown http body type {Quoted.text value} (want one of " ++
      ", ".intercalate (BodyType.all.map BodyType.name) ++ ")"
  | .unknownMethod value => s!"unknown http method {Quoted.text value}"
  | .unknownArgument argument key => s!"unknown http arg/key: {Quoted.text argument} / {Quoted.text key}"
  | .unknownClient name => s!"unknown http client {Quoted.text name}"
  | .clientUsage => "usage: http client [new,mod,del] <name> http-args..."
  | .clientOperation => "usage: http client <new|mod|del> args..."
  | .noUrl => "http request has no URL"

/-- Why a request cannot be described: an argument is not understood, or a file cannot be read. -/
inductive RequestError (ε : Type) where
  | argument (e : ArgumentError)
  | file (e : ε)
  deriving Repr, Inhabited

/-- How files are read. -/
abbrev ReadFile (ε : Type) := String → Except ε String

/-- Puts a number into a rising list without repetition. -/
def insertCode (n : Int) : List Int → List Int
  | [] => [n]
  | m :: rest => if n < m then n :: m :: rest else if n == m then m :: rest else m :: insertCode n rest

/-- The status codes of a retry spec. -/
def retryCodes : List String → Except String (List Int)
  | [] => .ok []
  | field :: rest =>
    match Integer.ofText field with
    | .error e => .error e.message
    | .ok n =>
      match retryCodes rest with
      | .error e => .error e
      | .ok ns => .ok (insertCode n ns)

/-- Reads a retry spec: a count, a duration and one or more codes. -/
def Retry.ofText (value : String) : Except ArgumentError Retry :=
  match words value with
  | count :: timer :: code :: codes =>
    match Integer.ofText count with
    | .error e => .error (.badRetry value e.message)
    | .ok n =>
      match Duration.ofText? timer with
      | none => .error (.badRetry value (Duration.malformed timer))
      | some delay =>
        match retryCodes (code :: codes) with
        | .error reason => .error (.badRetry value reason)
        | .ok codes => if n < 0 then .error (.badRetryCount n) else .ok ⟨n.toNat, delay, codes⟩
  | _ => .error .retryUsage

/-- A text cut at the first occurrence of a character: what is before it, and what is behind if it occurs. -/
def cutAt (c : Char) (s : String) : String × Option String :=
  match s.toList.span (· != c) with
  | (front, _ :: rest) => (String.ofList front, some (String.ofList rest))
  | (front, []) => (String.ofList front, none)

/-- A name and a value around a colon, both trimmed. -/
def pairOf (what value : String) : Except ArgumentError (String × String) :=
  match cutAt ':' value with
  | (_, none) => .error (.notPair what value)
  | (key, some rest) => .ok (trim key, trim rest)

/-- The field of a template that an argument is about. -/
inductive Field where
  | url | bodyType | query | retry | body | file | auth | header | method
  | bareMethod (method : String)
  | bareUrl
  deriving DecidableEq, Repr, Inhabited

/-- The field an argument's key names. A key in front of no value may be a method; anything that begins like an
address is one. -/
def Field.ofKey? (key : String) : Option Field :=
  let k := upperCase key
  if k == "U" || k == "URL" then some .url
  else if k == "T" || k == "TYPE" then some .bodyType
  else if k == "Q" || k == "QUERY" then some .query
  else if k == "R" || k == "RETRY" then some .retry
  else if k == "D" || k == "DATA" || k == "S" || k == "SEND" then some .body
  else if k == "F" || k == "FILE" then some .file
  else if k == "A" || k == "AUTH" then some .auth
  else if k == "H" || k == "HEADER" then some .header
  else if k == "M" || k == "METHOD" then some .method
  else if methods.contains k then some (.bareMethod k)
  else if key.startsWith "http" then some .bareUrl
  else none

/-- The result of a reading as that of a request. -/
def argument {ε α : Type} : Except ArgumentError α → Except (RequestError ε) α
  | .ok a => .ok a
  | .error e => .error (.argument e)

/-- The contents of a file as part of a request. -/
def fileText {ε : Type} (read : ReadFile ε) (name : String) : Except (RequestError ε) String :=
  match read name with
  | .ok s => .ok s
  | .error e => .error (.file e)

/-- A value, or the contents of the file it names behind an `@`. -/
def valueText {ε : Type} (read : ReadFile ε) (value : String) : Except (RequestError ε) String :=
  match value.toList with
  | '@' :: name => fileText read (String.ofList name)
  | _ => .ok value

/-- What an argument makes of a template. The change does not look at the template, only the reading of the argument
can fail. -/
def change {ε : Type} (read : ReadFile ε) (arg : String) : Except (RequestError ε) (Template → Template) := do
  let (key, rest) := cutAt '=' arg
  let value := rest.getD ""
  match Field.ofKey? key with
  | none => .error (.argument (.unknownArgument arg key))
  | some .url => .ok fun t => { t with url := value }
  | some .bareUrl => .ok fun t => { t with url := arg }
  | some (.bareMethod m) => .ok fun t => { t with method := m }
  | some .bodyType =>
    match BodyType.all.find? fun b => b.name == lowerCase value with
    | none => .error (.argument (.unknownBodyType value))
    | some b => .ok fun t => { t with bodyType := some b }
  | some .query =>
    let text ← valueText read value
    return fun t => { t with query := t.query ++ [trim text] }
  | some .retry =>
    let r ← argument (Retry.ofText value)
    return fun t => { t with retry := r }
  | some .body =>
    let text ← valueText read value
    return fun t => { t with body := some text }
  | some .file =>
    let (name, fieldName) := cutAt ':' value
    let name := trim name
    let fieldName := trim (fieldName.getD "")
    let content ← fileText read name
    let upload : Upload := ⟨name, if fieldName.isEmpty then "file" else fieldName, content⟩
    return fun t => { t with files := t.files ++ [upload] }
  | some .auth =>
    let pair ← argument (pairOf "auth" value)
    return fun t => { t with auth := some pair }
  | some .header =>
    let pair ← argument (pairOf "header" value)
    return fun t => { t with headers := t.headers ++ [pair] }
  | some .method =>
    let m := upperCase value
    if methods.contains m then .ok fun t => { t with method := m }
    else .error (.argument (.unknownMethod value))

/-- Applies arguments to a template, from the left. -/
def apply {ε : Type} (read : ReadFile ε) (t : Template) : List String → Except (RequestError ε) Template
  | [] => .ok t
  | arg :: rest =>
    match change read arg with
    | .error e => .error e
    | .ok f => apply read (f t) rest

/-!
## Named clients

A client is a template that a script keeps under a name. Making, changing and dropping clients is all that alters
them: a request that starts from one works on a copy, and an operation that fails leaves every client as it was.
-/

/-- Templates by name. -/
abbrev Clients := Table Template

namespace Clients

/-- The name that is meant when none is given. -/
def defaultName : String := "default"

/-- Carries out an operation on clients: `new`, `mod` or `del`, a name, and arguments. -/
def manage {ε : Type} (cs : Clients) (read : ReadFile ε) (args : List String) : Except (RequestError ε) Clients :=
  match args with
  | [] => .error (.argument .clientUsage)
  | operation :: more =>
    let name := more.head?.getD defaultName
    let rest := more.drop 1
    if operation == "new" then
      match apply read Template.fresh rest with
      | .ok t => .ok (Table.insert name t cs)
      | .error e => .error e
    else if operation == "mod" then
      match Table.get? name cs with
      | none => .error (.argument (.unknownClient name))
      | some old =>
        match apply read old rest with
        | .ok t => .ok (Table.insert name t cs)
        | .error e => .error e
    else if operation == "del" then
      if Table.contains name cs then .ok (Table.erase name cs)
      else .error (.argument (.unknownClient name))
    else .error (.argument .clientOperation)

/-- The request that arguments describe. If the first names a client, its template is what the others are applied
to. -/
def request {ε : Type} (cs : Clients) (read : ReadFile ε) (args : List String) :
    Except (RequestError ε) Template :=
  match args with
  | [] => .ok Template.fresh
  | name :: rest =>
    match Table.get? name cs with
    | some t => apply read t rest
    | none => apply read Template.fresh args

end Clients

end Rehearsal.Http
