import Rehearsal.Command.Basic
import Rehearsal.Script.Process

/-!
# Requests

A request is described by its arguments, sent, and waited for until the script is cancelled. Its body goes to the output
or, when it was refused, to the error output; its status is kept like an exit code.
-/

namespace Rehearsal.Command

/-- What the description of a request fails by, as a fault. -/
def requestFault : Http.RequestError Fault → Fault
  | .argument e => .request e
  | .file f => f

/-- Changes the named clients of a script. -/
def manageClients (args : List String) : Action Unit := do
  let s ← get
  match s.clients.manage s.text args with
  | .ok clients => set { s with clients }
  | .error e => throw (requestFault e)

/-- The request that arguments describe. -/
def describe (args : List String) : Action Http.Template := do
  let s ← get
  match s.clients.request s.text args with
  | .ok t => return t
  | .error e => throw (requestFault e)

/-- Where a request of a script takes place. It may take until the script is cancelled. -/
def surroundings (s : Script) : Http.Exchange.Surroundings :=
  { boundary := s.scene.boundary, now := s.scene.epoch + s.scene.clock / 1000000
    limit := s.cancelAt.map (· - s.scene.clock) }

/-- What a failure of an exchange is to a script. -/
def exchangeFault : Http.Exchange.Failure → Fault
  | .outOfTime => .timeout
  | .argument e => .request e
  | f => .accident (.exchange f)

/-- The time when an exchange is over: when it was answered, or when the script was cancelled. -/
def timeAfter (s : Script) (o : Http.Exchange.Outcome) : Time :=
  match o.result, s.cancelAt with
  | .error .outOfTime, some time => max s.scene.clock time
  | _, _ => s.scene.clock + o.span

/-- Sends a request and waits for the answer. -/
def send (t : Http.Template) : Action Http.Result := do
  let s ← get
  let o := Http.Exchange.perform (surroundings s) t s.scene.server
  set { s with
    scene := { s.scene with server := o.server, sent := s.scene.sent ++ o.sent, clock := timeAfter s o } }
  match o.result with
  | .ok r => return r
  | .error f => throw (exchangeFault f)

/-- Checks the answer to a request. -/
def checkAnswer (m : Modifier) : Option String → Action Unit
  | some reason => do
    log s!"[{reason}]"
    if m == .plain then Action.mismatch (.requestFailed reason)
  | none => Script.expect m "http" true

/-- Sends a request, or changes the named clients. -/
def http : Command := fun m args => do
  match args with
  | [] => usage "http [client-name] args..."
  | "client" :: rest =>
    if m != .plain then Action.misuse .negatedClient
    manageClients rest
  | args =>
    let t ← describe args
    let r ← send t
    modify fun s =>
      ({ s with stdout := r.stdout, stderr := r.stderr, status := r.status } : Script).logStreams r.stdout r.stderr
    checkAnswer m r.error

end Rehearsal.Command
