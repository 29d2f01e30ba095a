import ConceptScript.Server.Basic

/-!
Contract: the life of a connection.

Owns the phases of a connection and which messages are refused in which phase.

Does not own what an accepted call does.
-/

set_option autoImplicit false

namespace ConceptScript

/-- A connection waits for the first call, works, was shut down, or is over. -/
inductive Phase where
  | waiting
  | working
  | shutDown
  | over
  deriving DecidableEq, Repr

/-- Why a request is refused. -/
inductive Refusal where
  | notConnected
  | invalidRequest
  | unknownMethod
  | invalidParams
  deriving DecidableEq, Repr

inductive Reply where
  | silence
  | answer (answer : Answer)
  | refusal (refusal : Refusal)
  /-- The connection is over. -/
  | gone

structure Session where
  phase : Phase := .waiting
  server : Server := {}

namespace Session

/-- What comes of one message. -/
structure Step where
  session : Session
  reply : Reply := .silence
  notices : List Notice := []
  /-- The path of a catalog that the host has to look up. -/
  wanted : Option String := none

/-- Only a request is told that it is refused. -/
def refuse (session : Session) (message : Message) (refusal : Refusal) : Step :=
  { session := session
    reply := if message.id.isSome then .refusal refusal else .silence }

def silent (session : Session) : Step :=
  { session := session }

/-- Handles a call and goes to a phase. -/
def handle (session : Session) (phase : Phase) (call : Call) : Step :=
  let turn := session.server.handle call
  { session := ⟨phase, turn.server⟩
    reply := turn.answer.elim .silence .answer
    notices := turn.notices
    wanted := turn.wanted }

/-- Handles a message in the phase it belongs to. A request without identifier does nothing, and a
notification with one is refused. -/
def accept (session : Session) (method : Method) (message : Message) : Step :=
  if method.isRequest ≠ message.id.isSome then
    session.refuse message .invalidRequest
  else
    match Call.ofParams? method message.params with
    | none => session.refuse message .invalidParams
    | some .other => session.refuse message .unknownMethod
    | some call => session.handle .working call

/-- The first call of a connection. If it fails the connection goes on waiting. -/
def acceptConnect (session : Session) (message : Message) : Step :=
  match session.phase with
  | .waiting => session.accept .connect message
  | _ => session.refuse message .invalidRequest

/-- From a call to shut down on nothing else is accepted, even if the call itself is malformed. -/
def acceptShutdown (session : Session) (message : Message) : Step :=
  let session := { session with phase := .shutDown }
  match message.id, Call.ofParams? .shutdown message.params with
  | none, _ => session.silent
  | some _, none => session.refuse message .invalidParams
  | some _, some call => session.handle .shutDown call

/-- A message for which the connection must be working. -/
def acceptWorking (session : Session) (method : Method) (message : Message) : Step :=
  match session.phase with
  | .waiting => session.refuse message .notConnected
  | .working =>
    match method with
    | .shutdown => session.acceptShutdown message
    | method => session.accept method message
  | .shutDown => session.refuse message .invalidRequest
  | .over => { session := session, reply := .gone }

def receive (session : Session) (message : Message) : Step :=
  if session.phase = .over then
    { session := session, reply := .gone }
  else
    match Method.ofName message.method with
    | .unknown true => session.silent
    | .unknown false => session.refuse message .unknownMethod
    | .exit => silent { session with phase := .over }
    | .cancel => session.refuse message .invalidRequest
    | .connect => session.acceptConnect message
    | method => session.acceptWorking method message

/-- Once the connection is over the client is told nothing any more. -/
def audible (session : Session) (notices : List Notice) : List Notice :=
  if session.phase = .over then [] else notices

/-- Continues a session after a turn that no message has caused. -/
def proceed (session : Session) (turn : Server.Turn) : Step :=
  { session := { session with server := turn.server }
    notices := session.audible turn.notices
    wanted := turn.wanted }

def elapse (session : Session) (milliseconds : Nat) : Step :=
  session.proceed (session.server.elapse milliseconds)

def catalogFound (session : Session) (path : String) (located : Located) : Step :=
  session.proceed (session.server.catalogFound path located)

end Session

end ConceptScript
