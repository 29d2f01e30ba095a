import ConceptScript.Json.Reader
import ConceptScript.Json.Writer
import ConceptScript.Server.Wire

/-!
Contract: the language server on standard input and output.

Owns the framing of messages, access to files and the clock.

Does not own anything that a message means.
-/

set_option autoImplicit false

namespace ConceptScript.Main

/-! ## Frames -/

/-- The length that a header line announces. -/
def announcedLength? (line : String) : Option Nat :=
  let (name, value) := (line.toList.takeWhile (· ≠ ':'), line.toList.dropWhile (· ≠ ':'))
  if (String.ofList name).toLower = "content-length" then
    (Count.parse (Text.trimBlank (value.drop 1))).toOption
  else
    none

/-- Reads header lines up to the empty one. `none` at the end of the input. -/
partial def readHeader (input : IO.FS.Stream) (length : Option Nat) : IO (Option Nat) := do
  let line ← input.getLine
  if line.isEmpty then
    return none
  else if (Text.trimBlank line.toList).isEmpty then
    return length
  else
    readHeader input ((announcedLength? line).or length)

partial def readBytes (input : IO.FS.Stream) (missing : Nat) (content : ByteArray) :
    IO ByteArray := do
  if missing = 0 then
    return content
  let part ← input.read missing.toUSize
  if part.isEmpty then
    return content
  else
    readBytes input (missing - part.size) (content ++ part)

/-- Reads one message. `none` at the end of the input. -/
def readFrame (input : IO.FS.Stream) : IO (Option ByteArray) := do
  match ← readHeader input none with
  | none => return none
  | some length => return some (← readBytes input length .empty)

def writeFrame (output : IO.FS.Stream) (value : Json) : IO Unit := do
  let content := value.render
  output.putStr ("Content-Length: " ++ toString content.utf8ByteSize ++ "\r\n\r\n" ++ content)
  output.flush

/-! ## Files -/

def readContent (path : String) : IO FileContent := do
  try
    return .ok (← IO.FS.readBinFile path)
  catch _ =>
    return .error .missing

/-- What stands at a path of the machine. -/
def locate (path : String) : IO Located := do
  try
    let place ← IO.FS.realPath path
    if ← place.isDir then
      let entries ← (← place.readDir).toList.mapM fun entry => do
        let content ← readContent (Catalog.pathIn path entry.fileName)
        return (entry.fileName, if ← entry.path.isDir then none else some content)
      return .directory entries
    else
      return .file (← readContent path)
  catch _ =>
    return .file (.error .missing)

/-! ## Serving -/

/-- A message from the client, or the end of the input. -/
inductive Arrival where
  | message (content : ByteArray)
  | finished

partial def listen (input : IO.FS.Stream) (inbox : IO.Ref (Array Arrival)) : IO Unit := do
  match ← readFrame input with
  | none => inbox.modify (·.push .finished)
  | some content =>
    inbox.modify (·.push (.message content))
    listen input inbox

/-- Sends what a step tells the client and looks up the catalog that it wants. -/
def perform (output : IO.FS.Stream) (id : Json) (step : Session.Step) : IO Session := do
  if let some reply := step.reply.wire? id then
    writeFrame output reply
  for notice in step.notices do
    writeFrame output notice.wire
  match step.wanted with
  | none => return step.session
  | some path =>
    let found := step.session.catalogFound path (← locate path)
    for notice in found.notices do
      writeFrame output notice.wire
    return found.session

def deliver (output : IO.FS.Stream) (session : Session) (content : ByteArray) : IO Session := do
  let value := (String.fromUTF8? content).bind Json.parse?
  match value.bind Message.ofJson? with
  | none => return session
  | some message => perform output (message.id.getD .null) (session.receive message)

/-- Handles what has arrived, lets the time pass that has gone by, and waits for more. -/
partial def serve (output : IO.FS.Stream) (inbox : IO.Ref (Array Arrival)) (session : Session)
    (time : Nat) : IO Unit := do
  let arrivals ← inbox.modifyGet fun arrivals => (arrivals, #[])
  let mut session := session
  for arrival in arrivals do
    match arrival with
    | .finished => return
    | .message content => session ← deliver output session content
  if session.phase = .over then
    return
  let now ← IO.monoMsNow
  session ← perform output .null (session.elapse (now - time))
  IO.sleep 5
  serve output inbox session now

end ConceptScript.Main

open ConceptScript in
def main : IO Unit := do
  let environment : Environment := {
    catalogPath := ← IO.getEnv Environment.catalogVariable
    interval := ← IO.getEnv Environment.intervalVariable }
  let inbox ← IO.mkRef #[]
  let _ ← IO.asTask (Main.listen (← IO.getStdin) inbox)
  Main.serve (← IO.getStdout) inbox { server := { environment := environment } } (← IO.monoMsNow)
