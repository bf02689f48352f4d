import LanguageClient.Task.Scheduler
import LanguageClient.Transport.Exchange
namespace LanguageClient

/-!
# Rehearsals

A link by itself, whose server is played from outside and whose client answers from a table and
keeps a record of what it heard.
-/

inductive Heard where
  | request (method : String) (params : Json)
  | notification (method : String) (params : Json)
  | disconnect (error : ClientError)

structure Rehearsal where
  wiring : Wiring
  /-- The answers to the server's requests, by method. -/
  answers : List (String × Json)
  heard : List Heard
  /-- The outcomes of the calls that finished, by their tags, since they were last taken. -/
  finished : List (String × Except ClientError Json)

namespace Rehearsal

instance : HasWiring Rehearsal := ⟨Rehearsal.wiring, fun w r => { r with wiring := w }⟩

inductive Job where
  | readAll (link : LinkId)
  | answer (link : LinkId) (id : RequestId) (method : String) (params : Json)
  /-- A request of the client, whose outcome is kept under a tag. -/
  | call (link : LinkId) (method : String) (params : Json) (tag : String)
  /-- Takes everything off a pipe. -/
  | drain (pipe : PipeId)

abbrev Script := Program Rehearsal Job

/-- Keeps the outcome of a call, in place of an earlier one of its tag. -/
def finish (tag : String) (outcome : Except ClientError Json) : Script Unit :=
  Program.modify fun r =>
    { r with finished := r.finished.filter (fun f => f.1 != tag) ++ [(tag, outcome)] }

def hear (h : Heard) : Script Unit := Program.modify fun r => { r with heard := r.heard ++ [h] }

/-- The answer of the table; one with a code is an error. -/
def answerTo (r : Rehearsal) (method : String) : RpcOutcome :=
  match r.answers.lookup method with
  | none => .error (RpcError.methodNotFound method)
  | some value =>
    match (value.get? "code").bind Json.int? with
    | some code => .error (RpcError.new code "scripted")
    | none => .ok value

def handler : Handler Rehearsal Job where
  onRequest method params := do
    hear (.request method params)
    Program.read (·.answerTo method)
  onNotification method params := hear (.notification method params)
  onDisconnect e := hear (.disconnect e)

def perform : Job → Script Unit
  | .readAll l => Link.readAll handler (.answer l) l
  | .answer l id method params => Link.answer handler l id method params
  | .call l method params tag => do finish tag (← Link.request l method params)
  | .drain p => Program.iterate () fun _ => do
    match ← Program.receive p with
    | some _ => return .inl ()
    | none => return .inr ()

/-! ## Running a rehearsal -/

/-- What came of a part of a rehearsal. -/
structure Progress where
  /-- The bodies of the messages that the client wrote. -/
  written : List Text
  heard : List Heard
  /-- The outcomes of the calls that finished, by their tags. -/
  finished : List (String × Except ClientError Json)
  connected : Bool

end Rehearsal

/-- A rehearsal under way. -/
structure Performance where
  runtime : Runtime Rehearsal Rehearsal.Job
  toClient : PipeId
  fromClient : PipeId
  link : LinkId
  /-- The last call begun under each tag, unless it was given up. -/
  calls : List (String × TaskId)
  /-- Whether the server has closed its output. -/
  ended : Bool
  /-- How many bytes from the client were read. -/
  bytesRead : Nat
  heard : Nat

namespace Performance

open Rehearsal

/-- Opens the link. -/
def openLink : Script (PipeId × PipeId × LinkId) := do
  let toClient ← Program.act (HasWiring.visit (·.openPipe Pipe.open_))
  let fromClient ← Program.act (HasWiring.visit (·.openPipe Pipe.open_))
  let _ ← Program.start (.drain fromClient)
  let link ← Link.start Job.readAll toClient fromClient
  return (toClient, fromClient, link)

/-- Begins a rehearsal with a table of answers. -/
def begin_ (answers : List (String × Json)) : Performance :=
  let (runtime, opened) := (Runtime.start ⟨Wiring.empty, answers, [], []⟩ perform).run openLink
  let (toClient, fromClient, link) := opened.getD (0, 0, 0)
  ⟨runtime.settle, toClient, fromClient, link, [], false, 0, 0⟩

def run {α : Type} (p : Performance) (script : Script α) : Performance × Option α :=
  let (runtime, a) := p.runtime.run script
  ({ p with runtime }, a)

/-- Begins a request of the client under a tag, which no longer stands for another one. -/
def call (p : Performance) (tag method : String) (params : Json) : Performance :=
  { p with
    runtime := p.runtime.addTask (perform (.call p.link method params tag))
    calls := (tag, p.runtime.nextId) :: p.calls.filter fun call => call.1 != tag }

/-- Gives up the request that a tag stands for. -/
def cancel (p : Performance) (tag : String) : Performance :=
  match p.calls.lookup tag with
  | none => p
  | some task =>
    { p with
      runtime := p.runtime.abortTask task
      calls := p.calls.filter fun call => call.1 != tag }

/-- Lets the server write bytes; whether they were taken, as long as its output is open. -/
def feed (p : Performance) (bytes : Bytes) : Performance × Option Bool :=
  if p.ended then (p, none)
  else
    let (p, taken) := p.run (Program.write p.toClient bytes)
    (p, some ((taken.bind Except.toOption).isSome))

/-- Lets the server close its output. -/
def endOutput (p : Performance) : Performance :=
  let world := HasWiring.modify (·.closeWriter p.toClient) p.runtime.world
  { p with runtime := { p.runtime with world }, ended := true }

/-- Lets everything run, and reports what came of it. -/
def settle (p : Performance) : Performance × Progress :=
  let runtime := p.runtime.settle
  let w := runtime.world
  let (written, read) := Frame.complete ((w.wiring.carried p.fromClient).drop p.bytesRead)
  ({ p with
      runtime := { runtime with world := { w with finished := [] } }
      bytesRead := p.bytesRead + read
      heard := w.heard.length },
    { written
      heard := w.heard.drop p.heard
      finished := w.finished
      connected := (w.wiring.link p.link).connected })

end Performance

end LanguageClient
