import Completions.Launch.Start
import Completions.Rehearsal.Factory
import Completions.Rehearsal.Visit

/-!
The program: it starts a server from the command line and answers demands, one JSON object a line, with
a scripted backend in place of a model. All that is decided is decided elsewhere; here lines are read
and written.
-/

namespace Completions

def demandOf (line : String) : Http.Demand :=
  match Json.read? line.toList with
  | some (.obj fields) => .ofFields fields
  | _ => .ofFields []

partial def serve (ready : Launch.Ready Rehearsal.World) (input output : IO.FS.Stream)
    (h : Rehearsal.Hall) : IO Rehearsal.Hall := do
  let line ← input.getLine
  if line = "" then return h
  let ((response, _), h) := ready.server.handle Rehearsal.stamp (demandOf line) (fun h => ((), h)) h
  output.putStrLn s!"{response.status} {response.contentType}"
  output.putStrLn response.body
  output.flush
  serve ready input output h

def report (halt : Launch.Halt) : IO UInt32 := do
  match halt with
  | .usage u =>
    if u.code ≠ 0 then IO.eprintln ("error: " ++ u.message)
    pure (UInt32.ofNat u.code)
  | .fault f =>
    IO.eprintln (f.kind.label ++ ": " ++ f.message)
    pure 1

end Completions

def main (words : List String) : IO UInt32 := do
  match Completions.Launch.prepare Completions.Rehearsal.modules words {} with
  | .error halt console =>
    console.printed.forM IO.println
    Completions.report halt
  | .ok ready console =>
    console.printed.forM IO.println
    let house ← Completions.serve ready (← IO.getStdin) (← IO.getStdout) ready.house
    let _ := Completions.Launch.finish ready house
    pure 0
