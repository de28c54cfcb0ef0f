import TexCompletion.Catalog.Bundled
import TexCompletion.Server.Basic
import TexCompletion.Server.Frame

/-!
# The program

A language server on standard input and output.  All it decides is decided by `Server.receive`; here
messages are only cut out of the input and written to the output.
-/

namespace TexCompletion.Program

/-- Reads header lines up to the empty one and returns the length they give; nothing at the end of
the input. -/
partial def readLength (input : IO.FS.Stream) (found : Nat) : IO (Option Nat) := do
  let line ← input.getLine
  if line.isEmpty then return none
  else if (Text.trim line).isEmpty then return some found
  else readLength input ((Server.Frame.length? line).getD found)

/-- Reads as many bytes as there are up to `count`. -/
partial def readBytes (input : IO.FS.Stream) (count : Nat) (got : ByteArray) : IO ByteArray := do
  if count ≤ got.size then return got
  let more ← input.read (count - got.size).toUSize
  if more.isEmpty then return got else readBytes input count (got ++ more)

/-- Answers messages until the input ends or the client says so. -/
partial def serve (input output : IO.FS.Stream) (server : Server) : IO Unit := do
  let some length ← readLength input 0 | return
  let body ← readBytes input length .empty
  let (server, answers) := server.receiveBytes body
  for answer in answers do
    let text := answer.toJson.text
    output.putStr (Server.Frame.header text ++ text)
    output.flush
  if server.stage = .exited then return
  serve input output server

end TexCompletion.Program

/-- Serves one client with the bundled catalog. -/
def main : IO Unit := do
  TexCompletion.Program.serve (← IO.getStdin) (← IO.getStdout)
    { session := { bundled := TexCompletion.Catalog.bundled } }
