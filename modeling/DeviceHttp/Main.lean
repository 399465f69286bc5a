import DeviceHttp.SetupPortal

/-!
# Command line

Starts the portal on the address that the first argument names. What comes in on standard input is
served as one connection, and the answer goes to standard output.
-/

namespace DeviceHttp.CommandLine

/-- Reads standard input to its end. -/
partial def readInput (stream : IO.FS.Stream) (sofar : ByteArray) : IO ByteArray := do
  let chunk ← stream.read 4096
  if chunk.isEmpty then return sofar else readInput stream (sofar ++ chunk)

/-- Serves one connection with the given input and gives back what is answered. -/
def answerTo (server : Server) (input : Bytes) : Bytes :=
  let connection : Connection := { arrivals := [.data input] }
  let (_, server) := { server with source := { accepts := [.connection connection] } }.step
  server.source.served.flatMap Connection.written

end DeviceHttp.CommandLine

open DeviceHttp in
/-- Starts the portal. The exit code is 1 if it cannot listen. -/
def main (arguments : List String) : IO UInt32 := do
  match SetupPortal.launch arguments with
  | .error e =>
    (← IO.getStderr).putStr (SetupPortal.launchFailure e)
    return 1
  | .ok server =>
    let input ← CommandLine.readInput (← IO.getStdin) ByteArray.empty
    let output ← IO.getStdout
    output.write (ByteArray.mk (CommandLine.answerTo server input.data.toList).toArray)
    output.flush
    return 0
