import ChillerGateway.Config.File
import ChillerGateway.Gateway.Startup

/-!
# The command line

Serves one client on standard input and output, by the configuration whose file is the first
argument. The gateway's clock follows the real one.
-/

namespace ChillerGateway

/-- A gateway that serves standard input, and when it began. -/
structure Console where
  world : World
  client : Nat
  began : Nat

namespace Console

/-- Lets everything happen that is due by now, and prints the replies to it. -/
def catchUp (c : Console) : IO Console := do
  let now := (← IO.monoMsNow) - c.began
  let world := { c.world with wallClock := now }
  let (replies, world) := (world.elapse (now - world.now)).rest.takeReplies c.client
  let output ← IO.getStdout
  replies.forM fun reply => output.putStrLn reply.line
  output.flush
  return { c with world }

/-- Waits until the client's requests are answered. -/
partial def attend (c : Console) : IO Console := do
  let c ← c.catchUp
  if c.world.isOccupied c.client then
    IO.sleep 10
    c.attend
  else return c

/-- Serves the client until it ends or the connection does. -/
partial def serve (c : Console) : IO Console := do
  let line ← (← IO.getStdin).getLine
  let c ← c.catchUp
  let world :=
    if line.isEmpty then c.world.endInput c.client else c.world.deliver c.client (Text.toBytes line)
  let c ← attend { c with world }
  if c.world.serves c.client then c.serve else return c

end Console

/-- What a file holds, if it can be read. -/
def readFile? (path : String) : IO (Option (List UInt8)) := do
  try return some (← IO.FS.readBinFile path).toList
  catch _ => return none

end ChillerGateway

open ChillerGateway in
/-- Serves standard input until it ends. -/
def main (args : List String) : IO UInt32 := do
  let path := Config.locate args.head? (← IO.getEnv "JULABO_CONFIG")
  match Config.loadOrDefault path (← readFile? path) (← IO.getEnv "JULABO_AUTH_TOKEN") with
  | .error .malformed =>
    IO.eprintln (path ++ ": malformed configuration")
    return 1
  | .error (.failed e) =>
    IO.eprintln e.message
    return 1
  | .ok config =>
    let world := World.ofConfig config
    match world.openConnection? "127.0.0.1" with
    | none => return 1
    | some (client, world) =>
      let c ← Console.serve { world, client, began := (← IO.monoMsNow) - world.now }
      let _ ← Console.catchUp { c with world := c.world.shutDown }
      return 0
