import TokenGateway.CommandLine.Reader
import TokenGateway.Console
import TokenGateway.Http.Exchange
import TokenGateway.Node.Client

/-!
The program reads its settings, shows whom it answers for and how it reaches the node, and then
answers requests. It opens no connections of its own: each line of the input is sent to the path of
the service as JSON, each line of the output is the body of a response, and calls that need the node
are told to fail in transport.
-/

namespace TokenGateway.Main

def nodeOver (network : Node.Client.Network) (config : Config) : Node :=
  fun call =>
    match Node.Client.send network config.nodeUrl config.timeout call with
    | (.error (.timeout _), _) => .never
    | (outcome, _) => .after (.ofMillis 0) outcome

def post (body : String) : Http.Request :=
  ⟨"POST", Identity.rpcPath, some "application/json", body⟩

partial def answerLines (config : Config) (node : Node) (maxConnections : Nat)
    (input output : IO.FS.Stream) : IO Unit := do
  let line ← input.getLine
  if !line.isEmpty then
    -- A request is answered before the next one is read, so no other connection is taken.
    output.putStrLn (Http.exchange config node 0 maxConnections (post line)).response.body
    output.flush
    answerLines config node maxConnections input output

def environment : IO CommandLine.Environment := do
  let entries ← CommandLine.Opt.all.mapM fun option => do
    return (option.envName, ← IO.getEnv option.envName)
  return fun name => (entries.find? (·.1 == name)).bind (·.2)

def run (settings : CommandLine.Settings) : IO UInt32 := do
  match settings.config with
  | .error e =>
    IO.eprintln ("Error: invalid configuration: " ++ e.message)
    return 1
  | .ok config =>
    let input ← IO.getStdin
    let output ← IO.getStdout
    let color ← output.isTty
    output.putStr (Console.banner color config)
    output.putStr (Console.nodeBlock color config)
    output.flush
    answerLines config (nodeOver .isolated config) settings.maxConnections input output
    output.putStr (Console.shutdown color "server stopped")
    return 0

end TokenGateway.Main

def main (arguments : List String) : IO UInt32 := do
  match TokenGateway.CommandLine.read arguments (← TokenGateway.Main.environment) with
  | .ok settings => TokenGateway.Main.run settings
  | .error e =>
    if e.isRequest then
      IO.print e.message
      return 0
    else
      IO.eprint e.message
      return 2
