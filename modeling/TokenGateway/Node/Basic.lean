import TokenGateway.Address
import TokenGateway.Duration
import TokenGateway.Rpc.ErrorObject

namespace TokenGateway

namespace Node

structure Call where
  «to» : Address
  data : String
  deriving DecidableEq

inductive Error
  | rpc (object : Rpc.ErrorObject)
  | transport (detail : String)
  | timeout (deadline : Duration)
  deriving Repr, BEq, Inhabited

def Error.message : Error → String
  | .rpc object => "node returned error " ++ toString object.code ++ ": " ++ object.message
  | .transport detail => "transport error: " ++ detail
  | .timeout deadline => "no reply within " ++ deadline.precise

abbrev Outcome := Except Error String

inductive Arrival
  | after (delay : Duration) (outcome : Outcome)
  | never

/--
What is known of an arrival at a deadline. An outcome that comes just at the deadline is in time.
-/
def Arrival.within (deadline : Duration) : Arrival → Outcome
  | .after delay outcome => if delay ≤ deadline then outcome else .error (.timeout deadline)
  | .never => .error (.timeout deadline)

end Node

abbrev Node := Node.Call → Node.Arrival

end TokenGateway
