import TokenGateway.Calldata
import TokenGateway.Config
import TokenGateway.Identity

/-!
Owners and token addresses of descriptions are asked from the node, which gets the calldata as it
came; all other methods are answered at once. Planning a call looks at the call alone: whether the
node is asked is settled before it is.
-/

namespace TokenGateway

inductive Plan
  | answer (value : Abi.Value)
  | ask (method : Method) (calldata : Calldata)
  deriving DecidableEq

namespace Plan

def ofMethod (calldata : Calldata) : Method → Except CallError Plan
  | .ownerOf => (calldata.param "tokenId").map fun _ => .ask .ownerOf calldata
  | .tokenURI => calldata.params.map fun _ => .ask .tokenURI calldata
  | .uri => calldata.params.map fun _ => .ask .uri calldata
  | .balanceOf =>
    (calldata.param "owner").map fun _ => .answer (.uint256 (BitVec.ofNat 256 Identity.stubBalance))
  | .supportsInterface =>
    (calldata.param "interfaceId").map fun id =>
      .answer (.bool (id.asBytes4? == some Identity.metadataInterface))
  | .name => .ok (.answer (.string Identity.tokenName))
  | .symbol => .ok (.answer (.string Identity.tokenSymbol))
  | .contractURI => .ok (.answer (.string Identity.contractUri))
  | .decimals => .ok (.answer (.uint8 Identity.tokenDecimals))

end Plan

namespace Config

def plan (config : Config) (target : Address) (data : String) : Except CallError Plan := do
  -- The contract is looked at first, whatever the calldata is.
  if target ≠ config.contract then
    throw (.unknownContract target config.contract)
  let calldata ← Calldata.ofHex data
  let method ← calldata.method
  Plan.ofMethod calldata method

end Config

namespace Reply

/--
Read an owner from a reply: the address alone, or one slot that holds it.
-/
def owner (reply : String) : Except ReplyFault Address := do
  match Hex.decode reply with
  | .error e => throw (.hex e)
  | .ok bytes =>
    match FixedBytes.ofBytes? 20 bytes with
    | some address => return address
    | none =>
      if bytes.length = Abi.slotLength then
        if Bytes.isZero (bytes.take 12) then
          match FixedBytes.ofBytes? 20 (bytes.drop 12) with
          | some address => return address
          | none => throw (.wrongLength bytes.length)
        else
          throw .dirtyAddress
      else
        throw (.wrongLength bytes.length)

def text (reply : String) : Except ReplyFault String :=
  match Hex.decode reply with
  | .error e => .error (.hex e)
  | .ok bytes => (Abi.decodeString bytes).mapError .abi

def value (method : Method) (reply : String) : Except ReplyFault Abi.Value :=
  match method with
  | .ownerOf => (owner reply).map .address
  | _ => (text reply).map .string

end Reply

structure Run where
  result : Except CallError Bytes
  calls : List Node.Call

namespace Config

def nodeCall (config : Config) (calldata : Calldata) : Node.Call :=
  ⟨config.nodeContract, Hex.encode calldata.bytes⟩

def settle (method : Method) (data : String) : Node.Outcome → Except CallError Bytes
  | .error cause => .error (.nodeFailure method data cause)
  | .ok reply =>
    match Reply.value method reply with
    | .ok value => .ok (Abi.pack [value])
    | .error fault => .error (.malformedReply method reply fault)

def dispatch (config : Config) (node : Node) (target : Address) (data : String) : Run :=
  match config.plan target data with
  | .error e => ⟨.error e, []⟩
  | .ok (.answer value) => ⟨.ok (Abi.pack [value]), []⟩
  | .ok (.ask method calldata) =>
    let call := config.nodeCall calldata
    ⟨settle method call.data ((node call).within config.timeout), [call]⟩

end Config

end TokenGateway
