import TokenGateway.Address
import TokenGateway.Json.Basic

/-!
Of a transaction object only the contract and the calldata are read; whatever else a wallet puts in is
skipped.
-/

namespace TokenGateway

def Address.ofJson? : Json → Option Address
  | .string s => (Address.ofText s).toOption
  | .array items => do
    let numbers ← items.mapM fun item => item.natBelow? 256
    FixedBytes.ofBytes? 20 (numbers.map UInt8.ofNat)
  | _ => none

namespace Rpc

def optionalText? : Option Json → Option (Option String)
  | none => some none
  | some .null => some none
  | some json => json.string?.map some

structure CallRequest where
  «to» : Address
  input? : Option String
  data? : Option String
  deriving DecidableEq

namespace CallRequest

/--
The calldata: the newer member `input` goes before `data`; without either it is empty.
-/
def calldata (r : CallRequest) : String :=
  match r.input?, r.data? with
  | some input, _ => input
  | none, some data => data
  | none, none => "0x"

def ofParts? (target : Json) (input? data? : Option Json) : Option CallRequest := do
  let target ← Address.ofJson? target
  let input? ← optionalText? input?
  let data? ← optionalText? data?
  return ⟨target, input?, data?⟩

def ofJson? : Json → Option CallRequest
  | .object fields => do
    let target ← (← (Json.only? ["to"] fields).toOption)
    let input? ← (Json.only? ["input"] fields).toOption
    let data? ← (Json.only? ["data"] fields).toOption
    ofParts? target input? data?
  | .array [target] => ofParts? target none none
  | .array [target, input] => ofParts? target (some input) none
  | .array [target, input, data] => ofParts? target (some input) (some data)
  | _ => none

end CallRequest

end Rpc

end TokenGateway
