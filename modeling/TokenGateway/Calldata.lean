import TokenGateway.Abi.Pack
import TokenGateway.Abi.Unpack
import TokenGateway.CallError
import TokenGateway.Registry

namespace TokenGateway

structure Calldata where
  bytes : Bytes
  deriving DecidableEq

namespace Calldata

def selectorLength : Nat := 4

def ofHex (text : String) : Except CallError Calldata :=
  match Hex.decode text with
  | .ok bytes => .ok ⟨bytes⟩
  | .error e => .error (.malformedHex e)

def build (method : Method) (arguments : List Abi.Value) : Calldata :=
  ⟨method.selector.toBytes ++ Abi.pack arguments⟩

def arguments (c : Calldata) : Bytes :=
  c.bytes.drop selectorLength

def selector (c : Calldata) : Except CallError Selector :=
  match FixedBytes.ofBytes? 4 (c.bytes.take selectorLength) with
  | some selector => .ok selector
  | none => .error (.shortCalldata (Hex.encode c.bytes))

def method (c : Calldata) : Except CallError Method := do
  let selector ← c.selector
  match Registry.standard.lookup selector with
  | some method => return method
  | none => throw (.unknownMethod selector)

def params (c : Calldata) : Except CallError Abi.Binding := do
  let method ← c.method
  match Abi.unpack method.params c.arguments with
  | .ok binding => return binding
  | .error e => throw (.malformedParameters method e)

def param (c : Calldata) (name : String) : Except CallError Abi.Value := do
  let method ← c.method
  -- That a method has no parameter of the name is found before the arguments are read.
  if method.params.any (·.name == name) then
    let binding ← c.params
    match binding.get? name with
    | some value => return value
    | none => throw (.missingParameter method name)
  else
    throw (.missingParameter method name)

end Calldata

end TokenGateway
