import TokenGateway.Address
import TokenGateway.Json.Basic

namespace TokenGateway.Rpc

/--
The number of the block that a tag names: zero for a symbolic tag, else a number below 2 to the 64 in
hexadecimal behind `0x`.
-/
def resolveBlockTag (tag : String) : Option Nat :=
  if ["latest", "earliest", "pending", "safe", "finalized"].contains tag then
    some 0
  else
    match tag.toList with
    | '0' :: 'x' :: digits => (Text.readUnsigned 16 (Nat.pow 2 64) digits).toOption
    | _ => none

def zeroBytes (n : Nat) : Json :=
  .string (Hex.encode (Bytes.zeros n))

def emptyBlock (number : Nat) : Json :=
  .object
    [("number", .quantity number),
     ("hash", zeroBytes 32),
     ("parentHash", zeroBytes 32),
     ("nonce", zeroBytes 8),
     ("sha3Uncles", zeroBytes 32),
     ("logsBloom", zeroBytes 256),
     ("transactionsRoot", zeroBytes 32),
     ("stateRoot", zeroBytes 32),
     ("receiptsRoot", zeroBytes 32),
     ("miner", zeroBytes 20),
     ("difficulty", .quantity 0),
     ("totalDifficulty", .quantity 0),
     ("extraData", zeroBytes 0),
     ("size", .quantity 0),
     ("gasLimit", .quantity 0),
     ("gasUsed", .quantity 0),
     ("timestamp", .quantity 0),
     ("transactions", .array []),
     ("uncles", .array [])]

end TokenGateway.Rpc
