import TokenGateway.Abi.Basic

namespace TokenGateway.Identity

def tokenName : String := "Living Assets"

def tokenSymbol : String := "LA"

def contractUri : String := "https://livingassets.io/contractUri"

def tokenDecimals : UInt8 := 0

def stubBalance : Nat := 1000000

def metadataInterface : FixedBytes 4 := ⟨[0x5b, 0x5e, 0x13, 0x9f], rfl⟩

def rpcPath : String := "/rpc"

def programName : String := "erc721-gateway"

def version : String := "0.1.0"

def clientVersion : String := programName ++ "/v" ++ version

def defaultListenAddress : String := "127.0.0.1:8545"

def defaultTimeoutMs : Nat := 10000

def defaultMaxConnections : Nat := 500

end TokenGateway.Identity
