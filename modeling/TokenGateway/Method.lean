import TokenGateway.Abi.Basic

namespace TokenGateway

def Selector.ofSignature (signature : String) : Selector :=
  ⟨(Keccak.hash (Text.utf8 signature)).take 4, by simp [Keccak.length_hash]⟩

inductive Method
  | ownerOf
  | balanceOf
  | tokenURI
  | uri
  | supportsInterface
  | name
  | contractURI
  | decimals
  | symbol
  deriving Repr, DecidableEq, Inhabited

namespace Method

def all : List Method :=
  [.ownerOf, .balanceOf, .tokenURI, .uri, .supportsInterface, .name, .contractURI, .decimals,
   .symbol]

def functionName : Method → String
  | .ownerOf => "ownerOf"
  | .balanceOf => "balanceOf"
  | .tokenURI => "tokenURI"
  | .uri => "uri"
  | .supportsInterface => "supportsInterface"
  | .name => "name"
  | .contractURI => "contractURI"
  | .decimals => "decimals"
  | .symbol => "symbol"

def params : Method → List Abi.Param
  | .ownerOf => [⟨"tokenId", .uint256⟩]
  | .tokenURI => [⟨"tokenId", .uint256⟩]
  | .uri => [⟨"id", .uint256⟩]
  | .balanceOf => [⟨"owner", .address⟩]
  | .supportsInterface => [⟨"interfaceId", .bytes4⟩]
  | .name => []
  | .contractURI => []
  | .decimals => []
  | .symbol => []

def returns : Method → Abi.Kind
  | .ownerOf => .address
  | .balanceOf => .uint256
  | .supportsInterface => .bool
  | .decimals => .uint8
  | .tokenURI => .string
  | .uri => .string
  | .name => .string
  | .contractURI => .string
  | .symbol => .string

def signature (m : Method) : String :=
  m.functionName ++ "(" ++ String.intercalate "," (m.params.map (·.kind.name)) ++ ")"

def selector (m : Method) : Selector :=
  Selector.ofSignature m.signature

theorem mem_all (m : Method) : m ∈ all := by
  cases m <;> decide

end Method

end TokenGateway
