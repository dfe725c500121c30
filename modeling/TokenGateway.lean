import TokenGateway.Calldata
import TokenGateway.CommandLine.Reader
import TokenGateway.Config
import TokenGateway.Console
import TokenGateway.Dispatch
import TokenGateway.Http.Exchange
import TokenGateway.Main
import TokenGateway.Node.Client
import TokenGateway.Proofs.Dispatch.Answer
import TokenGateway.Proofs.Dispatch.Chain
import TokenGateway.Proofs.Dispatch.Refusal
import TokenGateway.Registry
import TokenGateway.Rpc.Service
import TokenGateway.Proofs.Abi.HeadTail
import TokenGateway.Proofs.Dispatch.ErrorClass
import TokenGateway.Proofs.Json.Fields
import TokenGateway.Proofs.Rpc.Reach
import TokenGateway.Proofs.Rpc.Encoding
import TokenGateway.Proofs.Dispatch.Deadline
import TokenGateway.Proofs.Dispatch.ReplyForm
import TokenGateway.Proofs.Node.Client
import TokenGateway.Proofs.Abi.Locality
import TokenGateway.Proofs.Abi.FirstFault
import TokenGateway.Proofs.Abi.Walk
import TokenGateway.Proofs.Rpc.BlockTag
import TokenGateway.Proofs.ChainId
import TokenGateway.Proofs.Dispatch.Spelling
import TokenGateway.Proofs.Dispatch.Local
import TokenGateway.Proofs.Hex.RoundTrip
import TokenGateway.Proofs.Rpc.ChainId
import TokenGateway.Proofs.Rpc.Block
import TokenGateway.Proofs.Calldata.Lookup
import TokenGateway.Proofs.CallError
import TokenGateway.Proofs.Dispatch.Wording
import TokenGateway.Proofs.CommandLine.Reader
