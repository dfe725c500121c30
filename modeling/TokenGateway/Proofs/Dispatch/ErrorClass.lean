import TokenGateway.Proofs.Dispatch.Refusal

/-!
The code of an error object tells whose failure it was: the parameters' if the node was not asked, the
node's own if it answered with an error object, and internal otherwise, with what the node had to say
in the data.
-/

namespace TokenGateway

namespace CallError

structure TellsDetail (e : CallError) (detail : String) : Prop where
  code : e.code = -32603
  objectCode : e.toObject.code = -32603
  data : ∃ fields, e.toObject.data? = some (.object fields)
    ∧ Json.only? ["upstream"] fields = .ok (some (.string detail))

inductive Tells (e : CallError) : Node.Outcome → Prop
  | object {object : Rpc.ErrorObject} (hobject : e.toObject = object) (hcode : e.code = object.code)
    : Tells e (.error (.rpc object))
  | failure {method : Method} {calldata : String} {cause : Node.Error}
      (hcause : ∀ object, cause ≠ .rpc object) (he : e = .nodeFailure method calldata cause)
      (hdetail : e.TellsDetail cause.message)
    : Tells e (.error cause)
  | reply {method : Method} {reply : String} {fault : ReplyFault}
      (he : e = .malformedReply method reply fault) (hdetail : e.TellsDetail reply)
    : Tells e (.ok reply)

theorem tells_nodeFailure (method : Method) (calldata : String) (cause : Node.Error)
    : (nodeFailure method calldata cause).Tells (.error cause) := by
  cases cause with
  | rpc object => exact .object rfl rfl
  -- All other causes are wrapped, and the code in front of them is the gateway's.
  | transport detail => exact .failure (by simp) rfl ⟨rfl, rfl, _, rfl, rfl⟩
  | timeout deadline => exact .failure (by simp) rfl ⟨rfl, rfl, _, rfl, rfl⟩

theorem tells_malformedReply (method : Method) (reply : String) (fault : ReplyFault)
    : (malformedReply method reply fault).Tells (.ok reply) :=
  .reply rfl ⟨rfl, rfl, _, rfl, rfl⟩

theorem code_of_not_isFromNode {e : CallError} (h : ¬e.IsFromNode)
    : e.code = -32602 ∧ e.toObject.code = -32602 := by
  cases e with
  | nodeFailure method calldata cause => exact absurd trivial h
  | malformedReply method reply fault => exact absurd trivial h
  | _ => exact ⟨rfl, rfl⟩

end CallError

namespace Config

variable {config : Config} {node : Node} {target : Address} {data : String} {e : CallError}

theorem tells_of_settle {method : Method} {outcome : Node.Outcome}
    (h : settle method data outcome = .error e)
    : e.Tells outcome := by
  rcases settle_eq_error_iff.mp h with ⟨cause, rfl, rfl⟩ | ⟨reply, fault, rfl, -, rfl⟩
  . apply CallError.tells_nodeFailure
  . apply CallError.tells_malformedReply

theorem error_tells_outcome (config : Config) (node : Node) (target : Address) (data : String)
    (e : CallError) (h : (config.dispatch node target data).result = .error e)
    : ((config.dispatch node target data).calls = []
          ∧ e.code = -32602
          ∧ e.toObject.code = -32602)
        ∨ ∃ call, (config.dispatch node target data).calls = [call]
            ∧ e.Tells ((node call).within config.timeout) := by
  unfold dispatch at *
  split at h
  . next hplan =>
    cases h
    have hrefused := not_isFromNode_of_refused (plan_eq_error_iff.mp hplan)
    exact .inl ⟨rfl, CallError.code_of_not_isFromNode hrefused⟩
  . cases h
  . exact .inr ⟨_, rfl, tells_of_settle h⟩

def revertingNode : Node :=
  fun _ => .after (.ofMillis 5)
    (.error (.rpc ⟨-32602, "execution reverted", some (.string "0x08c379a0")⟩))

theorem error_tells_revert
    : ∃ e, (sample.dispatch revertingNode sample.contract (Hex.encode ownerCalldata)).result
          = .error e
        ∧ e.toObject = ⟨-32602, "execution reverted", some (.string "0x08c379a0")⟩ := by
  have hrun : sample.dispatch revertingNode sample.contract (Hex.encode ownerCalldata) = _ :=
    dispatch_of_ask (plan_ownerCalldata sample)
  have hfails : ∃ e,
      (sample.dispatch revertingNode sample.contract (Hex.encode ownerCalldata)).result
        = .error e := by
    rw [hrun]
    exact ⟨_, rfl⟩
  rcases hfails with ⟨e, hresult⟩
  refine ⟨e, hresult, ?_⟩
  rcases error_tells_outcome sample revertingNode sample.contract (Hex.encode ownerCalldata) e
    hresult with ⟨hcalls, -⟩ | ⟨call, -, htells⟩
  . rw [hrun] at hcalls
    cases hcalls
  . cases htells with
    | object hobject hcode => exact hobject
    | failure hcause he hdetail => exact absurd rfl (hcause _)

end Config

end TokenGateway
