import TokenGateway.Proofs.Dispatch.Plan
import TokenGateway.Proofs.Dispatch.Reply

namespace TokenGateway

def Run.reported (run : Run) : Except Rpc.ErrorObject Bytes :=
  run.result.mapError CallError.toObject

def Run.outcome (run : Run) : Node.Outcome :=
  match run.reported with
  | .ok out => .ok (Hex.encode out)
  | .error object => .error (.rpc object)

structure Run.Agrees (run run' : Run) : Prop where
  reported : run.reported = run'.reported
  calls : run.calls = run'.calls

/--
A gateway in front of another one, from which it has an answer to each call within its deadline.
-/
structure Link where
  config : Config
  delay : Node.Call → Duration
  inTime : ∀ call, delay call ≤ config.timeout

namespace Link

def node (link : Link) (behind : Address → String → Run) : Node :=
  fun call => .after (link.delay call) (behind call.to call.data).outcome

def dispatch (link : Link) (behind : Address → String → Run) (target : Address) (data : String) :
    Run :=
  let run := link.config.dispatch (link.node behind) target data
  ⟨run.result, run.calls.flatMap fun call => (behind call.to call.data).calls⟩

end Link

def chain (last : Config) (node : Node) : List Link → Address → String → Run
  | [] => last.dispatch node
  | link :: links => link.dispatch (chain last node links)

namespace Config

variable {config last : Config} {node : Node} {target : Address} {data : String} {method : Method}
  {calldata : Calldata}

theorem settle_eq_ok_iff {outcome : Node.Outcome} {out : Bytes}
    : settle method data outcome = .ok out
        ↔
      ∃ reply value, outcome = .ok reply
        ∧ Reply.value method reply = .ok value
        ∧ Abi.pack [value] = out := by
  rw [settle_eq_map, Except.map_eq_ok_iff]
  simp only [settledValue_eq_ok_iff]
  constructor
  . intro h
    rcases h with ⟨value, ⟨reply, hreply, hvalue⟩, hout⟩
    exact ⟨reply, value, hreply, hvalue, hout⟩
  . intro h
    rcases h with ⟨reply, value, hreply, hvalue, hout⟩
    exact ⟨value, ⟨reply, hreply, hvalue⟩, hout⟩

theorem reported_settle_outcome {run : Run} {data' : String} {outcome : Node.Outcome}
    (h : run.reported = (settle method data' outcome).mapError CallError.toObject)
    : (settle method data run.outcome).mapError CallError.toObject = run.reported := by
  unfold Run.outcome
  cases hreported : run.reported with
  -- The object of an error is taken for one of the node's own, and those are passed on.
  | error object => rfl
  -- An answer was read from some reply, and it is read again from the reply that it makes itself.
  | ok out =>
    have hresult : settle method data' outcome = .ok out := by
      rw [← Except.mapError_eq_ok_iff (f := CallError.toObject), ← h]
      exact hreported
    rcases settle_eq_ok_iff.mp hresult with ⟨reply, value, -, hvalue, rfl⟩
    rw [Except.mapError_eq_ok_iff, settle_eq_ok_iff]
    exact ⟨_, value, rfl, Reply.value_encode_pack hvalue, rfl⟩

theorem plan_congr (h : config.contract = last.contract)
    : ∀ target data, config.plan target data = last.plan target data := by
  intro target data
  unfold plan
  rw [h]

theorem dispatch_encode (h : last.plan target data = .ok (.ask method calldata))
    : last.dispatch node last.contract (Hex.encode calldata.bytes)
        =
      last.dispatch node target data := by
  have hplan : last.plan last.contract (Hex.encode calldata.bytes)
      = .ok (.ask method calldata) := by
    rcases plan_eq_ask_iff.mp h with ⟨-, -, hmethod, hforwarded, hlength⟩
    rw [plan_eq_ask_iff]
    exact ⟨rfl, Hex.decode_encode _, hmethod, hforwarded, hlength⟩
  rw [dispatch_of_ask hplan, dispatch_of_ask h]

end Config

namespace Link

variable {link : Link} {behind : Address → String → Run} {last : Config} {node : Node}
  {target : Address} {data : String}

theorem dispatch_of_ask {method : Method} {calldata : Calldata}
    (h : link.config.plan target data = .ok (.ask method calldata))
    : link.dispatch behind target data
        =
      ⟨Config.settle method (Hex.encode calldata.bytes)
          (behind link.config.nodeContract (Hex.encode calldata.bytes)).outcome,
        (behind link.config.nodeContract (Hex.encode calldata.bytes)).calls⟩ := by
  have hnode : ∀ call, (link.node behind call).within link.config.timeout
      = (behind call.to call.data).outcome := by
    intro call
    exact if_pos (link.inTime call)
  unfold Link.dispatch
  rw [Config.dispatch_of_ask h, hnode]
  simp [Config.nodeCall]

theorem agrees_dispatch (hcontract : link.config.contract = last.contract)
    (hnode : link.config.nodeContract = last.contract)
    (hbehind : ∀ target data, (behind target data).Agrees (last.dispatch node target data))
    : (link.dispatch behind target data).Agrees (last.dispatch node target data) := by
  have hplan := Config.plan_congr hcontract target data
  cases hlast : last.plan target data with
  | error e =>
    rw [hlast] at hplan
    unfold Link.dispatch Config.dispatch
    rw [hplan, hlast]
    exact ⟨rfl, rfl⟩
  | ok plan =>
    rw [hlast] at hplan
    cases plan with
    | answer value =>
      unfold Link.dispatch Config.dispatch
      rw [hplan, hlast]
      exact ⟨rfl, rfl⟩
    | ask method calldata =>
      have hagrees := hbehind last.contract (Hex.encode calldata.bytes)
      rw [Config.dispatch_encode hlast] at hagrees
      rw [dispatch_of_ask hplan, hnode]
      -- The gateway behind is sent the same bytes, so it does what the last one does with the call.
      constructor
      . rw [← hagrees.reported]
        apply Config.reported_settle_outcome
        rw [hagrees.reported, Config.dispatch_of_ask hlast]
        rfl
      . exact hagrees.calls

end Link

/--
A chain of gateways for one contract answers each call like its last gateway: the client is told the
same, and the node of the last gateway is sent the same calls.
-/
theorem chain_agrees_last (last : Config) (node : Node) (links : List Link)
    (hlinks : ∀ link ∈ links,
      link.config.contract = last.contract ∧ link.config.nodeContract = last.contract)
    : ∀ target data,
        (chain last node links target data).Agrees (last.dispatch node target data) := by
  induction links with
  | nil =>
    intro target data
    exact ⟨rfl, rfl⟩
  | cons link links ih =>
    intro target data
    rcases hlinks link (by simp) with ⟨hcontract, hnode⟩
    apply Link.agrees_dispatch hcontract hnode
    apply ih
    intro link' hlink'
    exact hlinks link' (by simp [hlink'])

def Link.sample : Link where
  config := { Config.sample with nodeContract := .zero 20 }
  delay := fun _ => .ofMillis 5
  inTime := fun _ => by decide

def sampleOwner : Address :=
  ⟨List.replicate 20 0x22, rfl⟩

def sampleNode : Node :=
  fun _ => .after (.ofMillis 7) (.ok (Hex.encode (Abi.pack [.address sampleOwner])))

theorem chain_of_ownerCalldata
    : let run := chain Config.sample sampleNode [Link.sample, Link.sample] Config.sample.contract
        (Hex.encode Config.ownerCalldata)
      run.reported = .ok (Abi.pack [.address sampleOwner])
        ∧ run.calls = [⟨Config.sample.nodeContract, Hex.encode Config.ownerCalldata⟩] := by
  have hlinks : ∀ link ∈ [Link.sample, Link.sample],
      link.config.contract = Config.sample.contract
        ∧ link.config.nodeContract = Config.sample.contract := by
    intro link hlink
    simp only [List.mem_cons, List.not_mem_nil, or_false, or_self] at hlink
    rw [hlink]
    exact ⟨rfl, rfl⟩
  have hagrees := chain_agrees_last Config.sample sampleNode [Link.sample, Link.sample] hlinks
    Config.sample.contract (Hex.encode Config.ownerCalldata)
  dsimp only
  rw [hagrees.reported, hagrees.calls]
  rw [Config.dispatch_of_ask (Config.plan_ownerCalldata Config.sample)]
  refine ⟨?_, rfl⟩
  unfold Run.reported
  rw [Except.mapError_eq_ok_iff, Config.settle_eq_ok_iff]
  refine ⟨_, .address sampleOwner, rfl, ?_, rfl⟩
  unfold Reply.value
  rw [Reply.owner_encode_pack]
  rfl

end TokenGateway
