import TokenGateway.Proofs.Dispatch.Plan

namespace TokenGateway

namespace Node.Arrival

variable {deadline : Duration} {arrival : Arrival} {outcome : Outcome}

def InTime (deadline : Duration) (outcome : Outcome) (arrival : Arrival) : Prop :=
  ∃ delay, arrival = .after delay outcome ∧ delay ≤ deadline

inductive Late (deadline : Duration) : Arrival → Prop
  | after {delay : Duration} {outcome : Outcome} (hdelay : ¬delay ≤ deadline)
    : Late deadline (.after delay outcome)
  | never
    : Late deadline .never

theorem inTime_or_late (deadline : Duration) (arrival : Arrival)
    : (∃ outcome, arrival.InTime deadline outcome) ∨ arrival.Late deadline := by
  cases arrival with
  | never => exact .inr .never
  | after delay outcome =>
    by_cases hdelay : delay ≤ deadline
    . exact .inl ⟨outcome, delay, rfl, hdelay⟩
    . exact .inr (.after hdelay)

theorem inTime_immediate : (after ⟨0⟩ outcome).InTime deadline outcome :=
  ⟨⟨0⟩, rfl, Nat.zero_le _⟩

theorem within_of_inTime (h : arrival.InTime deadline outcome)
    : arrival.within deadline = outcome := by
  rcases h with ⟨delay, rfl, hdelay⟩
  exact if_pos hdelay

theorem within_of_late (h : arrival.Late deadline)
    : arrival.within deadline = .error (.timeout deadline) := by
  cases h with
  | after hdelay => exact if_neg hdelay
  | never => rfl

theorem inTime_of_within (h : arrival.within deadline = outcome)
    (hne : outcome ≠ .error (.timeout deadline))
    : arrival.InTime deadline outcome := by
  rcases inTime_or_late deadline arrival with ⟨outcome', hintime⟩ | hlate
  . rw [within_of_inTime hintime] at h
    rw [← h]
    exact hintime
  . rw [within_of_late hlate] at h
    exact absurd h.symm hne

end Node.Arrival

namespace Config

structure Forwards (config : Config) (target : Address) (data : String) (method : Method)
    (bytes : Bytes) : Prop where
  contract : target = config.contract
  decodes : Hex.decode data = .ok bytes
  selector : bytes.take 4 = method.selector.toBytes
  forwarded : method.IsForwarded
  length : bytes.length = 36

variable {config : Config} {node : Node} {target : Address} {data : String} {method : Method}
  {bytes : Bytes}

theorem forwards_iff
    : config.Forwards target data method bytes
        ↔
      config.plan target data = .ok (.ask method ⟨bytes⟩) := by
  rw [plan_eq_ask_iff, Calldata.method_eq_ok_iff_take]
  constructor
  . intro h
    exact ⟨h.contract, h.decodes, h.selector, h.forwarded, h.length⟩
  . intro h
    rcases h with ⟨hcontract, hdecode, hselector, hforwarded, hlength⟩
    exact ⟨hcontract, hdecode, hselector, hforwarded, hlength⟩

section Forwards

variable (h : config.Forwards target data method bytes)

include h

theorem dispatch_of_inTime {outcome : Node.Outcome}
    (houtcome : (node (config.nodeCall ⟨bytes⟩)).InTime config.timeout outcome)
    : config.dispatch node target data
        =
      ⟨settle method (Hex.encode bytes) outcome, [config.nodeCall ⟨bytes⟩]⟩ := by
  rw [dispatch_of_ask (forwards_iff.mp h), Node.Arrival.within_of_inTime houtcome]

theorem dispatch_of_late (hlate : (node (config.nodeCall ⟨bytes⟩)).Late config.timeout)
    : config.dispatch node target data
        =
      ⟨.error (.nodeFailure method (Hex.encode bytes) (.timeout config.timeout)),
        [config.nodeCall ⟨bytes⟩]⟩ := by
  rw [dispatch_of_ask (forwards_iff.mp h), Node.Arrival.within_of_late hlate]
  rfl

theorem result_eq_error_iff_of_reply {reply : String} {e : CallError}
    (hreply : (node (config.nodeCall ⟨bytes⟩)).InTime config.timeout (.ok reply))
    : (config.dispatch node target data).result = .error e
        ↔
      ∃ fault, Reply.value method reply = .error fault ∧ e = .malformedReply method reply fault := by
  rw [dispatch_of_inTime h hreply]
  unfold settle
  dsimp only
  cases Reply.value method reply with
  | error fault => simp [eq_comm]
  | ok value => simp

end Forwards

/--
The deadline of a forwarded call. What comes in time counts as if it had come at once; what does not
leaves no trace, whatever it would have been. A failure of the node is told as such, with its cause
as it was, and a reply is never taken for one.
-/
theorem dispatch_by_deadline (config : Config) (target : Address) (data : String) (method : Method)
    (bytes : Bytes) (h : config.Forwards target data method bytes) (node : Node)
    : let call := config.nodeCall ⟨bytes⟩
      let run := config.dispatch node target data
      (∀ outcome, (node call).InTime config.timeout outcome →
          run = config.dispatch (fun _ => .after ⟨0⟩ outcome) target data)
        ∧ ((node call).Late config.timeout →
            run =
              ⟨.error (.nodeFailure method (Hex.encode bytes) (.timeout config.timeout)), [call]⟩)
        ∧ (∀ cause, (node call).InTime config.timeout (.error cause) →
            run.result = .error (.nodeFailure method (Hex.encode bytes) cause))
        ∧ (∀ reply, (node call).InTime config.timeout (.ok reply) →
            ∀ e, run.result = .error e → ∃ fault, e = .malformedReply method reply fault) := by
  refine ⟨?_, ?_, ?_, ?_⟩
  . intro outcome houtcome
    rw [dispatch_of_inTime h houtcome, dispatch_of_inTime h Node.Arrival.inTime_immediate]
  . intro hlate
    exact dispatch_of_late h hlate
  . intro cause hcause
    rw [dispatch_of_inTime h hcause]
    rfl
  . intro reply hreply e he
    rcases (result_eq_error_iff_of_reply h hreply).mp he with ⟨fault, -, rfl⟩
    exact ⟨fault, rfl⟩

def unreachableNode (delay : Duration) : Node :=
  fun _ => .after delay (.error (.transport "connection reset"))

theorem forwards_ownerCalldata (config : Config)
    : config.Forwards config.contract (Hex.encode ownerCalldata) .ownerOf ownerCalldata :=
  forwards_iff.mpr (plan_ownerCalldata config)

theorem dispatch_of_unreachableNode
    : sample.Forwards sample.contract (Hex.encode ownerCalldata) .ownerOf ownerCalldata
        ∧ (sample.dispatch (unreachableNode (.ofMillis 1000)) sample.contract
              (Hex.encode ownerCalldata)).result
            =
          .error
            (.nodeFailure .ownerOf (Hex.encode ownerCalldata) (.transport "connection reset"))
        ∧ (sample.dispatch (unreachableNode (.ofMillis 1001)) sample.contract
              (Hex.encode ownerCalldata)).result
            =
          .error (.nodeFailure .ownerOf (Hex.encode ownerCalldata) (.timeout (.ofMillis 1000))) := by
  have hforwards := forwards_ownerCalldata sample
  refine ⟨hforwards, ?_, ?_⟩
  . rcases dispatch_by_deadline sample _ _ _ _ hforwards (unreachableNode (.ofMillis 1000)) with
      ⟨-, -, hfailure, -⟩
    exact hfailure _ ⟨_, rfl, by decide⟩
  . rcases dispatch_by_deadline sample _ _ _ _ hforwards (unreachableNode (.ofMillis 1001)) with
      ⟨-, hlate, -, -⟩
    exact congrArg Run.result (hlate (.after (by decide)))

end Config

end TokenGateway
