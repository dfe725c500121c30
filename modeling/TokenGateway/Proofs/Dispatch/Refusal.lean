import TokenGateway.Proofs.Abi.Fault
import TokenGateway.Proofs.Calldata.RoundTrip
import TokenGateway.Proofs.Dispatch.Plan

/-!
A call is checked for its contract, its hexadecimal form, the length of its selector, the selector,
and last the arguments, in this order. The rules of refusal say for each check what it tells, under
the condition that all checks before it are passed.
-/

namespace TokenGateway

namespace Method

variable {method : Method} {arguments : Bytes} {param : Abi.Param}

def padding (arguments : Bytes) : Method → Bytes
  | .balanceOf => arguments.take 12
  | .supportsInterface => arguments.drop 4
  | _ => []

inductive Refuses (method : Method) (arguments : Bytes) : Abi.Error → Prop
  | misaligned (hlength : arguments.length % 32 ≠ 0)
    : Refuses method arguments (.misaligned arguments)
  | lengthMismatch (haligned : arguments.length % 32 = 0) (hlength : arguments.length ≠ 32)
    : Refuses method arguments (.lengthMismatch 32 arguments)
  | dirtySlot {param : Abi.Param} (hparam : method.params = [param])
      (hlength : arguments.length = 32) (hdirty : ∃ b ∈ method.padding arguments, b ≠ 0)
    : Refuses method arguments (.dirtySlot param.name param.kind arguments)

theorem params_eq (method : Method) : method.params = [] ∨ ∃ param, method.params = [param] := by
  cases method <;> simp [params]

theorem not_admissible_iff (hparam : method.params = [param]) (hlength : arguments.length = 32)
    : ¬Abi.Admissible arguments 32 0 param.kind ↔ ∃ b ∈ method.padding arguments, b ≠ 0 := by
  have hslot : Abi.slotAt arguments 0 = arguments := by
    rw [Abi.slotAt, ← hlength, Bytes.slice_length]
  cases method with
  | balanceOf =>
    have htake : (arguments.take 12).length = 12 := by
      rw [List.length_take]
      omega
    cases hparam
    rw [Abi.Admissible, hslot, Bytes.eq_zeros_iff htake, padding]
    simp
  | supportsInterface =>
    have hdrop : (arguments.drop 4).length = 28 := by
      rw [List.length_drop, hlength]
    cases hparam
    rw [Abi.Admissible, hslot, Bytes.eq_zeros_iff hdrop, padding]
    simp
  -- A number of 256 bits has no padding.
  | ownerOf =>
    cases hparam
    simp [Abi.Admissible, padding]
  | tokenURI =>
    cases hparam
    simp [Abi.Admissible, padding]
  | uri =>
    cases hparam
    simp [Abi.Admissible, padding]
  | _ => cases hparam

theorem unpack_eq_error_iff (hparam : method.params = [param]) {cause : Abi.Error}
    : Abi.unpack method.params arguments = .error cause ↔ method.Refuses arguments cause := by
  have hstatic : param.kind ≠ .string := by
    apply method.kind_ne_string
    simp [hparam]
  rw [hparam, Abi.unpack_single_eq_error_iff hstatic]
  constructor
  . intro h
    rcases h with ⟨hlength, rfl⟩ | ⟨haligned, hlength, rfl⟩ | ⟨hlength, hdirty, rfl⟩
    . exact .misaligned hlength
    . exact .lengthMismatch haligned hlength
    . exact .dirtySlot hparam hlength ((not_admissible_iff hparam hlength).mp hdirty)
  . intro h
    cases h with
    | misaligned hlength => exact .inl ⟨hlength, rfl⟩
    | lengthMismatch haligned hlength => exact .inr (.inl ⟨haligned, hlength, rfl⟩)
    | dirtySlot hparam' hlength hdirty =>
      rw [hparam, List.singleton_inj] at hparam'
      subst hparam'
      exact .inr (.inr ⟨hlength, (not_admissible_iff hparam hlength).mpr hdirty, rfl⟩)

end Method

namespace Calldata

variable {c : Calldata} {method : Method} {e : CallError}

inductive Refused (c : Calldata) : CallError → Prop
  | short (hlength : c.bytes.length < 4)
    : Refused c (.shortCalldata (Hex.encode c.bytes))
  | unknown {selector : Selector} (hselector : c.bytes.take 4 = selector.toBytes)
      (hlookup : Registry.standard.lookup selector = none)
    : Refused c (.unknownMethod selector)
  | arguments {selector : Selector} {method : Method} {cause : Abi.Error}
      (hselector : c.bytes.take 4 = selector.toBytes)
      (hlookup : Registry.standard.lookup selector = some method) (hparams : method.params ≠ [])
      (hcause : method.Refuses (c.bytes.drop 4) cause)
    : Refused c (.malformedParameters method cause)

theorem method_eq_error_iff_refused
    : c.method = .error e
        ↔
      (c.bytes.length < 4 ∧ e = .shortCalldata (Hex.encode c.bytes))
        ∨ ∃ selector : Selector, c.bytes.take 4 = selector.toBytes
            ∧ Registry.standard.lookup selector = none
            ∧ e = .unknownMethod selector := by
  simp only [method_eq_error_iff, selector_eq_error_iff, selector_eq_ok_iff]

theorem params_eq_error_iff_refuses (hmethod : c.method = .ok method) (hparams : method.params ≠ [])
    : c.params = .error e
        ↔
      ∃ cause, method.Refuses (c.bytes.drop 4) cause ∧ e = .malformedParameters method cause := by
  rcases method.params_eq with hnil | ⟨param, hparam⟩
  . exact absurd hnil hparams
  . simp only [params_eq_error_iff hmethod, Method.unpack_eq_error_iff hparam]
    rfl

theorem refused_iff
    : c.Refused e
        ↔
      c.method = .error e
        ∨ ∃ method, c.method = .ok method ∧ method.params ≠ [] ∧ c.params = .error e := by
  constructor
  . intro h
    cases h with
    | short hlength => exact .inl (method_eq_error_iff_refused.mpr (.inl ⟨hlength, rfl⟩))
    | unknown hselector hlookup =>
      exact .inl (method_eq_error_iff_refused.mpr (.inr ⟨_, hselector, hlookup, rfl⟩))
    | arguments hselector hlookup hparams hcause =>
      have hmethod := method_eq_ok_iff.mpr ⟨_, selector_eq_ok_iff.mpr hselector, hlookup⟩
      refine .inr ⟨_, hmethod, hparams, ?_⟩
      exact (params_eq_error_iff_refuses hmethod hparams).mpr ⟨_, hcause, rfl⟩
  . intro h
    rcases h with hmethod | ⟨method, hmethod, hparams, hread⟩
    . rcases method_eq_error_iff_refused.mp hmethod with
        ⟨hlength, rfl⟩ | ⟨selector, hselector, hlookup, rfl⟩
      . exact .short hlength
      . exact .unknown hselector hlookup
    . rcases (params_eq_error_iff_refuses hmethod hparams).mp hread with ⟨cause, hcause, rfl⟩
      rcases method_eq_ok_iff.mp hmethod with ⟨selector, hselector, hlookup⟩
      exact .arguments (selector_eq_ok_iff.mp hselector) hlookup hparams hcause

end Calldata

namespace Plan

variable {calldata calldata' : Calldata} {method : Method} {e : CallError}

theorem ofMethod_eq_error_iff (hmethod : calldata.method = .ok method)
    : ofMethod calldata method = .error e ↔ method.params ≠ [] ∧ calldata.params = .error e := by
  cases method with
  | ownerOf =>
    rw [ofMethod, Except.map_eq_error_iff,
      Calldata.param_eq_error_iff hmethod (List.mem_singleton.mpr rfl)]
    simp [Method.params]
  | balanceOf =>
    rw [ofMethod, Except.map_eq_error_iff,
      Calldata.param_eq_error_iff hmethod (List.mem_singleton.mpr rfl)]
    simp [Method.params]
  | supportsInterface =>
    rw [ofMethod, Except.map_eq_error_iff,
      Calldata.param_eq_error_iff hmethod (List.mem_singleton.mpr rfl)]
    simp [Method.params]
  | tokenURI => simp [ofMethod, Except.map_eq_error_iff, Method.params]
  | uri => simp [ofMethod, Except.map_eq_error_iff, Method.params]
  | _ => simp [ofMethod, Method.params]

theorem refused_iff_plan
    : (calldata.method >>= fun method => ofMethod calldata method) = .error e
        ↔
      calldata.Refused e := by
  have hread : ∀ method,
      calldata.method = .ok method ∧ ofMethod calldata method = .error e
        ↔ calldata.method = .ok method ∧ method.params ≠ [] ∧ calldata.params = .error e := by
    intro method
    apply and_congr_right
    exact ofMethod_eq_error_iff
  rw [Except.bind_eq_error_iff, Calldata.refused_iff]
  simp only [hread]

theorem ofMethod_congr (hparams : method.params = [])
    : ofMethod calldata method = ofMethod calldata' method := by
  cases method with
  | name => rfl
  | symbol => rfl
  | contractURI => rfl
  | decimals => rfl
  | _ => simp [Method.params] at hparams

end Plan

def CallError.IsFromNode : CallError → Prop
  | .nodeFailure _ _ _ => True
  | .malformedReply _ _ _ => True
  | _ => False

namespace Config

variable {config : Config} {node : Node} {target : Address} {data data' : String} {e : CallError}

inductive Refused (config : Config) (target : Address) (data : String) : CallError → Prop
  | contract (htarget : target ≠ config.contract)
    : Refused config target data (.unknownContract target config.contract)
  | hex {cause : Hex.Error} (htarget : target = config.contract)
      (hdecode : Hex.decode data = .error cause)
    : Refused config target data (.malformedHex cause)
  | calldata {bytes : Bytes} {e : CallError} (htarget : target = config.contract)
      (hdecode : Hex.decode data = .ok bytes) (hrefused : Calldata.Refused ⟨bytes⟩ e)
    : Refused config target data e

theorem plan_of_ne (htarget : target ≠ config.contract)
    : config.plan target data = .error (.unknownContract target config.contract) := by
  unfold plan
  rw [if_pos htarget]
  rfl

theorem plan_of_decode_error {cause : Hex.Error} (htarget : target = config.contract)
    (hdecode : Hex.decode data = .error cause)
    : config.plan target data = .error (.malformedHex cause) := by
  unfold plan Calldata.ofHex
  rw [if_neg (not_not_intro htarget), hdecode]
  rfl

theorem plan_of_decode {bytes : Bytes} (htarget : target = config.contract)
    (hdecode : Hex.decode data = .ok bytes)
    : config.plan target data
        =
      (Calldata.mk bytes).method >>= fun method => Plan.ofMethod ⟨bytes⟩ method := by
  unfold plan Calldata.ofHex
  rw [if_neg (not_not_intro htarget), hdecode]
  rfl

theorem plan_of_selector {method : Method} {arguments : Bytes}
    (hdecode : Hex.decode data = .ok (method.selector.toBytes ++ arguments))
    : config.plan config.contract data
        =
      Plan.ofMethod ⟨method.selector.toBytes ++ arguments⟩ method := by
  rw [plan_of_decode rfl hdecode, Calldata.method_selector_append]
  rfl

theorem refused_of_refuses {method : Method} {arguments : Bytes} {cause : Abi.Error}
    (hdecode : Hex.decode data = .ok (method.selector.toBytes ++ arguments))
    (hparams : method.params ≠ []) (hcause : method.Refuses arguments cause)
    : config.Refused config.contract data (.malformedParameters method cause) := by
  have hselector := method.selector.length_toBytes
  apply Refused.calldata rfl hdecode
  apply Calldata.Refused.arguments
  . apply List.take_left' hselector
  . rw [Registry.lookup_standard_eq_some_iff]
  . exact hparams
  . rw [List.drop_left' hselector]
    exact hcause

theorem plan_eq_error_iff
    : config.plan target data = .error e ↔ config.Refused target data e := by
  by_cases htarget : target = config.contract
  . cases hdecode : Hex.decode data with
    | error cause =>
      rw [plan_of_decode_error htarget hdecode]
      constructor
      . intro h
        cases h
        exact .hex htarget hdecode
      . intro h
        cases h <;> simp_all
    | ok bytes =>
      rw [plan_of_decode htarget hdecode, Plan.refused_iff_plan]
      constructor
      . intro h
        exact .calldata htarget hdecode h
      . intro h
        cases h <;> simp_all
  . rw [plan_of_ne htarget]
    constructor
    . intro h
      cases h
      exact .contract htarget
    . intro h
      cases h <;> simp_all

theorem settle_eq_error_iff {method : Method} {outcome : Node.Outcome}
    : settle method data outcome = .error e
        ↔
      (∃ cause, outcome = .error cause ∧ e = .nodeFailure method data cause)
        ∨ ∃ reply fault, outcome = .ok reply
            ∧ Reply.value method reply = .error fault
            ∧ e = .malformedReply method reply fault := by
  unfold settle
  cases outcome with
  | error cause => simp [eq_comm]
  | ok reply =>
    cases hvalue : Reply.value method reply with
    | error fault => simp [hvalue, eq_comm]
    | ok value => simp [hvalue]

theorem isFromNode_of_settle {method : Method} {outcome : Node.Outcome}
    (h : settle method data outcome = .error e)
    : e.IsFromNode := by
  rcases settle_eq_error_iff.mp h with ⟨cause, -, rfl⟩ | ⟨reply, fault, -, -, rfl⟩
  . trivial
  . trivial

theorem not_isFromNode_of_refused (h : config.Refused target data e) : ¬e.IsFromNode := by
  cases h with
  | contract htarget => simp [CallError.IsFromNode]
  | hex htarget hdecode => simp [CallError.IsFromNode]
  | calldata htarget hdecode hrefused => cases hrefused <;> simp [CallError.IsFromNode]

theorem result_eq_error_iff
    : (config.dispatch node target data).result = .error e ∧ ¬e.IsFromNode
        ↔
      config.Refused target data e := by
  rw [← plan_eq_error_iff]
  unfold dispatch
  cases hplan : config.plan target data with
  | error e' =>
    have hrefused := not_isFromNode_of_refused (plan_eq_error_iff.mp hplan)
    simp only [Except.error.injEq]
    constructor
    . intro h
      exact h.1
    . intro h
      subst h
      exact ⟨rfl, hrefused⟩
  | ok plan =>
    cases plan with
    | answer value => simp
    -- A call that gets as far as the node can fail only there.
    | ask method calldata =>
      simp only [reduceCtorEq, iff_false, not_and, Classical.not_not]
      exact isFromNode_of_settle

theorem refused_or_settles (h : (config.dispatch node target data).result = .error e)
    : config.Refused target data e
        ∨ ∃ method calldata,
            config.plan target data = .ok (.ask method calldata)
              ∧ settle method (Hex.encode calldata.bytes)
                  ((node (config.nodeCall calldata)).within config.timeout)
                =
              .error e := by
  cases hplan : config.plan target data with
  | error e' =>
    rw [dispatch_of_error hplan] at h
    cases h
    exact .inl (plan_eq_error_iff.mp hplan)
  | ok plan =>
    cases plan with
    | answer value =>
      rw [dispatch_of_answer hplan] at h
      cases h
    | ask method calldata =>
      rw [dispatch_of_ask hplan] at h
      exact .inr ⟨method, calldata, rfl, h⟩

theorem dispatch_congr (h : config.plan target data = config.plan target data')
    : config.dispatch node target data = config.dispatch node target data' := by
  unfold dispatch
  rw [h]

theorem plan_congr_of_no_params {method : Method} {bytes : Bytes} (hparams : method.params = [])
    (hdecode : Hex.decode data = .ok (method.selector.toBytes ++ bytes))
    : config.plan config.contract data = Plan.ofMethod ⟨method.selector.toBytes⟩ method := by
  rw [plan_of_selector hdecode]
  apply Plan.ofMethod_congr hparams

theorem error_iff_refused (config : Config) (node : Node) (target : Address) (data : String)
    : (∀ e, (config.dispatch node target data).result = .error e ∧ ¬e.IsFromNode
          ↔ config.Refused target data e)
        ∧ ∀ (method : Method) (bytes bytes' : Bytes) (data' : String),
            method.params = [] →
            Hex.decode data = .ok (method.selector.toBytes ++ bytes) →
            Hex.decode data' = .ok (method.selector.toBytes ++ bytes') →
              config.dispatch node target data = config.dispatch node target data' := by
  constructor
  . intro e
    exact result_eq_error_iff
  . intro method bytes bytes' data' hparams hdecode hdecode'
    apply dispatch_congr
    by_cases htarget : target = config.contract
    . rw [htarget, plan_congr_of_no_params hparams hdecode, plan_congr_of_no_params hparams hdecode']
    . rw [plan_of_ne htarget, plan_of_ne htarget]

def dirtyArgument : Bytes :=
  [1] ++ Bytes.zeros 31

theorem refused_dirtyArgument
    : sample.Refused sample.contract (Hex.encode (Method.balanceOf.selector.toBytes ++ dirtyArgument))
        (.malformedParameters .balanceOf (.dirtySlot "owner" .address dirtyArgument)) := by
  have hrefuses : Method.balanceOf.Refuses dirtyArgument
      (.dirtySlot "owner" .address dirtyArgument) :=
    @Method.Refuses.dirtySlot .balanceOf dirtyArgument ⟨"owner", .address⟩ rfl rfl
      ⟨1, by decide, by decide⟩
  exact refused_of_refuses (Hex.decode_encode _) (by simp [Method.params]) hrefuses

theorem result_of_dirtyArgument
    : (sample.dispatch (fun _ => .never) sample.contract
          (Hex.encode (Method.balanceOf.selector.toBytes ++ dirtyArgument))).result
          = .error (.malformedParameters .balanceOf (.dirtySlot "owner" .address dirtyArgument))
        ∧ sample.dispatch (fun _ => .never) sample.contract
              (Hex.encode (Method.name.selector.toBytes ++ dirtyArgument))
            =
          sample.dispatch (fun _ => .never) sample.contract
              (Hex.encode (Method.name.selector.toBytes ++ [])) := by
  constructor
  . have hrules := error_iff_refused sample (fun _ => .never) sample.contract
      (Hex.encode (Method.balanceOf.selector.toBytes ++ dirtyArgument))
    exact ((hrules.1 _).mpr refused_dirtyArgument).1
  . have hrules := error_iff_refused sample (fun _ => .never) sample.contract
      (Hex.encode (Method.name.selector.toBytes ++ dirtyArgument))
    exact hrules.2 .name dirtyArgument [] _ rfl (Hex.decode_encode _) (Hex.decode_encode _)

end Config
end TokenGateway
