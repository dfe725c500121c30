import TokenGateway.Proofs.Dispatch.Plan
import TokenGateway.Proofs.Dispatch.Reply

namespace TokenGateway

namespace Abi

structure IsCanonical (v : Value) (out : Bytes) : Prop where
  packed : pack [v] = out
  layout : out = v.head 32 ++ v.tail
  slots : out.length % 32 = 0
  nonempty : 0 < out.length
  read : ∀ name, unpack [⟨name, v.kind⟩] out = .ok ⟨[(name, v)]⟩

theorem isCanonical_pack {v : Value} (haddressable : Addressable [v]) : IsCanonical v (pack [v]) where
  packed := rfl
  layout := pack_singleton v
  slots := by apply length_pack_mod
  nonempty := by
    rw [length_pack, List.length_singleton]
    omega
  read := by
    intro name
    apply unpack_pack
    . rfl
    . exact haddressable

end Abi

structure Method.Returns (method : Method) (v : Abi.Value) : Prop where
  kind : v.kind = method.returns
  addressable : Abi.Addressable [v]

theorem Method.returns_of_static {method : Method} {v : Abi.Value} (hkind : v.kind = method.returns)
    (hstatic : method.returns ≠ .string)
    : method.Returns v := by
  refine ⟨hkind, ?_⟩
  apply Abi.addressable_of_static
  intro v' hv'
  rw [List.mem_singleton.mp hv', hkind]
  exact hstatic

theorem Method.returns_of_text {method : Method} {s : String} (hkind : method.returns = .string)
    (hlength : (Text.utf8 s).length < 2 ^ 64)
    : method.Returns (.string s) := by
  refine ⟨hkind.symm, ?_⟩
  apply Abi.addressable_singleton hlength

theorem Plan.returns_of_answer {calldata : Calldata} {method : Method} {v : Abi.Value}
    (h : Plan.ofMethod calldata method = .ok (.answer v))
    : method.Returns v := by
  cases method with
  | ownerOf => simp [ofMethod, Except.map_eq_ok_iff] at h
  | tokenURI => simp [ofMethod, Except.map_eq_ok_iff] at h
  | uri => simp [ofMethod, Except.map_eq_ok_iff] at h
  | balanceOf =>
    rcases Except.map_eq_ok_iff.mp h with ⟨owner, -, heq⟩
    cases heq
    exact Method.returns_of_static rfl (by decide)
  | supportsInterface =>
    rcases Except.map_eq_ok_iff.mp h with ⟨id, -, heq⟩
    cases heq
    exact Method.returns_of_static rfl (by decide)
  | decimals =>
    cases h
    exact Method.returns_of_static rfl (by decide)
  | name =>
    cases h
    exact Method.returns_of_text rfl (by decide)
  | symbol =>
    cases h
    exact Method.returns_of_text rfl (by decide)
  | contractURI =>
    cases h
    exact Method.returns_of_text rfl (by decide)

theorem Reply.returns_of_value {method : Method} {reply : String} {v : Abi.Value}
    (hforwarded : method.IsForwarded) (h : Reply.value method reply = .ok v)
    : method.Returns v := by
  have htext : ∀ s, text reply = .ok s → (Text.utf8 s).length < 2 ^ 64 := by
    intro s hs
    rcases text_eq_ok_iff.mp hs with ⟨bytes, -, hdecode⟩
    exact Abi.length_lt_of_decodeString hdecode
  rcases hforwarded with rfl | rfl | rfl
  . rcases Except.map_eq_ok_iff.mp h with ⟨a, -, rfl⟩
    exact Method.returns_of_static rfl (by decide)
  . rcases Except.map_eq_ok_iff.mp h with ⟨s, hs, rfl⟩
    exact Method.returns_of_text rfl (htext s hs)
  . rcases Except.map_eq_ok_iff.mp h with ⟨s, hs, rfl⟩
    exact Method.returns_of_text rfl (htext s hs)

namespace Config

variable {config : Config} {node : Node} {target : Address} {data : String}

def answer (config : Config) (node : Node) (target : Address) (data : String) :
    Except CallError Abi.Value :=
  match config.plan target data with
  | .error e => .error e
  | .ok (.answer value) => .ok value
  | .ok (.ask method calldata) =>
    let call := config.nodeCall calldata
    settledValue method call.data ((node call).within config.timeout)

theorem answer_of_ask {method : Method} {calldata : Calldata}
    (h : config.plan target data = .ok (.ask method calldata))
    : config.answer node target data
        =
      settledValue method (Hex.encode calldata.bytes)
        ((node (config.nodeCall calldata)).within config.timeout) := by
  unfold answer
  rw [h]
  rfl

theorem result_dispatch
    : (config.dispatch node target data).result
        =
      (config.answer node target data).map fun v => Abi.pack [v] := by
  unfold dispatch answer
  cases config.plan target data with
  | error e => rfl
  | ok plan =>
    cases plan with
    | answer v => rfl
    | ask method calldata => apply settle_eq_map

theorem exists_returns_of_answer {v : Abi.Value} (h : config.answer node target data = .ok v)
    : ∃ calldata method,
        Calldata.ofHex data = .ok calldata ∧ calldata.method = .ok method ∧ method.Returns v := by
  unfold answer at h
  split at h
  . cases h
  . next v' hplan =>
    cases h
    rcases plan_eq_ok_iff.mp hplan with ⟨-, calldata, method, hdecode, hmethod, hanswer⟩
    exact ⟨calldata, method, Calldata.ofHex_eq_ok_iff.mpr hdecode, hmethod,
      Plan.returns_of_answer hanswer⟩
  . next method calldata hplan =>
    rcases plan_eq_ask_iff.mp hplan with ⟨-, hdecode, hmethod, hforwarded, -⟩
    rcases settledValue_eq_ok_iff.mp h with ⟨reply, -, hvalue⟩
    exact ⟨calldata, method, Calldata.ofHex_eq_ok_iff.mpr hdecode, hmethod,
      Reply.returns_of_value hforwarded hvalue⟩

theorem result_isCanonical (config : Config) (node : Node) (target : Address) (data : String)
    (out : Bytes) (h : (config.dispatch node target data).result = .ok out)
    : ∃ calldata method v,
        Calldata.ofHex data = .ok calldata
          ∧ calldata.method = .ok method
          ∧ config.answer node target data = .ok v
          ∧ v.kind = method.returns
          ∧ Abi.IsCanonical v out := by
  rw [result_dispatch, Except.map_eq_ok_iff] at h
  rcases h with ⟨v, hanswer, rfl⟩
  rcases exists_returns_of_answer hanswer with ⟨calldata, method, hcalldata, hmethod, hreturns⟩
  exact ⟨calldata, method, v, hcalldata, hmethod, hanswer, hreturns.kind,
    Abi.isCanonical_pack hreturns.addressable⟩

def looseReply : Bytes :=
  Bytes.zeros 31 ++ [33] ++ [7] ++ Bytes.zeros 31 ++ [2] ++ [0x68, 0x69] ++ List.replicate 61 0xff

def looseNode : Node :=
  fun _ => .after (.ofMillis 5) (.ok (Hex.encode looseReply))

def descriptionCalldata : Bytes :=
  Method.tokenURI.selector.toBytes ++ (Bytes.zeros 31 ++ [7])

theorem plan_descriptionCalldata (config : Config)
    : config.plan config.contract (Hex.encode descriptionCalldata)
        =
      .ok (.ask .tokenURI ⟨descriptionCalldata⟩) := by
  apply plan_selector_append (.inr (.inl rfl))
  decide

theorem answer_looseNode
    : sample.answer looseNode sample.contract (Hex.encode descriptionCalldata)
        =
      .ok (.string "hi") := by
  have hread : Abi.decodeString looseReply = .ok "hi" := by
    rw [← Except.toOption_eq_some_iff]
    decide +kernel
  have htext : Reply.text (Hex.encode looseReply) = .ok "hi" := by
    rw [Reply.text_eq_ok_iff]
    exact ⟨looseReply, Hex.decode_encode _, hread⟩
  rw [answer_of_ask (plan_descriptionCalldata sample)]
  apply settledValue_eq_ok_iff.mpr
  refine ⟨Hex.encode looseReply, rfl, ?_⟩
  unfold Reply.value
  rw [htext]
  rfl

theorem isCanonical_of_looseReply
    : (sample.dispatch looseNode sample.contract (Hex.encode descriptionCalldata)).result
          = .ok (Abi.pack [.string "hi"])
        ∧ ∃ calldata method v,
            Calldata.ofHex (Hex.encode descriptionCalldata) = .ok calldata
              ∧ calldata.method = .ok method
              ∧ sample.answer looseNode sample.contract (Hex.encode descriptionCalldata) = .ok v
              ∧ v.kind = method.returns
              ∧ Abi.IsCanonical v (Abi.pack [.string "hi"]) := by
  have hresult : (sample.dispatch looseNode sample.contract (Hex.encode descriptionCalldata)).result
      = .ok (Abi.pack [.string "hi"]) := by
    rw [result_dispatch, answer_looseNode]
    rfl
  exact ⟨hresult, result_isCanonical sample looseNode _ _ _ hresult⟩

end Config

end TokenGateway
