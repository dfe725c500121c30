import TokenGateway.Proofs.Dispatch.Answer
import TokenGateway.Proofs.Dispatch.Refusal

namespace TokenGateway

namespace Method

inductive Answers : (method : Method) → (arguments : Bytes) → Except CallError Bytes → Prop
  | supported
    : Answers .supportsInterface ([0x5b, 0x5e, 0x13, 0x9f] ++ Bytes.zeros 28)
        (.ok (Abi.uintSlot 1))
  | unsupported {id : Bytes} (hlength : id.length = 4) (hid : id ≠ [0x5b, 0x5e, 0x13, 0x9f])
    : Answers .supportsInterface (id ++ Bytes.zeros 28) (.ok (Abi.uintSlot 0))
  | noInterface {word : Bytes} (hlength : word.length = 32)
      (hpadding : word.drop 4 ≠ Bytes.zeros 28)
    : Answers .supportsInterface word
        (.error (.malformedParameters .supportsInterface
          (.dirtySlot "interfaceId" .bytes4 word)))
  | balance {owner : Bytes} (hlength : owner.length = 20)
    : Answers .balanceOf (Bytes.zeros 12 ++ owner) (.ok (Abi.uintSlot 1000000))
  | noOwner {word : Bytes} (hlength : word.length = 32)
      (hpadding : word.take 12 ≠ Bytes.zeros 12)
    : Answers .balanceOf word
        (.error (.malformedParameters .balanceOf (.dirtySlot "owner" .address word)))
  | name (arguments : Bytes)
    : Answers .name arguments (.ok (Abi.pack [.string "Living Assets"]))
  | symbol (arguments : Bytes)
    : Answers .symbol arguments (.ok (Abi.pack [.string "LA"]))
  | contractURI (arguments : Bytes)
    : Answers .contractURI arguments
        (.ok (Abi.pack [.string "https://livingassets.io/contractUri"]))
  | decimals (arguments : Bytes)
    : Answers .decimals arguments (.ok (Abi.pack [.uint8 0]))

variable {method : Method} {arguments : Bytes}

theorem exists_answers_supportsInterface (hlength : arguments.length = 32)
    : ∃ answer, supportsInterface.Answers arguments answer := by
  by_cases hpadding : arguments.drop 4 = Bytes.zeros 28
  . have hsplit : arguments = arguments.take 4 ++ Bytes.zeros 28 := by
      rw [← hpadding, List.take_append_drop]
    rw [hsplit]
    by_cases hid : arguments.take 4 = [0x5b, 0x5e, 0x13, 0x9f]
    . rw [hid]
      exact ⟨_, .supported⟩
    . exact ⟨_, .unsupported (by rw [List.length_take]; omega) hid⟩
  . exact ⟨_, .noInterface hlength hpadding⟩

theorem exists_answers_balanceOf (hlength : arguments.length = 32)
    : ∃ answer, balanceOf.Answers arguments answer := by
  by_cases hpadding : arguments.take 12 = Bytes.zeros 12
  . have hsplit : arguments = Bytes.zeros 12 ++ arguments.drop 12 := by
      rw [← hpadding, List.take_append_drop]
    rw [hsplit]
    exact ⟨_, .balance (by rw [List.length_drop]; omega)⟩
  . exact ⟨_, .noOwner hlength hpadding⟩

theorem exists_answers (hlocal : ¬method.IsForwarded)
    (hlength : method.params ≠ [] → arguments.length = 32)
    : ∃ answer, method.Answers arguments answer := by
  cases method with
  | supportsInterface => exact exists_answers_supportsInterface (hlength (by simp [params]))
  | balanceOf => exact exists_answers_balanceOf (hlength (by simp [params]))
  | name => exact ⟨_, .name arguments⟩
  | symbol => exact ⟨_, .symbol arguments⟩
  | contractURI => exact ⟨_, .contractURI arguments⟩
  | decimals => exact ⟨_, .decimals arguments⟩
  | ownerOf => exact absurd (.inl rfl) hlocal
  | tokenURI => exact absurd (.inr (.inl rfl)) hlocal
  | uri => exact absurd (.inr (.inr rfl)) hlocal

end Method

namespace Plan

theorem ofMethod_balanceOf (owner : Address)
    : ofMethod (.build .balanceOf [.address owner]) .balanceOf
        =
      .ok (.answer (.uint256 1000000)) := by
  rw [ofMethod, Calldata.param_build rfl]
  rfl

theorem ofMethod_supportsInterface (id : FixedBytes 4)
    : ofMethod (.build .supportsInterface [.bytes4 id]) .supportsInterface
        =
      .ok (.answer (.bool (id == Identity.metadataInterface))) := by
  rw [ofMethod, Calldata.param_build rfl]
  rfl

end Plan

namespace Config

variable {config : Config} {node : Node} {data : String} {method : Method} {arguments : Bytes}

theorem dispatch_of_build {vs : List Abi.Value} {v : Abi.Value}
    (hdecode : Hex.decode data = .ok (method.selector.toBytes ++ Abi.pack vs))
    (hplan : Plan.ofMethod (.build method vs) method = .ok (.answer v))
    : config.dispatch node config.contract data = ⟨.ok (Abi.pack [v]), []⟩ := by
  apply dispatch_of_answer
  rw [plan_of_selector hdecode]
  exact hplan

theorem dispatch_of_interface (id : FixedBytes 4)
    (hdecode : Hex.decode data
      = .ok (Method.supportsInterface.selector.toBytes ++ (id.toBytes ++ Bytes.zeros 28)))
    : config.dispatch node config.contract data
        =
      ⟨.ok (Abi.boolSlot (id == Identity.metadataInterface)), []⟩ := by
  have hpack : Abi.pack [.bytes4 id] = id.toBytes ++ Bytes.zeros 28 := by
    rw [Abi.pack_singleton]
    simp [Abi.Value.head, Abi.Value.tail, Abi.leftAligned, id.length_toBytes, Abi.slotLength]
  rw [← hpack] at hdecode
  rw [dispatch_of_build hdecode (Plan.ofMethod_supportsInterface id), Abi.pack_singleton]
  simp [Abi.Value.head, Abi.Value.tail]

theorem dispatch_of_owner (owner : Address)
    (hdecode : Hex.decode data
      = .ok (Method.balanceOf.selector.toBytes ++ (Bytes.zeros 12 ++ owner.toBytes)))
    : config.dispatch node config.contract data = ⟨.ok (Abi.uintSlot 1000000), []⟩ := by
  rw [← Reply.pack_address] at hdecode
  rw [dispatch_of_build hdecode (Plan.ofMethod_balanceOf owner), Abi.pack_singleton]
  simp [Abi.Value.head, Abi.Value.tail]

theorem dispatch_of_dirty {param : Abi.Param} {n : Nat}
    (hdecode : Hex.decode data = .ok (method.selector.toBytes ++ arguments))
    (hparam : method.params = [param]) (hlength : arguments.length = 32)
    (hsize : (method.padding arguments).length = n)
    (hpadding : method.padding arguments ≠ Bytes.zeros n)
    : config.dispatch node config.contract data
        =
      ⟨.error (.malformedParameters method (.dirtySlot param.name param.kind arguments)), []⟩ := by
  apply dispatch_of_error
  rw [plan_eq_error_iff]
  apply refused_of_refuses hdecode
  . simp [hparam]
  . exact .dirtySlot hparam hlength (Bytes.exists_ne_zero hsize hpadding)

theorem dispatch_of_answers {answer : Except CallError Bytes}
    (hdecode : Hex.decode data = .ok (method.selector.toBytes ++ arguments))
    (h : method.Answers arguments answer)
    : config.dispatch node config.contract data = ⟨answer, []⟩ := by
  cases h with
  | supported => exact dispatch_of_interface Identity.metadataInterface hdecode
  | @unsupported id hlength hid =>
    have hne : (⟨id, hlength⟩ : FixedBytes 4) ≠ Identity.metadataInterface := by
      intro heq
      exact hid (congrArg FixedBytes.toBytes heq)
    rw [dispatch_of_interface ⟨id, hlength⟩ hdecode, beq_false_of_ne hne]
    rfl
  | noInterface hlength hpadding =>
    have hsize : (arguments.drop 4).length = 28 := by
      rw [List.length_drop, hlength]
    exact dispatch_of_dirty hdecode rfl hlength hsize hpadding
  | @balance owner hlength => exact dispatch_of_owner ⟨owner, hlength⟩ hdecode
  | noOwner hlength hpadding =>
    have hsize : (arguments.take 12).length = 12 := by
      rw [List.length_take]
      omega
    exact dispatch_of_dirty hdecode rfl hlength hsize hpadding
  | name => exact dispatch_of_answer (plan_of_selector hdecode)
  | symbol => exact dispatch_of_answer (plan_of_selector hdecode)
  | contractURI => exact dispatch_of_answer (plan_of_selector hdecode)
  | decimals => exact dispatch_of_answer (plan_of_selector hdecode)

theorem dispatch_without_node (config : Config) (node : Node) (data : String) (method : Method)
    (arguments : Bytes)
    (hdecode : Hex.decode data = .ok (method.selector.toBytes ++ arguments))
    : (∀ answer, method.Answers arguments answer →
          config.dispatch node config.contract data = ⟨answer, []⟩)
        ∧ (¬method.IsForwarded → (method.params ≠ [] → arguments.length = 32) →
            ∃ answer, method.Answers arguments answer) := by
  constructor
  . intro answer
    exact dispatch_of_answers hdecode
  . exact Method.exists_answers

def rightAlignedInterface : Bytes :=
  Bytes.zeros 28 ++ [0x5b, 0x5e, 0x13, 0x9f]

theorem dispatch_of_rightAlignedInterface
    : Hex.decode (Hex.encode (Method.supportsInterface.selector.toBytes ++ rightAlignedInterface))
          = .ok (Method.supportsInterface.selector.toBytes ++ rightAlignedInterface)
        ∧ Method.supportsInterface.Answers rightAlignedInterface
            (.error (.malformedParameters .supportsInterface
              (.dirtySlot "interfaceId" .bytes4 rightAlignedInterface)))
        ∧ sample.dispatch looseNode sample.contract
              (Hex.encode (Method.supportsInterface.selector.toBytes ++ rightAlignedInterface))
            =
          ⟨.error (.malformedParameters .supportsInterface
              (.dirtySlot "interfaceId" .bytes4 rightAlignedInterface)), []⟩ := by
  have hdecode := Hex.decode_encode
    (Method.supportsInterface.selector.toBytes ++ rightAlignedInterface)
  have hanswers : Method.supportsInterface.Answers rightAlignedInterface
      (.error (.malformedParameters .supportsInterface
        (.dirtySlot "interfaceId" .bytes4 rightAlignedInterface))) :=
    .noInterface rfl (by decide)
  exact ⟨hdecode, hanswers,
    (dispatch_without_node sample looseNode _ .supportsInterface _ hdecode).1 _ hanswers⟩

end Config

end TokenGateway
