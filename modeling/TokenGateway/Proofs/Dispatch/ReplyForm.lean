import TokenGateway.Proofs.Dispatch.Answer
import TokenGateway.Proofs.Dispatch.Deadline
import TokenGateway.Proofs.Hex.Reading

namespace TokenGateway

namespace Reply

variable {bytes out : Bytes}

def HoldsOwner (bytes : Bytes) : Prop :=
  bytes.length = 20 ∨ (bytes.length = 32 ∧ bytes.take 12 = Bytes.zeros 12)

theorem pack_address_eq_addressSlot (a : Address) : Abi.pack [.address a] = Abi.addressSlot a := by
  rw [pack_address, Abi.addressSlot, Abi.rightAligned, a.length_toBytes]
  rfl

theorem holdsOwner_and_iff
    : HoldsOwner bytes ∧ out = Bytes.zeros 12 ++ bytes.drop (bytes.length - 20)
        ↔
      ∃ a : Address, (bytes = a.toBytes ∨ bytes = Bytes.zeros 12 ++ a.toBytes)
        ∧ out = Bytes.zeros 12 ++ a.toBytes := by
  constructor
  . intro h
    rcases h with ⟨hlength | ⟨hlength, hhigh⟩, rfl⟩
    . refine ⟨⟨bytes, hlength⟩, .inl rfl, ?_⟩
      rw [hlength]
      rfl
    . have hlow : (bytes.drop 12).length = 20 := by
        rw [List.length_drop, hlength]
      refine ⟨⟨bytes.drop 12, hlow⟩, .inr ?_, ?_⟩
      . rw [← hhigh, List.take_append_drop]
      . rw [hlength]
  . intro h
    rcases h with ⟨a, rfl | rfl, rfl⟩
    . refine ⟨.inl a.length_toBytes, ?_⟩
      rw [a.length_toBytes]
      rfl
    . have hlength : (Bytes.zeros 12 ++ a.toBytes).length = 32 := length_slot a
      refine ⟨.inr ⟨hlength, List.take_left' (Bytes.length_zeros 12)⟩, ?_⟩
      rw [hlength, List.drop_left' (Bytes.length_zeros 12)]

end Reply

namespace Config

variable {config : Config} {node : Node} {target : Address} {data : String} {method : Method}
  {bytes out : Bytes} {reply : String}

section Delivered

variable (hforwards : config.Forwards target data method bytes)
  (hreply : (node (config.nodeCall ⟨bytes⟩)).InTime config.timeout (.ok reply))

include hforwards hreply

theorem result_eq_ok_iff_value
    : (config.dispatch node target data).result = .ok out
        ↔
      ∃ v, Reply.value method reply = .ok v ∧ Abi.pack [v] = out := by
  rw [dispatch_of_inTime hforwards hreply, settle_eq_map, Except.map_eq_ok_iff]
  simp only [settledValue_eq_ok_iff, Except.ok.injEq, exists_eq_left']

theorem exists_malformedReply (h : ∀ out, (config.dispatch node target data).result ≠ .ok out)
    : ∃ fault,
        (config.dispatch node target data).result = .error (.malformedReply method reply fault) := by
  cases hvalue : Reply.value method reply with
  | ok v =>
    have hresult := (result_eq_ok_iff_value hforwards hreply).mpr ⟨v, hvalue, rfl⟩
    exact absurd hresult (h _)
  | error fault =>
    exact ⟨fault, (result_eq_error_iff_of_reply hforwards hreply).mpr ⟨fault, hvalue, rfl⟩⟩

end Delivered

theorem result_eq_ok_iff_owner (hforwards : config.Forwards target data .ownerOf bytes)
    (hreply : (node (config.nodeCall ⟨bytes⟩)).InTime config.timeout (.ok reply))
    : (config.dispatch node target data).result = .ok out
        ↔
      ∃ a : Address, Reply.owner reply = .ok a ∧ out = Bytes.zeros 12 ++ a.toBytes := by
  rw [result_eq_ok_iff_value hforwards hreply]
  simp only [Reply.value, Except.map_eq_ok_iff]
  constructor
  . intro h
    rcases h with ⟨v, ⟨a, ha, rfl⟩, rfl⟩
    exact ⟨a, ha, Reply.pack_address a⟩
  . intro h
    rcases h with ⟨a, ha, rfl⟩
    exact ⟨_, ⟨a, ha, rfl⟩, Reply.pack_address a⟩

theorem result_eq_ok_iff_holdsOwner (hforwards : config.Forwards target data .ownerOf bytes)
    (hreply : (node (config.nodeCall ⟨bytes⟩)).InTime config.timeout (.ok reply))
    : (config.dispatch node target data).result = .ok out
        ↔
      ∃ buffer, Hex.decode reply = .ok buffer
        ∧ Reply.HoldsOwner buffer
        ∧ out = Bytes.zeros 12 ++ buffer.drop (buffer.length - 20) := by
  simp only [result_eq_ok_iff_owner hforwards hreply, Reply.owner_eq_ok_iff,
    Reply.holdsOwner_and_iff]
  constructor
  . intro h
    rcases h with ⟨a, ⟨buffer, hdecode, hbuffer⟩, hout⟩
    exact ⟨buffer, hdecode, a, hbuffer, hout⟩
  . intro h
    rcases h with ⟨buffer, hdecode, a, hbuffer, hout⟩
    exact ⟨a, ⟨buffer, hdecode, hbuffer⟩, hout⟩

theorem result_of_ownerReply (config : Config) (node : Node) (target : Address) (data : String)
    (bytes : Bytes) (reply : String) (hforwards : config.Forwards target data .ownerOf bytes)
    (hreply : (node (config.nodeCall ⟨bytes⟩)).InTime config.timeout (.ok reply))
    : let result := (config.dispatch node target data).result
      (∀ out, result = .ok out ↔
          ∃ buffer, Hex.decode reply = .ok buffer
            ∧ Reply.HoldsOwner buffer
            ∧ out = Bytes.zeros 12 ++ buffer.drop (buffer.length - 20))
        ∧ ((¬∃ buffer, Hex.decode reply = .ok buffer ∧ Reply.HoldsOwner buffer) →
            ∃ fault, result = .error (.malformedReply .ownerOf reply fault))
        ∧ ∀ a : Address,
            Hex.Spells a.toBytes reply ∨ Hex.Spells (Abi.addressSlot a) reply →
              result = .ok (Abi.addressSlot a) := by
  refine ⟨fun out => result_eq_ok_iff_holdsOwner hforwards hreply, ?_, ?_⟩
  . intro h
    apply exists_malformedReply hforwards hreply
    intro out hout
    rcases (result_eq_ok_iff_holdsOwner hforwards hreply).mp hout with
      ⟨buffer, hdecode, hholds, -⟩
    exact h ⟨buffer, hdecode, hholds⟩
  . intro a hspells
    rw [result_eq_ok_iff_owner hforwards hreply]
    refine ⟨a, Reply.owner_eq_ok_iff.mpr ?_, ?_⟩
    . rw [← Reply.pack_address_eq_addressSlot, Reply.pack_address] at hspells
      rcases hspells with hspells | hspells
      . exact ⟨_, Hex.decode_of_spells hspells, .inl rfl⟩
      . exact ⟨_, Hex.decode_of_spells hspells, .inr rfl⟩
    . rw [← Reply.pack_address_eq_addressSlot, Reply.pack_address]

def bareReply : String :=
  "0XAbaBAbaBAbaBAbaBAbaBAbaBAbaBAbaBAbaBAbaB"

def bareNode : Node :=
  fun _ => .after (.ofMillis 5) (.ok bareReply)

theorem result_of_bareReply
    : sample.Forwards sample.contract (Hex.encode ownerCalldata) .ownerOf ownerCalldata
        ∧ (bareNode (sample.nodeCall ⟨ownerCalldata⟩)).InTime sample.timeout (.ok bareReply)
        ∧ (sample.dispatch bareNode sample.contract (Hex.encode ownerCalldata)).result
            = .ok (Bytes.zeros 12 ++ List.replicate 20 0xab) := by
  have hforwards := forwards_ownerCalldata sample
  have hreply : (bareNode (sample.nodeCall ⟨ownerCalldata⟩)).InTime sample.timeout
      (.ok bareReply) :=
    ⟨_, rfl, by decide⟩
  have hspells : Hex.Spells (List.replicate 20 0xab) bareReply :=
    ⟨['0', 'X'], "AbaBAbaBAbaBAbaBAbaBAbaBAbaBAbaBAbaBAbaB".toList, by decide, by simp,
      by decide⟩
  refine ⟨hforwards, hreply, ?_⟩
  exact (result_of_ownerReply sample bareNode _ _ _ _ hforwards hreply).2.2
    ⟨List.replicate 20 0xab, rfl⟩ (.inl hspells)

theorem length_of_decode_lt {buffer : Bytes} (hlength : (Text.utf8 reply).length < 2 ^ 64)
    (h : Hex.decode reply = .ok buffer)
    : buffer.length < 2 ^ 63 := by
  have := Hex.length_of_decode h
  omega

theorem result_eq_ok_iff_text (hforwards : config.Forwards target data method bytes)
    (hmethod : method = .tokenURI ∨ method = .uri)
    (hreply : (node (config.nodeCall ⟨bytes⟩)).InTime config.timeout (.ok reply))
    : (config.dispatch node target data).result = .ok out
        ↔
      ∃ buffer s, Hex.decode reply = .ok buffer
        ∧ Abi.decodeString buffer = .ok s
        ∧ out = Abi.pack [.string s] := by
  have hvalue : Reply.value method reply = (Reply.text reply).map .string := by
    rcases hmethod with rfl | rfl <;> rfl
  rw [result_eq_ok_iff_value hforwards hreply, hvalue]
  simp only [Except.map_eq_ok_iff, Reply.text_eq_ok_iff]
  constructor
  . intro h
    rcases h with ⟨v, ⟨s, ⟨buffer, hdecode, hread⟩, rfl⟩, rfl⟩
    exact ⟨buffer, s, hdecode, hread, rfl⟩
  . intro h
    rcases h with ⟨buffer, s, hdecode, hread, rfl⟩
    exact ⟨_, ⟨s, ⟨buffer, hdecode, hread⟩, rfl⟩, rfl⟩

theorem result_eq_ok_iff_holdsText (hforwards : config.Forwards target data method bytes)
    (hmethod : method = .tokenURI ∨ method = .uri)
    (hreply : (node (config.nodeCall ⟨bytes⟩)).InTime config.timeout (.ok reply))
    (hlength : (Text.utf8 reply).length < 2 ^ 64)
    : (config.dispatch node target data).result = .ok out
        ↔
      ∃ buffer s, Hex.decode reply = .ok buffer
        ∧ Abi.HoldsText buffer s
        ∧ out = Abi.pack [.string s] := by
  rw [result_eq_ok_iff_text hforwards hmethod hreply]
  constructor
  . intro h
    rcases h with ⟨buffer, s, hdecode, hread, hout⟩
    have hbuffer := length_of_decode_lt hlength hdecode
    exact ⟨buffer, s, hdecode, (Abi.decodeString_eq_ok_iff_of_length_lt hbuffer).mp hread, hout⟩
  . intro h
    rcases h with ⟨buffer, s, hdecode, hholds, hout⟩
    have hbuffer := length_of_decode_lt hlength hdecode
    exact ⟨buffer, s, hdecode, (Abi.decodeString_eq_ok_iff_of_length_lt hbuffer).mpr hholds, hout⟩

theorem result_of_textReply (config : Config) (node : Node) (target : Address) (data : String)
    (method : Method) (bytes : Bytes) (reply : String)
    (hforwards : config.Forwards target data method bytes)
    (hmethod : method = .tokenURI ∨ method = .uri)
    (hreply : (node (config.nodeCall ⟨bytes⟩)).InTime config.timeout (.ok reply))
    (hlength : (Text.utf8 reply).length < 2 ^ 64)
    : let result := (config.dispatch node target data).result
      (∀ out, result = .ok out ↔
          ∃ buffer s, Hex.decode reply = .ok buffer
            ∧ Abi.HoldsText buffer s
            ∧ out = Abi.pack [.string s])
        ∧ ((¬∃ buffer s, Hex.decode reply = .ok buffer ∧ Abi.HoldsText buffer s) →
            ∃ fault, result = .error (.malformedReply method reply fault))
        ∧ ∀ s, Hex.Spells (Abi.pack [.string s]) reply → result = .ok (Abi.pack [.string s]) := by
  refine ⟨fun out => result_eq_ok_iff_holdsText hforwards hmethod hreply hlength, ?_, ?_⟩
  . intro h
    apply exists_malformedReply hforwards hreply
    intro out hout
    rcases (result_eq_ok_iff_holdsText hforwards hmethod hreply hlength).mp hout with
      ⟨buffer, s, hdecode, hholds, -⟩
    exact h ⟨buffer, s, hdecode, hholds⟩
  . intro s hspells
    have hdecode := Hex.decode_of_spells hspells
    have hpack := length_of_decode_lt hlength hdecode
    have hread : Abi.decodeString (Abi.pack [.string s]) = .ok s := by
      apply Abi.decodeString_pack
      exact (Abi.addressable_of_length_lt hpack 0 s rfl).2
    rw [result_eq_ok_iff_holdsText hforwards hmethod hreply hlength]
    exact ⟨_, s, hdecode, (Abi.decodeString_eq_ok_iff_of_length_lt hpack).mp hread, rfl⟩

theorem holdsText_looseReply : Abi.HoldsText looseReply "hi" where
  aligned := by decide +kernel
  nonempty := by decide +kernel
  behind := by decide +kernel
  pointer := by decide +kernel
  text := by decide +kernel
  payload := by decide +kernel

theorem result_of_looseReply
    : sample.Forwards sample.contract (Hex.encode descriptionCalldata) .tokenURI descriptionCalldata
        ∧ (Text.utf8 (Hex.encode looseReply)).length < 2 ^ 64
        ∧ Abi.HoldsText looseReply "hi"
        ∧ (sample.dispatch looseNode sample.contract (Hex.encode descriptionCalldata)).result
            = .ok (Abi.pack [.string "hi"]) := by
  have hforwards := forwards_iff.mpr (plan_descriptionCalldata sample)
  have hlength : (Text.utf8 (Hex.encode looseReply)).length < 2 ^ 64 := by decide +kernel
  have hreply : (looseNode (sample.nodeCall ⟨descriptionCalldata⟩)).InTime sample.timeout
      (.ok (Hex.encode looseReply)) :=
    ⟨_, rfl, by decide⟩
  refine ⟨hforwards, hlength, holdsText_looseReply, ?_⟩
  rw [(result_of_textReply sample looseNode _ _ _ _ _ hforwards (.inl rfl) hreply hlength).1]
  exact ⟨looseReply, "hi", Hex.decode_encode _, holdsText_looseReply, rfl⟩

theorem result_no_longer_than_reply
    : (∀ (buffer : Bytes) (s : String), Abi.decodeString buffer = .ok s →
          64 + 32 * (((Text.utf8 s).length + 31) / 32) ≤ buffer.length)
        ∧ ∀ (config : Config) (node : Node) (target : Address) (data : String) (method : Method)
            (bytes : Bytes) (reply : String) (out : Bytes),
            config.Forwards target data method bytes →
            method = .tokenURI ∨ method = .uri →
            (node (config.nodeCall ⟨bytes⟩)).InTime config.timeout (.ok reply) →
            (config.dispatch node target data).result = .ok out →
              ∃ buffer s, Hex.decode reply = .ok buffer
                ∧ Abi.decodeString buffer = .ok s
                ∧ out.length = 64 + 32 * (((Text.utf8 s).length + 31) / 32)
                ∧ out.length ≤ buffer.length := by
  constructor
  . intro buffer s hread
    rw [← Abi.length_pack_text]
    exact Abi.length_pack_le_of_decodeString hread
  . intro config node target data method bytes reply out hforwards hmethod hreply hresult
    rcases (result_eq_ok_iff_text hforwards hmethod hreply).mp hresult with
      ⟨buffer, s, hdecode, hread, rfl⟩
    exact ⟨buffer, s, hdecode, hread, Abi.length_pack_text s,
      Abi.length_pack_le_of_decodeString hread⟩

theorem length_of_looseReply
    : looseReply.length = 128
        ∧ ∃ out,
            (sample.dispatch looseNode sample.contract (Hex.encode descriptionCalldata)).result
                = .ok out
              ∧ out.length = 96
              ∧ out.length ≤ looseReply.length := by
  have hforwards := forwards_iff.mpr (plan_descriptionCalldata sample)
  have hreply : (looseNode (sample.nodeCall ⟨descriptionCalldata⟩)).InTime sample.timeout
      (.ok (Hex.encode looseReply)) :=
    ⟨_, rfl, by decide⟩
  have hresult : (sample.dispatch looseNode sample.contract (Hex.encode descriptionCalldata)).result
      = .ok (Abi.pack [.string "hi"]) := by
    rw [result_dispatch, answer_looseNode]
    rfl
  have hlength : looseReply.length = 128 := by decide +kernel
  rcases result_no_longer_than_reply.2 sample looseNode _ _ _ _ _ _ hforwards (.inl rfl) hreply
    hresult with ⟨buffer, s, hdecode, -, -, hle⟩
  rw [Hex.decode_encode, Except.ok.injEq] at hdecode
  rw [← hdecode] at hle
  exact ⟨hlength, _, hresult, by decide +kernel, hle⟩

end Config

end TokenGateway
