import TokenGateway.Dispatch
import TokenGateway.Proofs.Abi.Text
import TokenGateway.Proofs.Hex

namespace TokenGateway

namespace Reply

variable {reply : String}

theorem length_slot (a : Address) : (Bytes.zeros 12 ++ a.toBytes).length = Abi.slotLength := by
  rw [List.length_append, Bytes.length_zeros, a.length_toBytes, Abi.slotLength]

theorem pack_address (a : Address) : Abi.pack [.address a] = Bytes.zeros 12 ++ a.toBytes := by
  rw [Abi.pack_singleton]
  simp [Abi.Value.head, Abi.Value.tail, Abi.addressSlot, Abi.rightAligned, a.length_toBytes,
    Abi.slotLength]

theorem ofBytes?_slot (a : Address)
    : FixedBytes.ofBytes? 20 (Bytes.zeros 12 ++ a.toBytes) = none := by
  unfold FixedBytes.ofBytes?
  rw [dif_neg (by rw [length_slot]; decide)]

theorem owner_eq_ok_iff {a : Address}
    : owner reply = .ok a
        ↔
      ∃ bytes, Hex.decode reply = .ok bytes
        ∧ (bytes = a.toBytes ∨ bytes = Bytes.zeros 12 ++ a.toBytes) := by
  unfold owner
  constructor
  . intro h
    split at h
    . cases h
    . next bytes hdecode =>
      refine ⟨bytes, hdecode, ?_⟩
      split at h
      . next haddress =>
        cases h
        exact .inl (FixedBytes.ofBytes?_eq_some_iff.mp haddress)
      . split at h
        . next hlength =>
          split at h
          . next hzero =>
            split at h
            . next haddress =>
              cases h
              have hhigh : bytes.take 12 = Bytes.zeros 12 := by
                rw [Bytes.isZero_iff, List.length_take, hlength] at hzero
                exact hzero
              right
              rw [← FixedBytes.ofBytes?_eq_some_iff.mp haddress, ← hhigh, List.take_append_drop]
            . cases h
          . cases h
        . cases h
  . intro h
    rcases h with ⟨bytes, hdecode, rfl | rfl⟩
    . rw [hdecode]
      dsimp only
      rw [FixedBytes.ofBytes?_toBytes]
      rfl
    -- The slot is longer than an address, so its upper bytes are looked at.
    . have htake : (Bytes.zeros 12 ++ a.toBytes).take 12 = Bytes.zeros 12 :=
        List.take_left' (Bytes.length_zeros 12)
      have hdrop : (Bytes.zeros 12 ++ a.toBytes).drop 12 = a.toBytes :=
        List.drop_left' (Bytes.length_zeros 12)
      rw [hdecode]
      dsimp only
      rw [ofBytes?_slot]
      dsimp only
      rw [if_pos (length_slot a), htake, if_pos (by decide), hdrop, FixedBytes.ofBytes?_toBytes]
      rfl

theorem owner_encode_pack (a : Address)
    : owner (Hex.encode (Abi.pack [.address a])) = .ok a := by
  rw [owner_eq_ok_iff, pack_address]
  exact ⟨_, Hex.decode_encode _, .inr rfl⟩

theorem text_eq_ok_iff {s : String}
    : text reply = .ok s
        ↔
      ∃ bytes, Hex.decode reply = .ok bytes ∧ Abi.decodeString bytes = .ok s := by
  unfold text
  cases Hex.decode reply with
  | error e => simp
  | ok bytes => simp [Except.mapError_eq_ok_iff]

theorem value_encode_pack {method : Method} {value : Abi.Value}
    (h : Reply.value method reply = .ok value)
    : Reply.value method (Hex.encode (Abi.pack [value])) = .ok value := by
  unfold Reply.value at *
  split at h
  . rcases Except.map_eq_ok_iff.mp h with ⟨a, -, rfl⟩
    rw [owner_encode_pack]
    rfl
  . rcases Except.map_eq_ok_iff.mp h with ⟨s, hs, rfl⟩
    rcases text_eq_ok_iff.mp hs with ⟨bytes, -, hdecode⟩
    have hpack := Abi.decodeString_pack (Abi.length_lt_of_decodeString hdecode)
    have htext : text (Hex.encode (Abi.pack [.string s])) = .ok s :=
      text_eq_ok_iff.mpr ⟨_, Hex.decode_encode _, hpack⟩
    rw [htext]
    rfl

end Reply

namespace Config

variable {method : Method} {data : String} {outcome : Node.Outcome}

def settledValue (method : Method) (data : String) : Node.Outcome → Except CallError Abi.Value
  | .error cause => .error (.nodeFailure method data cause)
  | .ok reply => (Reply.value method reply).mapError (.malformedReply method reply)

theorem settle_eq_map
    : settle method data outcome
        =
      (settledValue method data outcome).map fun v => Abi.pack [v] := by
  cases outcome with
  | error cause => rfl
  | ok reply =>
    unfold settle settledValue
    dsimp only
    cases Reply.value method reply <;> rfl

theorem settledValue_eq_ok_iff {v : Abi.Value}
    : settledValue method data outcome = .ok v
        ↔
      ∃ reply, outcome = .ok reply ∧ Reply.value method reply = .ok v := by
  cases outcome with
  | error cause => simp [settledValue]
  | ok reply => simp [settledValue, Except.mapError_eq_ok_iff]

end Config

end TokenGateway
