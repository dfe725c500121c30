import TokenGateway.Proofs.Node.Client

namespace TokenGateway.CallError

def Wraps (e : CallError) (object : Rpc.ErrorObject) : Prop :=
  ∃ method calldata, e = .nodeFailure method calldata (.rpc object)

def IsPlain : CallError → Prop
  | .malformedHex _ => True
  | .shortCalldata _ => True
  | .malformedParameters _ _ => True
  | .missingParameter _ _ => True
  | _ => False

inductive TellsCause : CallError → Option Json → Prop
  | plain {e : CallError} (he : e.IsPlain)
    : TellsCause e none
  | selector {selector : Selector} {data : Json}
      (hselector : data.HasHex "selector" selector.toBytes)
    : TellsCause (.unknownMethod selector) (some data)
  | contract {target expected : Address} {data : Json}
      (htarget : data.HasHex "to" target.toBytes)
      (hexpected : data.HasHex "expected" expected.toBytes)
    : TellsCause (.unknownContract target expected) (some data)
  | failure {method : Method} {calldata : String} {cause : Node.Error} {data : Json}
      (hcalldata : data.HasMember "calldata" (.string calldata))
      (hmethod : data.HasMember "method" (.string method.functionName))
      (hcause : data.HasMember "upstream" (.string cause.message))
    : TellsCause (.nodeFailure method calldata cause) (some data)
  | reply {method : Method} {reply : String} {fault : ReplyFault} {data : Json}
      (hreply : data.HasMember "upstream" (.string reply))
    : TellsCause (.malformedReply method reply fault) (some data)

variable {e : CallError} {object : Rpc.ErrorObject}

theorem toObject_of_wraps (h : e.Wraps object) : e.toObject = object := by
  rcases h with ⟨method, calldata, rfl⟩
  rfl

theorem code_toObject (e : CallError) : e.toObject.code = e.code := by
  cases e with
  | nodeFailure method calldata cause => cases cause <;> rfl
  | _ => rfl

section Own

variable (h : ∀ object, ¬e.Wraps object)

include h

theorem toObject_of_not_wraps : e.toObject = ⟨e.code, e.message, e.data?⟩ := by
  cases e with
  | nodeFailure method calldata cause =>
    cases cause with
    | rpc object => exact absurd ⟨method, calldata, rfl⟩ (h object)
    | transport detail => rfl
    | timeout deadline => rfl
  | _ => rfl

theorem isOwn_toObject : e.toObject.IsOwn := by
  rcases e.toObject_cases with hwraps | hown
  . exact absurd hwraps (h _)
  . exact hown

end Own

theorem tellsCause_data? (e : CallError) : e.TellsCause e.data? := by
  cases e with
  | malformedHex cause => exact .plain trivial
  | shortCalldata calldata => exact .plain trivial
  | malformedParameters method cause => exact .plain trivial
  | missingParameter method name => exact .plain trivial
  | unknownMethod selector =>
    exact .selector ⟨_, ⟨_, rfl, rfl⟩, Hex.decode_encode _⟩
  | unknownContract target expected =>
    exact .contract ⟨_, ⟨_, rfl, rfl⟩, Hex.decode_encode _⟩ ⟨_, ⟨_, rfl, rfl⟩, Hex.decode_encode _⟩
  | nodeFailure method calldata cause =>
    exact .failure ⟨_, rfl, rfl⟩ ⟨_, rfl, rfl⟩ ⟨_, rfl, rfl⟩
  | malformedReply method reply fault => exact .reply ⟨_, rfl, rfl⟩

theorem toObject_tells_cause (e : CallError)
    : e.toObject.code = e.code
        ∧ (∀ object, e.Wraps object → e.toObject = object)
        ∧ ((∀ object, ¬e.Wraps object) →
            e.toObject.message = e.message
              ∧ e.TellsCause e.toObject.data?
              ∧ (Json.parse e.toObject.toJson.render).bind Rpc.ErrorObject.ofJson?
                  =
                some e.toObject) := by
  refine ⟨code_toObject e, fun object => toObject_of_wraps, ?_⟩
  intro h
  have hown := isOwn_toObject h
  have hreadable := Rpc.ErrorObject.hasReadableData_of_isOwn hown
  refine ⟨?_, ?_, ?_⟩
  . rw [toObject_of_not_wraps h]
  . rw [toObject_of_not_wraps h]
    exact tellsCause_data? e
  . rw [Json.parse_render (Rpc.ErrorObject.isReadable_toJson hreadable)]
    exact Rpc.ErrorObject.ofJson?_toJson_of_isOwn hown

theorem toObject_of_unknownSelector
    : (∃ data, (unknownMethod ⟨[0xde, 0xad, 0xbe, 0xef], rfl⟩).toObject.data? = some data
          ∧ data.HasHex "selector" [0xde, 0xad, 0xbe, 0xef])
        ∧ (nodeFailure .ownerOf "0x6352211e" (.rpc ⟨3, "execution reverted", none⟩)).toObject
            =
          ⟨3, "execution reverted", none⟩ := by
  constructor
  . have hwraps : ∀ object, ¬(unknownMethod ⟨[0xde, 0xad, 0xbe, 0xef], rfl⟩).Wraps object := by
      simp [Wraps]
    rcases (toObject_tells_cause _).2.2 hwraps with ⟨-, htells, -⟩
    cases htells with
    | selector hselector => exact ⟨_, rfl, hselector⟩
  . exact (toObject_tells_cause _).2.1 _ ⟨_, _, rfl⟩

end TokenGateway.CallError
