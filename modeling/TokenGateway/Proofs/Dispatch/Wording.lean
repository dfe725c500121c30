import TokenGateway.Proofs.Address
import TokenGateway.Proofs.CallError
import TokenGateway.Proofs.Text.Quoted

namespace TokenGateway

theorem Hex.mentions_of_decode_error {text : String} {cause : Hex.Error}
    (h : Hex.decode text = .error cause)
    : Text.Mentions cause.message (Text.quote text) := by
  have hquote := Text.mentions_self (Text.quote text)
  cases cause with
  | oddLength input =>
    rw [(Hex.decode_eq_oddLength_iff.mp h).1]
    exact (hquote.prepend _).append _
  | invalidCharacter input c index =>
    rw [(Hex.decode_eq_invalidCharacter_iff.mp h).1]
    exact ((((hquote.prepend _).append _).append _).append _).append _

theorem Method.mentions_of_refuses {method : Method} {arguments : Bytes} {cause : Abi.Error}
    (h : method.Refuses arguments cause)
    : Text.Mentions cause.message (Hex.encode arguments) := by
  have harguments := Text.mentions_self (Hex.encode arguments)
  cases h with
  | misaligned hlength => exact harguments.prepend _
  | lengthMismatch haligned hlength => exact harguments.prepend _
  | dirtySlot hparam hlength hdirty => exact harguments.prepend _

namespace Config

/--
The rules by which a message names what a call failed for. A missing parameter has none, since no
call fails for it.
-/
inductive NamesCause (config : Config) (node : Node) (target : Address) (data message : String)
    : CallError → Prop
  | contract {shown shown' : String} (hshown : shown.toLower = target.plain)
      (htarget : Text.Mentions message shown) (hshown' : shown'.toLower = config.contract.plain)
      (hexpected : Text.Mentions message shown')
    : NamesCause config node target data message (.unknownContract target config.contract)
  | hex {cause : Hex.Error} (hdecode : Hex.decode data = .error cause)
      (hquote : Text.Mentions message (Text.quote data))
      (hplain : Text.IsPlain data → Text.Mentions message data)
    : NamesCause config node target data message (.malformedHex cause)
  | short {bytes : Bytes} (hdecode : Hex.decode data = .ok bytes)
      (hbytes : Text.Mentions message (Hex.encode bytes))
    : NamesCause config node target data message (.shortCalldata (Hex.encode bytes))
  | unknown {bytes : Bytes} {selector : Selector} (hdecode : Hex.decode data = .ok bytes)
      (hselector : bytes.take 4 = selector.toBytes)
      (hbytes : Text.Mentions message (Hex.encode (bytes.take 4)))
    : NamesCause config node target data message (.unknownMethod selector)
  | arguments {bytes : Bytes} {method : Method} {cause : Abi.Error}
      (hdecode : Hex.decode data = .ok bytes) (hmethod : bytes.take 4 = method.selector.toBytes)
      (hbytes : Text.Mentions message (Hex.encode (bytes.drop 4)))
    : NamesCause config node target data message (.malformedParameters method cause)
  | failure {bytes : Bytes} {method : Method} {cause : Node.Error}
      (hdecode : Hex.decode data = .ok bytes) (hmethod : bytes.take 4 = method.selector.toBytes)
      (hbytes : Text.Mentions message (Hex.encode bytes))
      (hname : Text.Mentions message method.functionName)
    : NamesCause config node target data message (.nodeFailure method (Hex.encode bytes) cause)
  | reply {bytes : Bytes} {method : Method} {reply : String} {fault : ReplyFault}
      (hdecode : Hex.decode data = .ok bytes) (hmethod : bytes.take 4 = method.selector.toBytes)
      (harrives : (node (config.nodeCall ⟨bytes⟩)).within config.timeout = .ok reply)
      (hreply : Text.Mentions message reply) (hname : Text.Mentions message method.functionName)
    : NamesCause config node target data message (.malformedReply method reply fault)

variable {config : Config} {node : Node} {target : Address} {data : String} {e : CallError}

theorem namesCause_of_refused (h : config.Refused target data e)
    : config.NamesCause node target data e.message e := by
  cases h with
  | contract htarget =>
    have hshown := Text.mentions_self target.checksummed
    have hshown' := Text.mentions_self config.contract.checksummed
    apply NamesCause.contract target.toLower_checksummed _ config.contract.toLower_checksummed
    . exact hshown'.prepend _
    . exact ((hshown.prepend _).append _).append _
  | hex htarget hdecode =>
    have hquote := Hex.mentions_of_decode_error hdecode
    apply NamesCause.hex hdecode hquote
    intro hplain
    exact hquote.trans (Text.mentions_quote hplain)
  | @calldata bytes e htarget hdecode hrefused =>
    cases hrefused with
    | short hlength =>
      have hbytes := Text.mentions_self (Hex.encode bytes)
      exact .short hdecode ((hbytes.prepend _).append _)
    | unknown hselector hlookup =>
      have hbytes := Text.mentions_self (Hex.encode (bytes.take 4))
      apply NamesCause.unknown hdecode hselector
      -- The message shows the selector, which is what the first four bytes are.
      rw [hselector] at hbytes ⊢
      exact hbytes.prepend _
    | arguments hselector hlookup hparams hcause =>
      rw [Registry.lookup_standard_eq_some_iff] at hlookup
      subst hlookup
      exact .arguments hdecode hselector ((Method.mentions_of_refuses hcause).prepend _)

theorem namesCause_of_settle {method : Method} {calldata : Calldata}
    (hplan : config.plan target data = .ok (.ask method calldata))
    (h : settle method (Hex.encode calldata.bytes)
        ((node (config.nodeCall calldata)).within config.timeout)
      = .error e)
    : config.NamesCause node target data e.message e := by
  rcases plan_eq_ask_iff.mp hplan with ⟨-, hdecode, hmethod, -, -⟩
  rw [Calldata.method_eq_ok_iff_take] at hmethod
  have hname := (Text.mentions_self method.functionName).prepend
  rcases settle_eq_error_iff.mp h with ⟨cause, -, rfl⟩ | ⟨reply, fault, harrives, -, rfl⟩
  . have hbytes := (Text.mentions_self (Hex.encode calldata.bytes)).prepend
    apply NamesCause.failure hdecode hmethod
    . exact ((hbytes _).append _).append _
    . exact ((((hname _).append _).append _).append _).append _
  . have hreply := (Text.mentions_self reply).prepend
    apply NamesCause.reply hdecode hmethod harrives
    . exact (hreply _).append _
    . exact (((((hname _).append _).append _).append _).append _).append _

theorem message_names_cause (config : Config) (node : Node) (target : Address) (data : String)
    (e : CallError) (h : (config.dispatch node target data).result = .error e)
    (hwraps : ∀ object, ¬e.Wraps object)
    : config.NamesCause node target data e.toObject.message e := by
  rw [CallError.toObject_of_not_wraps hwraps]
  rcases refused_or_settles h with hrefused | ⟨method, calldata, hplan, hsettle⟩
  . exact namesCause_of_refused hrefused
  . exact namesCause_of_settle hplan hsettle

theorem message_of_dirtyArgument
    : (sample.dispatch (fun _ => .never) sample.contract
          (Hex.encode (Method.balanceOf.selector.toBytes ++ dirtyArgument))).result
          = .error (.malformedParameters .balanceOf (.dirtySlot "owner" .address dirtyArgument))
        ∧ Text.Mentions
            (CallError.malformedParameters .balanceOf
              (.dirtySlot "owner" .address dirtyArgument)).toObject.message
            (Hex.encode dirtyArgument)
        ∧ (sample.dispatch (fun _ => .never) sample.contract (Hex.encode ownerCalldata)).result
            = .error (.nodeFailure .ownerOf (Hex.encode ownerCalldata) (.timeout sample.timeout))
        ∧ Text.Mentions
            (CallError.nodeFailure .ownerOf (Hex.encode ownerCalldata)
              (.timeout sample.timeout)).toObject.message
            (Hex.encode ownerCalldata) := by
  have hdirty := (@result_eq_error_iff _ (fun _ => .never) _ _ _).mpr refused_dirtyArgument
  have hnever : (sample.dispatch (fun _ => .never) sample.contract
      (Hex.encode ownerCalldata)).result
      = .error (.nodeFailure .ownerOf (Hex.encode ownerCalldata) (.timeout sample.timeout)) := by
    rw [dispatch_of_ask (plan_ownerCalldata sample)]
    rfl
  refine ⟨hdirty.1, ?_, hnever, ?_⟩
  . have hnames := message_names_cause sample (fun _ => .never) _ _ _ hdirty.1
      (by simp [CallError.Wraps])
    cases hnames with
    | arguments hdecode hmethod hbytes =>
      rw [Hex.decode_encode, Except.ok.injEq] at hdecode
      rw [← hdecode, List.drop_left' Method.balanceOf.selector.length_toBytes] at hbytes
      exact hbytes
  . have hnames := message_names_cause sample (fun _ => .never) _ _ _ hnever
      (by simp [CallError.Wraps])
    -- Two encoded texts cannot be told apart by cases, but a variable can take the other's value.
    generalize Hex.encode ownerCalldata = shown at hnames ⊢
    cases hnames with
    | failure hdecode hmethod hbytes hname => exact hbytes

end Config
end TokenGateway
