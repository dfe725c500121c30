import TokenGateway.Proofs.Except
import TokenGateway.Proofs.Hex
import TokenGateway.Proofs.Json.Fields
import TokenGateway.Proofs.Rpc.Reach

namespace TokenGateway

theorem Address.ofText_of_spells {address : Address} {text : String}
    (h : Hex.Spells address.toBytes text)
    : Address.ofText text = .ok address := by
  rcases Hex.readPairs_of_spells h with ⟨hlength, hread⟩
  rw [address.length_toBytes] at hlength
  unfold Address.ofText
  dsimp only
  rw [if_neg (by omega), if_neg (by omega), hread]
  dsimp only
  rw [FixedBytes.ofBytes?_toBytes]

namespace Rpc

inductive EncodesText : Option String → Option Json → Prop
  | absent
    : EncodesText none none
  | null
    : EncodesText none (some .null)
  | text (s : String)
    : EncodesText (some s) (some (.string s))

/--
The ways to write a transaction: an object or an array, which leaves out at its end only.
-/
inductive EncodesTransaction (address : Address) (input? data? : Option String) : Json → Prop
  | object {target : String} {input data : Option Json} {fields : List (String × Json)}
      (htarget : Hex.Spells address.toBytes target) (hinput : EncodesText input? input)
      (hdata : EncodesText data? data)
      (hfields :
        Json.Gives [("to", some (.string target)), ("input", input), ("data", data)] fields)
    : EncodesTransaction address input? data? (.object fields)
  | array {target : String} {input data : Option Json}
      (htarget : Hex.Spells address.toBytes target) (hinput : EncodesText input? input)
      (hdata : EncodesText data? data) (hgap : input = none → data = none)
    : EncodesTransaction address input? data?
        (.array (.string target :: (input.toList ++ data.toList)))

inductive EncodesParams (address : Address) (input? data? : Option String) : Params → Prop
  | positional {transaction : Json} {tag? : Option String} {tag : Option Json} {extra : List Json}
      (htransaction : EncodesTransaction address input? data? transaction)
      (htag : EncodesText tag? tag) (hgap : tag = none → extra = [])
    : EncodesParams address input? data? (.positional (transaction :: (tag.toList ++ extra)))
  | named {transaction : Json} {tag? : Option String} {tag : Option Json}
      {fields : List (String × Json)}
      (htransaction : EncodesTransaction address input? data? transaction)
      (htag : EncodesText tag? tag)
      (hfields : Json.Gives [("request", some transaction), ("tag", tag)] fields)
    : EncodesParams address input? data? (.named fields)

def EncodesCall (id : Id) (address : Address) (input? data? : Option String) (text : String)
    : Prop :=
  ∃ params, Request.ofText? text = some ⟨id, "eth_call", params⟩
    ∧ EncodesParams address input? data? params

variable {address : Address} {input? data? : Option String}

theorem optionalText?_of_encodes {text? : Option String} {json? : Option Json}
    (h : EncodesText text? json?)
    : optionalText? json? = some text? := by
  cases h with
  | absent => rfl
  | null => rfl
  | text s => rfl

theorem ofParts?_of_encodes {target : String} {input data : Option Json}
    (htarget : Hex.Spells address.toBytes target) (hinput : EncodesText input? input)
    (hdata : EncodesText data? data)
    : CallRequest.ofParts? (.string target) input data = some ⟨address, input?, data?⟩ := by
  unfold CallRequest.ofParts? Address.ofJson?
  dsimp only
  rw [Address.ofText_of_spells htarget, optionalText?_of_encodes hinput,
    optionalText?_of_encodes hdata]
  rfl

theorem callRequest_of_encodes {transaction : Json}
    (h : EncodesTransaction address input? data? transaction)
    : CallRequest.ofJson? transaction = some ⟨address, input?, data?⟩ := by
  cases h with
  | object htarget hinput hdata hfields =>
    have hkeys : ["to", "input", "data"].Nodup := by decide
    have hto := Json.only?_of_gives hfields hkeys (.head _)
    have hinput' := Json.only?_of_gives hfields hkeys (.tail _ (.head _))
    have hdata' := Json.only?_of_gives hfields hkeys (.tail _ (.tail _ (.head _)))
    have hparts := ofParts?_of_encodes htarget hinput hdata
    unfold CallRequest.ofJson?
    dsimp only
    rw [hto, hinput', hdata']
    exact hparts
  | @array target input data htarget hinput hdata hgap =>
    -- A missing place is at the end, so each place is read as the member it was written for.
    have hparts := ofParts?_of_encodes htarget hinput hdata
    cases input with
    | none =>
      rw [hgap rfl] at hparts ⊢
      exact hparts
    | some input =>
      cases data with
      | none => exact hparts
      | some data => exact hparts

theorem bindParams_of_encodes {params : Params} (h : EncodesParams address input? data? params)
    : ∃ transaction tag? tag,
        bindParams [["request"], ["tag"]] params = some [some transaction, tag]
          ∧ EncodesTransaction address input? data? transaction
          ∧ EncodesText tag? tag := by
  cases h with
  | @positional transaction tag? tag extra htransaction htag hgap =>
    refine ⟨transaction, tag?, tag, ?_, htransaction, htag⟩
    cases tag with
    | none =>
      rw [hgap rfl]
      rfl
    | some tag => rfl
  | named htransaction htag hfields =>
    have hkeys : ["request", "tag"].Nodup := by decide
    have hrequest := Json.only?_of_gives hfields hkeys (.head _)
    have htag' := Json.only?_of_gives hfields hkeys (.tail _ (.head _))
    refine ⟨_, _, _, ?_, htransaction, htag⟩
    unfold bindParams
    simp only [List.mapM_cons, List.mapM_nil, hrequest, htag']
    rfl

theorem callParams?_of_encodes {params : Params} (h : EncodesParams address input? data? params)
    : ∃ tag?, callParams? params = some (⟨address, input?, data?⟩, tag?) := by
  rcases bindParams_of_encodes h with ⟨transaction, tag?, tag, hbind, htransaction, htag⟩
  refine ⟨tag?, ?_⟩
  unfold callParams?
  rw [hbind]
  -- With both places bound, what is left is to read the two values.
  change (do return (← CallRequest.ofJson? transaction, ← optionalText? tag)) = _
  rw [callRequest_of_encodes htransaction, optionalText?_of_encodes htag]
  rfl

theorem calldata_eq (address : Address) (input? data? : Option String)
    : (CallRequest.mk address input? data?).calldata = (input?.or data?).getD "0x" := by
  cases input? with
  | none =>
    cases data? with
    | none => rfl
    | some data => rfl
  | some input => rfl

theorem payload_callAnswer (config : Config) (node : Node) (call : CallRequest)
    : (∀ out, (config.dispatch node call.to call.calldata).result = .ok out →
          (callAnswer config node call).payload = .ok (.string (Hex.encode out)))
        ∧ ∀ e, (config.dispatch node call.to call.calldata).result = .error e →
            (callAnswer config node call).payload = .error e.toObject := by
  unfold callAnswer
  constructor
  . intro out h
    dsimp only
    rw [h]
  . intro e h
    dsimp only
    rw [h]

theorem serveText_of_encodesCall (config : Config) (node : Node) (id : Id) (address : Address)
    (input? data? : Option String)
    : let run := config.dispatch node address ((input?.or data?).getD "0x")
      ∃ payload,
        (∀ text, EncodesCall id address input? data? text →
            serveText config node text = some (⟨id, payload⟩, run.calls))
          ∧ (∀ out, run.result = .ok out → payload = .ok (.string (Hex.encode out)))
          ∧ ∀ e, run.result = .error e → payload = .error e.toObject := by
  rw [← calldata_eq address]
  refine ⟨_, ?_, payload_callAnswer config node ⟨address, input?, data?⟩⟩
  intro text h
  rcases h with ⟨params, hrequest, hparams⟩
  rcases callParams?_of_encodes hparams with ⟨tag?, hcall⟩
  unfold serveText
  rw [hrequest, Option.map_some, serve_of_callParams rfl hcall]

def letters : Address :=
  ⟨List.replicate 20 0xef, rfl⟩

def lettersConfig : Config :=
  { Config.sample with contract := letters }

def objectTransaction : Json :=
  .object
    [("gas", .null), ("data", .string "0x06fdde03"), ("input", .string ""),
     ("to", .string "0XEFefEFefEFefEFefEFefEFefEFefEFefEFefEFef")]

def arrayTransaction : Json :=
  .array [.string "efEFefEFefEFefEFefEFefEFefEFefEFefEFefEF", .string "", .string "0x06fdde03"]

def namedCall : String :=
  "\x7b\"jsonrpc\":\"2.0\",\"id\":1,\"method\":\"eth_call\",\"params\":"
    ++ "\x7b\"more\":7,\"tag\":\"latest\",\"request\":\x7b\"gas\":null,\"data\":\"0x06fdde03\","
    ++ "\"input\":\"\",\"to\":\"0XEFefEFefEFefEFefEFefEFefEFefEFefEFefEFef\"\x7d\x7d\x7d"

def positionalCall : String :=
  "\x7b\"jsonrpc\":\"2.0\",\"id\":1,\"method\":\"eth_call\",\"params\":"
    ++ "[[\"efEFefEFefEFefEFefEFefEFefEFefEFefEFefEF\",\"\",\"0x06fdde03\"],null,7]\x7d"

set_option maxRecDepth 4000 in
theorem ofText?_namedCall
    : Request.ofText? namedCall
        =
      some ⟨.number 1, "eth_call",
        .named
          [("more", .number "7"), ("tag", .string "latest"), ("request", objectTransaction)]⟩ := by
  rfl

set_option maxRecDepth 4000 in
theorem ofText?_positionalCall
    : Request.ofText? positionalCall
        =
      some ⟨.number 1, "eth_call", .positional [arrayTransaction, .null, .number "7"]⟩ := by
  rfl

theorem encodesTransaction_object
    : EncodesTransaction letters (some "") (some "0x06fdde03") objectTransaction := by
  have hletters : Hex.Spells letters.toBytes "0XEFefEFefEFefEFefEFefEFefEFefEFefEFefEFef" :=
    ⟨['0', 'X'], "EFefEFefEFefEFefEFefEFefEFefEFefEFefEFef".toList, by decide, by simp, by decide⟩
  apply EncodesTransaction.object hletters (.text "") (.text "0x06fdde03")
  exact ⟨[("gas", .null)], (List.reverse_perm _).symm, by simp⟩

theorem encodesTransaction_array
    : EncodesTransaction letters (some "") (some "0x06fdde03") arrayTransaction := by
  have hletters : Hex.Spells letters.toBytes "efEFefEFefEFefEFefEFefEFefEFefEFefEFefEF" :=
    ⟨[], "efEFefEFefEFefEFefEFefEFefEFefEFefEFefEF".toList, by decide, by simp, by decide⟩
  exact .array hletters (.text "") (.text "0x06fdde03") (by simp)

theorem serveText_namedCall
    : EncodesCall (.number 1) letters (some "") (some "0x06fdde03") namedCall
        ∧ EncodesCall (.number 1) letters (some "") (some "0x06fdde03") positionalCall
        ∧ serveText lettersConfig (fun _ => .never) namedCall
            = serveText lettersConfig (fun _ => .never) positionalCall
        ∧ serveText lettersConfig (fun _ => .never) namedCall
            = some (⟨.number 1, .error (CallError.shortCalldata "0x").toObject⟩, []) := by
  have hnamed : EncodesCall (.number 1) letters (some "") (some "0x06fdde03") namedCall := by
    refine ⟨_, ofText?_namedCall, ?_⟩
    apply EncodesParams.named encodesTransaction_object (.text "latest")
    exact ⟨[("more", .number "7")], (List.reverse_perm _).symm, by simp⟩
  have hpositional : EncodesCall (.number 1) letters (some "") (some "0x06fdde03") positionalCall :=
    ⟨_, ofText?_positionalCall, .positional encodesTransaction_array .null (by simp)⟩
  rcases serveText_of_encodesCall lettersConfig (fun _ => .never) (.number 1) letters (some "")
    (some "0x06fdde03") with ⟨payload, hserve, -, herror⟩
  refine ⟨hnamed, hpositional, ?_, ?_⟩
  . rw [hserve _ hnamed, hserve _ hpositional]
  . rw [hserve _ hnamed, herror (.shortCalldata "0x") (by rfl)]
    rfl

end Rpc

end TokenGateway
