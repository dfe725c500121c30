import TokenGateway.Proofs.Dispatch.Answer
import TokenGateway.Proofs.Dispatch.Refusal

/-!
Only the bytes of calls and replies count. All that is left of a spelling is that of a reply from
which no answer can be read, since it is told as it came.
-/

namespace TokenGateway

namespace Hex

def capitals (bs : Bytes) : String :=
  String.ofList ('0' :: 'X' :: (digits bs).map Char.toUpper)

theorem spells_capitals (bs : Bytes) : Spells bs (capitals bs) := by
  refine ⟨['0', 'X'], (digits bs).map Char.toUpper, by simp [capitals], by simp, ?_⟩
  rw [List.map_map]
  exact map_digits (by decide) bs

end Hex

namespace Node.Outcome

inductive Alike : Outcome → Outcome → Prop
  | same (outcome : Outcome)
    : Alike outcome outcome
  | reply {bytes : Bytes} {reply reply' : String} (h : Hex.Spells bytes reply)
      (h' : Hex.Spells bytes reply')
    : Alike (.ok reply) (.ok reply')

end Node.Outcome

namespace CallError

inductive Alike : CallError → CallError → Prop
  | same (e : CallError)
    : Alike e e
  | reply (method : Method) {bytes : Bytes} {reply reply' : String} (h : Hex.Spells bytes reply)
      (h' : Hex.Spells bytes reply') (fault : ReplyFault)
    : Alike (.malformedReply method reply fault) (.malformedReply method reply' fault)

theorem Alike.code {e e' : CallError} (h : e.Alike e')
    : e.code = e'.code ∧ e.toObject.code = e'.toObject.code := by
  cases h with
  | same => exact ⟨rfl, rfl⟩
  | reply method h h' fault => exact ⟨rfl, rfl⟩

end CallError

namespace Run

structure Alike (run run' : Run) : Prop where
  calls : run.calls = run'.calls
  result : (∃ out, run.result = .ok out ∧ run'.result = .ok out)
    ∨ ∃ e e', run.result = .error e ∧ run'.result = .error e' ∧ e.Alike e'

theorem alike_refl (run : Run) : run.Alike run := by
  refine ⟨rfl, ?_⟩
  cases run.result with
  | ok out => exact .inl ⟨out, rfl, rfl⟩
  | error e => exact .inr ⟨e, e, rfl, rfl, .same e⟩

theorem Alike.eq_of_ok {run run' : Run} {out : Bytes} (h : run.Alike run')
    (hout : run.result = .ok out)
    : run' = ⟨.ok out, run.calls⟩ := by
  rcases h.result with ⟨out', hresult, hresult'⟩ | ⟨e, e', he, -⟩
  . rw [hout, Except.ok.injEq] at hresult
    rw [hresult, h.calls, ← hresult']
  . rw [hout] at he
    cases he

theorem Alike.code {run run' : Run} (h : run.Alike run') {e e' : CallError}
    (he : run.result = .error e) (he' : run'.result = .error e')
    : e.code = e'.code ∧ e.toObject.code = e'.toObject.code := by
  rcases h.result with ⟨out, hout, -⟩ | ⟨d, d', hd, hd', halike⟩
  . rw [hout] at he
    cases he
  . rw [hd, Except.error.injEq] at he
    rw [hd', Except.error.injEq] at he'
    rw [← he, ← he']
    exact halike.code

end Run

namespace Reply

variable {reply reply' : String} {bytes : Bytes}

theorem value_congr (method : Method) (h : Hex.decode reply = .ok bytes)
    (h' : Hex.decode reply' = .ok bytes)
    : value method reply = value method reply' := by
  have howner : owner reply = owner reply' := by
    unfold owner
    rw [h, h']
  have htext : text reply = text reply' := by
    unfold text
    rw [h, h']
  unfold value
  rw [howner, htext]

end Reply

namespace Config

variable {config : Config} {node node' : Node} {target : Address} {data data' : String}
  {bytes : Bytes} {method : Method}

theorem plan_congr_of_decode (h : Hex.decode data = .ok bytes) (h' : Hex.decode data' = .ok bytes)
    : config.plan target data = config.plan target data' := by
  by_cases htarget : target = config.contract
  . rw [plan_of_decode htarget h, plan_of_decode htarget h']
  . rw [plan_of_ne htarget, plan_of_ne htarget]

theorem settle_alike {outcome outcome' : Node.Outcome} (h : outcome.Alike outcome')
    (calls : List Node.Call)
    : Run.Alike ⟨settle method data outcome, calls⟩ ⟨settle method data outcome', calls⟩ := by
  cases h with
  | same => apply Run.alike_refl
  | reply h h' =>
    refine ⟨rfl, ?_⟩
    have hvalue := Reply.value_congr method (Hex.decode_of_spells h) (Hex.decode_of_spells h')
    unfold settle
    dsimp only
    rw [hvalue]
    cases Reply.value method _ with
    | ok v => exact .inl ⟨_, rfl, rfl⟩
    | error fault => exact .inr ⟨_, _, rfl, rfl, .reply method h h' fault⟩

theorem dispatch_alike (hdecode : Hex.decode data = .ok bytes)
    (hnode : ((node (config.nodeCall ⟨bytes⟩)).within config.timeout).Alike
      ((node' (config.nodeCall ⟨bytes⟩)).within config.timeout))
    : (config.dispatch node target data).Alike (config.dispatch node' target data) := by
  rcases dispatch_cases config target hdecode with ⟨result, hrun⟩ | ⟨method, hrun⟩
  . rw [hrun, hrun]
    apply Run.alike_refl
  . rw [hrun, hrun]
    exact settle_alike hnode _

theorem eq_nodeCall_of_mem_calls (hdecode : Hex.decode data = .ok bytes) {call : Node.Call}
    (h : call ∈ (config.dispatch node target data).calls)
    : call = config.nodeCall ⟨bytes⟩ := by
  rcases dispatch_cases config target hdecode with ⟨result, hrun⟩ | ⟨method, hrun⟩
  . rw [hrun] at h
    cases h
  . rw [hrun] at h
    exact List.mem_singleton.mp h

theorem dispatch_of_spells (config : Config) (target : Address) (bytes : Bytes)
    (data data' : String) (node node' : Node) (hdata : Hex.Spells bytes data)
    (hdata' : Hex.Spells bytes data')
    (hnode : ((node (config.nodeCall ⟨bytes⟩)).within config.timeout).Alike
      ((node' (config.nodeCall ⟨bytes⟩)).within config.timeout))
    : let run := config.dispatch node target data
      let run' := config.dispatch node' target data'
      run.Alike run'
        ∧ (∀ call ∈ run.calls, call = ⟨config.nodeContract, Hex.encode bytes⟩)
        ∧ ∀ e e', run.result = .error e → run'.result = .error e' →
            e.code = e'.code ∧ e.toObject.code = e'.toObject.code := by
  have hdecode := Hex.decode_of_spells hdata
  have hdecode' := Hex.decode_of_spells hdata'
  have halike : (config.dispatch node target data).Alike (config.dispatch node' target data') := by
    rw [dispatch_congr (plan_congr_of_decode hdecode hdecode')]
    exact dispatch_alike hdecode' hnode
  refine ⟨halike, ?_, ?_⟩
  . intro call
    exact eq_nodeCall_of_mem_calls hdecode
  . intro e e' he he'
    exact halike.code he he'

def capitalNode : Node :=
  fun _ => .after (.ofMillis 5) (.ok (Hex.capitals looseReply))

theorem dispatch_of_capitals
    : Hex.Spells descriptionCalldata (Hex.encode descriptionCalldata)
        ∧ Hex.Spells descriptionCalldata (Hex.capitals descriptionCalldata)
        ∧ sample.dispatch capitalNode sample.contract (Hex.capitals descriptionCalldata)
            = ⟨.ok (Abi.pack [.string "hi"]), [sample.nodeCall ⟨descriptionCalldata⟩]⟩ := by
  have hwritten := Hex.spells_encode descriptionCalldata
  have hcapitals := Hex.spells_capitals descriptionCalldata
  have hnode : ((looseNode (sample.nodeCall ⟨descriptionCalldata⟩)).within sample.timeout).Alike
      ((capitalNode (sample.nodeCall ⟨descriptionCalldata⟩)).within sample.timeout) :=
    .reply (Hex.spells_encode looseReply) (Hex.spells_capitals looseReply)
  have hresult : (sample.dispatch looseNode sample.contract
      (Hex.encode descriptionCalldata)).result = .ok (Abi.pack [.string "hi"]) := by
    rw [result_dispatch, answer_looseNode]
    rfl
  refine ⟨hwritten, hcapitals, ?_⟩
  have halike := (dispatch_of_spells sample sample.contract descriptionCalldata _ _ looseNode
    capitalNode hwritten hcapitals hnode).1
  rw [halike.eq_of_ok hresult, dispatch_of_ask (plan_descriptionCalldata sample)]

end Config

end TokenGateway
