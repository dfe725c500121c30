import TokenGateway.CommandLine.Settings
import TokenGateway.Proofs.Except

/-!
What has been given is told option by option, and storing a text changes what is told of its own
option alone.
-/

namespace TokenGateway.CommandLine

namespace Opt

abbrev Value : Opt → Type
  | .chainId => Nat
  | .contract => Address
  | .nodeUrl => Url
  | .nodeContract => Address
  | .nodeTimeout => Nat
  | .listenAddress => SocketAddress
  | .maxConnections => Nat
  | .logJson => Bool

def read? : (o : Opt) → String → Option o.Value
  | .chainId, text => (ChainId.ofText text).toOption
  | .contract, text => (Address.ofText text).toOption
  | .nodeUrl, text => (Url.ofText text).toOption
  | .nodeContract, text => (Address.ofText text).toOption
  | .nodeTimeout, text => (Text.readUnsigned 10 (Nat.pow 2 64) text.toList).toOption
  | .listenAddress, text => SocketAddress.ofText? text
  | .maxConnections, text => (Given.readMaxConnections text).toOption
  | .logJson, text => Given.readBool? text

/--
The text that an option stands at unless it is given another; required options have none, and
neither does the contract that calls to the node are addressed to.
-/
def defaultText? : Opt → Option String
  | .nodeTimeout => some "10000"
  | .listenAddress => some "127.0.0.1:8545"
  | .maxConnections => some "500"
  | .logJson => some "false"
  | _ => none

theorem mem_all (o : Opt) : o ∈ all := by
  cases o <;> decide

end Opt

namespace Given

variable {g g' : Given} {o o' : Opt} {text : String}

def value? (g : Given) : (o : Opt) → Option o.Value
  | .chainId => g.chainId?
  | .contract => g.contract?
  | .nodeUrl => g.nodeUrl?
  | .nodeContract => g.nodeContract?
  | .nodeTimeout => g.nodeTimeout?
  | .listenAddress => g.listenAddress?
  | .maxConnections => g.maxConnections?
  | .logJson => g.logJson?

def set (g : Given) : (o : Opt) → o.Value → Given
  | .chainId, n => { g with chainId? := some n }
  | .contract, a => { g with contract? := some a }
  | .nodeUrl, u => { g with nodeUrl? := some u }
  | .nodeContract, a => { g with nodeContract? := some a }
  | .nodeTimeout, n => { g with nodeTimeout? := some n }
  | .listenAddress, a => { g with listenAddress? := some a }
  | .maxConnections, n => { g with maxConnections? := some n }
  | .logJson, b => { g with logJson? := some b }

theorem has_eq_isSome (g : Given) (o : Opt) : g.has o = (g.value? o).isSome := by
  cases o <;> rfl

@[simp]
theorem value?_none (o : Opt) : none.value? o = Option.none := by
  cases o <;> rfl

@[simp]
theorem value?_set (g : Given) (v : o.Value) : (g.set o v).value? o = some v := by
  cases o <;> rfl

theorem value?_set_of_ne (g : Given) (v : o.Value) (h : o' ≠ o)
    : (g.set o v).value? o' = g.value? o' := by
  cases o <;> cases o' <;> first | rfl | exact absurd rfl h

theorem ext_value? (h : ∀ o, g.value? o = g'.value? o) : g = g' := by
  cases g
  cases g'
  rw [mk.injEq]
  exact ⟨h .chainId, h .contract, h .nodeUrl, h .nodeContract, h .nodeTimeout, h .listenAddress,
    h .maxConnections, h .logJson⟩

theorem has_set_of_ne {v : o.Value} (h : o' ≠ o) : (g.set o v).has o' = g.has o' := by
  rw [has_eq_isSome, has_eq_isSome, value?_set_of_ne g v h]

theorem has_of_has_set {v : o.Value} (h : (g.set o v).has o' = false) : g.has o' = false := by
  by_cases heq : o' = o
  . subst heq
    rw [has_eq_isSome, value?_set] at h
    cases h
  . rwa [has_set_of_ne heq] at h

theorem map_mapError_eq_ok_iff {ε α : Type} {x : Except ε α} {f : ε → Error} {give : α → Given}
    : (x.mapError f).map give = .ok g' ↔ ∃ a, x.toOption = some a ∧ give a = g' := by
  simp only [Except.map_eq_ok_iff, Except.mapError_eq_ok_iff, Except.toOption_eq_some_iff]

theorem store_eq_ok_iff
    : g.store o text = .ok g' ↔ ∃ v, o.read? text = some v ∧ g.set o v = g' := by
  cases o with
  | listenAddress =>
    unfold store Opt.read?
    dsimp only
    cases SocketAddress.ofText? text <;> simp [set]
  | logJson =>
    unfold store Opt.read?
    dsimp only
    cases readBool? text <;> simp [set]
  | _ => exact map_mapError_eq_ok_iff

theorem store_of_read? {v : o.Value} (h : o.read? text = some v)
    : g.store o text = .ok (g.set o v) :=
  store_eq_ok_iff.mpr ⟨v, h, rfl⟩

def ofValues (values : (o : Opt) → Option o.Value) : Given :=
  ⟨values .chainId, values .contract, values .nodeUrl, values .nodeContract, values .nodeTimeout,
    values .listenAddress, values .maxConnections, values .logJson⟩

/--
What has been given, and for those of some options that have been given nothing, what their texts
are read as.
-/
def supplement (g : Given) (options : List Opt) (texts : Opt → Option String) : Given :=
  ofValues fun o => (g.value? o).or (if o ∈ options then (texts o).bind o.read? else Option.none)

section Supplement

variable {options : List Opt} {texts : Opt → Option String}

theorem value?_supplement
    : (g.supplement options texts).value? o
        =
      (g.value? o).or (if o ∈ options then (texts o).bind o.read? else Option.none) := by
  cases o <;> rfl

theorem supplement_nil : g.supplement [] texts = g := by
  apply ext_value?
  intro o
  simp [value?_supplement]

theorem supplement_cons_of_read? {v : o.Value} (hfresh : g.has o = false)
    (htext : texts o = some text) (hread : o.read? text = some v)
    : g.supplement (o :: options) texts = (g.set o v).supplement options texts := by
  rw [has_eq_isSome, Option.isSome_eq_false_iff, Option.isNone_iff_eq_none] at hfresh
  apply ext_value?
  intro o'
  rw [value?_supplement, value?_supplement]
  by_cases heq : o' = o
  . subst heq
    simp [hfresh, htext, hread]
  . simp [value?_set_of_ne g v heq, heq]

theorem supplement_cons_of_settled (hsettled : g.has o ∨ texts o = Option.none)
    : g.supplement (o :: options) texts = g.supplement options texts := by
  apply ext_value?
  intro o'
  rw [value?_supplement, value?_supplement]
  by_cases heq : o' = o
  . subst heq
    rcases hsettled with hhas | hnone
    . rw [has_eq_isSome, Option.isSome_iff_exists] at hhas
      rcases hhas with ⟨v, hv⟩
      rw [hv, Option.some_or, Option.some_or]
    . simp [hnone]
  . simp [heq]

end Supplement

end Given

structure IsAssignment (texts : Opt → Option String) : Prop where
  accepted : ∀ o text, texts o = some text → (o.read? text).isSome
  required : ∀ o : Opt, o.isRequired → (texts o).isSome

theorem IsAssignment.exists_read? {texts : Opt → Option String} {o : Opt} {text : String}
    (h : IsAssignment texts) (htext : texts o = some text)
    : ∃ v, o.read? text = some v :=
  Option.isSome_iff_exists.mp (h.accepted o text htext)

namespace Settings

def value? (s : Settings) : (o : Opt) → Option o.Value
  | .chainId => some s.chainId
  | .contract => some s.contract
  | .nodeUrl => some s.nodeUrl
  | .nodeContract => s.nodeContract?
  | .nodeTimeout => some s.nodeTimeoutMs
  | .listenAddress => some s.listenAddress
  | .maxConnections => some s.maxConnections
  | .logJson => some s.logJson

theorem ext_value? {s s' : Settings} (h : ∀ o, s.value? o = s'.value? o) : s = s' := by
  cases s
  cases s'
  rw [mk.injEq]
  exact ⟨Option.some.inj (h .chainId), Option.some.inj (h .contract), Option.some.inj (h .nodeUrl),
    h .nodeContract, Option.some.inj (h .nodeTimeout), Option.some.inj (h .listenAddress),
    Option.some.inj (h .maxConnections), Option.some.inj (h .logJson)⟩

def Follows (s : Settings) (texts : Opt → Option String) : Prop :=
  ∀ o : Opt, s.value? o = ((texts o).or o.defaultText?).bind o.read?

theorem Follows.iff_eq {s s' : Settings} {texts : Opt → Option String} (h : s.Follows texts)
    : s'.Follows texts ↔ s' = s := by
  constructor
  . intro h'
    exact ext_value? fun o => (h' o).trans (h o).symm
  . rintro rfl
    exact h

theorem ofGiven_of_required {g : Given} (h : ∀ o : Opt, o.isRequired → g.has o)
    : ∃ s, ofGiven g = .ok s
        ∧ ∀ o : Opt, s.value? o = (g.value? o).or (o.defaultText?.bind o.read?) := by
  rcases g with ⟨chainId?, contract?, nodeUrl?, nodeContract?, nodeTimeout?, listenAddress?,
    maxConnections?, logJson?⟩
  obtain ⟨chainId, rfl⟩ := Option.isSome_iff_exists.mp (h .chainId rfl)
  obtain ⟨contract, rfl⟩ := Option.isSome_iff_exists.mp (h .contract rfl)
  obtain ⟨nodeUrl, rfl⟩ := Option.isSome_iff_exists.mp (h .nodeUrl rfl)
  refine ⟨_, rfl, ?_⟩
  intro o
  cases o with
  | chainId => rfl
  | contract => rfl
  | nodeUrl => rfl
  | nodeContract => exact Option.or_none.symm
  | nodeTimeout => cases nodeTimeout? <;> rfl
  | listenAddress => cases listenAddress? <;> rfl
  | maxConnections => cases maxConnections? <;> rfl
  | logJson => cases logJson? <;> rfl

theorem exists_follows {texts : Opt → Option String} (h : IsAssignment texts)
    : ∃ s : Settings, s.Follows texts ∧ ofGiven (Given.none.supplement Opt.all texts) = .ok s := by
  have hvalue : ∀ o : Opt,
      (Given.none.supplement Opt.all texts).value? o = (texts o).bind o.read? := by
    intro o
    rw [Given.value?_supplement, Given.value?_none, Option.none_or, if_pos o.mem_all]
  have hhas : ∀ o : Opt, o.isRequired → (Given.none.supplement Opt.all texts).has o := by
    intro o ho
    obtain ⟨text, htext⟩ := Option.isSome_iff_exists.mp (h.required o ho)
    rw [Given.has_eq_isSome, hvalue, htext]
    exact h.accepted o text htext
  rcases ofGiven_of_required hhas with ⟨s, hs, hsvalue⟩
  refine ⟨s, ?_, hs⟩
  intro o
  rw [hsvalue, hvalue]
  cases htext : texts o with
  | none => rfl
  | some text =>
    rcases h.exists_read? htext with ⟨v, hv⟩
    rw [Option.bind_some, Option.some_or, Option.bind_some, hv, Option.some_or]

end Settings

end TokenGateway.CommandLine
