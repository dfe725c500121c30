import TokenGateway.Proofs.Abi.Slot

namespace TokenGateway.Abi

structure IsTuple (schema : List Param) (data : Bytes) : Prop where
  aligned : data.length % 32 = 0
  heads : 32 * schema.length ≤ data.length
  noTails : (∀ param ∈ schema, param.kind ≠ .string) → data.length = 32 * schema.length
  slots : ∀ (i : Nat) (hi : i < schema.length),
    Admissible data (32 * schema.length) (32 * i) schema[i].kind

structure Holds (schema : List Param) (data : Bytes) (binding : Binding) : Prop where
  size : binding.size = schema.length
  entries : ∀ (i : Nat) (hi : i < schema.length), ∃ v,
    binding.entries[i]? = some (schema[i].name, v)
      ∧ v.kind = schema[i].kind
      ∧ Denotes data (32 * i) v

theorem readParams_eq_ok_iff {data : Bytes} {headLength : Nat} (schema : List Param)
    : ∀ (index : Nat) (entries : List (String × Value)),
        readParams data headLength index schema = .ok entries
          ↔
        entries.length = schema.length
          ∧ ∀ (i : Nat) (hi : i < schema.length), ∃ v,
              entries[i]? = some (schema[i].name, v)
                ∧ readParam data headLength (index + i) schema[i] = .ok v := by
  induction schema with
  | nil =>
    intro index entries
    simp only [readParams, Except.ok.injEq]
    constructor
    . intro h
      subst h
      simp
    . intro h
      rcases h with ⟨hlength, -⟩
      exact (List.length_eq_zero_iff.mp hlength).symm
  | cons param rest ih =>
    intro index entries
    simp only [readParams, Except.bind_eq_ok_iff, Except.pure_eq_ok, Except.ok.injEq, ih]
    constructor
    . intro h
      rcases h with ⟨value, hvalue, tail, ⟨hlength, htail⟩, rfl⟩
      refine ⟨by simp [hlength], ?_⟩
      intro i hi
      cases i with
      | zero => exact ⟨value, by simp, hvalue⟩
      | succ i =>
        -- The rest counts its slots from one number further on.
        rcases htail i (by simpa using hi) with ⟨v, hentry, hv⟩
        refine ⟨v, by simpa using hentry, ?_⟩
        rw [Nat.add_assoc, Nat.add_comm 1 i] at hv
        exact hv
    . intro h
      rcases h with ⟨hlength, h⟩
      rcases h 0 (by simp) with ⟨value, hhead, hvalue⟩
      cases entries with
      | nil => simp at hlength
      | cons entry tail =>
        simp only [List.getElem?_cons_zero, List.getElem_cons_zero, Option.some.injEq] at hhead
        refine ⟨value, hvalue, tail, ⟨by simpa using hlength, ?_⟩, by rw [hhead]⟩
        intro i hi
        rcases h (i + 1) (by simpa using hi) with ⟨v, hentry, hv⟩
        refine ⟨v, by simpa using hentry, ?_⟩
        rw [Nat.add_assoc, Nat.add_comm 1 i]
        exact hv

theorem any_isDynamic_iff (schema : List Param)
    : schema.any (·.kind.isDynamic) = false ↔ ∀ param ∈ schema, param.kind ≠ .string := by
  have hkind : ∀ kind : Kind, kind.isDynamic = false ↔ kind ≠ .string := by
    intro kind
    cases kind <;> simp [Kind.isDynamic]
  simp [hkind]

/--
Whether a buffer has room for the heads of a schema, and no more than that if nothing has a tail.
-/
def LengthFits (schema : List Param) (data : Bytes) : Prop :=
  32 * schema.length ≤ data.length
    ∧ ((∀ param ∈ schema, param.kind ≠ .string) → data.length = 32 * schema.length)

section Length

variable {schema : List Param} {data : Bytes}

theorem unpack_of_misaligned (h : data.length % 32 ≠ 0)
    : unpack schema data = .error (.misaligned data) := by
  unfold unpack
  exact if_pos h

theorem lengthMismatch_iff
    : (data.length < 32 * schema.length
        || (!schema.any (·.kind.isDynamic) && data.length != 32 * schema.length)) = true
        ↔
      ¬LengthFits schema data := by
  unfold LengthFits
  rw [← any_isDynamic_iff]
  simp only [Bool.or_eq_true, decide_eq_true_eq, Bool.and_eq_true, Bool.not_eq_true', bne_iff_ne,
    ne_eq, Classical.not_and_iff_not_or_not, Classical.not_imp, Nat.not_le]

theorem unpack_of_not_lengthFits (haligned : data.length % 32 = 0) (h : ¬LengthFits schema data)
    : unpack schema data = .error (.lengthMismatch (32 * schema.length) data) := by
  unfold unpack slotLength
  rw [Nat.mul_comm]
  dsimp only
  rw [if_neg (not_not_intro haligned), if_pos (lengthMismatch_iff.mpr h)]

theorem unpack_of_lengthFits (haligned : data.length % 32 = 0) (h : LengthFits schema data)
    : unpack schema data = (readParams data (32 * schema.length) 0 schema).map Binding.mk := by
  unfold unpack slotLength
  rw [Nat.mul_comm]
  dsimp only
  rw [if_neg (not_not_intro haligned), if_neg (mt lengthMismatch_iff.mp (not_not_intro h))]

end Length

theorem unpack_eq_ok_iff_readParams {schema : List Param} {data : Bytes} {binding : Binding}
    : unpack schema data = .ok binding
        ↔
      data.length % 32 = 0
        ∧ LengthFits schema data
        ∧ readParams data (32 * schema.length) 0 schema = .ok binding.entries := by
  by_cases haligned : data.length % 32 = 0
  . by_cases hfits : LengthFits schema data
    . rw [unpack_of_lengthFits haligned hfits, Except.map_eq_ok_iff]
      constructor
      . intro h
        rcases h with ⟨entries, hentries, rfl⟩
        exact ⟨haligned, hfits, hentries⟩
      . intro h
        exact ⟨binding.entries, h.2.2, rfl⟩
    . rw [unpack_of_not_lengthFits haligned hfits]
      simp [hfits]
  . rw [unpack_of_misaligned haligned]
    simp [haligned]

theorem unpack_eq_ok_iff {schema : List Param} {data : Bytes} {binding : Binding}
    : unpack schema data = .ok binding
        ↔
      IsTuple schema data
        ∧ (∀ (i : Nat) (hi : i < schema.length), PointersFit data (32 * i) schema[i].kind)
        ∧ Holds schema data binding := by
  rw [unpack_eq_ok_iff_readParams, readParams_eq_ok_iff]
  simp only [Nat.zero_add]
  constructor
  . intro h
    rcases h with ⟨haligned, ⟨hheads, hexact⟩, hsize, hentries⟩
    have hparam : ∀ (i : Nat) (hi : i < schema.length), ∃ v,
        binding.entries[i]? = some (schema[i].name, v)
          ∧ Admissible data (32 * schema.length) (32 * i) schema[i].kind
          ∧ PointersFit data (32 * i) schema[i].kind
          ∧ v.kind = schema[i].kind
          ∧ Denotes data (32 * i) v := by
      intro i hi
      rcases hentries i hi with ⟨v, hentry, hv⟩
      rw [readParam_eq_ok_iff (by omega), Nat.mul_comm i 32] at hv
      exact ⟨v, hentry, hv⟩
    refine ⟨⟨haligned, hheads, hexact, ?_⟩, ?_, ⟨hsize, ?_⟩⟩
    . intro i hi
      rcases hparam i hi with ⟨v, -, hadmissible, -⟩
      exact hadmissible
    . intro i hi
      rcases hparam i hi with ⟨v, -, -, hfits, -⟩
      exact hfits
    . intro i hi
      rcases hparam i hi with ⟨v, hentry, -, -, hkind, hdenotes⟩
      exact ⟨v, hentry, hkind, hdenotes⟩
  . intro h
    rcases h with ⟨htuple, hfits, hholds⟩
    refine ⟨htuple.aligned, ⟨htuple.heads, htuple.noTails⟩, hholds.size, ?_⟩
    intro i hi
    rcases hholds.entries i hi with ⟨v, hentry, hkind, hdenotes⟩
    refine ⟨v, hentry, ?_⟩
    have := htuple.heads
    rw [readParam_eq_ok_iff (by omega), Nat.mul_comm i 32]
    exact ⟨htuple.slots i hi, hfits i hi, hkind, hdenotes⟩

theorem IsTuple.exists_holds {schema : List Param} {data : Bytes} (h : IsTuple schema data)
    : ∃ binding, Holds schema data binding := by
  have hvalue : ∀ i : Fin schema.length, ∃ v : Value,
      v.kind = schema[i].kind ∧ Denotes data (32 * i) v := by
    intro i
    have := h.heads
    apply exists_denotes
    . omega
    . exact h.slots i i.isLt
  -- The values are chosen slot by slot, then put together.
  rcases Classical.skolem.mp hvalue with ⟨value, hvalue⟩
  refine ⟨⟨List.ofFn fun i : Fin schema.length => (schema[i].name, value i)⟩, ?_, ?_⟩
  . simp [Binding.size]
  . intro i hi
    refine ⟨value ⟨i, hi⟩, ?_, hvalue ⟨i, hi⟩⟩
    rw [List.getElem?_ofFn]
    simp [hi]

theorem exists_unpack_iff {schema : List Param} {data : Bytes}
    : (∃ binding, unpack schema data = .ok binding)
        ↔
      IsTuple schema data
        ∧ ∀ (i : Nat) (hi : i < schema.length), PointersFit data (32 * i) schema[i].kind := by
  constructor
  . intro h
    rcases h with ⟨binding, hbinding⟩
    rcases unpack_eq_ok_iff.mp hbinding with ⟨htuple, hfits, -⟩
    exact ⟨htuple, hfits⟩
  . intro h
    rcases h with ⟨htuple, hfits⟩
    rcases htuple.exists_holds with ⟨binding, hholds⟩
    exact ⟨binding, unpack_eq_ok_iff.mpr ⟨htuple, hfits, hholds⟩⟩

theorem exists_unpack_iff_of_uint256 {schema : List Param} {data : Bytes}
    (hkinds : ∀ param ∈ schema, param.kind = .uint256)
    : (∃ binding, unpack schema data = .ok binding) ↔ data.length = 32 * schema.length := by
  have hkind : ∀ (i : Nat) (hi : i < schema.length), schema[i].kind = .uint256 := by
    intro i hi
    exact hkinds _ (List.getElem_mem hi)
  rw [exists_unpack_iff]
  constructor
  . intro h
    apply h.1.noTails
    intro param hparam
    simp [hkinds param hparam]
  . intro h
    refine ⟨⟨by omega, by omega, fun _ => h, ?_⟩, ?_⟩
    . intro i hi
      rw [hkind i hi]
      trivial
    . intro i hi
      rw [hkind i hi]
      trivial

section Holds

variable {schema : List Param} {data : Bytes} {binding : Binding}

theorem Holds.map_name (h : Holds schema data binding)
    : binding.entries.map (·.1) = schema.map (·.name) := by
  have hsize : binding.entries.length = schema.length := h.size
  apply List.ext_getElem?
  intro i
  by_cases hi : i < schema.length
  . rcases h.entries i hi with ⟨v, hentry, -, -⟩
    simp [hentry, hi]
  . simp [hsize, Nat.le_of_not_lt hi]

theorem Holds.map_kind (h : Holds schema data binding)
    : binding.values.map Value.kind = schema.map (·.kind) := by
  have hsize : binding.entries.length = schema.length := h.size
  apply List.ext_getElem?
  intro i
  by_cases hi : i < schema.length
  . rcases h.entries i hi with ⟨v, hentry, hkind, -⟩
    simp [Binding.values, hentry, hkind, hi]
  . simp [Binding.values, hsize, Nat.le_of_not_lt hi]

theorem Holds.denotes (h : Holds schema data binding) {i : Nat} (hi : i < binding.values.length)
    : Denotes data (32 * i) binding.values[i] := by
  have hsize : binding.values.length = schema.length := by
    rw [Binding.length_values, h.size]
  rcases h.entries i (by omega) with ⟨v, hentry, -, hdenotes⟩
  have hvalue : binding.values[i]? = some v := by
    simp [Binding.values, hentry]
  rcases List.getElem?_eq_some_iff.mp hvalue with ⟨_, rfl⟩
  exact hdenotes

end Holds

theorem Holds.exists_get? {schema : List Param} {data : Bytes} {binding : Binding}
    (h : Holds schema data binding) {param : Param} (hparam : param ∈ schema)
    : ∃ v, binding.get? param.name = some v := by
  rcases List.getElem_of_mem hparam with ⟨i, hi, hname⟩
  rcases h.entries i hi with ⟨v, hentry, -, -⟩
  have hmem : (param.name, v) ∈ binding.entries := by
    rw [← hname]
    exact List.mem_of_getElem? hentry
  unfold Binding.get?
  cases hfind : binding.entries.find? fun entry => entry.1 == param.name with
  | some entry => exact ⟨entry.2, rfl⟩
  | none =>
    have := List.find?_eq_none.mp hfind _ hmem
    simp at this

theorem unpack_accepts_iff_isTuple (schema : List Param) (data : Bytes)
    (hlength : data.length < 2 ^ 63)
    : ((∃ binding, unpack schema data = .ok binding) ↔ IsTuple schema data)
        ∧ ∀ binding, unpack schema data = .ok binding → Holds schema data binding := by
  constructor
  . rw [exists_unpack_iff]
    constructor
    . intro h
      exact h.1
    . intro h
      refine ⟨h, ?_⟩
      intro i hi
      apply pointersFit_of_admissible hlength
      exact h.slots i hi
  . intro binding h
    exact (unpack_eq_ok_iff.mp h).2.2

def looseTuple : Bytes :=
  Bytes.zeros 31 ++ [1] ++ Bytes.zeros 31 ++ [65]
    ++ [7] ++ Bytes.zeros 31 ++ [2] ++ [0x68, 0x69] ++ Bytes.zeros 29

set_option maxRecDepth 4000 in
theorem isTuple_looseTuple
    : looseTuple.length < 2 ^ 63
        ∧ IsTuple [⟨"approved", .bool⟩, ⟨"uri", .string⟩] looseTuple
        ∧ Holds [⟨"approved", .bool⟩, ⟨"uri", .string⟩] looseTuple
            ⟨[("approved", .bool true), ("uri", .string "hi")]⟩ := by
  have hlength : looseTuple.length < 2 ^ 63 := by decide +kernel
  have hread : unpack [⟨"approved", .bool⟩, ⟨"uri", .string⟩] looseTuple
      = .ok ⟨[("approved", .bool true), ("uri", .string "hi")]⟩ := by
    rfl
  rcases unpack_accepts_iff_isTuple _ looseTuple hlength with ⟨haccepts, hholds⟩
  exact ⟨hlength, haccepts.mp ⟨_, hread⟩, hholds _ hread⟩

end TokenGateway.Abi
