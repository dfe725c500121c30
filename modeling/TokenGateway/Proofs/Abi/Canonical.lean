import TokenGateway.Proofs.Abi.RoundTrip

/-!
Each byte of a tuple without texts is either part of a value or a padding byte that has to be zero, so
packing undoes reading just as reading undoes packing.
-/

namespace TokenGateway.Abi

variable {data : Bytes} {headLength position : Nat}

theorem uintSlot_wordAt (hslot : position + 32 ≤ data.length)
    : uintSlot (wordAt data position) = slotAt data position := by
  apply Bytes.toNat_inj
  . rw [length_uintSlot, slotAt, Bytes.length_slice_of_le hslot]
  . rw [toNat_uintSlot, wordAt]
    apply wordAt_lt

theorem head_eq_slotAt {v : Value} (offset : Nat) (hslot : position + 32 ≤ data.length)
    (hstatic : v.kind ≠ .string) (hadmissible : Admissible data headLength position v.kind)
    (hdenotes : Denotes data position v)
    : v.head offset = slotAt data position := by
  have hword := uintSlot_wordAt hslot
  cases v with
  | uint8 n =>
    rw [Denotes] at hdenotes
    rw [Value.head, ← hdenotes, hword]
  | uint256 n =>
    rw [Denotes] at hdenotes
    rw [Value.head, ← hdenotes, hword]
  | bool b =>
    rw [Denotes] at hdenotes
    rw [Value.head, boolSlot, ← hdenotes, hword]
  -- The padding is on the other side of the bytes than what the value holds.
  | address a =>
    rw [Denotes] at hdenotes
    rw [Value.kind, Admissible] at hadmissible
    rw [Value.head, addressSlot, rightAligned, a.length_toBytes, slotLength]
    rw [← hadmissible, ← hdenotes, List.take_append_drop]
  | bytes4 bs =>
    rw [Denotes] at hdenotes
    rw [Value.kind, Admissible] at hadmissible
    rw [Value.head, leftAligned, bs.length_toBytes, slotLength]
    rw [← hadmissible, ← hdenotes, List.take_append_drop]
  | string s => exact absurd rfl hstatic

section Static

variable {schema : List Param} {binding : Binding}
  (hstatic : ∀ param ∈ schema, param.kind ≠ .string)

include hstatic

theorem pack_values_of_holds (htuple : IsTuple schema data) (hholds : Holds schema data binding)
    : pack binding.values = data := by
  have hkinds := hholds.map_kind.symm
  have hvalues := kind_ne_string_of_kinds hkinds hstatic
  have hsize := length_eq_of_kinds hkinds
  have hlength := htuple.noTails hstatic
  apply Bytes.eq_of_slice_eq 32 schema.length
  . rw [length_pack, tails_eq_nil hvalues, hsize, List.length_nil, Nat.add_zero]
  . exact hlength
  . intro i hi
    have hvs : i < binding.values.length := by omega
    have hadmissible := htuple.slots i hi
    rw [kind_eq_of_kinds hkinds hi hvs] at hadmissible
    rw [slice_pack_head hvs]
    apply head_eq_slotAt _ _ _ hadmissible (hholds.denotes hvs)
    . omega
    . apply hvalues
      apply List.getElem_mem

theorem unpack_eq_ok_iff_pack
    : unpack schema data = .ok binding
        ↔
      binding.entries.map (·.1) = schema.map (·.name)
        ∧ schema.map (·.kind) = binding.values.map Value.kind
        ∧ pack binding.values = data := by
  constructor
  . intro h
    rcases unpack_eq_ok_iff.mp h with ⟨htuple, -, hholds⟩
    exact ⟨hholds.map_name, hholds.map_kind.symm, pack_values_of_holds hstatic htuple hholds⟩
  . intro h
    rcases h with ⟨hnames, hkinds, rfl⟩
    have haddressable := addressable_of_static (kind_ne_string_of_kinds hkinds hstatic)
    have hentries : (schema.map (·.name)).zip binding.values = binding.entries := by
      rw [← hnames, Binding.values, List.zip_map', List.map_id']
    rw [unpack_pack hkinds haddressable, hentries]

theorem exists_unpack_pack {vs : List Value} (hkinds : schema.map (·.kind) = vs.map Value.kind)
    : ∃ binding, unpack schema (pack vs) = .ok binding ∧ binding.values = vs := by
  have haddressable := addressable_of_static (kind_ne_string_of_kinds hkinds hstatic)
  refine ⟨_, unpack_pack hkinds haddressable, ?_⟩
  apply List.map_snd_zip
  simp [length_eq_of_kinds hkinds]

end Static

theorem unpack_inverse_of_static (schema : List Param)
    (hstatic : ∀ param ∈ schema, param.kind ≠ .string)
    : (∀ data binding, unpack schema data = .ok binding → pack binding.values = data)
        ∧ (∀ vs : List Value, schema.map (·.kind) = vs.map Value.kind →
            ∃ binding, unpack schema (pack vs) = .ok binding ∧ binding.values = vs)
        ∧ ∀ data data' binding binding',
            unpack schema data = .ok binding →
            unpack schema data' = .ok binding' →
            binding.values = binding'.values →
              data = data' := by
  have hpack : ∀ data binding, unpack schema data = .ok binding → pack binding.values = data := by
    intro data binding h
    exact ((unpack_eq_ok_iff_pack hstatic).mp h).2.2
  refine ⟨hpack, ?_, ?_⟩
  . intro vs hkinds
    exact exists_unpack_pack hstatic hkinds
  . intro data data' binding binding' h h' hvalues
    rw [← hpack data binding h, ← hpack data' binding' h', hvalues]

def staticTuple : Bytes :=
  Bytes.zeros 31 ++ [9] ++ List.replicate 32 0xff ++ Bytes.zeros 12 ++ List.replicate 20 0xab
    ++ Bytes.zeros 31 ++ [1] ++ [0x01, 0xff, 0xc9, 0xa7] ++ Bytes.zeros 28

def staticSchema : List Param :=
  [⟨"decimals", .uint8⟩, ⟨"id", .uint256⟩, ⟨"owner", .address⟩, ⟨"approved", .bool⟩,
   ⟨"interfaceId", .bytes4⟩]

def staticValues : List Value :=
  [.uint8 9, .uint256 (BitVec.allOnes 256), .address ⟨List.replicate 20 0xab, rfl⟩, .bool true,
   .bytes4 ⟨[0x01, 0xff, 0xc9, 0xa7], rfl⟩]

set_option maxRecDepth 4000 in
theorem pack_staticValues
    : (∀ param ∈ staticSchema, param.kind ≠ .string)
        ∧ ∃ binding,
            unpack staticSchema staticTuple = .ok binding
              ∧ binding.values = staticValues
              ∧ pack staticValues = staticTuple := by
  have hstatic : ∀ param ∈ staticSchema, param.kind ≠ .string := by decide
  have hread : unpack staticSchema staticTuple
      = .ok ⟨(staticSchema.map (·.name)).zip staticValues⟩ := by
    rfl
  refine ⟨hstatic, _, hread, rfl, ?_⟩
  exact (unpack_inverse_of_static staticSchema hstatic).1 staticTuple _ hread

end TokenGateway.Abi
