import TokenGateway.Abi.Unpack
import TokenGateway.Proofs.Bytes
import TokenGateway.Proofs.Except

/-!
The grammar of one parameter in a buffer: which head slots, and which tails behind them, are allowed
for a kind, and which value they denote.
-/

namespace TokenGateway.Abi

def slotAt (data : Bytes) (position : Nat) : Bytes :=
  Bytes.slice data position 32

def wordAt (data : Bytes) (position : Nat) : Nat :=
  Bytes.toNat (slotAt data position)

def payloadAt (data : Bytes) (position : Nat) : Bytes :=
  let offset := wordAt data position
  Bytes.slice data (offset + 32) (wordAt data offset)

/--
Whether the head slot at a position is allowed for a kind, in a buffer whose heads take up
`headLength` bytes.
-/
def Admissible (data : Bytes) (headLength position : Nat) : Kind → Prop
  | .uint8 => (slotAt data position).take 31 = Bytes.zeros 31
  | .uint256 => True
  | .address => (slotAt data position).take 12 = Bytes.zeros 12
  | .bool => wordAt data position = 0 ∨ wordAt data position = 1
  | .bytes4 => (slotAt data position).drop 4 = Bytes.zeros 28
  | .string =>
    let offset := wordAt data position
    headLength ≤ offset
      ∧ offset + 32 ≤ data.length
      ∧ offset + 32 + wordAt data offset ≤ data.length
      ∧ ∃ s, Text.utf8 s = payloadAt data position

def Denotes (data : Bytes) (position : Nat) : Value → Prop
  | .uint8 n => wordAt data position = n.toNat
  | .uint256 n => wordAt data position = n.toNat
  | .address a => (slotAt data position).drop 12 = a.toBytes
  | .bool b => wordAt data position = b.toNat
  | .bytes4 bs => (slotAt data position).take 4 = bs.toBytes
  | .string s => payloadAt data position = Text.utf8 s

/--
Whether the numbers that lead to a text are positions in a memory of 64 bits.
-/
def PointersFit (data : Bytes) (position : Nat) : Kind → Prop
  | .string => wordAt data position < 2 ^ 64 ∧ wordAt data (wordAt data position) < 2 ^ 64
  | _ => True

theorem wordAt_lt (data : Bytes) (position : Nat) : wordAt data position < 2 ^ 256 := by
  have hlt := Bytes.toNat_lt (slotAt data position)
  have hle : (slotAt data position).length ≤ 32 := by
    rw [slotAt, Bytes.length_slice]
    omega
  calc
    wordAt data position < 256 ^ (slotAt data position).length := hlt
    _ ≤ 256 ^ 32 := Nat.pow_le_pow_right (by omega) hle
    _ = 2 ^ 256 := by decide

theorem pointersFit_of_admissible {data : Bytes} {headLength position : Nat} {kind : Kind}
    (hlength : data.length < 2 ^ 63) (h : Admissible data headLength position kind)
    : PointersFit data position kind := by
  cases kind with
  -- Both pointers lead into the buffer, so they are as small as its length.
  | string =>
    rcases h with ⟨-, hoffset, htext, -⟩
    constructor
    . omega
    . omega
  | _ => trivial

namespace Slot

variable {slot : Bytes}

theorem toNat_eq_take_add_drop (slot : Bytes) (n : Nat)
    : Bytes.toNat slot
        =
      Bytes.toNat (slot.take n) * 256 ^ (slot.length - n) + Bytes.toNat (slot.drop n) := by
  have := Bytes.toNat_append (slot.take n) (slot.drop n)
  rw [List.take_append_drop, List.length_drop] at this
  exact this

theorem last_byte (hlength : slot.length = 32) : ∃ b, slot.drop 31 = [b] := by
  apply List.length_eq_one_iff.mp
  rw [List.length_drop, hlength]

theorem toNat_of_take_eq_zeros (h : slot.take 31 = Bytes.zeros 31)
    : Bytes.toNat slot = Bytes.toNat (slot.drop 31) := by
  rw [toNat_eq_take_add_drop slot 31, h, Bytes.toNat_zeros]
  omega

theorem take_eq_zeros_of_toNat_lt (hlength : slot.length = 32) (h : Bytes.toNat slot < 256)
    : slot.take 31 = Bytes.zeros 31 := by
  have hsplit := toNat_eq_take_add_drop slot 31
  rw [hlength] at hsplit
  have hzero : Bytes.toNat (slot.take 31) = 0 := by omega
  have := Bytes.eq_zeros_of_toNat_eq_zero hzero
  rw [List.length_take, hlength] at this
  exact this

theorem isZero_take_iff {n : Nat} (hn : n ≤ slot.length)
    : Bytes.isZero (slot.take n) = true ↔ slot.take n = Bytes.zeros n := by
  rw [Bytes.isZero_iff, List.length_take, Nat.min_eq_left hn]

theorem readStatic_uint8_iff {name : String} {v : Value} (hlength : slot.length = 32)
    : readStatic name .uint8 slot = .ok v
        ↔
      slot.take 31 = Bytes.zeros 31 ∧ ∃ n, v = .uint8 n ∧ Bytes.toNat slot = n.toNat := by
  have hiff := isZero_take_iff (by omega : 31 ≤ slot.length)
  rcases last_byte hlength with ⟨b, hb⟩
  unfold readStatic
  dsimp only
  by_cases hzero : slot.take 31 = Bytes.zeros 31
  . have hnat : Bytes.toNat slot = b.toNat := by
      rw [toNat_of_take_eq_zeros hzero, hb, Bytes.toNat_singleton]
    rw [if_pos (hiff.mpr hzero), hb, hnat]
    simp only [Bytes.toNat_singleton, UInt8.ofNat_toNat, Except.ok.injEq, hzero, true_and]
    constructor
    . intro h
      exact ⟨b, h.symm, rfl⟩
    . intro h
      rcases h with ⟨n, hv, hn⟩
      rw [hv, UInt8.toNat_inj.mp hn]
  . rw [if_neg (mt hiff.mp hzero)]
    simp [hzero]

theorem readStatic_uint256_iff {name : String} {v : Value} (hlength : slot.length = 32)
    : readStatic name .uint256 slot = .ok v ↔ ∃ n, v = .uint256 n ∧ Bytes.toNat slot = n.toNat := by
  have hlt : Bytes.toNat slot < 2 ^ 256 := by
    have := Bytes.toNat_lt slot
    rw [hlength] at this
    omega
  unfold readStatic
  simp only [Except.ok.injEq]
  constructor
  . intro h
    refine ⟨_, h.symm, ?_⟩
    rw [BitVec.toNat_ofNat, Nat.mod_eq_of_lt hlt]
  . intro h
    rcases h with ⟨n, hv, hn⟩
    rw [hv, hn, BitVec.ofNat_toNat, BitVec.setWidth_eq]

theorem padded_eq_some_iff {n : Nat} (f : FixedBytes n → Value) (v : Value) (padding : Bytes)
    {rest : Bytes} (hlength : rest.length = n)
    : (if Bytes.isZero padding then (FixedBytes.ofBytes? n rest).map f else none) = some v
        ↔
      padding = Bytes.zeros padding.length ∧ ∃ x, v = f x ∧ rest = x.toBytes := by
  rw [← Bytes.isZero_iff, FixedBytes.ofBytes?_of_length hlength, Option.map_some]
  by_cases hzero : Bytes.isZero padding
  . rw [if_pos hzero, Option.some.injEq]
    simp only [hzero, true_and]
    constructor
    . intro h
      exact ⟨_, h.symm, rfl⟩
    . intro h
      rcases h with ⟨x, hv, hrest⟩
      rw [hv]
      congr 1
      exact FixedBytes.ext hrest
  . rw [if_neg hzero]
    simp [hzero]

theorem readStatic_address_iff {name : String} {v : Value} (hlength : slot.length = 32)
    : readStatic name .address slot = .ok v
        ↔
      slot.take 12 = Bytes.zeros 12 ∧ ∃ a, v = .address a ∧ slot.drop 12 = a.toBytes := by
  have hbytes : (slot.drop 12).length = 20 := by
    rw [List.length_drop, hlength]
  have hpadding : (slot.take 12).length = 12 := by
    rw [List.length_take]
    omega
  have hvalue := padded_eq_some_iff Value.address v (slot.take 12) hbytes
  rw [hpadding] at hvalue
  rw [← hvalue]
  unfold readStatic
  dsimp only
  split
  . next heq => simp [heq]
  . next heq => simp [heq]

theorem readStatic_bytes4_iff {name : String} {v : Value} (hlength : slot.length = 32)
    : readStatic name .bytes4 slot = .ok v
        ↔
      slot.drop 4 = Bytes.zeros 28 ∧ ∃ bs, v = .bytes4 bs ∧ slot.take 4 = bs.toBytes := by
  have hbytes : (slot.take 4).length = 4 := by
    rw [List.length_take]
    omega
  have hpadding : (slot.drop 4).length = 28 := by
    rw [List.length_drop, hlength]
  have hvalue := padded_eq_some_iff Value.bytes4 v (slot.drop 4) hbytes
  rw [hpadding] at hvalue
  rw [← hvalue]
  unfold readStatic
  dsimp only
  split
  . next heq => simp [heq]
  . next heq => simp [heq]

theorem readStatic_bool_iff {name : String} {v : Value} (hlength : slot.length = 32)
    : readStatic name .bool slot = .ok v ↔ ∃ b, v = .bool b ∧ Bytes.toNat slot = b.toNat := by
  have hiff := isZero_take_iff (by omega : 31 ≤ slot.length)
  rcases last_byte hlength with ⟨last, hlast⟩
  unfold readStatic
  dsimp only
  rw [hlast]
  by_cases hzero : slot.take 31 = Bytes.zeros 31
  . have hnat : Bytes.toNat slot = last.toNat := by
      rw [toNat_of_take_eq_zeros hzero, hlast, Bytes.toNat_singleton]
    rw [if_pos (hiff.mpr hzero), hnat]
    constructor
    . intro h
      split at h
      . next hvalue =>
        split at hvalue
        . cases hvalue
          cases h
          exact ⟨false, rfl, by simp_all⟩
        . cases hvalue
          cases h
          exact ⟨true, rfl, by simp_all⟩
        . cases hvalue
      . cases h
    . intro h
      rcases h with ⟨b, hv, hb⟩
      have hbyte : last = b.toUInt8 := by
        apply UInt8.toNat_inj.mp
        rw [hb]
        cases b <;> rfl
      rw [hbyte, hv]
      cases b <;> rfl
  -- A word that is 0 or 1 has no other byte than its last one.
  . rw [if_neg (mt hiff.mp hzero)]
    simp only [reduceCtorEq, false_iff]
    intro h
    rcases h with ⟨b, -, hb⟩
    apply hzero
    apply take_eq_zeros_of_toNat_lt hlength
    rw [hb]
    cases b <;> decide

end Slot

variable {data : Bytes} {headLength position : Nat}

theorem readStatic_eq_ok_iff (headLength : Nat) {name : String} {kind : Kind} {v : Value}
    (hslot : position + 32 ≤ data.length) (hstatic : kind ≠ .string)
    : readStatic name kind (slotAt data position) = .ok v
        ↔
      Admissible data headLength position kind ∧ v.kind = kind ∧ Denotes data position v := by
  have hlength : (slotAt data position).length = 32 := Bytes.length_slice_of_le hslot
  cases kind with
  | uint8 =>
    rw [Slot.readStatic_uint8_iff hlength]
    cases v <;> simp [Admissible, Denotes, Value.kind, wordAt]
  | uint256 =>
    rw [Slot.readStatic_uint256_iff hlength]
    cases v <;> simp [Admissible, Denotes, Value.kind, wordAt]
  | address =>
    rw [Slot.readStatic_address_iff hlength]
    cases v <;> simp [Admissible, Denotes, Value.kind]
  | bool =>
    rw [Slot.readStatic_bool_iff hlength]
    cases v with
    | bool b => cases b <;> simp +contextual [Admissible, Denotes, Value.kind, wordAt]
    | _ => simp [Value.kind]
  | bytes4 =>
    rw [Slot.readStatic_bytes4_iff hlength]
    cases v <;> simp [Admissible, Denotes, Value.kind]
  | string => contradiction

theorem readPointer_eq_ok_iff {pointer : Pointer} {n : Nat}
    : readPointer data position pointer = .ok n
        ↔
      position + 32 ≤ data.length ∧ wordAt data position = n ∧ n < 2 ^ 64 := by
  unfold readPointer
  change (if position + 32 ≤ data.length then
    if wordAt data position < 2 ^ 64 then _ else _ else _) = _ ↔ _
  by_cases hinside : position + 32 ≤ data.length
  . rw [if_pos hinside]
    by_cases hfits : wordAt data position < 2 ^ 64
    . rw [if_pos hfits, Except.ok.injEq]
      constructor
      . intro h
        subst h
        exact ⟨hinside, rfl, hfits⟩
      . intro h
        rcases h with ⟨-, hn, -⟩
        exact hn
    . rw [if_neg hfits]
      simp only [reduceCtorEq, false_iff]
      intro h
      rcases h with ⟨-, rfl, h⟩
      exact hfits h
  . rw [if_neg hinside]
    simp [hinside]

theorem readPayload_eq_ok_iff {index : Nat} {payload : Bytes}
    (hslot : index * 32 + 32 ≤ data.length)
    : readPayload data headLength index = .ok payload
        ↔
      headLength ≤ wordAt data (index * 32)
        ∧ wordAt data (index * 32) + 32 ≤ data.length
        ∧ wordAt data (index * 32) + 32 + wordAt data (wordAt data (index * 32)) ≤ data.length
        ∧ PointersFit data (index * 32) .string
        ∧ payloadAt data (index * 32) = payload := by
  unfold readPayload
  simp only [Except.bind_eq_ok_iff, readPointer_eq_ok_iff, slotLength, Except.throw_eq_error,
    Except.error_bind, Except.pure_eq_ok]
  constructor
  . intro h
    rcases h with ⟨offset, ⟨-, rfl, hoffset⟩, h⟩
    split at h
    . cases h
    . next hbehind =>
      rcases Except.bind_eq_ok_iff.mp h with ⟨length, hpointer, h⟩
      rcases readPointer_eq_ok_iff.mp hpointer with ⟨hinside, rfl, hlength⟩
      split at h
      . next htext =>
        cases h
        exact ⟨by omega, hinside, htext, ⟨hoffset, hlength⟩, rfl⟩
      . cases h
  . intro h
    rcases h with ⟨hbehind, hinside, htext, ⟨hoffset, hlength⟩, rfl⟩
    refine ⟨_, ⟨hslot, rfl, hoffset⟩, ?_⟩
    rw [if_neg (by omega), Except.bind_eq_ok_iff]
    refine ⟨_, readPointer_eq_ok_iff.mpr ⟨hinside, rfl, hlength⟩, ?_⟩
    rw [if_pos htext]
    rfl

theorem readText_eq_ok_iff {index : Nat} {name : String} {s : String}
    (hslot : index * 32 + 32 ≤ data.length)
    : readText data headLength index name = .ok s
        ↔
      Admissible data headLength (index * 32) .string
        ∧ PointersFit data (index * 32) .string
        ∧ payloadAt data (index * 32) = Text.utf8 s := by
  have hpayload : readText data headLength index name = .ok s
      ↔ readPayload data headLength index = .ok (Text.utf8 s) := by
    unfold readText
    cases readPayload data headLength index with
    | error reach => simp
    | ok payload =>
      dsimp only
      rw [Except.ok.injEq, ← Text.ofUtf8?_eq_some_iff]
      cases Text.ofUtf8? payload <;> simp
  rw [hpayload, readPayload_eq_ok_iff hslot]
  unfold Admissible
  constructor
  . intro h
    rcases h with ⟨hbehind, hinside, htext, hfits, hs⟩
    exact ⟨⟨hbehind, hinside, htext, s, hs.symm⟩, hfits, hs⟩
  . intro h
    rcases h with ⟨⟨hbehind, hinside, htext, -⟩, hfits, hs⟩
    exact ⟨hbehind, hinside, htext, hfits, hs⟩

theorem readParam_of_static {index : Nat} {param : Param} (hstatic : param.kind ≠ .string)
    : readParam data headLength index param
        =
      readStatic param.name param.kind (slotAt data (index * 32)) := by
  have hdynamic : param.kind.isDynamic = false := by
    rcases param with ⟨name, kind⟩
    cases kind <;> simp_all [Kind.isDynamic]
  unfold readParam
  rw [hdynamic]
  rfl

theorem readParam_of_text {index : Nat} {param : Param} (htext : param.kind = .string)
    : readParam data headLength index param
        =
      (readText data headLength index param.name).map Value.string := by
  unfold readParam
  rw [htext]
  rfl

theorem pointersFit_of_static {kind : Kind} (hstatic : kind ≠ .string)
    : PointersFit data position kind := by
  cases kind with
  | string => contradiction
  | _ => trivial

theorem readParam_eq_ok_iff {index : Nat} {param : Param} {v : Value}
    (hslot : index * 32 + 32 ≤ data.length)
    : readParam data headLength index param = .ok v
        ↔
      Admissible data headLength (index * 32) param.kind
        ∧ PointersFit data (index * 32) param.kind
        ∧ v.kind = param.kind
        ∧ Denotes data (index * 32) v := by
  by_cases hstring : param.kind = .string
  . rw [readParam_of_text hstring, hstring]
    simp only [Except.map_eq_ok_iff, readText_eq_ok_iff hslot]
    constructor
    . intro h
      rcases h with ⟨s, ⟨hadmissible, hfits, hs⟩, rfl⟩
      exact ⟨hadmissible, hfits, rfl, hs⟩
    . intro h
      rcases h with ⟨hadmissible, hfits, hkind, hdenotes⟩
      cases v with
      | string s => exact ⟨s, ⟨hadmissible, hfits, hdenotes⟩, rfl⟩
      | _ => simp [Value.kind] at hkind
  . have hfits : PointersFit data (index * 32) param.kind := pointersFit_of_static hstring
    rw [readParam_of_static hstring, readStatic_eq_ok_iff headLength hslot hstring]
    simp only [hfits, true_and]

theorem exists_denotes {kind : Kind} (hslot : position + 32 ≤ data.length)
    (h : Admissible data headLength position kind)
    : ∃ v : Value, v.kind = kind ∧ Denotes data position v := by
  have hlength : (slotAt data position).length = 32 := Bytes.length_slice_of_le hslot
  cases kind with
  | uint8 =>
    rcases Slot.last_byte hlength with ⟨b, hb⟩
    refine ⟨.uint8 b, rfl, ?_⟩
    rw [Denotes, wordAt, Slot.toNat_of_take_eq_zeros h, hb, Bytes.toNat_singleton]
  | uint256 =>
    refine ⟨.uint256 (BitVec.ofNat 256 (wordAt data position)), rfl, ?_⟩
    rw [Denotes, BitVec.toNat_ofNat, Nat.mod_eq_of_lt (wordAt_lt data position)]
  | address =>
    refine ⟨.address ⟨(slotAt data position).drop 12, ?_⟩, rfl, rfl⟩
    rw [List.length_drop, hlength]
  | bool =>
    cases h with
    | inl hzero => exact ⟨.bool false, rfl, hzero⟩
    | inr hone => exact ⟨.bool true, rfl, hone⟩
  | bytes4 =>
    refine ⟨.bytes4 ⟨(slotAt data position).take 4, ?_⟩, rfl, rfl⟩
    rw [List.length_take, hlength]
    omega
  | string =>
    rcases h with ⟨-, -, -, s, hs⟩
    exact ⟨.string s, rfl, hs.symm⟩

end TokenGateway.Abi
