import TokenGateway.Proofs.Abi.Layout
import TokenGateway.Proofs.Abi.Tuple

namespace TokenGateway.Abi

/--
Whether the offset and the length of every text in the packed tuple are positions in a memory of 64
bits.
-/
def Addressable (vs : List Value) : Prop :=
  ∀ (i : Nat) (s : String), vs[i]? = some (.string s) →
    tailOffset vs i < 2 ^ 64 ∧ (Text.utf8 s).length < 2 ^ 64

theorem addressable_of_length_lt {vs : List Value} (hlength : (pack vs).length < 2 ^ 63)
    : Addressable vs := by
  intro i s hs
  rcases List.getElem?_eq_some_iff.mp hs with ⟨hi, hvalue⟩
  have hle := tailOffset_add_le hi
  have htail := length_textTail s
  have hpadded := le_paddedLength (Text.utf8 s).length
  rw [hvalue, Value.tail] at hle
  omega

theorem addressable_of_static {vs : List Value} (hstatic : ∀ v ∈ vs, v.kind ≠ .string)
    : Addressable vs := by
  intro i s hs
  exact absurd rfl (hstatic _ (List.mem_of_getElem? hs))

theorem addressable_singleton {s : String} (hlength : (Text.utf8 s).length < 2 ^ 64)
    : Addressable [.string s] := by
  intro i s' hs
  cases i with
  | zero =>
    cases hs
    exact ⟨by simp [tailOffset, tails], hlength⟩
  | succ i => simp at hs

variable {vs : List Value} {i : Nat}

theorem slotAt_pack (hi : i < vs.length)
    : slotAt (pack vs) (32 * i) = vs[i].head (tailOffset vs i) := by
  unfold slotAt
  apply slice_pack_head

section Text

variable {s : String} (hs : vs[i]? = some (.string s))

include hs

theorem slice_pack_text
    : ∃ padding,
        Bytes.slice (pack vs) (tailOffset vs i) (textTail s).length
          =
        uintSlot (Text.utf8 s).length ++ (Text.utf8 s ++ padding) := by
  rcases List.getElem?_eq_some_iff.mp hs with ⟨hi, hvalue⟩
  have hslice := slice_pack_tail hi
  rw [hvalue, Value.tail] at hslice
  rw [hslice]
  exact ⟨_, rfl⟩

variable (haddressable : Addressable vs)

include haddressable

theorem wordAt_pack_offset : wordAt (pack vs) (32 * i) = tailOffset vs i := by
  rcases List.getElem?_eq_some_iff.mp hs with ⟨hi, hvalue⟩
  have hfits := (haddressable i s hs).1
  rw [wordAt, slotAt_pack hi, hvalue, Value.head, toNat_uintSlot]
  omega

theorem wordAt_pack_length : wordAt (pack vs) (tailOffset vs i) = (Text.utf8 s).length := by
  rcases slice_pack_text hs with ⟨padding, hslice⟩
  have hfits := (haddressable i s hs).2
  have htail := length_textTail s
  have hword := Bytes.slice_of_slice_eq hslice (by omega : 0 + 32 ≤ (textTail s).length)
  rw [Nat.add_zero, Bytes.slice_append_left (by simp)] at hword
  rw [wordAt, slotAt, hword, ← length_uintSlot (Text.utf8 s).length, Bytes.slice_length]
  rw [toNat_uintSlot]
  omega

theorem payloadAt_pack : payloadAt (pack vs) (32 * i) = Text.utf8 s := by
  rcases slice_pack_text hs with ⟨padding, hslice⟩
  have htail := length_textTail s
  have hpadded := le_paddedLength (Text.utf8 s).length
  have hpayload := Bytes.slice_of_slice_eq hslice
    (by omega : 32 + (Text.utf8 s).length ≤ (textTail s).length)
  unfold payloadAt
  rw [wordAt_pack_offset hs haddressable]
  dsimp only
  rw [wordAt_pack_length hs haddressable, hpayload]
  rw [← length_uintSlot (Text.utf8 s).length, Bytes.slice_append_middle]

theorem admissible_pack_text : Admissible (pack vs) (32 * vs.length) (32 * i) .string := by
  rcases List.getElem?_eq_some_iff.mp hs with ⟨hi, hvalue⟩
  have hle := tailOffset_add_le hi
  have htail := length_textTail s
  have hpadded := le_paddedLength (Text.utf8 s).length
  rw [hvalue, Value.tail] at hle
  unfold Admissible
  dsimp only
  rw [wordAt_pack_offset hs haddressable, wordAt_pack_length hs haddressable]
  refine ⟨?_, ?_, ?_, s, (payloadAt_pack hs haddressable).symm⟩
  . unfold tailOffset
    omega
  . omega
  . omega

end Text

theorem denotes_pack (haddressable : Addressable vs) (hi : i < vs.length)
    : Denotes (pack vs) (32 * i) vs[i] := by
  have hslot := slotAt_pack hi
  have hvalue := List.getElem?_eq_getElem hi
  generalize vs[i] = v at *
  cases v with
  | uint8 n =>
    have := n.toNat_lt
    rw [Denotes, wordAt, hslot, Value.head, toNat_uintSlot]
    omega
  | uint256 n =>
    rw [Denotes, wordAt, hslot, Value.head, toNat_uintSlot]
    exact n.isLt
  | address a =>
    rw [Denotes, hslot, Value.head, addressSlot, rightAligned, a.length_toBytes]
    apply List.drop_left'
    rw [Bytes.length_zeros, slotLength]
  | bool b =>
    rw [Denotes, wordAt, hslot, Value.head, boolSlot, toNat_uintSlot]
    cases b <;> decide
  | bytes4 bs =>
    rw [Denotes, hslot, Value.head, leftAligned]
    apply List.take_left'
    exact bs.length_toBytes
  | string s => exact payloadAt_pack hvalue haddressable

theorem admissible_pack (haddressable : Addressable vs) (hi : i < vs.length)
    : Admissible (pack vs) (32 * vs.length) (32 * i) vs[i].kind := by
  have hslot := slotAt_pack hi
  have hdenotes := denotes_pack haddressable hi
  have hvalue := List.getElem?_eq_getElem hi
  generalize vs[i] = v at *
  cases v with
  | uint8 n =>
    have := n.toNat_lt
    apply Slot.take_eq_zeros_of_toNat_lt
    . rw [hslot, length_head, slotLength]
    . rw [Denotes, wordAt] at hdenotes
      omega
  | uint256 n => trivial
  | address a =>
    rw [Value.kind, Admissible, hslot, Value.head, addressSlot, rightAligned, a.length_toBytes]
    apply List.take_left'
    rw [Bytes.length_zeros, slotLength]
  | bool b =>
    rw [Denotes] at hdenotes
    rw [Value.kind, Admissible, hdenotes]
    cases b <;> simp
  | bytes4 bs =>
    rw [Value.kind, Admissible, hslot, Value.head, leftAligned, bs.length_toBytes]
    apply List.drop_left'
    exact bs.length_toBytes
  | string s => exact admissible_pack_text hvalue haddressable

section Schema

variable {schema : List Param} (hkinds : schema.map (·.kind) = vs.map Value.kind)

include hkinds

theorem length_eq_of_kinds : schema.length = vs.length := by
  simpa using congrArg List.length hkinds

theorem kind_eq_of_kinds (hi : i < schema.length) (hvs : i < vs.length)
    : schema[i].kind = vs[i].kind := by
  have := congrArg (·[i]?) hkinds
  simpa [hi, hvs] using this

theorem kind_ne_string_of_kinds (hstatic : ∀ param ∈ schema, param.kind ≠ .string)
    : ∀ v ∈ vs, v.kind ≠ .string := by
  intro v hv
  have hkind : v.kind ∈ schema.map (·.kind) := by
    rw [hkinds]
    exact List.mem_map_of_mem hv
  rcases List.mem_map.mp hkind with ⟨param, hparam, heq⟩
  rw [← heq]
  exact hstatic param hparam

theorem isTuple_pack (haddressable : Addressable vs) : IsTuple schema (pack vs) := by
  have hlength := length_eq_of_kinds hkinds
  constructor
  . apply length_pack_mod
  . rw [length_pack]
    omega
  -- Values without a text have no tails.
  . intro hstatic
    rw [length_pack, tails_eq_nil, List.length_nil]
    . omega
    . apply kind_ne_string_of_kinds hkinds hstatic
  . intro i hi
    rw [kind_eq_of_kinds hkinds hi (by omega), hlength]
    apply admissible_pack haddressable

theorem holds_pack (haddressable : Addressable vs)
    : Holds schema (pack vs) ⟨(schema.map (·.name)).zip vs⟩ := by
  have hlength := length_eq_of_kinds hkinds
  constructor
  . simp [Binding.size, hlength]
  . intro i hi
    have hvs : i < vs.length := by omega
    refine ⟨vs[i], ?_, (kind_eq_of_kinds hkinds hi hvs).symm, denotes_pack haddressable hvs⟩
    rw [List.getElem?_zip_eq_some]
    simp [hi, hvs]

theorem pointersFit_pack (haddressable : Addressable vs)
    : ∀ (i : Nat) (hi : i < schema.length), PointersFit (pack vs) (32 * i) schema[i].kind := by
  intro i hi
  have hlength := length_eq_of_kinds hkinds
  have hvs : i < vs.length := by omega
  have hvalue := List.getElem?_eq_getElem hvs
  rw [kind_eq_of_kinds hkinds hi hvs]
  generalize vs[i] = v at *
  cases v with
  | string s =>
    rcases haddressable i s hvalue with ⟨hoffset, hlength⟩
    rw [Value.kind, PointersFit, wordAt_pack_offset hvalue haddressable,
      wordAt_pack_length hvalue haddressable]
    exact ⟨hoffset, hlength⟩
  | _ => trivial

theorem unpack_pack (haddressable : Addressable vs)
    : unpack schema (pack vs) = .ok ⟨(schema.map (·.name)).zip vs⟩ := by
  rw [unpack_eq_ok_iff]
  refine ⟨?_, ?_, ?_⟩
  . apply isTuple_pack hkinds haddressable
  . apply pointersFit_pack hkinds haddressable
  . apply holds_pack hkinds haddressable

end Schema

theorem get?_zip {names : List String} (hlength : names.length = vs.length) (hi : i < names.length)
    (hfirst : ∀ (j : Nat) (hj : j < i), names[j] ≠ names[i])
    : Binding.get? ⟨names.zip vs⟩ names[i] = vs[i]? := by
  have hvs : i < vs.length := by omega
  have hzip : i < (names.zip vs).length := by
    rw [List.length_zip]
    omega
  have hfind : (names.zip vs).find? (fun entry => entry.1 == names[i])
      = some (names[i], vs[i]) := by
    rw [List.find?_eq_some_iff_getElem]
    refine ⟨by simp, i, hzip, by simp, ?_⟩
    intro j hj
    simpa using hfirst j hj
  rw [Binding.get?, hfind, List.getElem?_eq_getElem hvs]
  rfl

theorem unpack_pack_values (schema : List Param) (vs : List Value)
    (hkinds : schema.map (·.kind) = vs.map Value.kind) (hlength : (pack vs).length < 2 ^ 63)
    : ∃ binding,
        unpack schema (pack vs) = .ok binding
          ∧ binding.values = vs
          ∧ binding.size = vs.length
          ∧ ∀ (i : Nat) (hi : i < schema.length),
              (∀ (j : Nat) (hj : j < i), schema[j].name ≠ schema[i].name) →
                binding.get? schema[i].name = vs[i]? := by
  have hsame := length_eq_of_kinds hkinds
  refine ⟨_, unpack_pack hkinds (addressable_of_length_lt hlength), ?_, ?_, ?_⟩
  . unfold Binding.values
    apply List.map_snd_zip
    simp [hsame]
  . simp [Binding.size, hsame]
  . intro i hi hfirst
    have hnames : (schema.map (·.name)).length = vs.length := by
      simpa using hsame
    have hname := get?_zip (i := i) hnames (by simpa using hi) (by simpa using hfirst)
    simpa using hname

theorem unpack_pack_repeated_name
    : (pack [.string "hé", .uint8 7, .string ""]).length < 2 ^ 63
        ∧ ∃ binding,
            unpack [⟨"x", .string⟩, ⟨"x", .uint8⟩, ⟨"y", .string⟩]
                (pack [.string "hé", .uint8 7, .string ""]) = .ok binding
              ∧ binding.values = [.string "hé", .uint8 7, .string ""]
              ∧ binding.get? "x" = some (.string "hé")
              ∧ binding.get? "y" = some (.string "") := by
  have hlength : (pack [.string "hé", .uint8 7, .string ""]).length < 2 ^ 63 := by decide +kernel
  rcases unpack_pack_values [⟨"x", .string⟩, ⟨"x", .uint8⟩, ⟨"y", .string⟩] _ rfl hlength
    with ⟨binding, hread, hvalues, -, hget⟩
  refine ⟨hlength, binding, hread, hvalues, ?_, ?_⟩
  . apply hget 0 (by decide)
    intro j hj
    omega
  . apply hget 2 (by decide)
    intro j hj
    have hnames : j = 0 ∨ j = 1 := by omega
    rcases hnames with rfl | rfl <;> simp

end TokenGateway.Abi
