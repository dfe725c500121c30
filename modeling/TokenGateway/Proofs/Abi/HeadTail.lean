import Mathlib.Algebra.GroupWithZero.Nat
import Mathlib.Order.Monotone.Basic
import TokenGateway.Proofs.Abi.Layout

/-!
The layout of a tuple as its readers know it, in closed form: how many bytes each value takes up, what
stands in its head slot, and where its tail is and what is in it. The layout does not mention the
packer; that the packed tuple has it, and no other byte string, comes last.
-/

namespace TokenGateway.Abi

namespace Value

def tailSize : Value → Nat
  | .string s => 32 + 32 * (((Text.utf8 s).length + 31) / 32)
  | _ => 0

def IsHead (offset : Nat) (slot : Bytes) : Value → Prop
  | .uint8 n => slot = Bytes.zeros 31 ++ [n]
  | .uint256 n => slot.length = 32 ∧ Bytes.toNat slot = n.toNat
  | .address a => slot = Bytes.zeros 12 ++ a.toBytes
  | .bool b => slot = Bytes.zeros 31 ++ [if b then 1 else 0]
  | .bytes4 bs => slot = bs.toBytes ++ Bytes.zeros 28
  | .string _ => slot.length = 32 ∧ Bytes.toNat slot = offset

def IsTail (bytes : Bytes) : Value → Prop
  | .string s =>
    ∃ word : Bytes, word.length = 32
      ∧ Bytes.toNat word = (Text.utf8 s).length
      ∧ bytes = word ++ (Text.utf8 s ++
          Bytes.zeros (32 * (((Text.utf8 s).length + 31) / 32) - (Text.utf8 s).length))
  | _ => bytes = []

end Value

def tailStart (vs : List Value) (i : Nat) : Nat :=
  32 * vs.length + ((vs.take i).map Value.tailSize).sum

structure IsLayout (vs : List Value) (data : Bytes) : Prop where
  size : data.length = 32 * vs.length + (vs.map Value.tailSize).sum
  heads : ∀ (i : Nat) (hi : i < vs.length),
    vs[i].IsHead (tailStart vs i) (Bytes.slice data (32 * i) 32)
  tails : ∀ (i : Nat) (hi : i < vs.length),
    vs[i].IsTail (Bytes.slice data (tailStart vs i) vs[i].tailSize)

/--
Whether the tails follow the head and one another without a gap, and take up each place behind the
head exactly once.
-/
structure TailsPartition (vs : List Value) (size : Nat) : Prop where
  first : tailStart vs 0 = 32 * vs.length
  next : ∀ (i : Nat) (hi : i < vs.length), tailStart vs (i + 1) = tailStart vs i + vs[i].tailSize
  last : tailStart vs vs.length = size
  cover : ∀ place, 32 * vs.length ≤ place → place < size →
    ∃! i, ∃ hi : i < vs.length,
      tailStart vs i ≤ place ∧ place < tailStart vs i + vs[i].tailSize

theorem paddedLength_eq (n : Nat) : paddedLength n = 32 * ((n + 31) / 32) := by
  rw [paddedLength, slotLength, Nat.mul_comm]
  rfl

theorem length_tail (v : Value) : v.tail.length = v.tailSize := by
  cases v with
  | string s => rw [Value.tail, length_textTail, paddedLength_eq, Value.tailSize]
  | _ => rfl

theorem length_tails (vs : List Value) : (tails vs).length = (vs.map Value.tailSize).sum := by
  unfold tails
  rw [List.length_flatMap]
  simp only [length_tail]

theorem tailOffset_eq (vs : List Value) (i : Nat) : tailOffset vs i = tailStart vs i := by
  rw [tailOffset, tailStart, length_tails]

section Place

variable {vs : List Value} {i : Nat}

theorem tailStart_zero : tailStart vs 0 = 32 * vs.length := by
  simp [tailStart]

theorem tailStart_length
    : tailStart vs vs.length = 32 * vs.length + (vs.map Value.tailSize).sum := by
  rw [tailStart, List.take_length]

theorem tailStart_succ (hi : i < vs.length)
    : tailStart vs (i + 1) = tailStart vs i + vs[i].tailSize := by
  unfold tailStart
  rw [List.take_succ_eq_append_getElem hi, List.map_append, List.sum_append]
  rw [List.map_singleton, List.sum_singleton, Nat.add_assoc]

theorem tailStart_mono (vs : List Value) : Monotone (tailStart vs) := by
  apply monotone_nat_of_le_succ
  intro i
  by_cases hi : i < vs.length
  . rw [tailStart_succ hi]
    omega
  . unfold tailStart
    rw [List.take_of_length_le (by omega), List.take_of_length_le (by omega)]

theorem exists_tail_of_lt {place count : Nat} (hplace : 32 * vs.length ≤ place)
    (hlt : place < tailStart vs count)
    : ∃ i < count, tailStart vs i ≤ place ∧ place < tailStart vs (i + 1) := by
  induction count with
  | zero =>
    rw [tailStart_zero] at hlt
    omega
  | succ count ih =>
    -- The place is in the last of these tails, or in front of it.
    by_cases hbefore : place < tailStart vs count
    . rcases ih hbefore with ⟨i, hi, htail⟩
      exact ⟨i, by omega, htail⟩
    . exact ⟨count, by omega, by omega, hlt⟩

theorem tailsPartition (vs : List Value)
    : TailsPartition vs (32 * vs.length + (vs.map Value.tailSize).sum) where
  first := tailStart_zero
  next := fun _ hi => tailStart_succ hi
  last := tailStart_length
  cover := by
    intro place hhead hsize
    rw [← tailStart_length] at hsize
    rcases exists_tail_of_lt hhead hsize with ⟨i, hi, hstart, hend⟩
    rw [tailStart_succ hi] at hend
    refine ⟨i, ⟨hi, hstart, hend⟩, ?_⟩
    -- Of two tails, the one of the later value starts where the other one has ended.
    rintro j ⟨hj, hstart', hend'⟩
    rw [← tailStart_succ hj] at hend'
    rw [← tailStart_succ hi] at hend
    rcases Nat.lt_trichotomy i j with hlt | heq | hgt
    . have := tailStart_mono vs (by omega : i + 1 ≤ j)
      omega
    . exact heq.symm
    . have := tailStart_mono vs (by omega : j + 1 ≤ i)
      omega

end Place

theorem eq_uintSlot_iff {slot : Bytes} {n : Nat} (hn : n < 2 ^ 256)
    : slot = uintSlot n ↔ slot.length = 32 ∧ Bytes.toNat slot = n := by
  constructor
  . intro h
    rw [h, length_uintSlot, toNat_uintSlot hn]
    exact ⟨rfl, rfl⟩
  . intro h
    apply Bytes.toNat_inj
    . rw [h.1, length_uintSlot]
    . rw [h.2, toNat_uintSlot hn]

theorem uintSlot_toNat (b : UInt8) : uintSlot b.toNat = Bytes.zeros 31 ++ [b] := by
  have := b.toNat_lt
  symm
  rw [eq_uintSlot_iff (by omega)]
  simp [Bytes.toNat_append]

theorem isHead_iff {v : Value} {offset : Nat} {slot : Bytes} (hoffset : offset < 2 ^ 256)
    : v.IsHead offset slot ↔ slot = v.head offset := by
  cases v with
  | uint8 n => rw [Value.IsHead, Value.head, uintSlot_toNat]
  | uint256 n => rw [Value.IsHead, Value.head, eq_uintSlot_iff n.isLt]
  | address a =>
    rw [Value.IsHead, Value.head, addressSlot, rightAligned, a.length_toBytes, slotLength]
  | bool b =>
    have hslot : boolSlot b = Bytes.zeros 31 ++ [if b then 1 else 0] := by
      cases b <;> decide
    rw [Value.IsHead, Value.head, hslot]
  | bytes4 bs => rw [Value.IsHead, Value.head, leftAligned, bs.length_toBytes, slotLength]
  | string s => rw [Value.IsHead, Value.head, eq_uintSlot_iff hoffset]

theorem isTail_iff {v : Value} {bytes : Bytes} (hsize : v.tailSize < 2 ^ 256)
    : v.IsTail bytes ↔ bytes = v.tail := by
  cases v with
  | string s =>
    have hpadded := le_paddedLength (Text.utf8 s).length
    rw [paddedLength_eq] at hpadded
    rw [Value.tailSize] at hsize
    have hword (word : Bytes)
        : word = uintSlot (Text.utf8 s).length
            ↔ word.length = 32 ∧ Bytes.toNat word = (Text.utf8 s).length :=
      eq_uintSlot_iff (by omega)
    rw [Value.IsTail, Value.tail, textTail, paddedLength_eq]
    constructor
    . intro h
      rcases h with ⟨word, hlength, hnat, rfl⟩
      rw [(hword word).mpr ⟨hlength, hnat⟩]
    . intro h
      rcases (hword _).mp rfl with ⟨hlength, hnat⟩
      exact ⟨_, hlength, hnat, h⟩
  | _ => rfl

section Layout

variable {vs : List Value} {data : Bytes}

theorem eq_of_parts {data' : Bytes}
    (hsize : data.length = 32 * vs.length + (vs.map Value.tailSize).sum)
    (hsize' : data'.length = 32 * vs.length + (vs.map Value.tailSize).sum)
    (hheads : ∀ i < vs.length,
      Bytes.slice data (32 * i) 32 = Bytes.slice data' (32 * i) 32)
    (htails : ∀ (i : Nat) (hi : i < vs.length),
      Bytes.slice data (tailStart vs i) vs[i].tailSize
        = Bytes.slice data' (tailStart vs i) vs[i].tailSize)
    : data = data' := by
  -- Each place is in one head slot, in one tail or behind the end of both byte strings.
  apply List.ext_getElem?
  intro place
  by_cases hhead : place < 32 * vs.length
  . apply Bytes.getElem?_eq_of_slice_eq (hheads (place / 32) (by omega))
    . omega
    . omega
  . by_cases hend : place < 32 * vs.length + (vs.map Value.tailSize).sum
    . rcases (tailsPartition vs).cover place (by omega) hend with ⟨i, ⟨hi, hstart, hend⟩, -⟩
      exact Bytes.getElem?_eq_of_slice_eq (htails i hi) hstart hend
    . rw [List.getElem?_eq_none (by omega), List.getElem?_eq_none (by omega)]

theorem isLayout_iff_parts (hsize : 32 * vs.length + (vs.map Value.tailSize).sum < 2 ^ 64)
    : IsLayout vs data
        ↔
      data.length = 32 * vs.length + (vs.map Value.tailSize).sum
        ∧ ∀ (i : Nat) (hi : i < vs.length),
            Bytes.slice data (32 * i) 32 = vs[i].head (tailStart vs i)
              ∧ Bytes.slice data (tailStart vs i) vs[i].tailSize = vs[i].tail := by
  have hfits : ∀ (i : Nat) (hi : i < vs.length), tailStart vs i + vs[i].tailSize < 2 ^ 256 := by
    intro i hi
    have := tailStart_mono vs (by omega : i + 1 ≤ vs.length)
    rw [tailStart_succ hi, tailStart_length] at this
    omega
  have hhead (i : Nat) (hi : i < vs.length) (slot : Bytes)
      : vs[i].IsHead (tailStart vs i) slot ↔ slot = vs[i].head (tailStart vs i) := by
    have := hfits i hi
    apply isHead_iff
    omega
  have htail (i : Nat) (hi : i < vs.length) (bytes : Bytes)
      : vs[i].IsTail bytes ↔ bytes = vs[i].tail := by
    have := hfits i hi
    apply isTail_iff
    omega
  constructor
  . intro h
    refine ⟨h.size, ?_⟩
    intro i hi
    exact ⟨(hhead i hi _).mp (h.heads i hi), (htail i hi _).mp (h.tails i hi)⟩
  . intro h
    refine ⟨h.1, ?_, ?_⟩
    . intro i hi
      exact (hhead i hi _).mpr (h.2 i hi).1
    . intro i hi
      exact (htail i hi _).mpr (h.2 i hi).2

end Layout

theorem isLayout_iff_eq_pack (vs : List Value)
    (hsize : 32 * vs.length + (vs.map Value.tailSize).sum < 2 ^ 64)
    : (∀ data, IsLayout vs data ↔ data = pack vs) ∧ TailsPartition vs (pack vs).length := by
  have hpack : (pack vs).length = 32 * vs.length + (vs.map Value.tailSize).sum := by
    rw [length_pack, length_tails]
  have hhead (i : Nat) (hi : i < vs.length)
      : Bytes.slice (pack vs) (32 * i) 32 = vs[i].head (tailStart vs i) := by
    rw [slice_pack_head hi, tailOffset_eq]
  have htail (i : Nat) (hi : i < vs.length)
      : Bytes.slice (pack vs) (tailStart vs i) vs[i].tailSize = vs[i].tail := by
    rw [← tailOffset_eq, ← length_tail, slice_pack_tail hi]
  constructor
  . intro data
    rw [isLayout_iff_parts hsize]
    constructor
    . intro h
      apply eq_of_parts h.1 hpack
      . intro i hi
        rw [(h.2 i hi).1, hhead i hi]
      . intro i hi
        rw [(h.2 i hi).2, htail i hi]
    . intro h
      rw [h]
      exact ⟨hpack, fun i hi => ⟨hhead i hi, htail i hi⟩⟩
  . rw [hpack]
    apply tailsPartition

def mixedValues : List Value :=
  [.uint8 18, .string "", .string "0123456789abcdef0123456789abcdef", .bytes4 ⟨[1, 2, 3, 4], rfl⟩,
   .string "0123456789abcdef0123456789abcdef0"]

theorem isLayout_mixedValues
    : 32 * mixedValues.length + (mixedValues.map Value.tailSize).sum < 2 ^ 64
        ∧ IsLayout mixedValues (pack mixedValues)
        ∧ TailsPartition mixedValues (pack mixedValues).length
        ∧ (pack mixedValues).length = 5 * 32 + (32 + 64 + 96) := by
  have hsizes : mixedValues.map Value.tailSize = [0, 32, 64, 0, 96] := by decide +kernel
  have hsize : 32 * mixedValues.length + (mixedValues.map Value.tailSize).sum < 2 ^ 64 := by
    rw [hsizes]
    decide
  have hlayout := isLayout_iff_eq_pack mixedValues hsize
  have hpack := (hlayout.1 (pack mixedValues)).mpr rfl
  refine ⟨hsize, hpack, hlayout.2, ?_⟩
  rw [hpack.size, hsizes]
  rfl

end TokenGateway.Abi
