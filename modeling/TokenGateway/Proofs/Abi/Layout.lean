import TokenGateway.Abi.Pack
import TokenGateway.Proofs.Bytes

/-!
Heads and tails are laid out by two walks over the values, so the invariant is about one walk from any
value on: the running offset is the offset of the first tail plus the tails walked past.
-/

namespace TokenGateway.Abi

def tailOffset (vs : List Value) (i : Nat) : Nat :=
  32 * vs.length + (tails (vs.take i)).length

@[simp]
theorem length_uintSlot (n : Nat) : (uintSlot n).length = 32 := by
  simp [uintSlot, slotLength]

theorem toNat_uintSlot {n : Nat} (h : n < 2 ^ 256) : Bytes.toNat (uintSlot n) = n := by
  unfold uintSlot
  rw [Bytes.toNat_ofNat]
  apply Nat.mod_eq_of_lt
  exact h

theorem length_pack (vs : List Value) : (pack vs).length = 32 * vs.length + (tails vs).length := by
  rw [pack, List.length_append, length_heads, slotLength]

theorem pack_singleton (v : Value) : pack [v] = v.head 32 ++ v.tail := by
  simp [pack, heads, tails, slotLength]

theorem slice_heads (vs : List Value)
    : ∀ (offset i : Nat) (hi : i < vs.length),
        Bytes.slice (heads offset vs) (32 * i) 32
          =
        vs[i].head (offset + (tails (vs.take i)).length) := by
  induction vs with
  | nil =>
    intro offset i hi
    simp at hi
  | cons v vs ih =>
    intro offset i hi
    have hhead := length_head offset v
    unfold slotLength at hhead
    unfold heads
    cases i with
    | zero =>
      rw [Bytes.slice_append_left (by omega), ← hhead]
      simp [tails]
    | succ i =>
      -- The rest is walked with the offset moved past the tail of `v`.
      have hposition : 32 * (i + 1) = (v.head offset).length + 32 * i := by omega
      rw [Bytes.slice_append_right hposition, ih _ i (by simpa using hi)]
      simp [tails, Nat.add_assoc]

theorem tails_eq_append {vs : List Value} {i : Nat} (hi : i < vs.length)
    : tails vs = tails (vs.take i) ++ (vs[i].tail ++ tails (vs.drop (i + 1))) := by
  unfold tails
  rw [← List.flatMap_cons, ← List.drop_eq_getElem_cons hi, ← List.flatMap_append,
    List.take_append_drop]

theorem slice_tails {vs : List Value} {i : Nat} (hi : i < vs.length)
    : Bytes.slice (tails vs) (tails (vs.take i)).length vs[i].tail.length = vs[i].tail := by
  rw [tails_eq_append hi, Bytes.slice_append_middle]

theorem slice_pack_head {vs : List Value} {i : Nat} (hi : i < vs.length)
    : Bytes.slice (pack vs) (32 * i) 32 = vs[i].head (tailOffset vs i) := by
  have hheads := length_heads (slotLength * vs.length) vs
  unfold pack
  unfold slotLength at hheads ⊢
  rw [Bytes.slice_append_left (by omega), slice_heads]
  rfl

theorem slice_pack_tail {vs : List Value} {i : Nat} (hi : i < vs.length)
    : Bytes.slice (pack vs) (tailOffset vs i) vs[i].tail.length = vs[i].tail := by
  have hheads := length_heads (slotLength * vs.length) vs
  have hposition : tailOffset vs i
      = (heads (slotLength * vs.length) vs).length + (tails (vs.take i)).length := by
    rw [hheads]
    rfl
  rw [pack, Bytes.slice_append_right hposition, slice_tails hi]

theorem tailOffset_add_le {vs : List Value} {i : Nat} (hi : i < vs.length)
    : tailOffset vs i + vs[i].tail.length ≤ (pack vs).length := by
  have htails := congrArg List.length (tails_eq_append hi)
  rw [List.length_append, List.length_append] at htails
  rw [length_pack, tailOffset]
  omega

theorem le_paddedLength (n : Nat) : n ≤ paddedLength n := by
  unfold paddedLength slotLength
  omega

theorem length_textTail (s : String)
    : (textTail s).length = 32 + paddedLength (Text.utf8 s).length := by
  have := le_paddedLength (Text.utf8 s).length
  unfold textTail
  dsimp only
  rw [List.length_append, List.length_append, length_uintSlot, Bytes.length_zeros]
  omega

theorem length_tail_mod (v : Value) : v.tail.length % 32 = 0 := by
  cases v with
  | string s =>
    rw [Value.tail, length_textTail]
    unfold paddedLength slotLength
    omega
  | _ => rfl

theorem length_tails_mod (vs : List Value) : (tails vs).length % 32 = 0 := by
  induction vs with
  | nil => rfl
  | cons v vs ih =>
    have := length_tail_mod v
    unfold tails at *
    rw [List.flatMap_cons, List.length_append]
    omega

theorem length_pack_mod (vs : List Value) : (pack vs).length % 32 = 0 := by
  have := length_tails_mod vs
  rw [length_pack]
  omega

theorem tails_eq_nil {vs : List Value} (h : ∀ v ∈ vs, v.kind ≠ .string) : tails vs = [] := by
  unfold tails
  rw [List.flatMap_eq_nil_iff]
  intro v hv
  cases v with
  | string s => exact absurd rfl (h (.string s) hv)
  | _ => rfl

end TokenGateway.Abi
