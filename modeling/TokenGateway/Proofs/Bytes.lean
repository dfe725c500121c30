import Mathlib.Algebra.Group.Nat.Defs
import TokenGateway.Bytes

namespace TokenGateway
namespace Bytes

theorem length_slice (bs : List UInt8) (start length : Nat)
    : (slice bs start length).length = min length (bs.length - start) := by
  simp [slice]

theorem length_slice_of_le {bs : List UInt8} {start length : Nat} (h : start + length ≤ bs.length)
    : (slice bs start length).length = length := by
  rw [length_slice]
  omega

theorem slice_slice {bs : List UInt8} {start length start' length' : Nat}
    (h : start' + length' ≤ length)
    : slice (slice bs start length) start' length' = slice bs (start + start') length' := by
  unfold slice
  rw [List.drop_take, List.drop_drop, List.take_take]
  congr 1
  omega

theorem slice_of_slice_eq {bs cs : List UInt8} {start length start' length' : Nat}
    (hslice : slice bs start length = cs) (h : start' + length' ≤ length)
    : slice bs (start + start') length' = slice cs start' length' := by
  rw [← hslice, slice_slice h]

@[simp]
theorem slice_length (bs : List UInt8) : slice bs 0 bs.length = bs := by
  simp [slice]

theorem slice_append_left {bs cs : List UInt8} {start length : Nat} (h : start + length ≤ bs.length)
    : slice (bs ++ cs) start length = slice bs start length := by
  unfold slice
  rw [List.drop_append_of_le_length]
  . rw [List.take_append_of_le_length]
    rw [List.length_drop]
    omega
  . omega

theorem slice_append_right {bs cs : List UInt8} {start start' length : Nat}
    (h : start = bs.length + start')
    : slice (bs ++ cs) start length = slice cs start' length := by
  subst h
  unfold slice
  rw [List.drop_append]
  rw [List.drop_eq_nil_of_le]
  . simp
  . omega

theorem slice_append_middle (as bs cs : List UInt8)
    : slice (as ++ (bs ++ cs)) as.length bs.length = bs := by
  rw [slice_append_right (Nat.add_zero as.length).symm]
  rw [slice_append_left (by omega)]
  rw [slice_length]

theorem getElem?_slice {bs : List UInt8} {start length i : Nat} (h : i < length)
    : (slice bs start length)[i]? = bs[start + i]? := by
  unfold slice
  rw [List.getElem?_take_of_lt h, List.getElem?_drop]

theorem getElem?_eq_of_slice_eq {bs cs : List UInt8} {start length i : Nat}
    (hslice : slice bs start length = slice cs start length) (hstart : start ≤ i)
    (hend : i < start + length)
    : bs[i]? = cs[i]? := by
  have hplace := congrArg (·[i - start]?) hslice
  rw [getElem?_slice (by omega), getElem?_slice (by omega), Nat.add_sub_cancel' hstart] at hplace
  exact hplace

theorem slice_congr {bs cs : List UInt8} {start length : Nat}
    (h : ∀ place, start ≤ place → place < start + length → bs[place]? = cs[place]?)
    : slice bs start length = slice cs start length := by
  apply List.ext_getElem?
  intro i
  by_cases hi : i < length
  . rw [getElem?_slice hi, getElem?_slice hi]
    apply h
    . omega
    . omega
  . have hbs := length_slice bs start length
    have hcs := length_slice cs start length
    rw [List.getElem?_eq_none (by omega), List.getElem?_eq_none (by omega)]

theorem lt_length_of_getElem?_eq {bs cs : List UInt8} {place : Nat} (h : cs[place]? = bs[place]?)
    (hplace : place < bs.length)
    : place < cs.length := by
  rw [List.getElem?_eq_getElem hplace] at h
  rcases List.getElem?_eq_some_iff.mp h with ⟨hlt, -⟩
  exact hlt

theorem eq_of_slice_eq {bs cs : List UInt8} (width count : Nat) (hbs : bs.length = width * count)
    (hcs : cs.length = width * count)
    (h : ∀ i < count, slice bs (width * i) width = slice cs (width * i) width)
    : bs = cs := by
  apply List.ext_getElem?
  intro k
  by_cases hk : k < width * count
  . have hwidth : 0 < width := Nat.pos_of_mul_pos_right (Nat.zero_lt_of_lt hk)
    have hplace := congrArg (·[k % width]?) (h (k / width) (Nat.div_lt_of_lt_mul hk))
    rw [getElem?_slice (Nat.mod_lt k hwidth), getElem?_slice (Nat.mod_lt k hwidth)] at hplace
    rw [Nat.div_add_mod] at hplace
    exact hplace
  . rw [List.getElem?_eq_none (by omega), List.getElem?_eq_none (by omega)]

@[simp]
theorem toNat_nil : toNat [] = 0 := by
  rfl

theorem toNat_cons (b : UInt8) (bs : List UInt8)
    : toNat (b :: bs) = b.toNat * 256 ^ bs.length + toNat bs := by
  rfl

theorem toNat_lt (bs : List UInt8) : toNat bs < 256 ^ bs.length := by
  induction bs with
  | nil => simp
  | cons b bs ih =>
    have hb : b.toNat < 256 := b.toNat_lt
    have hle : (b.toNat + 1) * 256 ^ bs.length ≤ 256 * 256 ^ bs.length :=
      Nat.mul_le_mul_right _ hb
    rw [Nat.add_mul, Nat.one_mul] at hle
    rw [toNat_cons, List.length_cons, Nat.pow_succ]
    omega

theorem toNat_inj {bs : List UInt8}
    : ∀ {cs : List UInt8}, bs.length = cs.length → toNat bs = toNat cs → bs = cs := by
  induction bs with
  | nil =>
    intro cs hlength _
    exact (List.length_eq_zero_iff.mp hlength.symm).symm
  | cons b bs ih =>
    intro cs hlength hnat
    cases cs with
    | nil => simp at hlength
    | cons c cs =>
      have hlength : bs.length = cs.length := by simpa using hlength
      have hbs := toNat_lt bs
      have hcs := toNat_lt cs
      rw [toNat_cons, toNat_cons, hlength] at hnat
      rw [hlength] at hbs
      -- The first byte is the quotient by the weight of its place, and the others the remainder.
      have hhead : b.toNat = c.toNat := by
        have hquotient := congrArg (· / 256 ^ cs.length) hnat
        have hpos := Nat.zero_lt_of_lt hcs
        simpa [Nat.mul_comm _ (256 ^ cs.length), Nat.mul_add_div hpos, Nat.div_eq_of_lt hbs,
          Nat.div_eq_of_lt hcs] using hquotient
      rw [hhead] at hnat
      rw [UInt8.toNat_inj.mp hhead, ih hlength (by omega)]

@[simp]
theorem toNat_ofNat (width n : Nat) : toNat (ofNat width n) = n % 256 ^ width := by
  induction width with
  | zero => simp [ofNat, Nat.mod_one]
  | succ width ih =>
    have hb : (UInt8.ofNat (n / 256 ^ width)).toNat = n / 256 ^ width % 256 := by
      simp
    rw [ofNat, toNat_cons, length_ofNat, ih, Nat.pow_eq, hb]
    rw [Nat.pow_succ, Nat.mod_mul, Nat.mul_comm, Nat.add_comm]

theorem toNat_append (bs cs : List UInt8)
    : toNat (bs ++ cs) = toNat bs * 256 ^ cs.length + toNat cs := by
  induction bs with
  | nil => simp
  | cons b bs ih =>
    rw [List.cons_append, toNat_cons, toNat_cons, List.length_append]
    rw [ih, Nat.pow_add, Nat.add_mul, Nat.mul_assoc, Nat.add_assoc]

@[simp]
theorem toNat_zeros (n : Nat) : toNat (zeros n) = 0 := by
  induction n with
  | zero => rfl
  | succ n ih =>
    unfold zeros at *
    rw [List.replicate_succ, toNat_cons, ih]
    simp

@[simp]
theorem toNat_singleton (b : UInt8) : toNat [b] = b.toNat := by
  simp [toNat_cons]

theorem eq_zeros_iff {bs : List UInt8} {n : Nat} (hlength : bs.length = n)
    : bs = zeros n ↔ ∀ b ∈ bs, b = 0 := by
  unfold zeros
  rw [List.eq_replicate_iff]
  simp [hlength]

theorem exists_ne_zero {bs : List UInt8} {n : Nat} (hlength : bs.length = n) (h : bs ≠ zeros n)
    : ∃ b ∈ bs, b ≠ 0 := by
  rw [ne_eq, eq_zeros_iff hlength] at h
  simpa using h

theorem isZero_iff {bs : List UInt8} : isZero bs = true ↔ bs = zeros bs.length := by
  unfold isZero
  rw [List.all_eq_true, eq_zeros_iff rfl]
  simp

theorem eq_zeros_of_toNat_eq_zero {bs : List UInt8} (h : toNat bs = 0) : bs = zeros bs.length := by
  apply toNat_inj
  . rw [length_zeros]
  . rw [h, toNat_zeros]

end Bytes

namespace FixedBytes

theorem ofBytes?_of_length {n : Nat} {bs : Bytes} (h : bs.length = n)
    : ofBytes? n bs = some ⟨bs, h⟩ := by
  unfold ofBytes?
  rw [dif_pos h]

theorem ofBytes?_eq_some_iff {n : Nat} {bs : Bytes} {x : FixedBytes n}
    : ofBytes? n bs = some x ↔ bs = x.toBytes := by
  constructor
  . intro h
    unfold ofBytes? at h
    split at h
    . cases h
      rfl
    . cases h
  . intro h
    rw [h, ofBytes?_toBytes]

end FixedBytes
end TokenGateway
