import TokenGateway.Address
import TokenGateway.Proofs.Hex.RoundTrip

namespace TokenGateway.Address

theorem toLower_checkedDigit {c : Char} {bs : Bytes} (hc : c ∈ Hex.digits bs) (nibble : UInt8)
    : (checkedDigit c nibble).toLower = c := by
  have hall : ∀ n < 16,
      (Hex.digit (UInt8.ofNat n)).toLower = Hex.digit (UInt8.ofNat n)
        ∧ (Hex.digit (UInt8.ofNat n)).toUpper.toLower = Hex.digit (UInt8.ofNat n) := by
    decide
  rcases Hex.mem_digits hc with ⟨v, hv, rfl⟩
  have := hall v.toNat hv
  rw [UInt8.ofNat_toNat] at this
  unfold checkedDigit
  split
  . exact this.2
  . exact this.1

theorem map_toLower_checkedDigits {bs : Bytes} {nibbles : List UInt8}
    (hlength : (Hex.digits bs).length ≤ nibbles.length)
    : (List.zipWith checkedDigit (Hex.digits bs) nibbles).map Char.toLower = Hex.digits bs := by
  have hdigit : ∀ entry ∈ (Hex.digits bs).zip nibbles,
      (checkedDigit entry.1 entry.2).toLower = entry.1 := by
    intro entry hentry
    exact toLower_checkedDigit (List.of_mem_zip hentry).1 entry.2
  calc
    (List.zipWith checkedDigit (Hex.digits bs) nibbles).map Char.toLower
    _ = ((Hex.digits bs).zip nibbles).map fun entry =>
          (checkedDigit entry.1 entry.2).toLower := by
      rw [← List.map_uncurry_zip_eq_zipWith, List.map_map]
      rfl
    _ = ((Hex.digits bs).zip nibbles).map Prod.fst := List.map_congr_left hdigit
    _ = Hex.digits bs := List.map_fst_zip hlength

theorem toLower_checksummed (address : Address) : address.checksummed.toLower = address.plain := by
  have hlength : ∀ hash : Bytes, hash.length = 32 →
      (Hex.digits address.toBytes).length
        ≤ (hash.flatMap fun b => [b / 16, b % 16]).length := by
    intro hash hhash
    rw [Hex.length_digits, address.length_toBytes, List.length_flatMap]
    simp [hhash]
  apply String.toList_inj.mp
  unfold checksummed plain Hex.encode
  rw [Hex.toList_toLower, String.toList_ofList, String.toList_ofList, List.map_cons, List.map_cons,
    map_toLower_checkedDigits (hlength _ (Keccak.length_hash _))]
  rfl

end TokenGateway.Address
