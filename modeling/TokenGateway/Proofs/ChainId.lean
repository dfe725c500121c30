import TokenGateway.Config
import TokenGateway.Proofs.Text.Blank
import TokenGateway.Proofs.Text.Denotation

/-!
A chain id is a number of 64 bits, in decimal or in hexadecimal behind a mark. The only other texts
that are read have a plus sign in front of the digits.
-/

namespace TokenGateway.ChainId

/--
The rules by which a text is a chain id. What counts as the digits of a number in a radix is left
open.
-/
inductive Writes (denotes : Nat → List Char → Nat → Prop) (text : String) (n : Nat) : Prop
  | decimal (hdigits : denotes 10 text.toList n) (hn : n < 2 ^ 64)
  | hexadecimal {mark : Char} {digits : List Char} (htext : text.toList = '0' :: mark :: digits)
      (hmark : mark = 'x' ∨ mark = 'X') (hdigits : denotes 16 digits n) (hn : n < 2 ^ 64)

def IsChainId (text : String) (n : Nat) : Prop :=
  Writes Text.Denotes text n

def IsSignedChainId (text : String) (n : Nat) : Prop :=
  Writes Text.DenotesSigned text n

variable {digits : List Char} {mark : Char} {text : String} {n : Nat}

theorem writes_or_iff {denotes denotes' : Nat → List Char → Nat → Prop}
    : Writes (fun radix cs n => denotes radix cs n ∨ denotes' radix cs n) text n
        ↔
      Writes denotes text n ∨ Writes denotes' text n := by
  constructor
  . intro h
    cases h with
    | decimal hdigits hn =>
      rcases hdigits with hdigits | hdigits
      . exact .inl (.decimal hdigits hn)
      . exact .inr (.decimal hdigits hn)
    | hexadecimal htext hmark hdigits hn =>
      rcases hdigits with hdigits | hdigits
      . exact .inl (.hexadecimal htext hmark hdigits hn)
      . exact .inr (.hexadecimal htext hmark hdigits hn)
  . rintro (h | h)
    . cases h with
      | decimal hdigits hn => exact .decimal (.inl hdigits) hn
      | hexadecimal htext hmark hdigits hn => exact .hexadecimal htext hmark (.inl hdigits) hn
    . cases h with
      | decimal hdigits hn => exact .decimal (.inr hdigits) hn
      | hexadecimal htext hmark hdigits hn => exact .hexadecimal htext hmark (.inr hdigits) hn

section Mark

variable (hmark : mark = 'x' ∨ mark = 'X')

include hmark

theorem not_denotes_of_mark : ¬Text.Denotes 10 ('0' :: mark :: digits) n := by
  intro h
  rcases h.value with ⟨ds, hds, -⟩
  cases hds with
  | cons _ hds =>
    cases hds with
    | cons hd _ =>
      rw [← Text.digitValue?_eq_some_iff (by decide)] at hd
      rcases hmark with rfl | rfl <;> cases hd

theorem readNumeral_of_mark
    : readNumeral ('0' :: mark :: digits) = Text.readUnsigned 16 (2 ^ 64) digits := by
  rcases hmark with rfl | rfl
  . rfl
  . rfl

end Mark

theorem readNumeral_of_no_mark
    (h : ∀ mark digits, mark = 'x' ∨ mark = 'X' → text.toList ≠ '0' :: mark :: digits)
    : readNumeral text.toList = Text.readUnsigned 10 (2 ^ 64) text.toList := by
  unfold readNumeral
  split
  . next htext => exact absurd htext (h 'x' _ (.inl rfl))
  . next htext => exact absurd htext (h 'X' _ (.inr rfl))
  . rfl

theorem readNumeral_eq_ok_iff
    : readNumeral text.toList = .ok n ↔ IsChainId text n ∨ IsSignedChainId text n := by
  have hread : ∀ radix, 0 < radix → radix ≤ 16 → ∀ cs,
      Text.readUnsigned radix (2 ^ 64) cs = .ok n
        ↔ n < 2 ^ 64 ∧ (Text.Denotes radix cs n ∨ Text.DenotesSigned radix cs n) := by
    intro radix hpos hle cs
    exact Text.readUnsigned_eq_ok_iff hpos hle (Nat.two_pow_pos 64)
  unfold IsChainId IsSignedChainId
  rw [← writes_or_iff]
  by_cases hmarked : ∃ mark digits, (mark = 'x' ∨ mark = 'X') ∧ text.toList = '0' :: mark :: digits
  . rcases hmarked with ⟨mark, digits, hmark, htext⟩
    rw [htext, readNumeral_of_mark hmark, hread 16 (by decide) (by decide)]
    constructor
    . rintro ⟨hn, hdigits⟩
      exact .hexadecimal htext hmark hdigits hn
    . intro h
      cases h with
      -- The mark is no decimal digit, and nothing in front of it is a sign.
      | decimal hdigits hn =>
        rw [htext] at hdigits
        rcases hdigits with hdigits | hdigits
        . exact absurd hdigits (not_denotes_of_mark hmark)
        . exact absurd (Text.denotesSigned_cons_iff.mp hdigits).1 (by decide)
      | hexadecimal htext' hmark' hdigits hn =>
        rw [htext] at htext'
        cases htext'
        exact ⟨hn, hdigits⟩
  . have hno : ∀ mark digits, mark = 'x' ∨ mark = 'X' → text.toList ≠ '0' :: mark :: digits := by
      intro mark digits hmark htext
      exact hmarked ⟨mark, digits, hmark, htext⟩
    rw [readNumeral_of_no_mark hno, hread 10 (by decide) (by decide)]
    constructor
    . rintro ⟨hn, hdigits⟩
      exact .decimal hdigits hn
    . intro h
      cases h with
      | decimal hdigits hn => exact ⟨hn, hdigits⟩
      | hexadecimal htext hmark hdigits hn => exact absurd htext (hno _ _ hmark)

theorem ofText_eq_ok_iff
    : ofText text = .ok n
        ↔
      IsChainId (Text.trim text) n ∨ IsSignedChainId (Text.trim text) n := by
  rw [← readNumeral_eq_ok_iff]
  unfold ofText
  dsimp only
  cases readNumeral (Text.trim text).toList with
  | error e => simp
  | ok m => simp

theorem ofText_eq_error_iff {e : Error}
    : ofText text = .error e ↔ e = ⟨Text.trim text⟩ ∧ ¬∃ n, ofText text = .ok n := by
  unfold ofText
  dsimp only
  cases readNumeral (Text.trim text).toList with
  | error e' => simp [eq_comm]
  | ok m => simp

theorem ofText_of_trims (text : String)
    : let w := Text.trim text
      (∀ w', Text.Trims text w' ↔ w' = w)
        ∧ (∀ n, ofText text = .ok n ↔ IsChainId w n ∨ IsSignedChainId w n)
        ∧ ∀ e, ofText text = .error e
            ↔ e = ⟨w⟩ ∧ ¬∃ n, IsChainId w n ∨ IsSignedChainId w n := by
  refine ⟨fun w' => Text.trims_iff, fun n => ofText_eq_ok_iff, ?_⟩
  intro e
  simp only [← ofText_eq_ok_iff]
  exact ofText_eq_error_iff

theorem ofText_plus
    : ofText "0x+539" = .ok 1337 ∧ ¬∃ n, IsChainId (Text.trim "0x+539") n := by
  have htrim : Text.trim "0x+539" = "0x+539" := by decide +kernel
  refine ⟨by decide +kernel, ?_⟩
  rw [htrim]
  rintro ⟨n, h⟩
  cases h with
  | decimal hdigits hn => exact not_denotes_of_mark (.inl rfl) hdigits
  | hexadecimal htext hmark hdigits hn =>
    cases htext
    exact Text.not_denotes_plus (Nat.le_refl 16) hdigits

end TokenGateway.ChainId
