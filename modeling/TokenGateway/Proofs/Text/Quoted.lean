import Mathlib.Data.List.Infix
import TokenGateway.Text.Quoted

namespace TokenGateway.Text

def Mentions (message text : String) : Prop :=
  text.toList <:+: message.toList

def IsPlain (text : String) : Prop :=
  ∀ c ∈ text.toList, 0x20 ≤ c.toNat ∧ c.toNat < 0x7f ∧ c ≠ '\x22' ∧ c ≠ '\x5c'

variable {message text part : String}

theorem mentions_self (text : String) : Mentions text text :=
  List.infix_rfl

namespace Mentions

theorem trans (h : Mentions message text) (h' : Mentions text part) : Mentions message part :=
  List.IsInfix.trans h' h

theorem append (h : Mentions message text) (rest : String) : Mentions (message ++ rest) text := by
  unfold Mentions
  rw [String.toList_append]
  exact List.infix_append_of_infix_left h

theorem prepend (h : Mentions message text) (front : String) : Mentions (front ++ message) text := by
  unfold Mentions
  rw [String.toList_append]
  exact List.infix_append_of_infix_right h

end Mentions

theorem quoteChar_of_plain {c : Char} (hlow : 0x20 ≤ c.toNat) (hhigh : c.toNat < 0x7f)
    (hmark : c ≠ '\x22') (hescape : c ≠ '\x5c')
    : quoteChar '\x22' c = [c] := by
  have hall : ∀ n < 0x7f, 0x20 ≤ n → Char.ofNat n ≠ '\x22' → Char.ofNat n ≠ '\x5c' →
      quoteChar '\x22' (Char.ofNat n) = [Char.ofNat n] := by
    decide +kernel
  have := hall c.toNat hhigh hlow
  rw [Char.ofNat_toNat] at this
  exact this hmark hescape

theorem mentions_quote (h : IsPlain text) : Mentions (quote text) text := by
  have hchars : text.toList.flatMap (quoteChar '\x22') = text.toList := by
    have hchar : ∀ c ∈ text.toList, quoteChar '\x22' c = [c] := by
      intro c hc
      rcases h c hc with ⟨hlow, hhigh, hmark, hescape⟩
      exact quoteChar_of_plain hlow hhigh hmark hescape
    rw [List.flatMap_congr hchar, List.flatMap_singleton']
  unfold Mentions quote quoteBetween
  rw [String.toList_ofList, hchars]
  exact ⟨['\x22'], ['\x22'], rfl⟩

end TokenGateway.Text
