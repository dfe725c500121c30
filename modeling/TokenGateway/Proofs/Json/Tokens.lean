import Mathlib.Tactic.SplitIfs
import TokenGateway.Json.Printer
import TokenGateway.Proofs.Json.Number

/-!
A word is cut where it ends, so what stands behind it must not go on with it; a string ends by itself.
-/

namespace TokenGateway.Json

section Word

structure IsWordChar (c : Char) : Prop where
  gap : isGap c = false
  quote : c ≠ '\x22'
  punctuation : punctuation? c = none

instance (c : Char) : Decidable (IsWordChar c) :=
  decidable_of_iff (isGap c = false ∧ c ≠ '\x22' ∧ punctuation? c = none)
    ⟨fun h => ⟨h.1, h.2.1, h.2.2⟩, fun h => ⟨h.gap, h.quote, h.punctuation⟩⟩

def EndsWord (rest : List Char) : Prop :=
  ∀ c cs, rest = c :: cs → ¬IsWordChar c

variable {c : Char} {cs rest : List Char}

theorem endsWord_nil : EndsWord [] := by
  intro c cs h
  cases h

theorem endsWord_of_punctuation {token : Token} (h : punctuation? c = some token)
    : EndsWord (c :: rest) := by
  intro c' cs hcons hword
  cases hcons
  rw [hword.punctuation] at h
  cases h

theorem isWordChar_of_all (h : cs.all fun c => decide (IsWordChar c)) : ∀ c ∈ cs, IsWordChar c := by
  intro c hc
  exact of_decide_eq_true (List.all_eq_true.mp h c hc)

theorem isWordChar_of_isNumberChar (h : IsNumberChar c) : IsWordChar c := by
  rcases h with hdigit | hmem
  . refine ⟨?_, ?_, ?_⟩
    . unfold isGap
      simp only [Bool.or_eq_false_iff, decide_eq_false_iff_not]
      refine ⟨⟨⟨?_, ?_⟩, ?_⟩, ?_⟩
      all_goals
        rintro rfl
        cases hdigit
    . rintro rfl
      cases hdigit
    . unfold punctuation?
      split
      all_goals first | rfl | cases hdigit
  . exact isWordChar_of_all (by decide) c hmem

theorem tokens_word_append (h : ∀ c ∈ cs, IsWordChar c)
    : ∀ reversed,
        tokens (.word reversed) (cs ++ rest) = tokens (.word (cs.reverse ++ reversed)) rest := by
  induction cs with
  | nil =>
    intro reversed
    rfl
  | cons c cs ih =>
    intro reversed
    rcases List.forall_mem_cons.mp h with ⟨hc, hcs⟩
    rw [List.cons_append, tokens, if_neg (by simp [hc.gap]), if_neg hc.quote, hc.punctuation]
    dsimp only
    rw [ih hcs, List.reverse_cons, List.append_assoc]
    rfl

theorem tokens_word_of_endsWord (h : EndsWord rest) (reversed : List Char)
    : tokens (.word reversed) rest = (tokens .gap rest).map (.word reversed.reverse :: ·) := by
  cases rest with
  | nil => rfl
  | cons c cs =>
    rw [tokens, tokens]
    split
    . rfl
    . next hgap =>
      split
      . rfl
      . next hquote =>
        split
        . next token hpunctuation =>
          cases tokens .gap cs <;> rfl
        . next hpunctuation => exact absurd ⟨by simpa using hgap, hquote, hpunctuation⟩ (h c cs rfl)

theorem tokens_gap_word (hne : cs ≠ []) (h : ∀ c ∈ cs, IsWordChar c) (hrest : EndsWord rest)
    : tokens .gap (cs ++ rest) = (tokens .gap rest).map (.word cs :: ·) := by
  cases cs with
  | nil => exact absurd rfl hne
  | cons c cs =>
    rcases List.forall_mem_cons.mp h with ⟨hc, hcs⟩
    rw [List.cons_append, tokens, if_neg (by simp [hc.gap]), if_neg hc.quote, hc.punctuation]
    dsimp only
    rw [tokens_word_append hcs, tokens_word_of_endsWord hrest]
    simp

theorem tokens_gap_punctuation {token : Token} (h : punctuation? c = some token)
    : tokens .gap (c :: rest) = (tokens .gap rest).map (token :: ·) := by
  have hgap : isGap c = false := by
    unfold punctuation? at h
    split at h
    all_goals first | rfl | cases h
  have hquote : c ≠ '\x22' := by
    rintro rfl
    cases h
  rw [tokens, if_neg (by simp [hgap]), if_neg hquote, h]

end Word

section Text

variable {cs rest : List Char}

theorem isHalf_toNat (c : Char) : isLead c.toNat = false ∧ isTrail c.toNat = false := by
  have hvalid : c.toNat < 0xd800 ∨ (0xdfff < c.toNat ∧ c.toNat < 0x110000) := c.valid
  unfold isLead isTrail
  simp only [Bool.and_eq_false_iff, decide_eq_false_iff_not]
  omega

theorem joinPairs_map_toNat (cs : List Char) : joinPairs (cs.map Char.toNat) = some cs := by
  induction cs with
  | nil => rfl
  | cons c cs ih =>
    cases cs with
    | nil => simp [joinPairs, isHalf_toNat]
    | cons d cs =>
      rw [List.map_cons] at ih
      rw [List.map_cons, List.map_cons, joinPairs, ih]
      simp [isHalf_toNat]

theorem tokens_text_escape (c : Char) (ns : List Nat)
    : tokens (.text ns) (escape c ++ rest) = tokens (.text (c.toNat :: ns)) rest := by
  unfold escape
  split_ifs with hquote hbackslash _ _ _ _ _ hcontrol
  -- The characters whose escape is a letter or the character itself.
  iterate 7
    . subst_vars
      rfl
  . have hall : ∀ n < 32, fourDigits? '0' '0' (hexDigit (n / 16)) (hexDigit (n % 16)) = some n := by
      decide
    simp only [List.cons_append, List.nil_append, tokens, hall c.toNat hcontrol]
  . rw [List.singleton_append, tokens, if_neg (by simp [hcontrol, hbackslash])]
    . exact hquote
    . intro _ _ _ _ _ h
      exact absurd h hbackslash
    . intro _ _ h
      exact absurd h hbackslash

theorem tokens_text_append (cs : List Char)
    : ∀ ns, tokens (.text ns) (cs.flatMap escape ++ '\x22' :: rest)
        =
      (tokens .gap rest).map
        (.text ((joinPairs (ns.reverse ++ cs.map Char.toNat)).map String.ofList) :: ·) := by
  induction cs with
  | nil =>
    intro ns
    rw [List.map_nil, List.append_nil]
    rfl
  | cons c cs ih =>
    intro ns
    rw [List.flatMap_cons, List.append_assoc, tokens_text_escape, ih]
    simp

theorem tokens_gap_renderString (s : String)
    : tokens .gap ((renderString s).toList ++ rest)
        =
      (tokens .gap rest).map (.text (some s) :: ·) := by
  unfold renderString
  rw [String.toList_ofList, List.cons_append, List.append_assoc, tokens, if_neg (by decide),
    if_pos rfl, List.singleton_append, tokens_text_append, List.reverse_nil, List.nil_append,
    joinPairs_map_toNat, Option.map_some, String.ofList_toList]

end Text

end TokenGateway.Json
