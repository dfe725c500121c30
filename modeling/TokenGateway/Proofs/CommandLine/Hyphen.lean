import TokenGateway.Proofs.CommandLine.Settings
import TokenGateway.Proofs.Hex.Reading
import TokenGateway.Proofs.Text.Blank
import TokenGateway.Proofs.Text.Minimal
import TokenGateway.Proofs.Text.Split

namespace TokenGateway

variable {cs : List Char} {text : String}

theorem Text.exists_readDigits_of_readSigned {radix limit : Nat} {k : Int}
    (h : Text.readSigned radix limit ('-' :: cs) = .ok k)
    : cs ≠ [] ∧ ∃ n : Nat, Text.readDigits radix (limit + 1) 0 cs = .ok n ∧ k = -n := by
  cases cs with
  | nil => cases h
  | cons c cs =>
    refine ⟨List.cons_ne_nil c cs, ?_⟩
    rw [readSigned] at h
    . split at h
      . next n hn =>
        cases h
        exact ⟨n, hn, rfl⟩
      . cases h
      . cases h
    . simp

theorem Url.readScheme?_hyphen : Url.readScheme? ('-' :: cs) = none := by
  have hcut := Text.cutAt?_cons_of_ne (show '-' ≠ ':' by decide) cs
  unfold readScheme?
  rw [hcut]
  cases Text.cutAt? ':' cs with
  | none => rfl
  | some parts => rfl

theorem Ip.readV4_hyphen : Ip.readV4 ('-' :: cs) = none := by
  have hoctet : ∀ first, Ip.readOctet ('-' :: first) = none := by
    intro first
    unfold readOctet
    split <;> rfl
  rcases Text.pieces_cons_of_ne (show '-' ≠ '.' by decide) cs with ⟨first, rest, hpieces⟩
  rw [readV4, hpieces, List.mapM_cons, hoctet]
  rfl

section Refused

variable (htext : text.toList = '-' :: cs)

include htext

theorem ChainId.toOption_ofText_hyphen : (ChainId.ofText text).toOption = none := by
  have hblank : Text.isBlank '-' = false := by decide
  rcases Text.trimBoth_cons_of_neg hblank cs with ⟨rest, hrest⟩
  have htrim : (Text.trim text).toList = '-' :: rest := by
    rw [Text.trim, htext, hrest, String.toList_ofList]
  rw [ofText, htrim]
  rfl

theorem Address.toOption_ofText_hyphen : (Address.ofText text).toOption = none := by
  have hplain : Text.utf8 (String.singleton '-') = [0x2d] := by decide +kernel
  have hunmark : Hex.unmark ('-' :: cs) = '-' :: cs := rfl
  rw [ofText, Hex.stripMark, htext, hunmark, Text.utf8_ofList_cons, hplain]
  cases Text.utf8 (String.ofList cs) with
  | nil => rfl
  -- With a second byte behind it the hyphen is read, and it is no digit.
  | cons lo body =>
    split
    . rfl
    . split
      . rfl
      . rfl

theorem Url.toOption_ofText_hyphen : (Url.ofText text).toOption = none := by
  have hkept : decide ('-'.toNat ≤ 0x20) = false := by decide
  rcases Text.trimBoth_cons_of_neg (p := fun c => c.toNat ≤ 0x20) hkept cs with ⟨rest, hrest⟩
  rw [ofText, htext, hrest, List.filter_cons_of_pos (by decide), readScheme?_hyphen]
  rfl

theorem SocketAddress.ofText?_hyphen : SocketAddress.ofText? text = none := by
  have hcut := Text.cutAt?_cons_of_ne (show '-' ≠ ':' by decide) cs
  rw [ofText?, htext, read]
  . rw [hcut]
    cases Text.cutAt? ':' cs with
    | none => rfl
    | some parts =>
      simp [Ip.readV4_hyphen]
  . rintro rest ⟨⟩

theorem CommandLine.Given.readBool?_hyphen : readBool? text = Option.none := by
  unfold readBool?
  split
  . cases htext
  . cases htext
  . rfl

theorem CommandLine.Given.readMaxConnections_hyphen {n : Nat}
    (h : readMaxConnections text = .ok n)
    : ∃ zeros, cs = '0' :: List.replicate zeros '0' := by
  unfold readMaxConnections at h
  rw [htext] at h
  split at h
  . cases h
  . next k hk =>
    split at h
    -- The number is not below zero, so behind the hyphen stands zero.
    . next hbounds =>
      rcases Text.exists_readDigits_of_readSigned hk with ⟨hcs, m, hm, hkm⟩
      have hzero : m = 0 := by omega
      subst hzero
      rw [Text.readDigits_zero_eq_ok_iff (by decide) (by decide) hcs (by omega)] at hm
      exact Text.eq_zeros_of_denotes_zero (by decide) (by decide) hm.2
    . cases h

end Refused

namespace CommandLine.Opt

theorem eq_maxConnections_of_hyphen {o : Opt} {v : o.Value} (htext : text.toList = '-' :: cs)
    (h : o.read? text = some v)
    : o = .maxConnections ∧ ∃ zeros, cs = '0' :: List.replicate zeros '0' := by
  cases o with
  | chainId => simp [read?, ChainId.toOption_ofText_hyphen htext] at h
  | contract => simp [read?, Address.toOption_ofText_hyphen htext] at h
  | nodeUrl => simp [read?, Url.toOption_ofText_hyphen htext] at h
  | nodeContract => simp [read?, Address.toOption_ofText_hyphen htext] at h
  | nodeTimeout =>
    rw [read?, htext] at h
    cases h
  | listenAddress => simp [read?, SocketAddress.ofText?_hyphen htext] at h
  | maxConnections =>
    refine ⟨rfl, ?_⟩
    rw [read?, Except.toOption_eq_some_iff] at h
    exact Given.readMaxConnections_hyphen htext h
  | logJson => simp [read?, Given.readBool?_hyphen htext] at h

end CommandLine.Opt

end TokenGateway
