import TokenGateway.Proofs.Json.Fields
import TokenGateway.Proofs.Rpc.BlockTag
import TokenGateway.Proofs.Text.Minimal

namespace TokenGateway.Rpc

def AsksFor (params : Params) (tag : String) : Prop :=
  ∃ full?, blockParams? params = some (tag, full?)

def AnswersBlock (config : Config) (node : Node) (tag : String) (n : Nat) : Prop :=
  ∀ params, AsksFor params tag →
    answer config node "eth_getBlockByNumber" params = .plain (.ok (emptyBlock n))

structure IsEmptyBlock (block : Json) (number : String) : Prop where
  number : block.HasMember "number" (.string number)
  transactions : block.HasMember "transactions" (.array [])
  uncles : block.HasMember "uncles" (.array [])

variable {config : Config} {node : Node} {tag digits spelled : String} {n zeros : Nat}

theorem asksFor_positional (tag : String) (full? : Option Bool)
    : AsksFor (.positional (.string tag :: (full?.map Json.bool).toList)) tag := by
  refine ⟨full?, ?_⟩
  cases full? <;> rfl

theorem lt_of_resolves (h : resolveBlockTag tag = some n) : n < 2 ^ 64 := by
  rw [resolveBlockTag_eq_some_iff] at h
  rcases h with htag | ⟨digits, -, -, hn⟩
  . cases htag with
    | symbolic htag => exact Nat.two_pow_pos 64
    | number htag hdigits hn => exact hn
  . exact hn

theorem isEmptyBlock_emptyBlock (h : Text.IsMinimal 16 digits.toList n)
    : IsEmptyBlock (emptyBlock n) ("0x" ++ digits) := by
  rw [Text.isMinimal_toList_iff (by decide) (Nat.le_refl 16)] at h
  rw [h, ← Text.quantity_eq]
  exact ⟨⟨_, rfl, rfl⟩, ⟨_, rfl, rfl⟩, ⟨_, rfl, rfl⟩⟩

theorem resolveBlockTag_of_padded (hn : n < 2 ^ 64) (hdigits : Text.IsMinimal 16 digits.toList n)
    (hspelled : spelled.toList.map Char.toLower = List.replicate zeros '0' ++ digits.toList)
    : resolveBlockTag ("0x" ++ spelled) = some n := by
  have htag : ("0x" ++ spelled).toList = '0' :: 'x' :: spelled.toList := String.toList_append
  rw [Text.isMinimal_iff (by decide) (Nat.le_refl 16)] at hdigits
  rw [resolveBlockTag_eq_some_iff]
  apply Or.inl
  apply NamesBlock.number htag _ hn
  rw [Text.denotes_iff_padded (by decide) (Nat.le_refl 16)]
  exact ⟨zeros, hdigits ▸ hspelled⟩

theorem resolveBlockTag_of_isMinimal (hn : n < 2 ^ 64)
    (hdigits : Text.IsMinimal 16 digits.toList n)
    : resolveBlockTag ("0x" ++ digits) = some n := by
  have hlower : digits.toList.map Char.toLower = List.replicate 0 '0' ++ digits.toList := by
    rw [List.map_congr_left hdigits.lower, List.map_id', List.replicate_zero, List.nil_append]
  exact resolveBlockTag_of_padded hn hdigits hlower

theorem answersBlock_of_resolves (h : resolveBlockTag tag = some n)
    : AnswersBlock config node tag n := by
  rintro params ⟨full?, hparams⟩
  rw [answer_of_blockParams hparams, blockAnswer_of_resolves h]

theorem answer_of_resolvedTag (config : Config) (node : Node)
    : (∀ tag (full? : Option Bool),
          AsksFor (.positional (.string tag :: (full?.map Json.bool).toList)) tag)
        ∧ (∀ tag n, resolveBlockTag tag = some n →
          AnswersBlock config node tag n
            ∧ ∃ digits : String,
                (∀ w : String, Text.IsMinimal 16 w.toList n ↔ w = digits)
                  ∧ IsEmptyBlock (emptyBlock n) ("0x" ++ digits)
                  ∧ AnswersBlock config node ("0x" ++ digits) n)
        ∧ (∀ tag, resolveBlockTag tag = none → ∀ params, AsksFor params tag →
            answer config node "eth_getBlockByNumber" params
              =
            .plain (.error ⟨-32602, "invalid block tag " ++ Text.quote tag, none⟩))
        ∧ ∀ (n zeros : Nat) (digits spelled : String),
            n < 2 ^ 64 →
            Text.IsMinimal 16 digits.toList n →
            spelled.toList.map Char.toLower = List.replicate zeros '0' ++ digits.toList →
              AnswersBlock config node ("0x" ++ spelled) n := by
  refine ⟨asksFor_positional, ?_, ?_, ?_⟩
  . intro tag n h
    have hunique : ∀ w : String, Text.IsMinimal 16 w.toList n
        ↔ w = String.ofList (Nat.toDigits 16 n) := by
      intro w
      exact Text.isMinimal_toList_iff (by decide) (Nat.le_refl 16)
    have hminimal := (hunique _).mpr rfl
    have hagain := resolveBlockTag_of_isMinimal (lt_of_resolves h) hminimal
    exact ⟨answersBlock_of_resolves h, _, hunique, isEmptyBlock_emptyBlock hminimal,
      answersBlock_of_resolves hagain⟩
  . rintro tag h params ⟨full?, hparams⟩
    rw [answer_of_blockParams hparams]
    apply blockAnswer_of_not_resolves
    simp [h]
  . intro n zeros digits spelled hn hdigits hspelled
    exact answersBlock_of_resolves (resolveBlockTag_of_padded hn hdigits hspelled)

theorem answer_of_largestBlock
    : resolveBlockTag "0x00FFffffffffffffff" = some (2 ^ 64 - 1)
        ∧ answer Config.sample (fun _ => .never) "eth_getBlockByNumber"
              (.positional [.string "0x00FFffffffffffffff", .bool true])
            =
          .plain (.ok (emptyBlock (2 ^ 64 - 1)))
        ∧ IsEmptyBlock (emptyBlock (2 ^ 64 - 1)) "0xffffffffffffffff"
        ∧ answer Config.sample (fun _ => .never) "eth_getBlockByNumber"
              (.positional [.string "0x10000000000000000"])
            =
          .plain (.error ⟨-32602, "invalid block tag \"0x10000000000000000\"", none⟩)
        ∧ AnswersBlock Config.sample (fun _ => .never) "0x00FFffffffffffffff" (2 ^ 64 - 1) := by
  have hresolves : resolveBlockTag "0x00FFffffffffffffff" = some (2 ^ 64 - 1) := by decide +kernel
  have hrefused : resolveBlockTag "0x10000000000000000" = none := by decide +kernel
  have hminimal : Text.IsMinimal 16 "ffffffffffffffff".toList (2 ^ 64 - 1) := by
    rw [Text.isMinimal_toList_iff (by decide) (Nat.le_refl 16)]
    decide +kernel
  rcases answer_of_resolvedTag Config.sample (fun _ => .never) with
    ⟨hasks, hanswer, herror, hpadded⟩
  rcases hanswer _ _ hresolves with ⟨hblock, digits, hunique, hempty, -⟩
  have hdigits := (hunique _).mp hminimal
  subst hdigits
  refine ⟨hresolves, hblock _ (hasks _ (some true)), hempty, ?_, ?_⟩
  . exact herror _ hrefused _ (hasks _ none)
  . exact hpadded (2 ^ 64 - 1) 2 "ffffffffffffffff" "00FFffffffffffffff" (by decide) hminimal
      (by decide)

end TokenGateway.Rpc
