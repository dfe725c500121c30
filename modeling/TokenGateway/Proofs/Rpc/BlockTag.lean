import TokenGateway.Proofs.Dispatch.Plan
import TokenGateway.Proofs.Text.Denotation
import TokenGateway.Rpc.Service

/-!
A block tag is one of five words, or a number of 64 bits in hexadecimal behind a mark. The only other
texts that are taken for tags have a plus sign between the mark and the digits.
-/

namespace TokenGateway.Rpc

abbrev symbolicTags : List String :=
  ["latest", "earliest", "pending", "safe", "finalized"]

inductive NamesBlock (tag : String) : Nat → Prop
  | symbolic (htag : tag ∈ symbolicTags)
    : NamesBlock tag 0
  | number {digits : List Char} {n : Nat} (htag : tag.toList = '0' :: 'x' :: digits)
      (hdigits : Text.Denotes 16 digits n) (hn : n < 2 ^ 64)
    : NamesBlock tag n

def NamesBlockSigned (tag : String) (n : Nat) : Prop :=
  ∃ digits, tag.toList = '0' :: 'x' :: '+' :: digits ∧ Text.Denotes 16 digits n ∧ n < 2 ^ 64

variable {tag : String} {digits : List Char} {n : Nat}

theorem toList_ne_of_symbolic (h : tag ∈ symbolicTags) (digits : List Char)
    : tag.toList ≠ '0' :: 'x' :: digits := by
  have hall : ∀ tag ∈ symbolicTags, tag.toList.head? ≠ some '0' := by decide
  intro heq
  apply hall tag h
  rw [heq]
  rfl

theorem resolveBlockTag_of_symbolic (h : tag ∈ symbolicTags) : resolveBlockTag tag = some 0 := by
  unfold resolveBlockTag
  rw [if_pos (List.contains_iff_mem.mpr h)]

theorem resolveBlockTag_of_not_symbolic (h : tag ∉ symbolicTags)
    : resolveBlockTag tag = some n
        ↔
      ∃ digits, tag.toList = '0' :: 'x' :: digits
        ∧ Text.readUnsigned 16 (2 ^ 64) digits = .ok n := by
  unfold resolveBlockTag
  rw [if_neg (mt List.contains_iff_mem.mp h)]
  split
  . next digits heq =>
    rw [Except.toOption_eq_some_iff, heq]
    simp
  . next hother =>
    simp only [reduceCtorEq, false_iff]
    rintro ⟨digits, heq, -⟩
    exact hother digits heq

theorem resolveBlockTag_eq_some_iff
    : resolveBlockTag tag = some n ↔ NamesBlock tag n ∨ NamesBlockSigned tag n := by
  by_cases hsymbolic : tag ∈ symbolicTags
  . have hmark := toList_ne_of_symbolic hsymbolic
    rw [resolveBlockTag_of_symbolic hsymbolic]
    constructor
    . intro h
      cases h
      exact .inl (.symbolic hsymbolic)
    . rintro (htag | ⟨digits, heq, -⟩)
      . cases htag with
        | symbolic htag => rfl
        | number htag hdigits hn => exact absurd htag (hmark _)
      . exact absurd heq (hmark _)
  . rw [resolveBlockTag_of_not_symbolic hsymbolic]
    simp only [Text.readUnsigned_eq_ok_iff (Nat.succ_pos 15) (Nat.le_refl 16) (Nat.two_pow_pos 64)]
    constructor
    . rintro ⟨digits, heq, hn, hdigits | ⟨digits', rfl, hdigits⟩⟩
      . exact .inl (.number heq hdigits hn)
      . exact .inr ⟨digits', heq, hdigits, hn⟩
    . rintro (htag | ⟨digits, heq, hdigits, hn⟩)
      . cases htag with
        | symbolic htag => exact absurd htag hsymbolic
        | number htag hdigits hn => exact ⟨_, htag, hn, .inl hdigits⟩
      . exact ⟨_, heq, hn, .inr ⟨digits, rfl, hdigits⟩⟩

theorem answer_of_blockParams {config : Config} {node : Node} {params : Params}
    {full? : Option Bool} (hparams : blockParams? params = some (tag, full?))
    : answer config node "eth_getBlockByNumber" params = blockAnswer tag := by
  unfold answer
  rw [hparams]
  rfl

theorem blockAnswer_of_resolves (h : resolveBlockTag tag = some n)
    : blockAnswer tag = .plain (.ok (emptyBlock n)) := by
  unfold blockAnswer
  rw [h]

theorem blockAnswer_of_not_resolves (h : ∀ n, resolveBlockTag tag ≠ some n)
    : blockAnswer tag
        =
      .plain (.error ⟨-32602, "invalid block tag " ++ Text.quote tag, none⟩) := by
  unfold blockAnswer
  rw [Option.eq_none_iff_forall_ne_some.mpr h]
  rfl

theorem answer_of_blockTag (tag : String)
    : (∀ n, resolveBlockTag tag = some n ↔ NamesBlock tag n ∨ NamesBlockSigned tag n)
        ∧ ∀ (config : Config) (node : Node) (params : Params) (full? : Option Bool),
            blockParams? params = some (tag, full?) →
              (∀ n, NamesBlock tag n ∨ NamesBlockSigned tag n →
                  answer config node "eth_getBlockByNumber" params = .plain (.ok (emptyBlock n)))
                ∧ ((¬∃ n, NamesBlock tag n ∨ NamesBlockSigned tag n) →
                    answer config node "eth_getBlockByNumber" params
                      =
                    .plain (.error ⟨-32602, "invalid block tag " ++ Text.quote tag, none⟩)) := by
  refine ⟨fun n => resolveBlockTag_eq_some_iff, ?_⟩
  intro config node params full? hparams
  rw [answer_of_blockParams hparams]
  simp only [← resolveBlockTag_eq_some_iff]
  constructor
  . intro n
    exact blockAnswer_of_resolves
  . intro h
    exact blockAnswer_of_not_resolves (not_exists.mp h)

theorem answer_of_paddedTag
    : NamesBlock "0x00fF" 255
        ∧ answer Config.sample (fun _ => .never) "eth_getBlockByNumber"
              (.positional [.string "0x00fF"])
            =
          .plain (.ok (emptyBlock 255)) := by
  have hdigits : Text.Denotes 16 ['0', '0', 'f', 'F'] 255 :=
    ⟨by simp, [0, 0, 15, 15], by decide, rfl⟩
  have htag : NamesBlock "0x00fF" 255 := .number rfl hdigits (by decide)
  refine ⟨htag, ?_⟩
  exact ((answer_of_blockTag "0x00fF").2 _ _ (.positional [.string "0x00fF"]) none rfl).1 255
    (.inl htag)

theorem resolveBlockTag_plus
    : resolveBlockTag "0x+10" = some 16 ∧ ¬∃ n, NamesBlock "0x+10" n := by
  refine ⟨rfl, ?_⟩
  rintro ⟨n, htag⟩
  cases htag with
  | symbolic htag => exact absurd htag (by decide)
  | number htag hdigits hn =>
    cases htag
    exact Text.not_denotes_plus (Nat.le_refl 16) hdigits

end TokenGateway.Rpc
