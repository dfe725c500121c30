import TokenGateway.Proofs.Abi.Tuple

/-!
The places of a buffer that a tuple is read from are the head slots, and of each text the word for its
length and the bytes of it. Texts may share their places, in whole or in part, so places are told
apart and not texts.
-/

namespace TokenGateway.Abi

def InText (data : Bytes) (position place : Nat) : Prop :=
  let offset := wordAt data position
  offset ≤ place ∧ place < offset + 32 + wordAt data offset

inductive Refers (schema : List Param) (data : Bytes) (place : Nat) : Prop
  | head (hplace : place < 32 * schema.length)
  | text (i : Nat) (hi : i < schema.length) (hkind : schema[i].kind = .string)
    (hplace : InText data (32 * i) place)

variable {data data' : Bytes} {headLength position : Nat}

theorem slotAt_congr
    (h : ∀ place, position ≤ place → place < position + 32 → data'[place]? = data[place]?)
    : slotAt data' position = slotAt data position :=
  Bytes.slice_congr h

theorem wordAt_congr (h : slotAt data' position = slotAt data position)
    : wordAt data' position = wordAt data position := by
  rw [wordAt, h, wordAt]

theorem slot_inside_of_slotAt_eq (h : slotAt data' position = slotAt data position)
    (hslot : position + 32 ≤ data.length)
    : position + 32 ≤ data'.length := by
  have hlength := congrArg List.length h
  unfold slotAt at hlength
  rw [Bytes.length_slice, Bytes.length_slice] at hlength
  omega

section Text

variable (hslot : slotAt data' position = slotAt data position)
  (htext : ∀ place, InText data position place → data'[place]? = data[place]?)

include hslot htext

theorem lengthWord_of_agrees
    : wordAt data' (wordAt data' position) = wordAt data (wordAt data position) := by
  rw [wordAt_congr hslot]
  apply wordAt_congr
  apply slotAt_congr
  intro place hstart hend
  apply htext
  exact ⟨hstart, by omega⟩

theorem payloadAt_of_agrees : payloadAt data' position = payloadAt data position := by
  unfold payloadAt
  dsimp only
  rw [lengthWord_of_agrees hslot htext, wordAt_congr hslot]
  apply Bytes.slice_congr
  intro place hstart hend
  apply htext
  exact ⟨by omega, hend⟩

omit hslot in
theorem text_inside_of_agrees
    (hinside : wordAt data position + 32 + wordAt data (wordAt data position) ≤ data.length)
    : wordAt data position + 32 + wordAt data (wordAt data position) ≤ data'.length := by
  -- A text takes up a word at least, so it has a last place.
  have hlast := htext (wordAt data position + 31 + wordAt data (wordAt data position))
    ⟨by omega, by omega⟩
  have := Bytes.lt_length_of_getElem?_eq hlast (by omega)
  omega

theorem admissible_text_of_agrees (h : Admissible data headLength position .string)
    : Admissible data' headLength position .string := by
  rcases h with ⟨hbehind, -, hinside, s, hs⟩
  have hinside' := text_inside_of_agrees htext hinside
  unfold Admissible
  dsimp only
  rw [lengthWord_of_agrees hslot htext, payloadAt_of_agrees hslot htext, wordAt_congr hslot]
  exact ⟨hbehind, by omega, hinside', s, hs⟩

theorem pointersFit_text_of_agrees (h : PointersFit data position .string)
    : PointersFit data' position .string := by
  unfold PointersFit at *
  dsimp only at *
  rw [lengthWord_of_agrees hslot htext, wordAt_congr hslot]
  exact h

end Text

theorem readParam_of_agrees {index : Nat} {param : Param} {v : Value}
    (hinside : index * 32 + 32 ≤ data.length)
    (hslot : slotAt data' (index * 32) = slotAt data (index * 32))
    (htext : param.kind = .string →
      ∀ place, InText data (index * 32) place → data'[place]? = data[place]?)
    (h : readParam data headLength index param = .ok v)
    : readParam data' headLength index param = .ok v := by
  by_cases hkind : param.kind = .string
  . have htext := htext hkind
    rw [readParam_eq_ok_iff hinside, hkind] at h
    rw [readParam_eq_ok_iff (slot_inside_of_slotAt_eq hslot hinside), hkind]
    rcases h with ⟨hadmissible, hfits, hv, hdenotes⟩
    refine ⟨?_, ?_, hv, ?_⟩
    . apply admissible_text_of_agrees hslot htext hadmissible
    . apply pointersFit_text_of_agrees hslot htext hfits
    . cases v with
      | string s =>
        rw [Denotes] at *
        rw [payloadAt_of_agrees hslot htext, hdenotes]
      | _ => simp [Value.kind] at hv
  . rw [readParam_of_static hkind] at *
    rw [hslot, h]

section Tuple

variable {schema : List Param} {binding : Binding}
  (hagrees : ∀ place, Refers schema data place → data'[place]? = data[place]?)

include hagrees

theorem heads_inside_of_agrees (hheads : 32 * schema.length ≤ data.length)
    : 32 * schema.length ≤ data'.length := by
  by_cases hempty : schema.length = 0
  . omega
  . have hlast := hagrees (32 * schema.length - 1) (.head (by omega))
    have := Bytes.lt_length_of_getElem?_eq hlast (by omega)
    omega

theorem readParams_of_agrees {entries : List (String × Value)}
    (hheads : 32 * schema.length ≤ data.length)
    (h : readParams data (32 * schema.length) 0 schema = .ok entries)
    : readParams data' (32 * schema.length) 0 schema = .ok entries := by
  rw [readParams_eq_ok_iff] at *
  refine ⟨h.1, ?_⟩
  intro i hi
  rcases h.2 i hi with ⟨v, hentry, hv⟩
  refine ⟨v, hentry, ?_⟩
  rw [Nat.zero_add] at *
  apply readParam_of_agrees _ _ _ hv
  . omega
  . apply slotAt_congr
    intro place _ hend
    apply hagrees
    exact .head (by omega)
  . intro hkind place hplace
    rw [Nat.mul_comm] at hplace
    apply hagrees
    exact .text i hi hkind hplace

theorem unpack_of_agrees (h : unpack schema data = .ok binding) (haligned : data'.length % 32 = 0)
    (hexact : (∀ param ∈ schema, param.kind ≠ .string) → data'.length = 32 * schema.length)
    : unpack schema data' = .ok binding := by
  rw [unpack_eq_ok_iff_readParams] at *
  rcases h with ⟨-, ⟨hheads, -⟩, hentries⟩
  refine ⟨haligned, ⟨?_, hexact⟩, ?_⟩
  . apply heads_inside_of_agrees hagrees hheads
  . apply readParams_of_agrees hagrees hheads hentries

end Tuple

theorem lt_length_of_refers {schema : List Param} {place : Nat} (htuple : IsTuple schema data)
    (h : Refers schema data place)
    : place < data.length := by
  have hheads := htuple.heads
  cases h with
  | head hplace => omega
  | text i hi hkind hplace =>
    have hadmissible := htuple.slots i hi
    rw [hkind] at hadmissible
    rcases hadmissible with ⟨-, -, hinside, -⟩
    rcases hplace with ⟨-, hend⟩
    omega

/--
A tuple is read alike from all buffers that agree on the places which its parameters refer to, as
far as the length of the buffer allows a tuple at all. So no byte counts that stands between or
behind the texts, and nothing that is put behind the last of them.
-/
theorem unpack_depends_on_referred (schema : List Param) (data : Bytes) (binding : Binding)
    (h : unpack schema data = .ok binding)
    : (∀ data' : Bytes, data'.length % 32 = 0 →
          ((∀ param ∈ schema, param.kind ≠ .string) → data'.length = 32 * schema.length) →
          (∀ place, Refers schema data place → data'[place]? = data[place]?) →
            unpack schema data' = .ok binding)
        ∧ (∀ place b, ¬Refers schema data place → unpack schema (data.set place b) = .ok binding)
        ∧ ((∃ param ∈ schema, param.kind = .string) →
            ∀ rest : Bytes, rest.length % 32 = 0 → unpack schema (data ++ rest) = .ok binding) := by
  have htuple := (unpack_eq_ok_iff.mp h).1
  have haligned := htuple.aligned
  refine ⟨?_, ?_, ?_⟩
  . intro data' haligned' hexact hagrees
    apply unpack_of_agrees hagrees h haligned' hexact
  . intro place b hplace
    apply unpack_of_agrees _ h
    . rw [List.length_set, haligned]
    . rw [List.length_set]
      exact htuple.noTails
    . intro place' hplace'
      have hne : place ≠ place' := by
        rintro rfl
        exact hplace hplace'
      rw [List.getElem?_set_ne hne]
  . intro htext rest hrest
    rcases htext with ⟨param, hparam, hkind⟩
    apply unpack_of_agrees _ h
    . rw [List.length_append]
      omega
    . intro hstatic
      exact absurd hkind (hstatic param hparam)
    . intro place hplace
      rw [List.getElem?_append_left (lt_length_of_refers htuple hplace)]

def sharedTexts : Bytes :=
  Bytes.zeros 31 ++ [65] ++ Bytes.zeros 31 ++ [65]
    ++ [7] ++ Bytes.zeros 31 ++ [2] ++ [0x68, 0x69] ++ Bytes.zeros 29

def textSchema : List Param :=
  [⟨"name", .string⟩, ⟨"symbol", .string⟩]

theorem not_refers_gap : ¬Refers textSchema sharedTexts 64 := by
  have hword : ∀ i < 2, wordAt sharedTexts (32 * i) = 65 := by decide +kernel
  intro h
  cases h with
  | head hplace => exact absurd hplace (by decide)
  | text i hi hkind hplace =>
    have hstart := hplace.1
    rw [hword i hi] at hstart
    omega

theorem unpack_sharedTexts
    : unpack textSchema sharedTexts = .ok ⟨[("name", .string "hi"), ("symbol", .string "hi")]⟩
        ∧ unpack textSchema (sharedTexts.set 64 0xff)
            = .ok ⟨[("name", .string "hi"), ("symbol", .string "hi")]⟩
        ∧ unpack textSchema (sharedTexts ++ List.replicate 32 0xff)
            = .ok ⟨[("name", .string "hi"), ("symbol", .string "hi")]⟩ := by
  have hread : unpack textSchema sharedTexts
      = .ok ⟨[("name", .string "hi"), ("symbol", .string "hi")]⟩ := by
    rw [← Except.toOption_eq_some_iff]
    decide +kernel
  rcases unpack_depends_on_referred textSchema sharedTexts _ hread with ⟨-, hgap, hbehind⟩
  refine ⟨hread, hgap 64 0xff not_refers_gap, hbehind ?_ _ (by decide)⟩
  exact ⟨_, List.mem_cons_self, rfl⟩

end TokenGateway.Abi
