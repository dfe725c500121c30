import Mathlib.Data.List.Perm.Basic
import TokenGateway.Hex
import TokenGateway.Json.Basic

namespace TokenGateway.Json

def field (key : String) (value? : Option Json) : List (String × Json) :=
  value?.toList.map fun value => (key, value)

/--
Whether fields give the known values to their keys, in any order and among fields under other keys.
-/
def Gives (known : List (String × Option Json)) (fields : List (String × Json)) : Prop :=
  ∃ unknown, fields.Perm ((known.flatMap fun entry => field entry.1 entry.2) ++ unknown)
    ∧ ∀ entry ∈ unknown, entry.1 ∉ known.map (·.1)

def HasMember (json : Json) (key : String) (value : Json) : Prop :=
  ∃ fields, json = .object fields ∧ only? [key] fields = .ok (some value)

def HasHex (json : Json) (key : String) (bs : Bytes) : Prop :=
  ∃ text, json.HasMember key (.string text) ∧ Hex.decode text = .ok bs

section Values

variable {keys : List String} {fields fields' : List (String × Json)} {key : String}
  {value? : Option Json}

theorem valuesOf_append
    : valuesOf keys (fields ++ fields') = valuesOf keys fields ++ valuesOf keys fields' := by
  simp [valuesOf]

theorem valuesOf_eq_nil (h : ∀ entry ∈ fields, entry.1 ∉ keys) : valuesOf keys fields = [] := by
  unfold valuesOf
  rw [List.filterMap_eq_nil_iff]
  intro entry hentry
  simp [h entry hentry]

theorem valuesOf_field : valuesOf [key] (field key value?) = value?.toList := by
  cases value? with
  | none => rfl
  | some value => simp [valuesOf, field]

theorem fst_of_mem_field {entry : String × Json} (h : entry ∈ field key value?)
    : entry.1 = key := by
  rcases List.mem_map.mp h with ⟨value, -, rfl⟩
  rfl

theorem fst_mem_of_mem_flatMap {known : List (String × Option Json)} {entry : String × Json}
    (h : entry ∈ known.flatMap fun entry => field entry.1 entry.2)
    : entry.1 ∈ known.map (·.1) := by
  rcases List.mem_flatMap.mp h with ⟨entry', hknown, hfield⟩
  rw [fst_of_mem_field hfield]
  exact List.mem_map_of_mem hknown

theorem valuesOf_flatMap {known : List (String × Option Json)} (hkeys : (known.map (·.1)).Nodup)
    (hmem : (key, value?) ∈ known)
    : valuesOf [key] (known.flatMap fun entry => field entry.1 entry.2) = value?.toList := by
  induction known with
  | nil => cases hmem
  | cons entry known ih =>
    rw [List.map_cons, List.nodup_cons] at hkeys
    rw [List.flatMap_cons, valuesOf_append]
    -- Keys are listed once, so one of the two parts has no value under this key.
    cases List.mem_cons.mp hmem with
    | inl heq =>
      subst heq
      rw [valuesOf_field, valuesOf_eq_nil, List.append_nil]
      intro entry hentry hkey
      rw [List.mem_singleton] at hkey
      apply hkeys.1
      rw [← hkey]
      exact fst_mem_of_mem_flatMap hentry
    | inr hmem =>
      rw [ih hkeys.2 hmem, valuesOf_eq_nil, List.nil_append]
      intro entry' hentry' hkey
      rw [List.mem_singleton, fst_of_mem_field hentry'] at hkey
      apply hkeys.1
      rw [hkey]
      exact List.mem_map_of_mem hmem

theorem only?_perm (h : fields.Perm fields') : only? keys fields = only? keys fields' := by
  have hvalues : (valuesOf keys fields).Perm (valuesOf keys fields') := h.filterMap _
  unfold only?
  generalize valuesOf keys fields = values at *
  generalize valuesOf keys fields' = values' at *
  match values, values' with
  | [], values' => rw [List.nil_perm.mp hvalues]
  | [value], values' => rw [List.singleton_perm.mp hvalues]
  | _ :: _ :: _, [] => exact absurd hvalues.length_eq (by simp)
  | _ :: _ :: _, [_] => exact absurd hvalues.length_eq (by simp)
  | _ :: _ :: _, _ :: _ :: _ => rfl

end Values

theorem only?_of_gives {known : List (String × Option Json)} {fields : List (String × Json)}
    (h : Gives known fields) (hkeys : (known.map (·.1)).Nodup) {key : String} {value? : Option Json}
    (hmem : (key, value?) ∈ known)
    : only? [key] fields = .ok value? := by
  rcases h with ⟨unknown, hperm, hunknown⟩
  have hnone : valuesOf [key] unknown = [] := by
    apply valuesOf_eq_nil
    intro entry hentry hkey
    rw [List.mem_singleton] at hkey
    apply hunknown entry hentry
    rw [hkey]
    exact List.mem_map_of_mem hmem
  rw [only?_perm hperm]
  unfold only?
  rw [valuesOf_append, valuesOf_flatMap hkeys hmem, hnone, List.append_nil]
  cases value? with
  | none => rfl
  | some value => rfl

end TokenGateway.Json
