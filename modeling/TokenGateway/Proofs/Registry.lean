import TokenGateway.Registry

namespace TokenGateway

namespace Method

/--
The selector of a method as the standard publishes it.
-/
def publishedSelector : Method → Bytes
  | .ownerOf => [0x63, 0x52, 0x21, 0x1e]
  | .balanceOf => [0x70, 0xa0, 0x82, 0x31]
  | .tokenURI => [0xc8, 0x7b, 0x56, 0xdd]
  | .uri => [0x0e, 0x89, 0x34, 0x1c]
  | .supportsInterface => [0x01, 0xff, 0xc9, 0xa7]
  | .name => [0x06, 0xfd, 0xde, 0x03]
  | .contractURI => [0xe8, 0xa3, 0xd4, 0x85]
  | .decimals => [0x31, 0x3c, 0xe5, 0x67]
  | .symbol => [0x95, 0xd8, 0x9b, 0x41]

theorem toBytes_selector (m : Method) : m.selector.toBytes = m.publishedSelector := by
  cases m <;> decide +kernel

theorem selector_inj {m m' : Method} : m.selector = m'.selector ↔ m = m' := by
  constructor
  . intro h
    have hpublished := congrArg FixedBytes.toBytes h
    rw [toBytes_selector, toBytes_selector] at hpublished
    revert hpublished
    cases m <;> cases m' <;> decide
  . intro h
    rw [h]

theorem nodup_all : all.Nodup := by
  decide

theorem nodup_selectors : (all.map selector).Nodup := by
  rw [List.Nodup, List.pairwise_map]
  apply List.Pairwise.imp _ nodup_all
  intro m m' hne heq
  exact hne (selector_inj.mp heq)

end Method

namespace Registry

theorem lookup_insert (r : Registry) (s s' : Selector) (m : Method)
    : (r.insert s m).lookup s' = if s' = s then some m else r.lookup s' := by
  unfold insert lookup
  by_cases h : s' = s
  . have hnone : (r.entries.filter (·.1 != s)).find? (·.1 == s') = none := by
      rw [List.find?_eq_none]
      intro entry hentry
      simpa [h] using (List.mem_filter.mp hentry).2
    rw [List.find?_append, hnone, if_pos h]
    simp [h]
  . have hold : (r.entries.filter (·.1 != s)).find? (·.1 == s') = r.entries.find? (·.1 == s') := by
      rw [List.find?_filter]
      congr 1
      funext entry
      by_cases hentry : entry.1 = s' <;> simp_all
    rw [List.find?_append, hold, if_neg h]
    simp [Ne.symm h]

theorem lookup_foldl_insert (ms : List Method) (s : Selector)
    : ∀ r : Registry,
        (ms.foldl (fun r m => r.insert m.selector m) r).lookup s
          =
        (ms.reverse.find? (·.selector == s)).or (r.lookup s) := by
  induction ms with
  | nil =>
    intro r
    simp
  | cons m ms ih =>
    intro r
    rw [List.foldl_cons, ih, lookup_insert, List.reverse_cons, List.find?_append, Option.or_assoc]
    by_cases h : s = m.selector
    . simp [h]
    . simp [h, Ne.symm h]

theorem lookup_standard_eq_some_iff {s : Selector} {m : Method}
    : standard.lookup s = some m ↔ s = m.selector := by
  have hempty : empty.lookup s = none := rfl
  unfold standard
  rw [lookup_foldl_insert, hempty, Option.or_none]
  constructor
  . intro h
    have hfound := List.find?_some h
    rw [beq_iff_eq] at hfound
    exact hfound.symm
  . intro h
    have hmem : m ∈ Method.all.reverse := List.mem_reverse.mpr m.mem_all
    cases hfind : Method.all.reverse.find? (·.selector == s) with
    | none =>
      have hother := List.find?_eq_none.mp hfind m hmem
      rw [beq_iff_eq] at hother
      exact absurd h.symm hother
    -- Some method has this selector, and no other method does.
    | some m' =>
      have hfound := List.find?_some hfind
      rw [beq_iff_eq, h, Method.selector_inj] at hfound
      rw [hfound]

theorem entries_insert_of_new {r : Registry} {s : Selector} {m : Method}
    (hnew : ∀ entry ∈ r.entries, entry.1 ≠ s)
    : (r.insert s m).entries = r.entries ++ [(s, m)] := by
  have hkept : r.entries.filter (·.1 != s) = r.entries := by
    rw [List.filter_eq_self]
    intro entry hentry
    simpa using hnew entry hentry
  rw [insert, hkept]

theorem entries_foldl_insert (ms : List Method)
    : ∀ r : Registry,
        (ms.map Method.selector).Nodup
          →
        (∀ m ∈ ms, ∀ entry ∈ r.entries, entry.1 ≠ m.selector)
          →
        (ms.foldl (fun r m => r.insert m.selector m) r).entries
          =
        r.entries ++ ms.map fun m => (m.selector, m) := by
  induction ms with
  | nil =>
    intro r _ _
    simp
  | cons m ms ih =>
    intro r hdistinct hnew
    rw [List.map_cons, List.nodup_cons] at hdistinct
    have hinsert := entries_insert_of_new (m := m) (hnew m List.mem_cons_self)
    rw [List.foldl_cons, ih _ hdistinct.2, hinsert, List.append_assoc]
    . rfl
    . intro m' hm' entry hentry
      rw [hinsert, List.mem_append, List.mem_singleton] at hentry
      rcases hentry with hentry | rfl
      . exact hnew m' (List.mem_cons_of_mem m hm') entry hentry
      . intro heq
        dsimp only at heq
        rw [heq] at hdistinct
        exact hdistinct.1 (List.mem_map_of_mem hm')

theorem entries_standard : standard.entries = Method.all.map fun m => (m.selector, m) := by
  rw [standard, entries_foldl_insert _ _ Method.nodup_selectors]
  . rfl
  . intro m _ entry hentry
    cases hentry

theorem standard_inverts_selector
    : (∀ (s : Selector) (m : Method),
        standard.lookup s = some m
          ↔
        s.toBytes
          =
        (Keccak.hash (Text.utf8 (m.functionName ++ "("
          ++ String.intercalate "," (m.params.map (·.kind.name)) ++ ")"))).take 4)
      ∧ (∀ s : Selector, standard.lookup s = none ↔ ¬∃ m : Method, s = m.selector)
      ∧ standard.entries = (Method.all.map fun m => (m.selector, m))
      ∧ standard.size = Method.all.length
      ∧ Method.all.Nodup
      ∧ ∀ m : Method, m ∈ Method.all := by
  refine ⟨?_, ?_, entries_standard, ?_, Method.nodup_all, Method.mem_all⟩
  . intro s m
    rw [lookup_standard_eq_some_iff]
    constructor
    . intro h
      rw [h]
      rfl
    . intro h
      exact FixedBytes.ext h
  . intro s
    simp only [← lookup_standard_eq_some_iff]
    rw [Option.eq_none_iff_forall_ne_some, not_exists]
  . rw [size, entries_standard, List.length_map]

end Registry
end TokenGateway
