import Mathlib.Data.List.TakeWhile
import TokenGateway.Text.Blank

namespace TokenGateway.Text

section TrimBoth

variable {p : Char → Bool} {cs front middle back : List Char}

theorem not_of_mem_head?_dropWhile {c : Char} (h : c ∈ (cs.dropWhile p).head?) : p c = false := by
  have hnot := List.head?_dropWhile_not p cs
  rw [Option.mem_def.mp h] at hnot
  exact hnot

theorem trimBoth_append (hfront : ∀ c ∈ front, p c) (hback : ∀ c ∈ back, p c)
    (hhead : ∀ c ∈ middle.head?, p c = false) (hlast : ∀ c ∈ middle.getLast?, p c = false)
    : trimBoth p (front ++ middle ++ back) = middle := by
  unfold trimBoth
  rw [List.append_assoc, List.dropWhile_append_of_pos hfront]
  cases middle with
  -- Without a middle the blanks behind are dropped with those in front.
  | nil =>
    rw [List.nil_append, List.dropWhile_eq_nil_iff.mpr hback]
    rfl
  | cons c cs =>
    have hback' : ∀ c ∈ back.reverse, p c := by simpa using hback
    have hlast' : (c :: cs).reverse.dropWhile p = (c :: cs).reverse := by
      rw [List.dropWhile_eq_self_iff]
      intro hlength
      rw [Bool.not_eq_true]
      apply hlast
      rw [← List.head?_reverse, List.head?_eq_getElem?, List.getElem?_eq_getElem hlength]
      rfl
    rw [List.cons_append, List.dropWhile_cons_of_neg (by simp [hhead c rfl]), ← List.cons_append,
      List.reverse_append, List.dropWhile_append_of_pos hback', hlast', List.reverse_reverse]

theorem dropWhile_eq_trimBoth_append (p : Char → Bool) (cs : List Char)
    : cs.dropWhile p = trimBoth p cs ++ ((cs.dropWhile p).reverse.takeWhile p).reverse := by
  unfold trimBoth
  rw [← List.reverse_append, List.takeWhile_append_dropWhile, List.reverse_reverse]

theorem exists_trimBoth (p : Char → Bool) (cs : List Char)
    : ∃ front back, cs = front ++ trimBoth p cs ++ back
        ∧ (∀ c ∈ front, p c)
        ∧ ∀ c ∈ back, p c := by
  refine ⟨cs.takeWhile p, ((cs.dropWhile p).reverse.takeWhile p).reverse, ?_, ?_, ?_⟩
  . rw [List.append_assoc, ← dropWhile_eq_trimBoth_append, List.takeWhile_append_dropWhile]
  . exact List.all_eq_true.mp List.all_takeWhile
  . intro c hc
    exact List.all_eq_true.mp List.all_takeWhile c (List.mem_reverse.mp hc)

theorem not_of_mem_head?_trimBoth {c : Char} (h : c ∈ (trimBoth p cs).head?) : p c = false := by
  have hdrop : c ∈ (cs.dropWhile p).head? := by
    rw [dropWhile_eq_trimBoth_append, List.head?_append, Option.mem_def.mp h]
    rfl
  exact not_of_mem_head?_dropWhile hdrop

theorem not_of_mem_getLast?_trimBoth {c : Char} (h : c ∈ (trimBoth p cs).getLast?)
    : p c = false := by
  unfold trimBoth at h
  rw [List.getLast?_reverse] at h
  exact not_of_mem_head?_dropWhile h

theorem trimBoth_cons_of_neg {c : Char} (hc : p c = false) (cs : List Char)
    : ∃ rest, trimBoth p (c :: cs) = c :: rest := by
  have hstop : [c].dropWhile p = [c] := List.dropWhile_cons_of_neg (by simp [hc])
  rw [trimBoth, List.dropWhile_cons_of_neg (by simp [hc]), List.reverse_cons, List.dropWhile_append]
  split
  . exact ⟨[], by rw [hstop]; rfl⟩
  . exact ⟨_, List.reverse_append⟩

end TrimBoth

structure Trims (text w : String) : Prop where
  parts : ∃ front back, text.toList = front ++ w.toList ++ back
    ∧ (∀ c ∈ front, isBlank c)
    ∧ ∀ c ∈ back, isBlank c
  head : ∀ c ∈ w.toList.head?, isBlank c = false
  last : ∀ c ∈ w.toList.getLast?, isBlank c = false

theorem trims_iff {text w : String} : Trims text w ↔ w = trim text := by
  constructor
  . intro h
    rcases h.parts with ⟨front, back, htext, hfront, hback⟩
    rw [trim, htext, trimBoth_append hfront hback h.head h.last, String.ofList_toList]
  . rintro rfl
    unfold trim
    constructor
    . rw [String.toList_ofList]
      exact exists_trimBoth isBlank text.toList
    . rw [String.toList_ofList]
      intro c
      exact not_of_mem_head?_trimBoth
    . rw [String.toList_ofList]
      intro c
      exact not_of_mem_getLast?_trimBoth

theorem trim_append {front w back : String} (hfront : ∀ c ∈ front.toList, isBlank c)
    (hback : ∀ c ∈ back.toList, isBlank c) (hw : ∀ c ∈ w.toList, isBlank c = false)
    : trim (front ++ w ++ back) = w := by
  symm
  rw [← trims_iff]
  constructor
  . exact ⟨front.toList, back.toList, by rw [String.toList_append, String.toList_append], hfront,
      hback⟩
  . intro c hc
    exact hw c (List.mem_of_mem_head? hc)
  . intro c hc
    exact hw c (List.mem_of_mem_getLast? hc)

end TokenGateway.Text
