import TokenGateway.Proofs.Json.Tokens

/-!
What is printed is read back. The reader goes on behind a printed value as if the value had been there
all along, which is shown along the value's structure.
-/

namespace TokenGateway.Json

inductive IsReadable : Json → Prop
  | null
    : IsReadable .null
  | bool (b : Bool)
    : IsReadable (.bool b)
  | number {literal : String} (h : isNumber literal.toList = true)
    : IsReadable (.number literal)
  | string (s : String)
    : IsReadable (.string s)
  | array {items : List Json} (h : ∀ item ∈ items, IsReadable item)
    : IsReadable (.array items)
  | object {fields : List (String × Json)} (h : ∀ field ∈ fields, IsReadable field.2)
    : IsReadable (.object fields)

def advance (progress : Progress) (cs : List Char) : Option Progress :=
  tokens .gap cs >>= fun ts => ts.foldlM step progress

section Advance

variable {progress : Progress} {c : Char} {cs rest : List Char} {token : Token}

theorem advance_of_tokens (h : tokens .gap cs = (tokens .gap rest).map (token :: ·))
    : advance progress cs = step progress token >>= (advance · rest) := by
  unfold advance
  rw [h]
  cases tokens .gap rest with
  | none =>
    cases step progress token <;> rfl
  | some ts => rfl

theorem advance_punctuation (h : punctuation? c = some token)
    : advance progress (c :: rest) = step progress token >>= (advance · rest) := by
  apply advance_of_tokens
  apply tokens_gap_punctuation h

theorem advance_word (hne : cs ≠ []) (h : ∀ c ∈ cs, IsWordChar c) (hrest : EndsWord rest)
    : advance progress (cs ++ rest) = step progress (.word cs) >>= (advance · rest) := by
  apply advance_of_tokens
  apply tokens_gap_word hne h hrest

theorem advance_renderString (s : String)
    : advance progress ((renderString s).toList ++ rest)
        =
      step progress (.text (some s)) >>= (advance · rest) := by
  apply advance_of_tokens
  apply tokens_gap_renderString

end Advance

inductive Place.IsOpen : Place → Prop
  | value
    : IsOpen .value
  | firstItem
    : IsOpen .firstItem

inductive Place.TakesKey : Place → Prop
  | firstKey
    : TakesKey .firstKey
  | key
    : TakesKey .key

theorem step_of_isOpen {start : Place} (h : start.IsOpen) {token : Token}
    (htoken : token ≠ .closeArray) (stack : List Frame)
    : step ⟨start, stack⟩ token = startValue stack token := by
  cases h with
  | value => rfl
  | firstItem =>
    cases token with
    | closeArray => exact absurd rfl htoken
    | _ => rfl

theorem step_of_takesKey {start : Place} (h : start.TakesKey) (s : String) (stack : List Frame)
    : step ⟨start, stack⟩ (.text (some s)) = takeKey (some s) stack := by
  cases h with
  | firstKey => rfl
  | key => rfl

/--
Whether a reader that comes to the printed form of a value goes on with the value in its place.
-/
def IsRead (json : Json) : Prop :=
  ∀ start : Place, start.IsOpen → ∀ stack rest, EndsWord rest →
    advance ⟨start, stack⟩ (json.render.toList ++ rest) = advance (place json stack) rest

theorem isRead_word {json : Json} {cs : List Char} (hrender : json.render.toList = cs)
    (hne : cs ≠ []) (hword : ∀ c ∈ cs, IsWordChar c) (hread : ofWord? cs = some json)
    : IsRead json := by
  intro start hopen stack rest hrest
  rw [hrender, advance_word hne hword hrest, step_of_isOpen hopen (by simp), startValue, hread]
  rfl

theorem isRead_number {literal : String} (h : isNumber literal.toList = true)
    : IsRead (.number literal) := by
  have hrender : (Json.number literal).render.toList = literal.toList := by rw [render]
  apply isRead_word hrender (ne_nil_of_isNumber h)
  . intro c hc
    exact isWordChar_of_isNumberChar (isNumberChar_of_isNumber h c hc)
  -- No literal name is a number.
  . have hname : ∀ name, isNumber name = false → literal.toList ≠ name := by
      rintro name hname rfl
      rw [hname] at h
      cases h
    unfold ofWord?
    rw [if_neg (hname _ (by decide)), if_neg (hname _ (by decide)), if_neg (hname _ (by decide)),
      if_pos h, String.ofList_toList]

theorem isRead_string (s : String) : IsRead (.string s) := by
  intro start hopen stack rest hrest
  rw [render, advance_renderString, step_of_isOpen hopen (by simp)]
  rfl

section Array

variable {stack : List Frame} {rest : List Char}

theorem toList_renderItems (item item' : Json) (items : List Json)
    : (renderItems (item :: item' :: items)).toList
        =
      item.render.toList ++ ',' :: (renderItems (item' :: items)).toList := by
  simp [renderItems]

theorem toList_render_array (items : List Json)
    : (Json.array items).render.toList = '[' :: ((renderItems items).toList ++ [']']) := by
  simp [render]

theorem advance_renderItems {items : List Json} (hne : items ≠ [])
    (h : ∀ item ∈ items, IsRead item)
    : ∀ (start : Place) (reversed : List Json), start.IsOpen →
        advance ⟨start, .array reversed :: stack⟩ ((renderItems items).toList ++ ']' :: rest)
          =
        advance (place (.array (reversed.reverse ++ items)) stack) rest := by
  have hclose : punctuation? ']' = some .closeArray := rfl
  have hcomma : punctuation? ',' = some .comma := rfl
  induction items with
  | nil => exact absurd rfl hne
  | cons item items ih =>
    intro start reversed hopen
    rcases List.forall_mem_cons.mp h with ⟨hitem, hitems⟩
    have hitem := hitem start hopen
    cases items with
    | nil =>
      rw [renderItems, hitem _ _ (endsWord_of_punctuation hclose), advance_punctuation hclose,
        ← List.reverse_cons]
      rfl
    | cons item' items =>
      have hrest := ih (by simp) hitems .value (item :: reversed) .value
      rw [List.reverse_cons, List.append_assoc] at hrest
      rw [toList_renderItems, List.append_assoc, List.cons_append,
        hitem _ _ (endsWord_of_punctuation hcomma), advance_punctuation hcomma]
      exact hrest

theorem isRead_array {items : List Json} (h : ∀ item ∈ items, IsRead item)
    : IsRead (.array items) := by
  have hopens : punctuation? '[' = some .openArray := rfl
  intro start hopen stack rest hrest
  rw [toList_render_array, List.cons_append, List.append_assoc, advance_punctuation hopens,
    step_of_isOpen hopen (by simp)]
  cases items with
  | nil => exact advance_punctuation (c := ']') rfl
  | cons item items => exact advance_renderItems (by simp) h .firstItem [] .firstItem

end Array

section Object

variable {stack : List Frame} {rest : List Char}

theorem toList_renderFields_singleton (key : String) (value : Json)
    : (renderFields [(key, value)]).toList
        =
      (renderString key).toList ++ ':' :: value.render.toList := by
  simp [renderFields]

theorem toList_renderFields (key : String) (value : Json) (field : String × Json)
    (fields : List (String × Json))
    : (renderFields ((key, value) :: field :: fields)).toList
        =
      (renderString key).toList
        ++ ':' :: (value.render.toList ++ ',' :: (renderFields (field :: fields)).toList) := by
  simp [renderFields]

theorem toList_render_object (fields : List (String × Json))
    : (Json.object fields).render.toList = '\x7b' :: ((renderFields fields).toList ++ ['\x7d']) := by
  simp [render]

theorem advance_field {start : Place} (htakes : start.TakesKey) (reversed : List (String × Json))
    (key : String) {value : Json} (hvalue : IsRead value) (hrest : EndsWord rest)
    : advance ⟨start, .object reversed true none :: stack⟩
          ((renderString key).toList ++ ':' :: (value.render.toList ++ rest))
        =
      advance ⟨.afterItem, .object ((key, value) :: reversed) true none :: stack⟩ rest := by
  have hcolon : punctuation? ':' = some .colon := rfl
  rw [advance_renderString, step_of_takesKey htakes]
  change advance ⟨.colon, .object reversed true (some key) :: stack⟩ _ = _
  rw [advance_punctuation hcolon]
  exact hvalue .value .value _ _ hrest

theorem advance_renderFields {fields : List (String × Json)} (hne : fields ≠ [])
    (h : ∀ field ∈ fields, IsRead field.2)
    : ∀ (start : Place) (reversed : List (String × Json)), start.TakesKey →
        advance ⟨start, .object reversed true none :: stack⟩
            ((renderFields fields).toList ++ '\x7d' :: rest)
          =
        advance (place (.object (reversed.reverse ++ fields)) stack) rest := by
  have hclose : punctuation? '\x7d' = some .closeObject := rfl
  have hcomma : punctuation? ',' = some .comma := rfl
  induction fields with
  | nil => exact absurd rfl hne
  | cons field fields ih =>
    intro start reversed htakes
    rcases field with ⟨key, value⟩
    rcases List.forall_mem_cons.mp h with ⟨hvalue, hfields⟩
    cases fields with
    | nil =>
      rw [toList_renderFields_singleton, List.append_assoc, List.cons_append,
        advance_field htakes _ _ hvalue (endsWord_of_punctuation hclose),
        advance_punctuation hclose, ← List.reverse_cons]
      rfl
    | cons field' fields =>
      have hrest := ih (by simp) hfields .key ((key, value) :: reversed) .key
      rw [List.reverse_cons, List.append_assoc] at hrest
      rw [toList_renderFields, List.append_assoc, List.cons_append, List.append_assoc,
        List.cons_append, advance_field htakes _ _ hvalue (endsWord_of_punctuation hcomma),
        advance_punctuation hcomma]
      exact hrest

theorem isRead_object {fields : List (String × Json)} (h : ∀ field ∈ fields, IsRead field.2)
    : IsRead (.object fields) := by
  have hopens : punctuation? '\x7b' = some .openObject := rfl
  intro start hopen stack rest hrest
  rw [toList_render_object, List.cons_append, List.append_assoc, advance_punctuation hopens,
    step_of_isOpen hopen (by simp)]
  cases fields with
  | nil => exact advance_punctuation (c := '\x7d') rfl
  | cons field fields => exact advance_renderFields (by simp) h .firstKey [] .firstKey

end Object

theorem isRead_of_isReadable {json : Json} (h : json.IsReadable) : IsRead json := by
  induction h with
  | null =>
    have hrender : Json.null.render.toList = ['n', 'u', 'l', 'l'] := by
      rw [render]
      rfl
    exact isRead_word hrender (by decide) (isWordChar_of_all (by decide)) rfl
  | bool b =>
    cases b with
    | true =>
      have hrender : (Json.bool true).render.toList = ['t', 'r', 'u', 'e'] := by
        rw [render]
        rfl
      exact isRead_word hrender (by decide) (isWordChar_of_all (by decide)) rfl
    | false =>
      have hrender : (Json.bool false).render.toList = ['f', 'a', 'l', 's', 'e'] := by
        rw [render]
        rfl
      exact isRead_word hrender (by decide) (isWordChar_of_all (by decide)) rfl
  | number h => exact isRead_number h
  | string s => apply isRead_string
  | array _ ih => exact isRead_array ih
  | object _ ih => exact isRead_object ih

theorem parse_render {json : Json} (h : json.IsReadable) : parse json.render = some json := by
  have hread := isRead_of_isReadable h .value .value [] [] endsWord_nil
  rw [List.append_nil] at hread
  unfold advance at hread
  unfold parse
  rw [← bind_assoc, hread]
  rfl

end TokenGateway.Json
