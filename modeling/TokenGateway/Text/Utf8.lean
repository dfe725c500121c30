import TokenGateway.Bytes

namespace TokenGateway.Text

def utf8 (s : String) : Bytes :=
  s.toByteArray.data.toList

/--
The text that a byte string spells in UTF-8, if it spells one. Overlong forms, surrogates and
numbers past the last code point spell none.
-/
def ofUtf8? (bs : Bytes) : Option String :=
  String.fromUTF8? ⟨bs.toArray⟩

theorem ofUtf8?_eq_some_iff {bs : Bytes} {s : String} : ofUtf8? bs = some s ↔ bs = utf8 s := by
  constructor
  . intro h
    simp only [ofUtf8?, String.fromUTF8?] at h
    split at h
    . cases h
      rfl
    . cases h
  . rintro rfl
    have : (⟨(utf8 s).toArray⟩ : ByteArray) = s.toByteArray := by
      simp [utf8]
    simp only [ofUtf8?, String.fromUTF8?, this, s.isValidUTF8, dite_true]
    rfl

@[simp]
theorem ofUtf8?_utf8 (s : String) : ofUtf8? (utf8 s) = some s :=
  ofUtf8?_eq_some_iff.2 rfl

end TokenGateway.Text
