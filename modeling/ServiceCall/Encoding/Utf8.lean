/-!
# Texts as bytes

The UTF-8 form of a text as a list of bytes, and back.
-/

namespace ServiceCall.Encoding

abbrev Bytes := List UInt8

def utf8 (s : String) : Bytes := s.toList.flatMap String.utf8EncodeChar

/-- The text that the bytes are the UTF-8 form of, if they are one. -/
def ofUtf8? (bytes : Bytes) : Option String := String.fromUTF8? ⟨bytes.toArray⟩

theorem utf8_append (s t : String) : utf8 (s ++ t) = utf8 s ++ utf8 t := by
  simp [utf8, String.toList_append]

theorem utf8_eq_toUTF8 (s : String) : utf8 s = s.toUTF8.data.toList := by
  have h : s.toUTF8 = s.toList.utf8Encode := by
    rw [String.toUTF8_eq_toByteArray, String.utf8Encode_toList]
  rw [h, utf8, List.utf8Encode]
  simp

theorem ofUtf8?_utf8 (s : String) : ofUtf8? (utf8 s) = some s := by
  have h : (⟨(utf8 s).toArray⟩ : ByteArray) = s.toUTF8 := by
    rw [utf8_eq_toUTF8]
  rw [ofUtf8?, h, String.fromUTF8?]
  simp only [Option.dite_none_right_eq_some, Option.some.injEq]
  exact ⟨s.isValidUTF8, rfl⟩

end ServiceCall.Encoding
