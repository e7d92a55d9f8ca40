/-!
# Text as bytes

Texts travel in UTF-8. The bytes of a text are a list here, which is what readers take apart.
-/

namespace ProgramInterchange.Text

def utf8 (s : String) : List UInt8 := s.toUTF8.data.toList

/-- The text with these bytes, if they are well-formed. -/
def ofUtf8? (bytes : List UInt8) : Option String := String.fromUTF8? ⟨bytes.toArray⟩

theorem ofUtf8?_utf8 (s : String) : ofUtf8? (utf8 s) = some s := by
  have h : ByteArray.mk (utf8 s).toArray = s.toByteArray := by
    simp [utf8, String.toUTF8]
  rw [ofUtf8?, h]
  exact dif_pos s.isValidUTF8

end ProgramInterchange.Text
