import LedgerFlow.Value

/-!
# Text as bytes

The UTF-8 bytes of a text, and the text of bytes when they are well-formed UTF-8.
-/

namespace LedgerFlow
namespace Utf8

/-- The bytes of a text. -/
def encode (s : String) : Bytes := s.toUTF8.data.toList

/-- The text of well-formed bytes. -/
def decode? (bs : Bytes) : Option String := String.fromUTF8? ⟨bs.toArray⟩

@[simp]
theorem decode?_encode (s : String) : decode? (encode s) = some s := by
  have h : (⟨(encode s).toArray⟩ : ByteArray) = s.toUTF8 := by simp [encode]
  have hv : s.toUTF8.IsValidUTF8 := s.isValidUTF8
  simp only [decode?, h, String.fromUTF8?, hv, dite_true]
  rfl

end Utf8
end LedgerFlow
