import Placard.Text.Utf8

/-! Texts as bytes. -/
namespace Placard.Text

/-- The bytes of a text spell it. -/
theorem fromUTF8?_toUTF8 (s : String) : String.fromUTF8? s.toUTF8 = some s := by
  have spells : s.toUTF8.IsValidUTF8 := s.isValidUTF8
  rw [String.fromUTF8?,dif_pos spells]
  rfl

end Placard.Text
