/-!
# Blank text

A text is blank when every character of it is white space, in the sense of the `White_Space`
property of the Unicode character database. The zero-width space and the byte order mark do not
have that property, so a text made of them is not blank.
-/

namespace ServiceCall.Text

/-- The characters with the `White_Space` property. -/
def isSpace (c : Char) : Bool :=
  let n := c.toNat
  (9 ≤ n && n ≤ 13) || n = 32 || n = 0x85 || n = 0xA0 || n = 0x1680 ||
    (0x2000 ≤ n && n ≤ 0x200A) || n = 0x2028 || n = 0x2029 || n = 0x202F || n = 0x205F || n = 0x3000

def isBlank (s : String) : Bool := s.toList.all isSpace

/-- The text without the white space at both ends. -/
def trim (s : String) : String :=
  String.ofList ((s.toList.dropWhile isSpace).reverse.dropWhile isSpace).reverse

theorem isBlank_iff {s : String} : isBlank s = true ↔ ∀ c ∈ s.toList, isSpace c = true := by
  simp [isBlank]

theorem trim_of_isBlank {s : String} (h : isBlank s = true) : trim s = "" := by
  have hnil : s.toList.dropWhile isSpace = [] := by
    rw [← List.append_nil s.toList, List.dropWhile_append_of_pos (isBlank_iff.1 h),
      List.dropWhile_nil]
  rw [trim, hnil]
  rfl

/-- The text without the given character at its end, however often it stands there. -/
def trimEndOf (c : Char) (s : String) : String :=
  String.ofList (s.toList.reverse.dropWhile (· == c)).reverse

/-- ASCII letters in lower case, all else as it is. -/
def asciiLower (s : String) : String := String.ofList (s.toList.map Char.toLower)

end ServiceCall.Text
