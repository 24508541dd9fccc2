import SqlDraft.Text.CharacterSet

/-!
# Blank characters

Two sets of blank characters are in use.  Trimming a text, and asking whether a setting is blank,
means the blank characters of all scripts; the padding around a numeric literal is restricted to
the six blank characters of ASCII.  Every character of the second set is in the first.
-/

namespace SqlDraft
namespace Text

/-- Blank characters of all scripts: the white space of Unicode and the four separators
`U+001C` to `U+001F`.  Zero-width characters are not blank. -/
def blankCharacters : CharacterSet :=
  [(0x0009, 0x000D), (0x001C, 0x0020), (0x0085, 0x0085), (0x00A0, 0x00A0), (0x1680, 0x1680),
    (0x2000, 0x200A), (0x2028, 0x2029), (0x202F, 0x202F), (0x205F, 0x205F), (0x3000, 0x3000)]

/-- The character is blank in some script. -/
def isBlank (c : Char) : Bool := blankCharacters.contains c

/-- The character is space, tab, line feed, carriage return, vertical tab or form feed. -/
def isPadding (c : Char) : Bool :=
  c == ' ' || c == '\t' || c == '\n' || c == '\r' || c == '\x0b' || c == '\x0c'

/-- Remove the longest run of selected characters at the end. -/
def dropEndWhile (drop : Char → Bool) (text : List Char) : List Char :=
  (text.reverse.dropWhile drop).reverse

/-- Remove the longest runs of selected characters at both ends. -/
def stripWhile (drop : Char → Bool) (text : List Char) : List Char :=
  dropEndWhile drop (text.dropWhile drop)

/-- A text without the blank characters at its ends. -/
def trim (text : String) : String := String.ofList (stripWhile isBlank text.toList)

/-- A text without the blank characters at its end. -/
def trimEnd (text : String) : String := String.ofList (dropEndWhile isBlank text.toList)

/-- Every character of the text is blank; the empty text is blank. -/
def allBlank (text : String) : Bool := text.toList.all isBlank

@[simp]
theorem toList_trim (text : String) : (trim text).toList = stripWhile isBlank text.toList := by
  simp [trim]

@[simp]
theorem toList_trimEnd (text : String) : (trimEnd text).toList = dropEndWhile isBlank text.toList := by
  simp [trimEnd]

theorem isBlank_of_isPadding {c : Char} (padding : isPadding c = true) : isBlank c = true := by
  simp only [isPadding, Bool.or_eq_true, beq_iff_eq] at padding
  rcases padding with ((((rfl | rfl) | rfl) | rfl) | rfl) | rfl <;> decide

end Text
end SqlDraft
