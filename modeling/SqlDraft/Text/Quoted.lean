import SqlDraft.Text.Printable

/-!
# Quoted display of a text

The form in which a text appears inside a displayed list or in a message: between single quotes,
or between double quotes when it holds a single quote and no double quote.  The backslash and the
delimiter are escaped by a backslash; line feed, carriage return and tab have letters; every other
character that is not printable is written by its code in two, four or eight hexadecimal digits.
-/

namespace SqlDraft
namespace Text

/-- The delimiter that needs no escape if there is one, and otherwise the single quote. -/
def delimiter (text : List Char) : Char :=
  if text.contains '\'' && !text.contains '"' then '"' else '\''

/-- The lower-case hexadecimal digits of a number, padded with zeros to a width. -/
def hexadecimal (width number : Nat) : List Char :=
  let digits := Nat.toDigits 16 number
  List.replicate (width - digits.length) '0' ++ digits

/-- The code of a character behind the letter for its width. -/
def codeEscape (c : Char) : List Char :=
  if c.toNat < 0x100 then
    '\\' :: 'x' :: hexadecimal 2 c.toNat
  else if c.toNat < 0x10000 then
    '\\' :: 'u' :: hexadecimal 4 c.toNat
  else
    '\\' :: 'U' :: hexadecimal 8 c.toNat

/-- One character as it stands between the delimiters. -/
def escaped (printable : Char → Bool) (mark c : Char) : List Char :=
  if c = mark ∨ c = '\\' then
    ['\\', c]
  else if c = '\n' then
    ['\\', 'n']
  else if c = '\r' then
    ['\\', 'r']
  else if c = '\t' then
    ['\\', 't']
  else if printable c then
    [c]
  else
    codeEscape c

/-- A text between delimiters, with the given notion of printable. -/
def quotedWith (printable : Char → Bool) (text : List Char) : List Char :=
  let mark := delimiter text
  mark :: text.flatMap (escaped printable mark) ++ [mark]

/-- Quoted display of a text. -/
def quoted (text : String) : String := String.ofList (quotedWith isPrintable text.toList)

/-- Quoted display of a sequence of bytes: a `b` in front, and only ASCII is printable. -/
def quotedBytes (bytes : List UInt8) : String :=
  String.ofList ('b' :: quotedWith isPrintableAscii (bytes.map fun byte => Char.ofNat byte.toNat))

end Text
end SqlDraft
