namespace Spreadsheet.Text

/-!
# Blank characters

A character is blank when it has the White_Space property of Unicode. Trimming a text removes
blanks from both of its ends and none from its inside.
-/

/-- The characters with the White_Space property. -/
def blanks : List Char :=
  ['\t', '\n', '\x0b', '\x0c', '\r', ' ', '\u0085', '\u00a0', '\u1680', '\u2000', '\u2001', '\u2002',
    '\u2003', '\u2004', '\u2005', '\u2006', '\u2007', '\u2008', '\u2009', '\u200a', '\u2028', '\u2029',
    '\u202f', '\u205f', '\u3000']

/-- The character has the White_Space property. -/
def isBlank (character : Char) : Bool :=
  blanks.contains character

/-- The text without the blanks at its beginning. -/
def trimStart (text : List Char) : List Char :=
  text.dropWhile isBlank

/-- The text without the blanks at its end. -/
def trimEnd (text : List Char) : List Char :=
  (text.reverse.dropWhile isBlank).reverse

/-- The text without the blanks at either end. -/
def trim (text : List Char) : List Char :=
  trimEnd (trimStart text)

theorem length_trimStart_le
    (text : List Char) :
    (trimStart text).length ≤ text.length :=
  (List.dropWhile_suffix isBlank).length_le

theorem length_trimEnd_le
    (text : List Char) :
    (trimEnd text).length ≤ text.length := by
  simpa [trimEnd] using (List.dropWhile_suffix isBlank (l := text.reverse)).length_le

theorem length_trim_le
    (text : List Char) :
    (trim text).length ≤ text.length :=
  Nat.le_trans (length_trimEnd_le _) (length_trimStart_le _)

end Spreadsheet.Text
