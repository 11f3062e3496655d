import ErrorTaxonomy.Text.Printable

/-! # Quoted text — a text between double quotes, with escapes

A quoted text holds each character as itself, except that the quote and the backslash take a
backslash, four control characters have a short escape, and a character that would not show is
**spelled out** by its code point in hexadecimal. Which further characters are spelled out is a
parameter of the encoder; `quote` takes those that would not show or would join the one before. -/

namespace ErrorTaxonomy.Text

/-- The code point of `c` in hexadecimal between braces, after a backslash and a `u`. -/
def codePointEscape (c : Char) : List Char :=
  '\\' :: 'u' :: '\x7b' :: (Nat.toDigits 16 c.toNat ++ ['\x7d'])

/-- The written form of one character of a quoted text. -/
def escapeChar (spelledOut : Char → Bool) (c : Char) : List Char :=
  if c = '\x00' then ['\\', '0']
  else if c = '\t' then ['\\', 't']
  else if c = '\r' then ['\\', 'r']
  else if c = '\n' then ['\\', 'n']
  else if c = '"' ∨ c = '\\' then ['\\', c]
  else if spelledOut c then codePointEscape c
  else [c]

/-- The written form of a text without its surrounding quotes. -/
def escape (spelledOut : Char → Bool) (s : List Char) : List Char :=
  s.flatMap (escapeChar spelledOut)

/-- The characters that a quoted text spells out: those that are unprintable, have no shape or extend
a grapheme. -/
def isSpelledOut (c : Char) : Bool :=
  isUnprintable c || isDefaultIgnorable c || isGraphemeExtender c

/-- The quoted form of a text that spells out given characters. -/
def quoteBy (spelledOut : Char → Bool) (s : String) : String :=
  String.ofList ('"' :: escape spelledOut s.toList ++ ['"'])

/-- The **quoted** form of a text. -/
def quote (s : String) : String := quoteBy isSpelledOut s

/-- A list of quoted texts between square brackets. -/
def quoteList (ss : List String) : String :=
  "[" ++ String.intercalate ", " (ss.map quote) ++ "]"

@[simp] theorem escape_nil (p : Char → Bool) : escape p [] = [] := rfl

@[simp] theorem escape_cons (p : Char → Bool) (c : Char) (s : List Char) :
    escape p (c :: s) = escapeChar p c ++ escape p s := by simp [escape]

/-- Escaping works character by character. -/
theorem escape_append (p : Char → Bool) (s t : List Char) :
    escape p (s ++ t) = escape p s ++ escape p t := by simp [escape]

end ErrorTaxonomy.Text
