import ErrorTaxonomy.Json.Basic
import ErrorTaxonomy.Decimal.Shortest

/-! # JSON text — compact and indented

The compact form has no blanks; the indented form gives each item a line of its own, two blanks
deeper than its bracket. A `Style` says how numbers and the characters of strings are written. Documents
have doubles with the fewest digits that read back, in positional form from `1e-5` up to below `1e+16`,
those that are not finite as `null`, and a short escape for each character that has one. -/

namespace ErrorTaxonomy
namespace Json

/-- **Documents** write doubles positionally from `1e-5` up to below `1e+16` and sign a positive
exponent. -/
def documentStyle : Decimal.Style := ⟨-5, 16, true⟩

/-- The text of a double of a document. -/
def realText (x : Float) : String :=
  if x.isFinite then (Decimal.shortest x).render documentStyle else "null"

/-- The text of a number of a document. -/
def Number.text : Number → String
  | .int n => toString n
  | .real x => realText x

/-! ## Strings -/

/-- The escape of a control character by its two hexadecimal digits. -/
def controlEscape (c : Char) : List Char :=
  let n := c.toNat
  ['\\', 'u', '0', '0', Nat.digitChar (n / 16), Nat.digitChar (n % 16)]

/-- The written form of one character of a string: only the quote, the backslash and the control
characters are escaped. -/
def stringChar (c : Char) : List Char :=
  if c = '"' ∨ c = '\\' then ['\\', c]
  else if c = '\n' then ['\\', 'n']
  else if c = '\r' then ['\\', 'r']
  else if c = '\t' then ['\\', 't']
  else if c = '\x08' then ['\\', 'b']
  else if c = '\x0c' then ['\\', 'f']
  else if c.toNat < 0x20 then controlEscape c
  else [c]

/-- How the numbers of a tree and the characters of its strings are written. -/
structure Style (ν : Type) where
  number : ν → String
  character : Char → List Char

/-- The style of **documents**. -/
def Style.document : Style Number := ⟨Number.text, stringChar⟩

/-- A string between quotes. -/
def Style.quoted {ν : Type} (style : Style ν) (s : String) : List Char :=
  '"' :: s.toList.flatMap style.character ++ ['"']

namespace Tree

/-! ## Compact form -/

mutual

/-- The compact text of a tree. -/
def chars {ν : Type} (style : Style ν) : Tree ν → List Char
  | .null => "null".toList
  | .bool true => "true".toList
  | .bool false => "false".toList
  | .num n => (style.number n).toList
  | .str s => style.quoted s
  | .arr [] => ['[', ']']
  | .arr (t :: ts) => '[' :: (chars style t ++ itemChars style ts ++ [']'])
  | .obj [] => ['\x7b', '\x7d']
  | .obj ((k, t) :: ms) =>
    '\x7b' :: (style.quoted k ++ ':' :: chars style t ++ memberChars style ms ++ ['\x7d'])

/-- The items after the first. -/
def itemChars {ν : Type} (style : Style ν) : List (Tree ν) → List Char
  | [] => []
  | t :: ts => ',' :: (chars style t ++ itemChars style ts)

/-- The members after the first. -/
def memberChars {ν : Type} (style : Style ν) : List (String × Tree ν) → List Char
  | [] => []
  | (k, t) :: ms => ',' :: (style.quoted k ++ ':' :: chars style t ++ memberChars style ms)

end

/-- The compact text of a tree. -/
def render {ν : Type} (style : Style ν) (t : Tree ν) : String :=
  String.ofList (t.chars style)

/-! ## Indented form -/

/-- A line break and the blanks of depth `n`. -/
def newline (n : Nat) : List Char := '\n' :: List.replicate (2 * n) ' '

mutual

/-- The indented text of a tree that stands at depth `n`. -/
def prettyChars {ν : Type} (style : Style ν) (n : Nat) : Tree ν → List Char
  | .null => "null".toList
  | .bool true => "true".toList
  | .bool false => "false".toList
  | .num x => (style.number x).toList
  | .str s => style.quoted s
  | .arr [] => ['[', ']']
  | .arr (t :: ts) =>
    '[' :: (newline (n + 1) ++ prettyChars style (n + 1) t ++ prettyItems style (n + 1) ts
      ++ newline n ++ [']'])
  | .obj [] => ['\x7b', '\x7d']
  | .obj ((k, t) :: ms) =>
    '\x7b' :: (newline (n + 1) ++ style.quoted k ++ ':' :: ' ' :: prettyChars style (n + 1) t
      ++ prettyMembers style (n + 1) ms ++ newline n ++ ['\x7d'])

/-- The items after the first, at depth `n`. -/
def prettyItems {ν : Type} (style : Style ν) (n : Nat) : List (Tree ν) → List Char
  | [] => []
  | t :: ts => ',' :: (newline n ++ prettyChars style n t ++ prettyItems style n ts)

/-- The members after the first, at depth `n`. -/
def prettyMembers {ν : Type} (style : Style ν) (n : Nat) : List (String × Tree ν) → List Char
  | [] => []
  | (k, t) :: ms =>
    ',' :: (newline n ++ style.quoted k ++ ':' :: ' ' :: prettyChars style n t
      ++ prettyMembers style n ms)

end

end Tree

/-- The **compact** text of a document. -/
def compact (j : Json) : String := j.render .document

/-- The **indented** text of a document. -/
def pretty (j : Json) : String := String.ofList (j.prettyChars .document 0)

end Json
end ErrorTaxonomy
