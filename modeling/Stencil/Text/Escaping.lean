import Stencil.Text.Classes
import Stencil.Text.PrintableTable

/-!
# Escaping

How a text is written so that it stands for itself. In markup the five characters with a meaning are
written as entities, inside a document as well as inside a quoted attribute. In a message a name
stands in double quotes; there quotes, backslashes and line breaks are written as escapes, and so
is, by its code point, every character that would not show as itself.
-/

namespace Stencil.Text

/-- The entity for a character with a meaning in markup, else the character alone. -/
def entity : Char → List Char
  | '&' => ['&', 'a', 'm', 'p', ';']
  | '<' => ['&', 'l', 't', ';']
  | '>' => ['&', 'g', 't', ';']
  | '"' => ['&', 'q', 'u', 'o', 't', ';']
  | '\'' => ['&', '#', '3', '9', ';']
  | c => [c]

/-- A text with every special character written as its entity. -/
def escape (s : String) : String :=
  String.ofList (s.toList.flatMap entity)

/-- An escaped text is the entities of its characters, one after another. -/
@[simp] theorem toList_escape (s : String) : (escape s).toList = s.toList.flatMap entity :=
  String.toList_ofList

/-- Escaping is done character by character. -/
theorem escape_append (s t : String) : escape (s ++ t) = escape s ++ escape t := by
  apply String.toList_inj.mp
  simp

/-- Whether a character shows as itself: it neither extends the one before it nor shows as nothing,
and it is no control and no separator other than the space. -/
def isPlain (c : Char) : Bool :=
  !(inRanges extendingRanges c || inRanges fillerRanges c || inRanges unprintableRanges c)

/-- A code point as an escape: `\u`, and its hexadecimal digits in braces. -/
def codeEscape (c : Char) : List Char :=
  ['\\', 'u', '{'] ++ Nat.toDigits 16 c.toNat ++ ['}']

/-- A character as it is written between the quotes. -/
def quotedChar (c : Char) : List Char :=
  match c with
  | '\x00' => ['\\', '0']
  | '\t' => ['\\', 't']
  | '\r' => ['\\', 'r']
  | '\n' => ['\\', 'n']
  | '\\' => ['\\', '\\']
  | '"' => ['\\', '"']
  | c => if isPlain c then [c] else codeEscape c

/-- A text between double quotes. -/
def quoted (s : String) : String :=
  String.ofList ('"' :: s.toList.flatMap quotedChar ++ ['"'])

end Stencil.Text
