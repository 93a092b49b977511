import Stencil.Reader

/-!
# Delimiters

The marks around the tags of a template, and how a reader gets to the end of a tag.
-/

namespace Stencil.Delimiter

/-- The mark that opens a tag. -/
def tagOpen : List Char := ['{', '{']

/-- The mark that closes a tag. -/
def tagClose : List Char := ['}', '}']

/-- The opening mark of a tag, behind a backslash that makes it text. -/
def escapedOpen : List Char := '\\' :: tagOpen

/-- The end of a raw interpolation. -/
def rawClose : List Char := '+' :: tagClose

/-- The front of a tag that begins another branch or the fallback of a block. -/
def elseMark : List Char := tagOpen ++ [':', 'e', 'l', 's', 'e']

/-- The end of a conditional. -/
def endIf : List Char := tagOpen ++ ['/', 'i', 'f'] ++ tagClose

/-- The end of a loop. -/
def endEach : List Char := tagOpen ++ ['/', 'e', 'a', 'c', 'h'] ++ tagClose

/-- The text from the first closing mark on. -/
def fromClose : List Char → List Char
  | [] => []
  | c :: s => if tagClose.isPrefixOf (c :: s) then c :: s else fromClose s

/-- What begins with the closing mark is no longer than the text. -/
theorem fromClose_length_le (s : List Char) : (fromClose s).length ≤ s.length := by
  induction s with
  | nil => exact Nat.le_refl _
  | cons c s ih =>
    unfold fromClose
    split
    · exact Nat.le_refl _
    · exact Nat.le_trans ih (Nat.le_succ _)

end Stencil.Delimiter

namespace Stencil.Reader

/-- Goes to the next closing mark, or to the end if there is none. -/
def toClose : Reader Unit :=
  ⟨fun s => ((), Delimiter.fromClose s), Delimiter.fromClose_length_le⟩

/-- Goes past the next closing mark, or to the end if there is none. -/
def pastClose : Reader Unit := do
  toClose
  skip Delimiter.tagClose.length

/-- The reader that goes to the closing mark leaves it in the text. -/
@[simp] theorem run_toClose (s : List Char) : toClose.run s = ((), Delimiter.fromClose s) := rfl

end Stencil.Reader
