import Stencil.Text.CaseTable
import Stencil.Text.Classes

/-!
# Case and replacement

How the built-ins change a text. The full case mappings of Unicode take a character to one or
several; they are independent of the characters around, except that the lower case of `Σ` at the end
of a word is `ς`. `replaceAll` puts a text in the place of every occurrence of another, found from
the left without overlap; the empty text occurs between any two characters and at both ends.
-/

namespace Stencil.Text

/-- The characters with the given code points. -/
def ofCodes (codes : List Nat) : List Char :=
  codes.map Char.ofNat

/-- The form of a character in a pair of case tables, which is itself if it is in neither. -/
def caseForm (sequences : List (Nat × List Nat)) (runs : List CaseRun) (c : Char) : List Char :=
  let n := c.toNat
  match sequences.lookup n with
  | some codes => ofCodes codes
  | none =>
    match runs.find? fun r => r.first ≤ n && n ≤ r.last && (n - r.first) % r.step == 0 with
    | some r => [Char.ofNat (n + r.shift).toNat]
    | none => [c]

/-- Whether the first character that is not case-ignorable has a case. -/
def meetsCased (s : List Char) : Bool :=
  ((s.dropWhile (inRanges caseIgnorableRanges)).head?).any (inRanges casedRanges)

/-- The lower case of a text whose characters before it are `before`, the last one first. -/
def lowerAfter (before : List Char) : List Char → List Char
  | [] => []
  | c :: s =>
    let form :=
      if c = 'Σ' then [if meetsCased before && !meetsCased s then 'ς' else 'σ']
      else caseForm lowerSequences lowerRuns c
    form ++ lowerAfter (c :: before) s

/-- A text in lower case. -/
def lowercase (s : String) : String :=
  String.ofList (lowerAfter [] s.toList)

/-- A text in upper case. -/
def uppercase (s : String) : String :=
  String.ofList (s.toList.flatMap (caseForm upperSequences upperRuns))

/-- Replaces `old`, which has at least one character, wherever it occurs. While an occurrence is
being passed over, `pending` counts its characters still to come. -/
def replaceFrom (old new : List Char) : (pending : Nat) → List Char → List Char
  | _, [] => []
  | pending + 1, _ :: s => replaceFrom old new pending s
  | 0, c :: s =>
    if old.isPrefixOf (c :: s) then new ++ replaceFrom old new (old.length - 1) s
    else c :: replaceFrom old new 0 s

/-- A text with every occurrence of `old` replaced by `new`. -/
def replaceAll (old new s : String) : String :=
  String.ofList
    (if old.toList = [] then new.toList ++ s.toList.flatMap fun c => c :: new.toList
    else replaceFrom old.toList new.toList 0 s.toList)

end Stencil.Text
