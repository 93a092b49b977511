import Stencil.Number.Reading
import Stencil.Template.Delimiter
import Stencil.Template.Tree

/-!
# Literals

Strings and numbers in a template. A string stands between two equal quotes and may hold escapes;
one that is never closed is empty, and what follows its opening quote is read as if it were not
there. A number is an optional minus and digits with at most one point; a run without any digit is a
path of its own.
-/

namespace Stencil

/-- The text that a backslash and a character stand for between two quotes. -/
def unescape (quote c : Char) : List Char :=
  if c = 'n' then ['\n']
  else if c = 't' then ['\t']
  else if c = 'r' then ['\r']
  else if c = '\\' ∨ c = quote then [c]
  else ['\\', c]

/-- The text up to the closing quote and what follows it, if there is one. A backslash always takes
the next character with it. -/
def quotedText? (quote : Char) : List Char → Option (List Char × List Char)
  | [] => none
  | [c] => if c = quote then some ([], []) else none
  | c :: d :: s =>
    if c = quote then some ([], d :: s)
    else if c = '\\' then (quotedText? quote s).map fun p => (unescape quote d ++ p.1, p.2)
    else (quotedText? quote (d :: s)).map fun p => (c :: p.1, p.2)

/-- What follows a closing quote is no longer than the text. -/
theorem quotedText?_length_le {quote : Char} {s : List Char} {p : List Char × List Char}
    (h : quotedText? quote s = some p) : p.2.length ≤ s.length := by
  fun_induction quotedText? quote s generalizing p with
  | case1 => contradiction
  | case2 =>
    cases h
    exact Nat.zero_le _
  | case3 => contradiction
  | case4 d s =>
    cases h
    exact Nat.le_succ _
  | case5 d s hc ih =>
    obtain ⟨q, hq, rfl⟩ := Option.map_eq_some_iff.mp h
    have := ih hq
    simp only [List.length_cons]
    omega
  | case6 c d s hc hb ih =>
    obtain ⟨q, hq, rfl⟩ := Option.map_eq_some_iff.mp h
    have := ih hq
    simp only [List.length_cons] at this ⊢
    omega

namespace Reader

/-- Takes the rest of a string after its opening quote. -/
def quotedText (quote : Char) : Reader String :=
  ⟨fun s =>
    match quotedText? quote s with
    | some p => (String.ofList p.1, p.2)
    | none => ("", s), fun s => by
    split
    · case h_1 p h => exact quotedText?_length_le h
    · exact Nat.le_refl _⟩

/-- Takes a number, or the run of a minus and a point that has no digits. -/
def numeral : Reader Expr := do
  let minus ← eat ['-']
  let whole ← takeWhile Char.isDigit
  let point ← eat ['.']
  let fraction ← if point then takeWhile Char.isDigit else pure []
  if whole = [] ∧ fraction = [] then
    let run := (if minus then ['-'] else []) ++ if point then ['.'] else []
    pure (.path [String.ofList run])
  else pure (.literal (.number (.ofDecimal minus (.ofParts whole fraction 0))))

end Reader

end Stencil
