import Stencil.Json.Numeral
import Stencil.Reader

/-!
# Reading JSON

A strict reader of JSON documents. Objects keep the last of several members with one name, numbers
beyond the range are refused, and so are documents with more than 127 arrays and objects inside one
another.
-/

namespace Stencil.Json

/-- A step in reading a document, which may refuse the text. -/
abbrev Read (α : Type) : Type :=
  OptionT Reader α

/-- White space between the parts of a document. -/
def isSpace (c : Char) : Bool :=
  c == ' ' || c == '\t' || c == '\n' || c == '\r'

/-- Drops the white space in front. -/
def spaces : Read Unit :=
  discard (Reader.takeWhile isSpace)

/-- Takes a text that must come next. -/
def expect (t : List Char) : Read Unit := do
  if ← Reader.eat t then pure () else failure

/-- The characters up to the closing quote of a string, escapes still undone, and what follows. -/
def rawString : List Char → Option (List Char) × List Char
  | [] => (none, [])
  | '"' :: s => (some [], s)
  | ['\\'] => (none, [])
  | '\\' :: c :: s =>
    let r := rawString s
    (r.1.map fun t => '\\' :: c :: t, r.2)
  | c :: s =>
    let r := rawString s
    (r.1.map (c :: ·), r.2)

/-- What follows a string is no longer than the text. -/
theorem rawString_length_le (s : List Char) : (rawString s).2.length ≤ s.length := by
  fun_induction rawString s with
  | case1 => exact Nat.le_refl _
  | case2 s => exact Nat.le_succ _
  | case3 => exact Nat.zero_le _
  | case4 c s r ih => exact Nat.le_trans ih (Nat.le_trans (Nat.le_succ _) (Nat.le_succ _))
  | case5 c s _ _ _ r ih => exact Nat.le_trans ih (Nat.le_succ _)

/-- The value of a hexadecimal digit. -/
def hexDigit? (c : Char) : Option Nat :=
  if c.isDigit then some (c.toNat - '0'.toNat)
  else if 'a' ≤ c ∧ c ≤ 'f' then some (c.toNat - 'a'.toNat + 10)
  else if 'A' ≤ c ∧ c ≤ 'F' then some (c.toNat - 'A'.toNat + 10)
  else none

/-- The value of four hexadecimal digits. -/
def hexCode? (a b c d : Char) : Option Nat := do
  let a ← hexDigit? a
  let b ← hexDigit? b
  let c ← hexDigit? c
  let d ← hexDigit? d
  pure (((a * 16 + b) * 16 + c) * 16 + d)

/-- The character that a letter after a backslash stands for. -/
def simpleEscape? : Char → Option Char
  | '"' => some '"'
  | '\\' => some '\\'
  | '/' => some '/'
  | 'b' => some '\x08'
  | 'f' => some '\x0c'
  | 'n' => some '\n'
  | 'r' => some '\r'
  | 't' => some '\t'
  | _ => none

/-- The character of a pair of surrogates. -/
def surrogatePair (high low : Nat) : Char :=
  Char.ofNat (0x10000 + (high - 0xD800) * 0x400 + (low - 0xDC00))

/-- Undoes the escapes of a string. A surrogate must be in a pair, and control characters must be
escaped. -/
def unescape? : List Char → Option (List Char)
  | [] => some []
  | '\\' :: 'u' :: a :: b :: c :: d :: s =>
    match hexCode? a b c d with
    | none => none
    | some high =>
      if 0xDC00 ≤ high ∧ high < 0xE000 then none
      else if 0xD800 ≤ high ∧ high < 0xDC00 then
        match s with
        | '\\' :: 'u' :: a' :: b' :: c' :: d' :: s' =>
          match hexCode? a' b' c' d' with
          | none => none
          | some low =>
            if 0xDC00 ≤ low ∧ low < 0xE000 then
              (unescape? s').map (surrogatePair high low :: ·)
            else none
        | _ => none
      else (unescape? s).map (Char.ofNat high :: ·)
  | '\\' :: c :: s => (simpleEscape? c).bind fun x => (unescape? s).map (x :: ·)
  | c :: s => if c.toNat < 0x20 then none else (unescape? s).map (c :: ·)

/-- The rest of a string after its opening quote. -/
def stringRest : Read String :=
  OptionT.mk ⟨fun s =>
    let r := rawString s
    ((r.1.bind unescape?).map String.ofList, r.2),
    rawString_length_le⟩

/-- Takes digits, of which there must be one. -/
def digitRun : Read (List Char) := do
  let ds ← Reader.takeWhile Char.isDigit
  if ds = [] then failure else pure ds

/-- Takes the digits of a whole number: zero, or digits that do not begin with it. -/
def wholeDigits : Read (List Char) := do
  if ← Reader.eat ['0'] then pure ['0'] else digitRun

/-- Takes the fraction of a number, if there is one. -/
def fractionDigits : Read (List Char) := do
  if ← Reader.eat ['.'] then digitRun else pure []

/-- Takes the exponent of a number, if there is one. -/
def exponentPart : Read Int := do
  let lower ← Reader.eat ['e']
  let upper ← if lower then pure true else Reader.eat ['E']
  if upper then
    let minus ← Reader.eat ['-']
    if !minus then discard (Reader.eat ['+'])
    let n := Digits.ofDigits (← digitRun)
    pure (if minus then -(n : Int) else n)
  else pure 0

/-- Takes a number. -/
def numeral : Read Json := do
  let negative ← Reader.eat ['-']
  let whole ← wholeDigits
  let fraction ← fractionDigits
  let exponent ← exponentPart
  match number? negative whole fraction exponent with
  | some x => pure (.number x)
  | none => failure

variable {α : Type}

/-- Items with commas between them, up to a closing character. -/
def itemsUntil (close : Char) (item : Read α) (s : List Char) : Option (List α) × List Char :=
  match h : item.run.run s with
  | (none, r) => (none, r)
  | (some a, r) =>
    have hr : r.length ≤ s.length := by simpa [h] using item.run.length_le s
    match h' : r.dropWhile isSpace with
    | [] => (none, [])
    | c :: r' =>
      have hr' : r'.length < r.length := by
        have := (List.dropWhile_sublist (l := r) isSpace).length_le
        rwa [h'] at this
      if c = close then (some [a], r')
      else if c = ',' then
        let more := itemsUntil close item r'
        (more.1.map (a :: ·), more.2)
      else (none, r')
termination_by s.length
decreasing_by omega

/-- What follows some items is no longer than the text. -/
theorem itemsUntil_length_le (close : Char) (item : Read α) (s : List Char) :
    (itemsUntil close item s).2.length ≤ s.length := by
  induction hn : s.length using Nat.strongRecOn generalizing s with
  | ind n ih =>
    have hr := item.run.length_le s
    unfold itemsUntil
    split
    · case h_1 r h => simpa [h, hn] using hr
    · case h_2 a r h =>
      rw [h] at hr
      dsimp only at hr
      have hr' := (List.dropWhile_sublist (l := r) isSpace).length_le
      split
      · exact Nat.zero_le _
      · case h_2 c r' h' =>
        rw [h', List.length_cons] at hr'
        split
        · dsimp only
          omega
        · split
          · have := ih r'.length (by omega) r' rfl
            dsimp only
            omega
          · dsimp only
            omega

/-- The items between an opening character, already taken, and the closing one. -/
def items (close : Char) (item : Read α) : Read (List α) := do
  spaces
  if ← Reader.eat [close] then pure []
  else OptionT.mk ⟨itemsUntil close item, itemsUntil_length_le close item⟩

/-- A member of an object. -/
def memberOf (value : Read Json) : Read (String × Json) := do
  spaces
  expect ['"']
  let name ← stringRest
  spaces
  expect [':']
  pure (name, ← value)

/-- A document that is neither an array nor an object. -/
def scalar : Read Json := do
  if ← Reader.eat ['"'] then Json.string <$> stringRest
  else if ← Reader.eat ['t', 'r', 'u', 'e'] then pure (.bool true)
  else if ← Reader.eat ['f', 'a', 'l', 's', 'e'] then pure (.bool false)
  else if ← Reader.eat ['n', 'u', 'l', 'l'] then pure .null
  else numeral

/-- A document in which arrays and objects go at most `levels` deep. -/
def document : (levels : Nat) → Read Json
  | 0 => do
    spaces
    scalar
  | levels + 1 => do
    spaces
    if ← Reader.eat ['['] then Json.array <$> items ']' (document levels)
    else if ← Reader.eat ['{'] then
      (fun members => .object (Fields.ofPairs members)) <$> items '}' (memberOf (document levels))
    else scalar

/-- The most arrays and objects inside one another. -/
def maxLevels : Nat := 127

/-- Reads a text that is one document. -/
def ofText? (s : String) : Option Json :=
  match (document maxLevels).run.run s.toList with
  | (some j, rest) => if rest.all isSpace then some j else none
  | (none, _) => none

end Stencil.Json
