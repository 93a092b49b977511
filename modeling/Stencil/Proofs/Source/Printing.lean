import Stencil.Proofs.Number.Whole
import Stencil.Template.Block

/-!
# Trees as source

How a tree is written as a template. The syntax leaves choices: the quotes of a string, `else if` in
one word or two, empty parentheses behind a pipe, and the blanks in a tag. A `Style` makes these
choices, at every place of a tree by itself. Not every tree can be written: names must be words, a
conditional needs a branch, two texts side by side would be one, and a text that ends in `{` or `\`
would take part in the mark after it (`nodesPrintable`).
-/

namespace Stencil

open Delimiter

/-- A run of blanks, possibly none. -/
structure Blanks where
  chars : List Char
  isBlank : ∀ c ∈ chars, Text.isBlank c = true

/-- What the syntax leaves open at one place of a tree. Blanks that may be missing are `optional`,
blanks between two words are `needed`. -/
structure Spelling where
  singleQuotes : Bool
  joinedElseIf : Bool
  emptyParentheses : Bool
  optional : Nat → Blanks
  needed : Nat → { b : Blanks // b.chars ≠ [] }

/-- A choice of spellings for every place of a tree. -/
abbrev Style : Type :=
  List Nat → Spelling

/-- One blank. -/
def Blanks.one : Blanks :=
  ⟨[' '], fun c hc => by rw [List.mem_singleton.mp hc]; rfl⟩

/-- Double quotes, two words, no empty parentheses, and one blank wherever there may be some. -/
instance : Inhabited Spelling :=
  ⟨⟨false, false, false, fun _ => .one, fun _ => ⟨.one, by decide⟩⟩⟩

namespace Style
variable (style : Style)

/-- The choices for a part of a tree. -/
def part (i : Nat) : Style :=
  fun place => style (i :: place)

/-- The quote of a string. -/
def quote : Char :=
  if (style []).singleQuotes then '\'' else '"'

/-- Blanks that may be missing. -/
def blanks (k : Nat) : List Char :=
  ((style []).optional k).chars

/-- Blanks between two words. -/
def gap (k : Nat) : List Char :=
  ((style []).needed k).val.chars

end Style

/-- A text as it is written between tags: a backslash stands before each opening mark. -/
def escapeMarks : List Char → List Char
  | '{' :: '{' :: s => escapedOpen ++ escapeMarks s
  | c :: s => c :: escapeMarks s
  | [] => []

/-- A character as it is written between quotes. -/
def escapeQuoted (quote c : Char) : List Char :=
  if c = '\\' ∨ c = quote then ['\\', c] else [c]

/-- A string as it is written between quotes. -/
def quotedSource (quote : Char) (s : String) : List Char :=
  quote :: (s.toList.flatMap (escapeQuoted quote) ++ [quote])

/-- A literal as it is written; arrays, objects and other numbers than integers are not. -/
def Value.source (quote : Char) : Value → List Char
  | .null => ['n', 'u', 'l', 'l']
  | .bool b => if b then ['t', 'r', 'u', 'e'] else ['f', 'a', 'l', 's', 'e']
  | .number x => numeralOf (x.whole?.getD 0)
  | .string s => quotedSource quote s
  | .array _ => []
  | .object _ => []

/-- Whether a literal can be written. -/
def Value.printable : Value → Bool
  | .null => true
  | .bool _ => true
  | .number x => x.whole?.isSome
  | .string _ => true
  | .array _ => false
  | .object _ => false

/-- The numbers that can be written are the integers below `2 ^ 53` in magnitude. -/
theorem Value.printable_number_iff {x : Number} :
    (Value.number x).printable = true ↔ ∃ i : Int, i.natAbs < 2 ^ 53 ∧ x = .ofInt i := by
  rw [Value.printable, Option.isSome_iff_exists]
  constructor
  · rintro ⟨i, hi⟩
    obtain ⟨hx, hlt⟩ := Number.whole?_eq_some hi
    exact ⟨i, hlt, hx.symm⟩
  · rintro ⟨i, hi, rfl⟩
    exact ⟨i, Number.whole?_ofInt hi⟩

/-- The segments of a path after the first one. -/
def segmentsSource : List String → List Char
  | [] => []
  | s :: more => '.' :: (s.toList ++ segmentsSource more)

mutual

/-- An expression as it is written. -/
def Expr.source (style : Style) : Expr → List Char
  | .literal v => v.source style.quote
  | .path [] => []
  | .path (s :: more) => s.toList ++ segmentsSource more
  | .call name args => name.toList ++ '(' :: argumentsSource (style.part 0) [] args
  | .pipe input name args =>
    input.source (style.part 0) ++ (style.blanks 0 ++ '|' :: (style.blanks 1 ++ (name.toList ++
      if args.isEmpty && !(style []).emptyParentheses then []
      else '(' :: argumentsSource (style.part 1) [] args)))

/-- Arguments as they are written, up to the closing parenthesis. Before the first of them stands
`separator`, before each other one a comma. -/
def argumentsSource (style : Style) (separator : List Char) : List Expr → List Char
  | [] => style.blanks 0 ++ [')']
  | e :: es => style.blanks 0 ++ (separator ++ (style.blanks 1 ++ (e.source (style.part 0) ++
      argumentsSource (style.part 1) [','] es)))

end

/-- Whether a word can begin an expression as a name: it is neither a numeral nor a constant. -/
def isFirstName (s : String) : Bool :=
  Text.isName s && !s.toList.head?.any Char.isDigit && s != "true" && s != "false" && s != "null"

mutual

/-- Whether an expression can be written. -/
def Expr.printable : Expr → Bool
  | .literal v => v.printable
  | .path [] => false
  | .path (s :: more) => isFirstName s && more.all Text.isName
  | .call name args => isFirstName name && argumentsPrintable args
  | .pipe input name args => input.printable && Text.isName name && argumentsPrintable args

/-- Whether arguments can be written. -/
def argumentsPrintable : List Expr → Bool
  | [] => true
  | e :: es => e.printable && argumentsPrintable es

end

/-- The mark of a raw interpolation. -/
def rawMark (raw : Bool) : List Char :=
  if raw then ['+'] else []

/-- The front of the tag of a conditional. -/
def ifMark : List Char :=
  tagOpen ++ ['#', 'i', 'f']

/-- The front of a tag that begins another branch. -/
def elseIfMark (style : Style) : List Char :=
  elseMark ++ ((if (style []).joinedElseIf then [] else style.gap 1) ++ ['i', 'f'])

/-- The index of a loop as it is written. -/
def indexSource (style : Style) : Option String → List Char
  | none => []
  | some index => style.blanks 1 ++ ',' :: (style.blanks 2 ++ index.toList)

/-- The tag of a loop as it is written. -/
def loopTag (style : Style) (source : Expr) (item : String) (index : Option String) : List Char :=
  tagOpen ++ ('#' :: 'e' :: 'a' :: 'c' :: 'h' :: (style.gap 0 ++ (source.source (style.part 0) ++
    (style.gap 1 ++ ('a' :: 's' :: (style.gap 2 ++ (item.toList ++ (indexSource style index ++
      (style.blanks 0 ++ tagClose)))))))))

mutual

/-- A node as it is written. -/
def Node.source (style : Style) : Node → List Char
  | .text s => escapeMarks s.toList
  | .interpolation e raw =>
    tagOpen ++ (rawMark raw ++ (style.blanks 0 ++ (e.source (style.part 0) ++ (style.blanks 1 ++
      (rawMark raw ++ tagClose)))))
  | .conditional branches fallback =>
    branchesSource (style.part 0) ifMark branches ++
      (fallbackSource (style.part 1) fallback ++ endIf)
  | .loop source item index body fallback =>
    loopTag style source item index ++
      (nodesSource (style.part 1) body ++ (fallbackSource (style.part 2) fallback ++ endEach))

/-- Nodes as they are written. -/
def nodesSource (style : Style) : List Node → List Char
  | [] => []
  | n :: ns => n.source (style.part 0) ++ nodesSource (style.part 1) ns

/-- Branches as they are written. The tag of the first of them begins with `mark`. -/
def branchesSource (style : Style) (mark : List Char) : List (Expr × List Node) → List Char
  | [] => []
  | (condition, body) :: rest =>
    mark ++ (style.gap 0 ++ (condition.source (style.part 0) ++ (style.blanks 0 ++ (tagClose ++
      (nodesSource (style.part 1) body ++
        branchesSource (style.part 2) (elseIfMark (style.part 2)) rest)))))

/-- A fallback as it is written, its tag included. -/
def fallbackSource (style : Style) : Option (List Node) → List Char
  | none => []
  | some ns => elseMark ++ (tagClose ++ nodesSource style ns)

end

/-- Whether a text stays clear of a mark behind it. -/
def isClear (s : String) : Bool :=
  s.toList.getLast? != some '{' && s.toList.getLast? != some '\\'

/-- Whether a node may stand before some others: before another tag a text must be clear, and before
another text it may not stand. At the end of a template it may be any text. -/
def mayPrecede (outermost : Bool) : Node → List Node → Bool
  | .text s, [] => outermost || isClear s
  | .text _, .text _ :: _ => false
  | .text s, _ :: _ => isClear s
  | _, _ => true

mutual

/-- Whether a node can be written. -/
def Node.printable : Node → Bool
  | .text s => s != ""
  | .interpolation e _ => e.printable
  | .conditional branches fallback =>
    !branches.isEmpty && branchesPrintable branches && fallbackPrintable fallback
  | .loop source item index body fallback =>
    source.printable && Text.isName item && index.all Text.isName && nodesPrintable false body &&
      fallbackPrintable fallback

/-- Whether nodes can be written, as a whole template or inside a block. -/
def nodesPrintable (outermost : Bool) : List Node → Bool
  | [] => true
  | n :: ns => n.printable && mayPrecede outermost n ns && nodesPrintable outermost ns

/-- Whether the branches of a conditional can be written. -/
def branchesPrintable : List (Expr × List Node) → Bool
  | [] => true
  | (condition, body) :: rest =>
    condition.printable && nodesPrintable false body && branchesPrintable rest

/-- Whether a fallback can be written. -/
def fallbackPrintable : Option (List Node) → Bool
  | none => true
  | some ns => nodesPrintable false ns

end

end Stencil
