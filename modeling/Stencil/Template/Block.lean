import Stencil.Template.Expression
import Stencil.Template.Tree
import Stencil.Template.Region

/-!
# Reading templates

The tags of a template and the blocks that they form. How deep blocks may go inside one another is a
budget like that of expressions. Reading never fails: a tag that makes no sense becomes a message,
and what follows it is read as if it stood alone.
-/

namespace Stencil

open Delimiter

/-- Takes the expression at the head of a tag. An empty tag has `null` there. -/
def Reader.head (depth : Nat) : Reader Expr := do
  Reader.blanks
  let empty ← Reader.atEnd
  let closed ← Reader.isAt tagClose
  let rawClosed ← Reader.isAt rawClose
  if empty || closed || rawClosed then pure (.literal .null) else (expression depth).reader

/-- Takes the `if` of an else tag after its mark, which may stand behind blanks, and tells whether
there is one. -/
def Reader.elseIf : Reader Bool := do
  if ← Reader.eat ['i', 'f'] then pure true
  else
    let next ← Reader.peek?
    if next.any Text.isBlank then
      Reader.blanks
      Reader.keyword ['i', 'f']
    else pure false

/-- Takes a tag that begins with the else mark, and gives the condition of the branch that it opens;
a tag that opens the fallback has none. -/
def Reader.elseTag (depth : Nat) : Reader (Option Expr) := do
  Reader.skip elseMark.length
  if ← Reader.elseIf then
    let condition ← Reader.head depth
    Reader.pastClose
    pure (some condition)
  else
    Reader.pastClose
    pure none

/-- A tag that begins another branch takes something of a text that is not empty. -/
theorem Reader.elseTag_length_lt (depth : Nat) {s : List Char} (h : s ≠ []) :
    ((Reader.elseTag depth).run s).2.length < s.length := by
  have hs := List.length_pos_iff.mpr h
  have hskip : ((Reader.skip elseMark.length).run s).2.length ≤ s.length - 1 := by
    simp [elseMark, tagOpen]
    omega
  unfold Reader.elseTag
  exact Nat.lt_of_le_of_lt (Reader.run_bind_length_le _ hskip) (by omega)

/-- The branches of a conditional from the body of one on, its condition given, and the fallback. -/
def branchesFrom (depth : Nat) (nodes : Region → Reader (List Node)) (condition : Expr)
    (s : List Char) : (List (Expr × List Node) × Option (List Node)) × List Char :=
  let body := (nodes .ifBody).run s
  let close := (Reader.eat endIf).run body.2
  if h : close.1 ∨ body.2 = [] then (([(condition, body.1)], none), close.2)
  else
    have : ((Reader.elseTag depth).run body.2).2.length < s.length :=
      Nat.lt_of_lt_of_le (Reader.elseTag_length_lt depth (not_or.mp h).2)
        ((nodes .ifBody).length_le s)
    let next := (Reader.elseTag depth).run body.2
    match next.1 with
    | some c =>
      let more := branchesFrom depth nodes c next.2
      (((condition, body.1) :: more.1.1, more.1.2), more.2)
    | none =>
      let fallback := (nodes .ifFallback).run next.2
      (([(condition, body.1)], some fallback.1), ((Reader.eat endIf).run fallback.2).2)
termination_by s.length

/-- What follows the branches of a conditional is no longer than the text. -/
theorem branchesFrom_length_le (depth : Nat) (nodes : Region → Reader (List Node))
    (condition : Expr) (s : List Char) :
    (branchesFrom depth nodes condition s).2.length ≤ s.length := by
  fun_induction branchesFrom depth nodes condition s with
  | case1 condition s body close h =>
    exact Nat.le_trans ((Reader.eat endIf).length_le _) ((nodes .ifBody).length_le s)
  | case2 condition s body close h hlt next c hc more ih =>
    exact Nat.le_trans ih (Nat.le_of_lt hlt)
  | case3 condition s body close h hlt next hc fallback =>
    exact Nat.le_trans ((Reader.eat endIf).length_le _)
      (Nat.le_trans ((nodes .ifFallback).length_le _) (Nat.le_of_lt hlt))

/-- Takes a conditional after its keyword. -/
def Reader.conditional (depth : Nat) (nodes : Region → Reader (List Node)) : Reader Node := do
  let condition ← Reader.head depth
  Reader.pastClose
  let parts ← ⟨branchesFrom depth nodes condition, branchesFrom_length_le depth nodes condition⟩
  pure (.conditional parts.1 parts.2)

/-- Takes the name of the index of a loop, behind a comma; there need not be one. -/
def Reader.loopIndex : Reader (Option String) := do
  if ← Reader.eat [','] then
    Reader.blanks
    some <$> Reader.word
  else pure none

/-- Takes the fallback of a loop, behind a tag with the else mark; there need not be one. -/
def Reader.loopFallback (nodes : Region → Reader (List Node)) : Reader (Option (List Node)) := do
  if ← Reader.isAt elseMark then
    Reader.pastClose
    some <$> nodes .eachFallback
  else pure none

/-- Takes a loop after its keyword. Without `as` there is no loop: its tag becomes a message, and
what follows is read as if it stood alone. -/
def Reader.loop (depth : Nat) (nodes : Region → Reader (List Node)) : Reader Node := do
  let source ← Reader.head depth
  Reader.blanks
  if ← Reader.keyword ['a', 's'] then
    Reader.blanks
    let item ← Reader.word
    Reader.blanks
    let index ← Reader.loopIndex
    Reader.pastClose
    let body ← nodes .eachBody
    let fallback ← Reader.loopFallback nodes
    discard (Reader.eat endEach)
    pure (.loop source item index body fallback)
  else
    Reader.pastClose
    pure (.text Fault.missingAs.message)

/-- Takes a tag after its opening mark. `block` reads a block after its `#`. -/
def Reader.tag (depth : Nat) (block : Reader Node) : Reader Node := do
  if ← Reader.eat ['#'] then block
  else if ← Reader.eat ['+'] then
    let e ← Reader.head depth
    Reader.blanks
    discard (Reader.eat ['+'])
    Reader.pastClose
    pure (.interpolation e true)
  else
    let e ← Reader.head depth
    Reader.pastClose
    pure (.interpolation e false)

/-- Takes a block after its `#`, with some levels left for blocks. An unknown block is a message for
its keyword, and so is a block that is too deep; what follows the keyword is then read as if it
stood alone. -/
def Reader.block (depth : Nat) : (levels : Nat) → Reader Node
  | 0 => do
    let keyword ← Reader.word
    if keyword = "if" ∨ keyword = "each" then pure (.text Fault.tooDeep.message)
    else pure (.text (Fault.unknownBlock keyword).message)
  | levels + 1 => .delay fun _ => do
    let keyword ← Reader.word
    let nodes := Reader.nodes (Reader.tag depth (Reader.block depth levels))
    if keyword = "if" then Reader.conditional depth nodes
    else if keyword = "each" then Reader.loop depth nodes
    else pure (.text (Fault.unknownBlock keyword).message)

/-- Reads a template. A template that is too long is a message. -/
def Template.parse (limits : Limits) (s : String) : Template :=
  if limits.length.any fun n => n < s.utf8ByteSize then
    ⟨[.text Fault.templateTooLarge.message]⟩
  else
    let tag := Reader.tag limits.depth (Reader.block limits.depth limits.depth)
    ⟨((Reader.nodes tag .outermost).run s.toList).1⟩

end Stencil
