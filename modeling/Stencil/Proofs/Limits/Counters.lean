import Stencil.Proofs.Reading.Rounds

/-!
# Reading with counters

The readers of the library are told what is left of the limit on depth, so nothing has to be given
back where a block or an expression ends. Here the same is read with two counters of what is open.
They are compared with the limit and raised where a block, an expression or a pipe begins, and
lowered where it ends. An expression is counted once and once more for each of its pipes, and lowers
the counter by that number at its end.

Nothing is taken for granted about the counters. One that would fall below zero makes the reading
fail, every change is noted together with its result (`Moment`), and so is the beginning of each
region and each block. Nor is it said beforehand that readings end, since the loops go on from
whatever a part has left: a reader is told how many calls may be made inside one another, with each
round of a loop as a call in the round before, and fails if they are not enough.
-/

namespace Stencil

/-- How many blocks are open, and how many expressions and pipes. -/
structure Counters where
  blocks : Nat
  exprs : Nat

/-- The counters at a moment of a reading: when one of them has changed, or when a region or a block
begins. -/
structure Moment where
  counters : Counters
  begins : Bool

/-- A reading at some moment: the text that is left, the counters, and the moments so far. -/
structure Reading where
  rest : List Char
  counters : Counters
  moments : List Moment

/-- A reader with counters, which may fail. -/
abbrev Counted : Type → Type :=
  StateT Reading Option

namespace Counted

variable {α : Type}

/-- Reads without regard to the counters. -/
def read (x : Reader α) : Counted α := fun t =>
  some ((x.run t.rest).1, { t with rest := (x.run t.rest).2 })

/-- The counters. -/
def counters : Counted Counters := fun t =>
  some (t.counters, t)

/-- Changes the counters. -/
def setCounters (c : Counters) : Counted Unit := fun t =>
  some ((), { t with counters := c, moments := t.moments ++ [⟨c, false⟩] })

/-- Notes that a region or a block begins, and reads it. -/
def beginning (x : Counted α) : Counted α := fun t =>
  x { t with moments := t.moments ++ [⟨t.counters, true⟩] }

/-- Takes a number from a counter, which may not be greater. -/
def lower (n k : Nat) : Counted Nat :=
  if k ≤ n then pure (n - k) else failure

/-- Raises the counter of blocks. -/
def openBlock : Counted Unit := do
  let c ← counters
  setCounters { c with blocks := c.blocks + 1 }

/-- Lowers the counter of blocks. -/
def closeBlock : Counted Unit := do
  let c ← counters
  let blocks ← lower c.blocks 1
  setCounters { c with blocks }

/-- Raises the counter of expressions. -/
def openExpr : Counted Unit := do
  let c ← counters
  setCounters { c with exprs := c.exprs + 1 }

/-- Lowers the counter of expressions by a number. -/
def closeExprs (n : Nat) : Counted Unit := do
  let c ← counters
  let exprs ← lower c.exprs n
  setCounters { c with exprs }

section
variable (args : Counted (List Expr))

/-- Takes a word and what it begins; `args` reads arguments after an opening parenthesis. -/
def named : Counted Expr := do
  let name ← read Reader.word
  if name = "null" then pure (.literal .null)
  else if name = "true" then pure (.literal (.bool true))
  else if name = "false" then pure (.literal (.bool false))
  else if ← read (Reader.eat ['(']) then
    let es ← args
    pure (.call name es)
  else
    let more ← read Reader.segments
    pure (.path (name :: more))

/-- Takes an expression without its pipes. -/
def primary : Counted Expr := do
  read Reader.blanks
  match ← read Reader.peek? with
  | none => pure (.literal .null)
  | some c =>
    if c = '"' ∨ c = '\'' then
      read (Reader.skip 1)
      let s ← read (Reader.quotedText c)
      pure (.literal (.string s))
    else if c = '-' ∨ c = '.' ∨ c.isDigit then read Reader.numeral
    else if Text.isWordChar c then named args
    else
      read (Reader.skip 1)
      pure (.literal .null)

/-- Takes arguments in parentheses; there need not be any. -/
def optionalArguments : Counted (List Expr) := do
  if ← read (Reader.eat ['(']) then args else pure []

end

mutual

/-- Takes an expression: what it begins with, and the pipes behind that. -/
def expression (limit : Nat) : (calls : Nat) → Counted Expr
  | 0 => failure
  | calls + 1 => do
    let c ← counters
    if limit ≤ c.exprs then read Reader.cutOff
    else
      openExpr
      let e ← primary (arguments limit calls)
      let (e, count) ← pipes limit calls e 0
      closeExprs (1 + count)
      pure e

/-- Takes the pipes behind an expression, and counts those that have been opened. -/
def pipes (limit : Nat) : (calls : Nat) → Expr → Nat → Counted (Expr × Nat)
  | 0, _, _ => failure
  | calls + 1, e, count => do
    read Reader.blanks
    if ← read (Reader.eat ['|']) then
      let c ← counters
      if limit ≤ c.exprs then
        let e ← read Reader.cutOff
        pure (e, count)
      else
        openExpr
        read Reader.blanks
        let name ← read Reader.word
        let args ← optionalArguments (arguments limit calls)
        pipes limit calls (.pipe e name args) (count + 1)
    else pure (e, count)

/-- Takes the arguments after an opening parenthesis. -/
def arguments (limit : Nat) : (calls : Nat) → Counted (List Expr)
  | 0 => failure
  | calls + 1 => do
    read Reader.blanks
    match ← read Reader.peek? with
    | none => pure []
    | some c =>
      if c = ')' then
        read (Reader.skip 1)
        pure []
      else if c = ',' then
        read (Reader.skip 1)
        arguments limit calls
      else if c = '}' then pure []
      else
        let e ← expression limit calls
        let es ← arguments limit calls
        pure (e :: es)

end

section
variable (expr : Counted Expr)

/-- Takes the expression at the head of a tag; `expr` reads it unless the tag is empty. -/
def head : Counted Expr := do
  read Reader.blanks
  let empty ← read Reader.atEnd
  let closed ← read (Reader.isAt Delimiter.tagClose)
  let rawClosed ← read (Reader.isAt Delimiter.rawClose)
  if empty || closed || rawClosed then pure (.literal .null) else expr

/-- Takes a tag after its opening mark; `block` reads a block after its `#`. -/
def tag (block : Counted Node) : Counted Node := do
  if ← read (Reader.eat ['#']) then block
  else if ← read (Reader.eat ['+']) then
    let e ← head expr
    read Reader.blanks
    discard (read (Reader.eat ['+']))
    read Reader.pastClose
    pure (.interpolation e true)
  else
    let e ← head expr
    read Reader.pastClose
    pure (.interpolation e false)

/-- Takes a tag that begins with the else mark, and gives the condition of the branch that it
opens. -/
def elseTag : Counted (Option Expr) := do
  read (Reader.skip Delimiter.elseMark.length)
  if ← read Reader.elseIf then
    let condition ← head expr
    read Reader.pastClose
    pure (some condition)
  else
    read Reader.pastClose
    pure none

/-- Takes a conditional after its keyword; `branches` reads its branches, the first condition
given. -/
def conditional (branches : Expr → Counted (List (Expr × List Node) × Option (List Node))) :
    Counted Node := do
  let condition ← head expr
  read Reader.pastClose
  let parts ← branches condition
  pure (.conditional parts.1 parts.2)

variable (nodes : Region → Counted (List Node))

/-- Takes the fallback of a loop; there need not be one. -/
def loopFallback : Counted (Option (List Node)) := do
  if ← read (Reader.isAt Delimiter.elseMark) then
    read Reader.pastClose
    let fallback ← nodes .eachFallback
    pure (some fallback)
  else pure none

/-- Takes a loop after its keyword; `nodes` reads the nodes of a region. -/
def loop : Counted Node := do
  let source ← head expr
  read Reader.blanks
  if ← read (Reader.keyword ['a', 's']) then
    read Reader.blanks
    let item ← read Reader.word
    read Reader.blanks
    let index ← read Reader.loopIndex
    read Reader.pastClose
    let body ← nodes .eachBody
    let fallback ← loopFallback nodes
    discard (read (Reader.eat Delimiter.endEach))
    pure (.loop source item index body fallback)
  else
    read Reader.pastClose
    pure (.text Fault.missingAs.message)

end

mutual

/-- Takes the nodes of a region from one on. -/
def nodesFrom (limit : Nat) (region : Region) : (calls : Nat) → Counted (List Node)
  | 0 => failure
  | calls + 1 => do
    let t ← read Reader.literal
    let ended ← read Reader.atEnd
    let stopped ← read (Reader.isAtAny region.stops)
    if ended || stopped then pure (textNodes t)
    else
      read (Reader.skip Delimiter.tagOpen.length)
      let n ← tag (expression limit calls) (block limit calls)
      let more ← nodesFrom limit region calls
      pure (textNodes t ++ n :: more)

/-- Takes the branches of a conditional from the body of one on, and the fallback. -/
def branchesFrom (limit : Nat) :
    (calls : Nat) → Expr → Counted (List (Expr × List Node) × Option (List Node))
  | 0, _ => failure
  | calls + 1, condition => do
    let body ← beginning (nodesFrom limit .ifBody calls)
    let closed ← read (Reader.eat Delimiter.endIf)
    let ended ← read Reader.atEnd
    if closed || ended then pure ([(condition, body)], none)
    else
      match ← elseTag (expression limit calls) with
      | some next =>
        let more ← branchesFrom limit calls next
        pure ((condition, body) :: more.1, more.2)
      | none =>
        let fallback ← beginning (nodesFrom limit .ifFallback calls)
        discard (read (Reader.eat Delimiter.endIf))
        pure ([(condition, body)], some fallback)

/-- Takes a block after its `#`. -/
def block (limit : Nat) : (calls : Nat) → Counted Node
  | 0 => failure
  | calls + 1 => beginning do
    let keyword ← read Reader.word
    let c ← counters
    if (keyword = "if" ∨ keyword = "each") ∧ limit ≤ c.blocks then
      pure (.text Fault.tooDeep.message)
    else if keyword = "if" then
      openBlock
      let n ← conditional (expression limit calls) (branchesFrom limit calls)
      closeBlock
      pure n
    else if keyword = "each" then
      openBlock
      let n ← loop (expression limit calls) fun region => beginning (nodesFrom limit region calls)
      closeBlock
      pure n
    else pure (.text (Fault.unknownBlock keyword).message)

end

/-- Takes the nodes of a region. -/
def nodes (limit : Nat) (region : Region) (calls : Nat) : Counted (List Node) :=
  beginning (nodesFrom limit region calls)

end Counted

end Stencil
