import Mathlib.Tactic.Lemma
import Stencil.Proofs.Checking.Calls
import Stencil.Proofs.Reading.Heads

/-!
# Where a template can be flawed

A path of the check leads from the nodes of a template to a place in it: to a node, a branch or a
list of nodes (`Place.follow?`). At a place there are spots that can be flawed: a text that stands
for a malformed tag, a call anywhere in the expression of a tag, the names that a loop binds. A
place and a spot are a site. Which sites have a flaw is said here without any walk over the tree, by
following the path and looking at what is there (`Template.Flawed`).

A walk over a tree meets its sites in a fixed order (`Site.Before`): nodes and branches from left to
right, the tag of a place before what is inside the place, a body before its fallback. In an
expression the input of a pipe comes before the pipe, and a call before its arguments.
-/

namespace Stencil

/-- What a path leads to: some nodes side by side, a node, or a branch of a conditional. -/
inductive Place
  | region (ns : List Node)
  | node (n : Node)
  | branch (condition : Expr) (body : List Node)

namespace Place

/-- The place that a step leads to. From a branch the steps lead to the nodes of its body. -/
def step? : Place → Step → Option Place
  | region ns, .node i => ns[i]?.map node
  | branch _ body, .node i => body[i]?.map node
  | node (.conditional branches _), .branch i => branches[i]?.map fun b => branch b.1 b.2
  | node (.conditional _ fallback), .fallback => fallback.map region
  | node (.loop _ _ _ body _), .body => some (region body)
  | node (.loop _ _ _ _ fallback), .fallback => fallback.map region
  | _, _ => none

/-- The place at the end of a path. -/
def follow? : Place → List Step → Option Place
  | place, [] => some place
  | place, step :: path => (place.step? step).bind fun inner => inner.follow? path

/-- The expression in the tag of a place. -/
def expr? : Place → Option Expr
  | node (.interpolation e _) => some e
  | node (.loop source _ _ _ _) => some source
  | branch condition _ => some condition
  | _ => none

end Place

/-- A turn in an expression: to the input of a pipe or to an argument. -/
inductive Turn
  | input
  | argument (i : Nat)
deriving DecidableEq

namespace Expr

/-- The expression that a turn leads to. -/
def turn? : Expr → Turn → Option Expr
  | .pipe input _ _, .input => some input
  | .pipe _ _ args, .argument i => args[i]?
  | .call _ args, .argument i => args[i]?
  | _, _ => none

/-- The expression behind some turns. -/
def follow? : Expr → List Turn → Option Expr
  | e, [] => some e
  | e, turn :: turns => (e.turn? turn).bind fun inner => inner.follow? turns

end Expr

/-- A text that takes the place of a malformed tag. -/
def IsRecovery (s : String) : Prop :=
  s = Fault.missingAs.message ∨ s = Fault.tooDeep.message ∨ s = Fault.templateTooLarge.message ∨
    ∃ w, Text.isWord w = true ∧ s = (Fault.unknownBlock w).message

/-- The message of an unknown block has the word of the block between two texts. -/
lemma toList_unknownBlock (w : String) :
    (Fault.unknownBlock w).message.toList =
      "[Error: unknown block #".toList ++ (w.toList ++ [']']) := by
  have happend (front : String) :
      (front ++ w ++ "]").toList = front.toList ++ (w.toList ++ [']']) := by
    rw [String.toList_append, String.toList_append, List.append_assoc]
    rfl
  exact happend "[Error: unknown block #"

/-- The text for an unknown block is known to the check, whatever word the keyword is. -/
lemma isRecoveryText_unknownBlock {w : String} (h : Text.isWord w = true) :
    isRecoveryText (Fault.unknownBlock w).message = true := by
  have hend : HeadNot Text.isWordChar [']'] := headNot_cons (by decide)
  unfold isRecoveryText
  dsimp only
  rw [toList_unknownBlock, List.drop_left, hend.dropWhile_append h,
    List.isPrefixOf_iff_prefix.mpr (List.prefix_append _ _), Bool.true_and]
  exact Bool.or_eq_true_iff.mpr (.inr rfl)

/-- The texts that the check takes for malformed tags are those that take their place. -/
lemma isRecoveryText_iff {s : String} : isRecoveryText s = true ↔ IsRecovery s := by
  constructor
  · intro h
    simp only [isRecoveryText, Bool.or_eq_true, Bool.and_eq_true, beq_iff_eq] at h
    obtain ((rfl | rfl) | rfl) | ⟨hfront, hend⟩ := h
    · exact .inl rfl
    · exact .inr (.inl rfl)
    · exact .inr (.inr (.inl rfl))
    · -- what stands between the front and the last bracket is the word
      obtain ⟨rest, hrest⟩ := List.isPrefixOf_iff_prefix.mp hfront
      rw [← hrest, List.drop_left] at hend
      have hword : rest = rest.takeWhile Text.isWordChar ++ [']'] := by
        rw [← hend, List.takeWhile_append_dropWhile]
      refine .inr (.inr (.inr ⟨String.ofList (rest.takeWhile Text.isWordChar), ?_, ?_⟩))
      · rw [Text.isWord, String.toList_ofList, List.all_takeWhile]
      · have hchars : (String.ofList (rest.takeWhile Text.isWordChar)).toList ++ [']'] = rest := by
          rw [String.toList_ofList, ← hword]
        rw [← String.toList_inj, toList_unknownBlock, hchars, hrest]
  · rintro (rfl | rfl | rfl | ⟨w, hw, rfl⟩)
    · decide
    · decide
    · decide
    · exact isRecoveryText_unknownBlock hw

section
variable (registry : Registry)

/-- A registry has no function for a call, or a built-in that needs more arguments. -/
inductive Registry.Lacks : Call → Flaw → Prop
  | unknown {c : Call} : registry.get? c.name = none → Lacks c (.unknownFunction c.name)
  | short {c : Call} {b : Builtin} :
    registry.get? c.name = some (.builtin b) → c.supplied < b.minArgs →
    Lacks c (.tooFewArguments c.name b.minArgs c.supplied)

/-- Behind some turns there is a flawed call. -/
def Expr.Flawed (e : Expr) (turns : List Turn) (flaw : Flaw) : Prop :=
  ∃ c : Call, e.follow? turns = some c.expr ∧ registry.Lacks c flaw

/-- What can be flawed at a place: its text, a call in its expression, or the names it binds. -/
inductive Spot
  | text
  | call (turns : List Turn)
  | binding
deriving DecidableEq

/-- A flaw that a place has itself, apart from what is inside it. -/
inductive Place.Owns : Place → Spot → Flaw → Prop
  | text {s : String} : IsRecovery s → Owns (node (.text s)) .text (.malformedTag s)
  | call {place : Place} {e : Expr} {turns : List Turn} {flaw : Flaw} :
    place.expr? = some e → e.Flawed registry turns flaw → Owns place (.call turns) flaw
  | binding {source : Expr} {item : String} {index : Option String} {body : List Node}
      {fallback : Option (List Node)} :
    item = "" ∨ index = some "" →
    Owns (node (.loop source item index body fallback)) .binding .emptyBinding

/-- A spot and the path to its place. -/
structure Site where
  path : List Step
  spot : Spot
deriving DecidableEq

/-- The same site seen from one step further out. -/
def Site.under (step : Step) (site : Site) : Site :=
  { site with path := step :: site.path }

/-- The path of a site leads to a place that has a flaw at the spot. -/
def Place.Flawed (place : Place) (site : Site) (flaw : Flaw) : Prop :=
  ∃ inner, place.follow? site.path = some inner ∧ inner.Owns registry site.spot flaw

/-- A site of a template has a flaw. -/
def Template.Flawed (template : Template) (site : Site) (flaw : Flaw) : Prop :=
  (Place.region template.nodes).Flawed registry site flaw

end

/-- The input of a pipe comes before its arguments, and these are in their order. -/
def Turn.Before : Turn → Turn → Prop
  | input, argument _ => True
  | argument i, argument j => i < j
  | _, _ => False

/-- The input of a pipe comes before the pipe, and a call before its arguments. -/
def TurnsBefore : List Turn → List Turn → Prop
  | turn :: turns, other :: others => turn.Before other ∨ turn = other ∧ TurnsBefore turns others
  | [], .argument _ :: _ => True
  | .input :: _, [] => True
  | _, _ => False

/-- Nodes and branches are in their order, and a fallback comes last. -/
def Step.Before : Step → Step → Prop
  | node i, node j => i < j
  | branch i, branch j => i < j
  | branch _, fallback => True
  | body, fallback => True
  | _, _ => False

/-- The source of a loop comes before the names that it binds. -/
def Spot.Before : Spot → Spot → Prop
  | call turns, call others => TurnsBefore turns others
  | call _, binding => True
  | _, _ => False

/-- A place comes before what is inside it; at one place, `here` decides. -/
def PathBefore (here : Prop) : List Step → List Step → Prop
  | [], [] => here
  | [], _ :: _ => True
  | _ :: _, [] => False
  | step :: path, other :: more => step.Before other ∨ step = other ∧ PathBefore here path more

/-- One site comes before another in a walk over the tree. -/
def Site.Before (a b : Site) : Prop :=
  PathBefore (a.spot.Before b.spot) a.path b.path

/-- No two turns come before each other. -/
lemma Turn.Before.asymm {a b : Turn} : a.Before b → ¬b.Before a := by
  fun_cases Turn.Before a b with
  | case1 i => exact fun _ => id
  | case2 i j => exact Nat.lt_asymm
  | case3 => exact False.elim

/-- No two ways into an expression come before each other. -/
lemma TurnsBefore.asymm {a b : List Turn} : TurnsBefore a b → ¬TurnsBefore b a := by
  fun_induction TurnsBefore a b with
  | case1 turn turns other others ih =>
    rintro (h | ⟨rfl, h⟩) (h' | ⟨h', hback⟩)
    · exact h.asymm h'
    · exact h.asymm (h' ▸ h)
    · exact h'.asymm h'
    · exact ih h hback
  | case2 => exact fun _ => id
  | case3 => exact fun _ => id
  | case4 => exact False.elim

/-- No two steps come before each other. -/
lemma Step.Before.asymm {a b : Step} : a.Before b → ¬b.Before a := by
  fun_cases Step.Before a b with
  | case1 i j => exact Nat.lt_asymm
  | case2 i j => exact Nat.lt_asymm
  | case3 i => exact fun _ => id
  | case4 => exact fun _ => id
  | case5 => exact False.elim

/-- No two spots of a node come before each other. -/
lemma Spot.Before.asymm {a b : Spot} : a.Before b → ¬b.Before a := by
  fun_cases Spot.Before a b with
  | case1 turns others => exact TurnsBefore.asymm
  | case2 turns => exact fun _ => id
  | case3 => exact False.elim

/-- No two paths come before each other. -/
lemma PathBefore.asymm {here there : Prop} (h : here → ¬there) {a b : List Step} :
    PathBefore here a b → ¬PathBefore there b a := by
  fun_induction PathBefore here a b with
  | case1 => exact h
  | case2 => exact fun _ => id
  | case3 => exact False.elim
  | case4 step path other more ih =>
    rintro (h | ⟨rfl, h⟩) (h' | ⟨h', hback⟩)
    · exact h.asymm h'
    · exact h.asymm (h' ▸ h)
    · exact h'.asymm h'
    · exact ih h hback

/-- Of two sites at most one comes before the other. -/
lemma Site.Before.asymm {a b : Site} (h : a.Before b) : ¬b.Before a :=
  PathBefore.asymm Spot.Before.asymm h

section
variable {a b : Site} {step other : Step}

/-- What a place has itself comes before what is inside it. -/
lemma Site.before_under (h : a.path = []) : a.Before (b.under step) := by
  unfold Before under
  rw [h]
  exact trivial

/-- Sites behind two steps are in the order of the steps. -/
lemma Site.under_before_under (h : step.Before other) : (a.under step).Before (b.under other) :=
  .inl h

/-- Sites behind one step are in the order that they have without it. -/
lemma Site.Before.under (h : a.Before b) (step : Step) :
    (a.under step).Before (b.under step) :=
  .inr ⟨rfl, h⟩

end

/-- The words of a step tell it from all others. -/
lemma Step.text_injective : Function.Injective Step.text := by
  have hrepr {i j : Nat} (h : i.repr = j.repr) : i = j := by
    have hdigits := congrArg (fun s : String => Nat.ofDigitChars 10 s.toList 0) h
    simpa [Nat.repr, Nat.ofDigitChars_ten_toDigits] using hdigits
  intro a b h
  have hchars := congrArg String.toList h
  cases a with
  | node i =>
    cases b with
    | node j => exact congrArg node (hrepr (by simpa [text] using h))
    | _ => simp [text] at hchars
  | branch i =>
    cases b with
    | branch j => exact congrArg branch (hrepr (by simpa [text] using h))
    | _ => simp [text] at hchars
  | body =>
    cases b with
    | body => rfl
    | _ => simp [text] at hchars
  | fallback =>
    cases b with
    | fallback => rfl
    | _ => simp [text] at hchars

end Stencil
