import Stencil.Template.Delimiter
import Stencil.Template.Tree

/-!
# Regions

A region is a part of a template between two tags that belong together, or all of it. It is read
node by node and ends where one of its stops comes next; the outermost region has no stops. At the
end of the text every region ends, so whatever a block leaves open is closed there.
-/

namespace Stencil

open Delimiter

/-- A region of a template: all of it, or a part between the tags of a block. -/
inductive Region
  | outermost
  | ifBody
  | ifFallback
  | eachBody
  | eachFallback
deriving DecidableEq

/-- The texts before which a region ends. -/
def Region.stops : Region → List (List Char)
  | outermost => []
  | ifBody => [elseMark, endIf]
  | ifFallback => [endIf]
  | eachBody => [elseMark, endEach]
  | eachFallback => [endEach]

/-- Whether a text begins with one of some others. -/
def beginsWithAny (marks : List (List Char)) (s : List Char) : Bool :=
  marks.any fun m => m.isPrefixOf s

/-- Splits off the text before the next opening mark. The mark counts as text behind a backslash,
which is then dropped. -/
def literalText : List Char → List Char × List Char
  | [] => ([], [])
  | '{' :: '{' :: s => ([], tagOpen ++ s)
  | '\\' :: '{' :: '{' :: s =>
    let r := literalText s
    (tagOpen ++ r.1, r.2)
  | c :: s =>
    let r := literalText s
    (c :: r.1, r.2)

/-- What follows a text between tags is no longer than all of it. -/
theorem literalText_length_le (s : List Char) : (literalText s).2.length ≤ s.length := by
  fun_induction literalText s with
  | case1 => exact Nat.le_refl _
  | case2 s => exact Nat.le_refl _
  | case3 s r ih =>
    exact Nat.le_trans ih (Nat.le_trans (Nat.le_add_right _ 2) (Nat.le_succ _))
  | case4 c s _ _ r ih => exact Nat.le_succ_of_le ih

/-- The node of a text; the empty text has none. -/
def textNodes (t : List Char) : List Node :=
  if t = [] then [] else [.text (String.ofList t)]

/-- The nodes before the first of some stops. `tag` reads a tag after its opening mark. -/
def nodesFrom (tag : Reader Node) (stops : List (List Char)) (s : List Char) :
    List Node × List Char :=
  let t := literalText s
  if h : t.2 = [] ∨ beginsWithAny stops t.2 then (textNodes t.1, t.2)
  else
    have ht : (tag.run (t.2.drop tagOpen.length)).2.length < s.length := by
      have hle : t.2.length ≤ s.length := literalText_length_le s
      have hpos := List.length_pos_iff.mpr (not_or.mp h).1
      have hrun := tag.length_le (t.2.drop tagOpen.length)
      have hopen : tagOpen.length = 2 := rfl
      rw [List.length_drop] at hrun
      omega
    let n := tag.run (t.2.drop tagOpen.length)
    let more := nodesFrom tag stops n.2
    (textNodes t.1 ++ n.1 :: more.1, more.2)
termination_by s.length

/-- What follows some nodes is no longer than the text. -/
theorem nodesFrom_length_le (tag : Reader Node) (stops : List (List Char)) (s : List Char) :
    (nodesFrom tag stops s).2.length ≤ s.length := by
  fun_induction nodesFrom tag stops s with
  | case1 s t h => exact literalText_length_le s
  | case2 s t h ht n more ih => exact Nat.le_trans ih (Nat.le_of_lt ht)

/-- Takes the nodes of a region. Its stop is left for the block that it belongs to. -/
def Reader.nodes (tag : Reader Node) (region : Region) : Reader (List Node) :=
  ⟨nodesFrom tag region.stops, nodesFrom_length_le tag region.stops⟩

end Stencil
