import Stencil.Proofs.Source.Template

/-!
# Templates that end inside blocks

The end of a template closes every block that is open there. So the closing tags with which the
source of a tree ends (`nodesClosers`) may be left out, the last ones first: those of several blocks
inside one another, in whatever part of each the next one ends.

Main statement: what is left of the source is read as the whole of it
(`Template.parse_unclosed`). The proof follows the last nodes of the tree, from the block that ends
with it inwards. What stands before the last node of a body, and before the last branch of a
conditional, is read just as in front of a stop; only the last one is met by the end of the text.
-/

namespace Stencil

open Delimiter Reader

mutual

/-- The closing tags with which the source of a node ends. -/
def Node.closers : Node → List (List Char)
  | .text _ => []
  | .interpolation _ _ => []
  | .conditional branches fallback =>
    fallbackClosers (branchesClosers branches) fallback ++ [endIf]
  | .loop _ _ _ body fallback => fallbackClosers (nodesClosers body) fallback ++ [endEach]

/-- What closes the last of some nodes. -/
def nodesClosers : List Node → List (List Char)
  | [] => []
  | [n] => n.closers
  | _ :: n :: ns => nodesClosers (n :: ns)

/-- What closes the last node of the last branch. -/
def branchesClosers : List (Expr × List Node) → List (List Char)
  | [] => []
  | [(_, body)] => nodesClosers body
  | _ :: b :: rest => branchesClosers (b :: rest)

/-- A missing fallback leaves the end to what stands before it. -/
def fallbackClosers (before : List (List Char)) : Option (List Node) → List (List Char)
  | none => before
  | some ns => nodesClosers ns

end

/-- What closes some nodes is what closes the last of them. -/
lemma nodesClosers_concat (ns : List Node) (n : Node) : nodesClosers (ns ++ [n]) = n.closers := by
  induction ns with
  | nil => rw [List.nil_append, nodesClosers]
  | cons m ns ih =>
    cases ns with
    | nil => rw [List.singleton_append, nodesClosers, nodesClosers]
    | cons k ns => exact ih

/-- The source of some nodes ends with that of the last one, in some style. -/
lemma nodesSource_concat (style : Style) (ns : List Node) (n : Node) :
    ∃ last : Style, nodesSource style (ns ++ [n]) = nodesSource style ns ++ n.source last := by
  induction ns generalizing style with
  | nil => exact ⟨style.part 0, by simp [nodesSource]⟩
  | cons m ns ih =>
    obtain ⟨last, hlast⟩ := ih (style.part 1)
    exact ⟨last, by rw [List.cons_append, nodesSource, hlast, nodesSource, List.append_assoc]⟩

/-- What stands before a tag can be written inside a block. -/
lemma nodesPrintable_of_concat {outermost : Bool} {ns : List Node} {n : Node}
    (hn : ∀ s, n ≠ .text s) (h : nodesPrintable outermost (ns ++ [n]) = true) :
    nodesPrintable false ns = true := by
  induction ns with
  | nil => rw [nodesPrintable]
  | cons m ns ih =>
    rw [List.cons_append, nodesPrintable, Bool.and_eq_true, Bool.and_eq_true] at h
    obtain ⟨⟨hm, hprecede⟩, hrest⟩ := h
    have hclear : mayPrecede false m ns = true := by
      cases m with
      | text s =>
        cases ns with
        | nil =>
          cases n with
          | text t => exact absurd rfl (hn t)
          | _ => exact hprecede
        | cons k ns =>
          cases k with
          | text t => cases hprecede
          | _ => exact hprecede
      | _ => rfl
    rw [nodesPrintable, hm, hclear, ih hrest]
    rfl

/-- A tag is read as `n` from `x`, which stands behind its opening mark and at the end. -/
def TagEndsAs (x : List Char) (n : Node) : Prop :=
  ∀ depth levels, x.length ≤ depth → x.length ≤ levels →
    (tag depth (block depth levels)).run x = (n, [])

/-- The nodes of a region are read from `x` as `ns` if nothing comes behind. -/
def BodyEndsAs (x : List Char) (ns : List Node) : Prop :=
  ∀ depth levels, x.length ≤ depth → x.length ≤ levels → ∀ region,
    (nodes (tag depth (block depth levels)) region).run x = (ns, [])

/-- The body of a branch and what follows it are read from `x` if nothing comes behind. -/
def BranchesEndAs (x : List Char) (body : List Node) (rest : List (Expr × List Node))
    (fallback : Option (List Node)) : Prop :=
  ∀ depth levels, x.length ≤ depth → x.length ≤ levels → ∀ condition,
    branchesFrom depth (nodes (tag depth (block depth levels))) condition x =
      (((condition, body) :: rest, fallback), [])

/-- A tag that is read wherever it stands is read at the end of the source. -/
lemma TagReadsAs.endsAs {x : List Char} {n : Node} (h : TagReadsAs x n) : TagEndsAs x n := by
  intro depth levels hdepth hlevels
  have hrun := h depth levels hdepth hlevels []
  rwa [List.append_nil] at hrun

/-- Nodes that are read wherever they stand are read at the end of the source. -/
lemma NodesReadAs.endsAs {x : List Char} {ns : List Node} (h : NodesReadAs x ns) :
    BodyEndsAs x ns := by
  intro depth levels hdepth hlevels region
  have hclear : ClearBehind ns [] := fun s _ => ⟨fun _ => by decide, fun _ => rfl⟩
  have hrun := h depth levels hdepth hlevels region [] hclear
  dsimp only at hrun
  rw [List.append_nil, show literalText [] = ([], []) from rfl, run_nodes_nil, appendText_nil,
    List.append_nil] at hrun
  exact hrun

/-- A tag is read to the end behind other nodes. -/
lemma NodesReadAs.endsAs_tag {x y : List Char} {ns : List Node} {n : Node} (h : NodesReadAs x ns)
    (hns : nodesPrintable false ns = true) (htag : TagEndsAs y n) (hstop : HeadNot beginsStop y) :
    BodyEndsAs (x ++ (tagOpen ++ y)) (ns ++ [n]) := by
  intro depth levels hdepth hlevels region
  simp only [List.length_append] at hdepth hlevels
  have hlast := run_nodes_tag region hstop (htag depth levels (by omega) (by omega))
  rw [run_nodes_nil] at hlast
  have hrun := h depth levels (by omega) (by omega) region (tagOpen ++ y)
    (clearBehind_of_printable hns _)
  dsimp only at hrun
  rw [hrun, literalText_tagOpen, hlast, appendText_nil]

/-- The end of the text makes a branch the last one. -/
lemma BodyEndsAs.branches {x : List Char} {body : List Node} (h : BodyEndsAs x body) :
    BranchesEndAs x body [] none := by
  intro depth levels hdepth hlevels condition
  exact branchesFrom_last (h depth levels hdepth hlevels .ifBody) (.inr rfl)

/-- A body before a fallback may end with the source, as the fallback does. -/
lemma BodyReadsAs.branches_fallback {x y : List Char} {body ns : List Node}
    (hbody : BodyReadsAs y body) (hns : BodyEndsAs x ns) :
    BranchesEndAs (y ++ (elseMark ++ (tagClose ++ x))) body [] (some ns) := by
  intro depth levels hdepth hlevels condition
  simp only [List.length_append] at hdepth hlevels
  exact branchesFrom_else hbody (by omega) (by omega) condition
    (hns depth levels (by omega) (by omega) .ifFallback)

/-- A branch may come before branches that end with the source. -/
lemma BranchesEndAs.cons (style : Style) {e : Expr} (he : e.printable = true) {x y : List Char}
    {body ns : List Node} {rest : List (Expr × List Node)} {fallback : Option (List Node)}
    (hbody : BodyReadsAs y body) (h : BranchesEndAs x ns rest fallback) :
    BranchesEndAs (y ++ (elseIfMark style ++ (style.gap 0 ++ (e.source (style.part 0) ++
      (style.blanks 0 ++ (tagClose ++ x)))))) body ((e, ns) :: rest) fallback := by
  intro depth levels hdepth hlevels condition
  simp only [List.length_append] at hdepth hlevels
  exact branchesFrom_branch hbody (by omega) (by omega) condition style he (by omega)
    (h depth levels (by omega) (by omega) e)

/-- A conditional is read without its closing tag if its branches end with the source. -/
lemma conditional_endsAs (style : Style) {e : Expr} (he : e.printable = true) {x : List Char}
    {body : List Node} {rest : List (Expr × List Node)} {fallback : Option (List Node)}
    (h : BranchesEndAs x body rest fallback) :
    TagEndsAs ('#' :: 'i' :: 'f' :: (style.gap 0 ++ (e.source (style.part 0) ++
      (style.blanks 0 ++ (tagClose ++ x))))) (.conditional ((e, body) :: rest) fallback) := by
  intro depth levels hdepth hlevels
  simp only [List.length_cons, List.length_append] at hdepth hlevels
  obtain ⟨levels, rfl⟩ : ∃ n, levels = n + 1 := ⟨levels - 1, by omega⟩
  rw [run_tag_conditional style he (by omega), h depth levels (by omega) (by omega) e]

section
variable (style : Style) {source : Expr} (hsource : source.printable = true) {item : String}
  (hitem : Text.isName item = true) {index : Option String} (hindex : index.all Text.isName = true)
include hsource hitem hindex

/-- A loop is read without its closing tag if its body ends with the source. -/
lemma loop_endsAs {x : List Char} {body : List Node} (hbody : BodyEndsAs x body) :
    TagEndsAs ('#' :: 'e' :: 'a' :: 'c' :: 'h' :: (style.gap 0 ++ (source.source (style.part 0) ++
      (style.gap 1 ++ ('a' :: 's' :: (style.gap 2 ++ (item.toList ++ (indexSource style index ++
        (style.blanks 0 ++ (tagClose ++ x)))))))))) (.loop source item index body none) := by
  intro depth levels hdepth hlevels
  simp only [List.length_cons, List.length_append] at hdepth hlevels
  obtain ⟨levels, rfl⟩ : ∃ n, levels = n + 1 := ⟨levels - 1, by omega⟩
  rw [run_tag_loop style hsource hitem hindex (by omega)]
  dsimp only
  rw [run_bind, hbody depth levels (by omega) (by omega) .eachBody]
  rfl

/-- A loop is read without its closing tag if its fallback ends with the source. -/
lemma loop_endsAs_fallback {x y : List Char} {body ns : List Node} (hbody : BodyReadsAs y body)
    (hns : BodyEndsAs x ns) :
    TagEndsAs ('#' :: 'e' :: 'a' :: 'c' :: 'h' :: (style.gap 0 ++ (source.source (style.part 0) ++
      (style.gap 1 ++ ('a' :: 's' :: (style.gap 2 ++ (item.toList ++ (indexSource style index ++
        (style.blanks 0 ++ (tagClose ++ (y ++ (elseMark ++ (tagClose ++ x)))))))))))))
      (.loop source item index body (some ns)) := by
  intro depth levels hdepth hlevels
  simp only [List.length_cons, List.length_append] at hdepth hlevels
  obtain ⟨levels, rfl⟩ : ∃ n, levels = n + 1 := ⟨levels - 1, by omega⟩
  rw [run_tag_loop style hsource hitem hindex (by omega)]
  dsimp only
  rw [run_bind, hbody depth levels (by omega) (by omega) .eachBody _ rfl, run_bind,
    run_loopFallback_else (hns depth levels (by omega) (by omega) .eachFallback)]
  rfl

end

/-- A node is read from its source, behind its opening mark, without any number of the last of its
closing tags. -/
def Node.EndsAs (n : Node) : Prop :=
  ∀ (style : Style) {left : List (List Char)}, left <:+ n.closers →
    ∃ y, n.source style = tagOpen ++ (y ++ left.flatten) ∧ HeadNot beginsStop y ∧ TagEndsAs y n

/-- With all of its closing tags a node is read as in front of anything else. -/
lemma Node.ends_of_all (style : Style) {n : Node} (h : n.printable = true)
    (hn : ∀ s, n ≠ .text s) :
    ∃ y, n.source style = tagOpen ++ (y ++ ([] : List (List Char)).flatten) ∧
      HeadNot beginsStop y ∧ TagEndsAs y n := by
  obtain ⟨y, hy, _, hstop, htag⟩ := tagReadsAs_source style h hn
  exact ⟨y, by rw [hy, List.flatten_nil, List.append_nil], hstop, htag.endsAs⟩

/-- Once its own closing tag is left out, what may be left out further are those inside a block. -/
lemma Node.endsAs_of_closers {n : Node} (h : n.printable = true) (hn : ∀ s, n ≠ .text s)
    {inner : List (List Char)} {closer : List Char} (hclosers : n.closers = inner ++ [closer])
    (hinner : ∀ (style : Style) {left : List (List Char)}, left <:+ inner →
      ∃ y, n.source style = tagOpen ++ (y ++ (left.flatten ++ closer)) ∧ HeadNot beginsStop y ∧
        TagEndsAs y n) :
    n.EndsAs := by
  intro style left hleft
  rw [hclosers] at hleft
  obtain rfl | ⟨left, rfl, hsuffix⟩ := List.suffix_concat_iff.mp hleft
  · exact Node.ends_of_all style h hn
  · rw [List.flatten_append, List.flatten_singleton]
    exact hinner style hsuffix

/-- The last of some nodes is read in this way, if it is no text. -/
def LastEndsAs (ns : List Node) : Prop :=
  ∀ n, ns.getLast? = some n → (∀ s, n ≠ .text s) → n.EndsAs

/-- Nodes are read without the last of their closing tags. -/
lemma LastEndsAs.bodyEndsAs {ns : List Node} (hlast : LastEndsAs ns) {outermost : Bool}
    (h : nodesPrintable outermost ns = true) (style : Style) {left : List (List Char)}
    (hleft : left <:+ nodesClosers ns) :
    ∃ x, nodesSource style ns = x ++ left.flatten ∧ BodyEndsAs x ns := by
  obtain rfl | hne := eq_or_ne left []
  · exact ⟨_, (List.append_nil _).symm, (nodesReadAs_source style h).endsAs⟩
  obtain rfl | ⟨init, n, rfl⟩ := List.eq_nil_or_concat' ns
  · exact absurd (List.suffix_nil.mp hleft) hne
  rw [nodesClosers_concat] at hleft
  have hn : ∀ s, n ≠ .text s := by
    rintro s rfl
    exact hne (List.suffix_nil.mp hleft)
  obtain ⟨part, hsource⟩ := nodesSource_concat style init n
  obtain ⟨y, hy, hstop, htag⟩ := hlast n List.getLast?_concat hn part hleft
  have hinit := nodesPrintable_of_concat hn h
  refine ⟨nodesSource style init ++ (tagOpen ++ y), ?_,
    (nodesReadAs_source style hinit).endsAs_tag hinit htag hstop⟩
  rw [hsource, hy]
  simp only [List.append_assoc]

/-- Branches without a fallback are read without the last closing tags of the last one. -/
lemma branchesEndAs_source {e : Expr} {body : List Node} {rest : List (Expr × List Node)}
    (hlast : ∀ b, ((e, body) :: rest).getLast? = some b → LastEndsAs b.2)
    (hbody : nodesPrintable false body = true) (hrest : branchesPrintable rest = true)
    (style : Style) {left : List (List Char)}
    (hleft : left <:+ branchesClosers ((e, body) :: rest)) :
    ∃ x, nodesSource (style.part 1) body ++
        branchesSource (style.part 2) (elseIfMark (style.part 2)) rest = x ++ left.flatten ∧
      BranchesEndAs x body rest none := by
  induction rest generalizing style e body with
  | nil =>
    obtain ⟨x, hx, hends⟩ := (hlast (e, body) rfl).bodyEndsAs hbody (style.part 1) hleft
    exact ⟨x, by rw [branchesSource, List.append_nil, hx], hends.branches⟩
  | cons first rest ih =>
    obtain ⟨e, next⟩ := first
    rw [branchesPrintable, Bool.and_eq_true, Bool.and_eq_true] at hrest
    obtain ⟨⟨he, hnext⟩, hrest⟩ := hrest
    obtain ⟨x, hx, hends⟩ := ih hlast hnext hrest (style.part 2) hleft
    have hbody := (nodesReadAs_source (style.part 1) hbody).bodyReadAs hbody
    refine ⟨_, ?_, .cons (style.part 2) he hbody hends⟩
    rw [branchesSource, hx]
    simp only [List.append_assoc]

/-- All branches in front of a fallback are read as in front of a stop. -/
lemma branchesEndAs_fallback {body ns : List Node} {rest : List (Expr × List Node)}
    (hbody : nodesPrintable false body = true) (hrest : branchesPrintable rest = true)
    (style : Style) {x : List Char} (hns : BodyEndsAs x ns) :
    BranchesEndAs (nodesSource (style.part 1) body ++ (branchesSource (style.part 2)
      (elseIfMark (style.part 2)) rest ++ (elseMark ++ (tagClose ++ x)))) body rest (some ns) := by
  have hread := (nodesReadAs_source (style.part 1) hbody).bodyReadAs hbody
  induction rest generalizing style body with
  | nil => exact hread.branches_fallback hns
  | cons first rest ih =>
    obtain ⟨e, next⟩ := first
    rw [branchesPrintable, Bool.and_eq_true, Bool.and_eq_true] at hrest
    obtain ⟨⟨he, hnext⟩, hrest⟩ := hrest
    have hnextRead := (nodesReadAs_source ((style.part 2).part 1) hnext).bodyReadAs hnext
    rw [branchesSource]
    simp only [List.append_assoc]
    exact .cons (style.part 2) he hread (ih hnext hrest (style.part 2) hnextRead)

/-- The source of a conditional is read without its closers. -/
lemma conditional_endsAs_source {branches : List (Expr × List Node)}
    {fallback : Option (List Node)} (h : (Node.conditional branches fallback).printable = true)
    (hbranches : ∀ b, branches.getLast? = some b → LastEndsAs b.2)
    (hfallback : ∀ ns, fallback = some ns → LastEndsAs ns) :
    (Node.conditional branches fallback).EndsAs := by
  refine Node.endsAs_of_closers h nofun (by rw [Node.closers]) fun style left hleft => ?_
  cases branches with
  | nil => cases h
  | cons first rest =>
    obtain ⟨e, body⟩ := first
    rw [Node.printable, Bool.and_eq_true, Bool.and_eq_true, branchesPrintable, Bool.and_eq_true,
      Bool.and_eq_true] at h
    obtain ⟨⟨_, ⟨he, hbody⟩, hrest⟩, hns⟩ := h
    obtain ⟨x, hx, hends⟩ : ∃ x, nodesSource ((style.part 0).part 1) body ++
        (branchesSource ((style.part 0).part 2) (elseIfMark ((style.part 0).part 2)) rest ++
          fallbackSource (style.part 1) fallback) = x ++ left.flatten ∧
        BranchesEndAs x body rest fallback := by
      cases fallback with
      | none =>
        rw [fallbackSource, List.append_nil]
        exact branchesEndAs_source hbranches hbody hrest (style.part 0) hleft
      | some ns =>
        obtain ⟨x, hx, hends⟩ := (hfallback ns rfl).bodyEndsAs hns (style.part 1) hleft
        refine ⟨_, ?_, branchesEndAs_fallback hbody hrest (style.part 0) hends⟩
        rw [fallbackSource, hx]
        simp only [List.append_assoc]
    refine ⟨_, ?_, headNot_cons (by decide), conditional_endsAs (style.part 0) he hends⟩
    have hinside := congrArg (· ++ endIf) hx
    simp only [List.append_assoc] at hinside
    rw [Node.source, branchesSource, ifMark]
    simp only [List.append_assoc, List.cons_append, hinside]
    rfl

/-- The source of a loop is read without its closers. -/
lemma loop_endsAs_source {source : Expr} {item : String} {index : Option String}
    {body : List Node} {fallback : Option (List Node)}
    (h : (Node.loop source item index body fallback).printable = true)
    (hlast : LastEndsAs body) (hfallback : ∀ ns, fallback = some ns → LastEndsAs ns) :
    (Node.loop source item index body fallback).EndsAs := by
  refine Node.endsAs_of_closers h nofun (by rw [Node.closers]) fun style left hleft => ?_
  rw [Node.printable, Bool.and_eq_true, Bool.and_eq_true, Bool.and_eq_true, Bool.and_eq_true] at h
  obtain ⟨⟨⟨⟨hsource, hitem⟩, hindex⟩, hbody⟩, hns⟩ := h
  cases fallback with
  | none =>
    obtain ⟨x, hx, hends⟩ := hlast.bodyEndsAs hbody (style.part 1) hleft
    refine ⟨_, ?_, headNot_cons (by decide), loop_endsAs style hsource hitem hindex hends⟩
    rw [Node.source, hx, fallbackSource, loopTag]
    simp only [List.append_assoc, List.cons_append]
    rfl
  | some ns =>
    obtain ⟨x, hx, hends⟩ := (hfallback ns rfl).bodyEndsAs hns (style.part 2) hleft
    have hread := (nodesReadAs_source (style.part 1) hbody).bodyReadAs hbody
    refine ⟨_, ?_, headNot_cons (by decide),
      loop_endsAs_fallback style hsource hitem hindex hread hends⟩
    rw [Node.source, fallbackSource, hx, loopTag]
    simp only [List.append_assoc, List.cons_append]

mutual

/-- The source of a printable node is read without its closers, if it is not a text. -/
theorem Node.endsAs {n : Node} (h : n.printable = true) (hn : ∀ s, n ≠ .text s) : n.EndsAs := by
  cases n with
  | text s => exact absurd rfl (hn s)
  | interpolation e raw =>
    intro style left hleft
    obtain rfl := List.suffix_nil.mp hleft
    exact Node.ends_of_all style h hn
  | conditional branches fallback =>
    have hparts := h
    rw [Node.printable, Bool.and_eq_true, Bool.and_eq_true] at hparts
    exact conditional_endsAs_source h (lastBranchEndsAs hparts.1.2) (lastFallbackEndsAs hparts.2)
  | loop source item index body fallback =>
    have hparts := h
    rw [Node.printable, Bool.and_eq_true, Bool.and_eq_true, Bool.and_eq_true,
      Bool.and_eq_true] at hparts
    exact loop_endsAs_source h (lastEndsAs hparts.1.2) (lastFallbackEndsAs hparts.2)

/-- The source of printable nodes is read without the closers of the last one. -/
theorem lastEndsAs {outermost : Bool} {ns : List Node} (h : nodesPrintable outermost ns = true) :
    LastEndsAs ns := by
  cases ns with
  | nil => exact nofun
  | cons m ns =>
    rw [nodesPrintable, Bool.and_eq_true, Bool.and_eq_true] at h
    obtain ⟨⟨hm, _⟩, hns⟩ := h
    cases ns with
    | nil =>
      intro n hget hn
      obtain rfl : m = n := Option.some.inj hget
      exact Node.endsAs hm hn
    | cons k ns =>
      have hlast := lastEndsAs hns
      intro n hget
      rw [List.getLast?_cons_cons] at hget
      exact hlast n hget

/-- The source of the last of some branches is read without the closers of its last node. -/
theorem lastBranchEndsAs {branches : List (Expr × List Node)}
    (h : branchesPrintable branches = true) :
    ∀ b, branches.getLast? = some b → LastEndsAs b.2 := by
  cases branches with
  | nil => exact nofun
  | cons first rest =>
    obtain ⟨e, body⟩ := first
    rw [branchesPrintable, Bool.and_eq_true, Bool.and_eq_true] at h
    obtain ⟨⟨_, hbody⟩, hrest⟩ := h
    cases rest with
    | nil =>
      intro b hget
      obtain rfl : (e, body) = b := Option.some.inj hget
      exact lastEndsAs hbody
    | cons next rest =>
      have hlast := lastBranchEndsAs hrest
      intro b hget
      rw [List.getLast?_cons_cons] at hget
      exact hlast b hget

/-- The source of a fallback is read without the closers of its last node. -/
theorem lastFallbackEndsAs {fallback : Option (List Node)} (h : fallbackPrintable fallback = true) :
    ∀ ns, fallback = some ns → LastEndsAs ns := by
  cases fallback with
  | none => exact nofun
  | some ns =>
    intro t ht
    obtain rfl : ns = t := Option.some.inj ht
    exact lastEndsAs h

end

/-- The closing tags with which a source ends may be left out, any number of the last of them: what
is left of the source is read as the whole of it, in every style, with at least as many levels as
the source has characters and no limit on the length. -/
theorem Template.parse_unclosed (style : Style) {ns : List Node}
    (h : nodesPrintable true ns = true) {left : List (List Char)}
    (hleft : left <:+ nodesClosers ns) {depth : Nat}
    (hdepth : (nodesSource style ns).length ≤ depth) :
    ∃ x, nodesSource style ns = x ++ left.flatten ∧
      parse ⟨depth, none⟩ (String.ofList x) =
        parse ⟨depth, none⟩ (String.ofList (nodesSource style ns)) ∧
      parse ⟨depth, none⟩ (String.ofList x) = ⟨ns⟩ := by
  obtain ⟨x, hx, hends⟩ := (lastEndsAs h).bodyEndsAs h style hleft
  have hlength : x.length ≤ depth := by
    rw [hx, List.length_append] at hdepth
    omega
  have hparse : parse ⟨depth, none⟩ (String.ofList x) = ⟨ns⟩ := by
    rw [parse_ofList, hends depth depth hlength hlength]
  have hwhole : parse ⟨depth, none⟩ (String.ofList (nodesSource style ns)) = ⟨ns⟩ := by
    rw [parse_ofList, (nodesReadAs_source style h).endsAs depth depth hdepth hdepth]
  exact ⟨x, hx, hparse.trans hwhole.symm, hparse⟩

/-- A conditional at the end of a loop. -/
def nestedBlocks : List Node :=
  [.loop (.path ["xs"]) "x" none [.conditional [(.path ["x"], [.text "a"])] none] none]

/-- The conditional and the loop are closed by the end of the template. -/
theorem Template.parse_unclosed_of_nested :
    nodesPrintable true nestedBlocks = true ∧
      parse ⟨45, none⟩ "\x7b\x7b#each xs as x \x7d\x7d\x7b\x7b#if x \x7d\x7da" =
        parse ⟨45, none⟩ ("\x7b\x7b#each xs as x \x7d\x7d\x7b\x7b#if x \x7d\x7da" ++
          "\x7b\x7b/if\x7d\x7d\x7b\x7b/each\x7d\x7d") ∧
      parse ⟨45, none⟩ "\x7b\x7b#each xs as x \x7d\x7d\x7b\x7b#if x \x7d\x7da" =
        ⟨nestedBlocks⟩ := by
  have hprintable : nodesPrintable true nestedBlocks = true := by decide +kernel
  have hleft : [endIf, endEach] <:+ nodesClosers nestedBlocks := by decide +kernel
  have hdepth : (nodesSource (fun _ => default) nestedBlocks).length ≤ 45 := by decide +kernel
  obtain ⟨x, hx, hparse⟩ := parse_unclosed (fun _ => default) hprintable hleft hdepth
  have hfront : x = "\x7b\x7b#each xs as x \x7d\x7d\x7b\x7b#if x \x7d\x7da".toList :=
    List.append_cancel_right (hx.symm.trans (by decide +kernel))
  rw [hx, hfront] at hparse
  exact ⟨hprintable, hparse⟩

end Stencil
