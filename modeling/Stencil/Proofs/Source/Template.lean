import Stencil.Proofs.Source.Tag

/-!
# Reading templates back

Every tree that can be written, in every style, is read back from its source, and what comes behind
the source is read as if it stood alone (`Template.parse_source`). Only where a text comes behind a
text, the two are one (`appendText`). The proof follows the tree: nodes are read one after the
other, and each block is read once its bodies, its other branches and its fallback are.
-/

namespace Stencil

open Delimiter Reader

/-- Nodes with a text behind them, which is joined to their last one if that is a text as well. -/
def appendText : List Node → List Char → List Node
  | [], t => textNodes t
  | [.text s], t => [.text (s ++ String.ofList t)]
  | n :: ns, t => n :: appendText ns t

/-- Whether no mark arises where something follows nodes. -/
def ClearBehind (ns : List Node) (r : List Char) : Prop :=
  ∀ s, ns.getLast? = some (.text s) → Clear s.toList r

/-- Nodes are read from `x`, and what comes behind is read as if it stood alone. -/
def NodesReadAs (x : List Char) (ns : List Node) : Prop :=
  ∀ depth levels, x.length ≤ depth → x.length ≤ levels → ∀ region r, ClearBehind ns r →
    let behind := (nodes (tag depth (block depth levels)) region).run (literalText r).2
    (nodes (tag depth (block depth levels)) region).run (x ++ r) =
      (appendText ns (literalText r).1 ++ behind.1, behind.2)

/-- In front of a tag there is no text. -/
lemma literalText_tagOpen (s : List Char) :
    literalText (tagOpen ++ s) = ([], tagOpen ++ s) :=
  rfl

/-- What comes behind a text begins with no more text. -/
lemma literalText_rest (s : List Char) :
    literalText (literalText s).2 = ([], (literalText s).2) := by
  fun_induction literalText s with
  | case1 => rfl
  | case2 s => rfl
  | case3 s r ih => exact ih
  | case4 c s hopen hescaped r ih => exact ih

/-- A text is read in front of the rest. -/
lemma run_nodes_literalText (tag : Reader Node) (region : Region) (s : List Char) :
    (nodes tag region).run s =
      (textNodes (literalText s).1 ++ ((nodes tag region).run (literalText s).2).1,
        ((nodes tag region).run (literalText s).2).2) := by
  change nodesFrom tag region.stops s =
    (textNodes (literalText s).1 ++ (nodesFrom tag region.stops (literalText s).2).1,
      (nodesFrom tag region.stops (literalText s).2).2)
  have hrest := literalText_rest s
  by_cases hend : (literalText s).2 = [] ∨ beginsWithAny region.stops (literalText s).2 = true
  · rw [nodesFrom_end hend,
      nodesFrom_end (s := (literalText s).2) (by rw [hrest]; exact hend), hrest]
    exact Prod.ext (List.append_nil _).symm rfl
  · rw [nodesFrom_tag hend rfl,
      nodesFrom_tag (s := (literalText s).2) (by rw [hrest]; exact hend) (by rw [hrest])]
    rw [hrest]
    rfl

/-- In front of nothing there are no nodes. -/
lemma run_nodes_nil (tag : Reader Node) (region : Region) : (nodes tag region).run [] = ([], []) :=
  nodesFrom_end (.inl rfl)

/-- All stops begin with an opening mark and a character that begins no tag. -/
lemma stops_eq {region : Region} {m : List Char} (h : m ∈ region.stops) :
    ∃ c t, m = tagOpen ++ c :: t ∧ (c = ':' ∨ c = '/') := by
  cases region with
  | outermost => cases h
  | ifBody =>
    obtain rfl | rfl : m = elseMark ∨ m = endIf := by simpa [Region.stops] using h
    · exact ⟨':', _, rfl, .inl rfl⟩
    · exact ⟨'/', _, rfl, .inr rfl⟩
  | ifFallback =>
    obtain rfl : m = endIf := by simpa [Region.stops] using h
    exact ⟨'/', _, rfl, .inr rfl⟩
  | eachBody =>
    obtain rfl | rfl : m = elseMark ∨ m = endEach := by simpa [Region.stops] using h
    · exact ⟨':', _, rfl, .inl rfl⟩
    · exact ⟨'/', _, rfl, .inr rfl⟩
  | eachFallback =>
    obtain rfl : m = endEach := by simpa [Region.stops] using h
    exact ⟨'/', _, rfl, .inr rfl⟩

/-- In front of a stop there is no text. -/
lemma literalText_of_stop {region : Region} {r : List Char}
    (h : beginsWithAny region.stops r = true) : literalText r = ([], r) := by
  obtain ⟨m, hm, hprefix⟩ := List.any_eq_true.mp h
  obtain ⟨c, t, rfl, _⟩ := stops_eq hm
  obtain ⟨s, rfl⟩ := List.isPrefixOf_iff_prefix.mp hprefix
  rw [List.append_assoc]
  exact literalText_tagOpen _

/-- In front of a stop there are no nodes. -/
lemma run_nodes_of_stop (tag : Reader Node) {region : Region} {r : List Char}
    (h : beginsWithAny region.stops r = true) : (nodes tag region).run r = ([], r) := by
  have hr := literalText_of_stop h
  refine (nodesFrom_end (.inr ?_)).trans ?_
  · rw [hr]
    exact h
  · rw [hr]
    rfl

/-- Whether a character may come behind the opening mark of a stop. -/
def beginsStop (c : Char) : Bool :=
  c == ':' || c == '/'

/-- A tag is no stop if it does not begin like one. -/
lemma beginsWithAny_tag {region : Region} {x : List Char} (h : HeadNot beginsStop x) :
    beginsWithAny region.stops (tagOpen ++ x) = false := by
  refine List.any_eq_false.mpr fun m hm hprefix => ?_
  obtain ⟨c, t, rfl, hc⟩ := stops_eq hm
  have hx : (c :: t).isPrefixOf x = true := hprefix
  have hhead : HeadNot (· == c) x := by
    refine h.mono fun d hd => ?_
    rw [beq_iff_eq.mp hd]
    obtain rfl | rfl := hc
    · rfl
    · rfl
  rw [hhead.isPrefixOf] at hx
  contradiction

/-- A tag is read if no stop begins there, and nodes go on behind it. -/
lemma run_nodes_tag {tag : Reader Node} (region : Region) {n : Node} {s r : List Char}
    (hstop : HeadNot beginsStop s) (hrun : tag.run s = (n, r)) :
    (nodes tag region).run (tagOpen ++ s) =
      (n :: ((nodes tag region).run r).1, ((nodes tag region).run r).2) := by
  have hmark := literalText_tagOpen s
  have hend : ¬((literalText (tagOpen ++ s)).2 = [] ∨
      beginsWithAny region.stops (literalText (tagOpen ++ s)).2 = true) := by
    rw [hmark]
    rintro (hnil | hany)
    · cases hnil
    · rw [beginsWithAny_tag hstop] at hany
      contradiction
  refine (nodesFrom_tag hend hrun).trans ?_
  rw [hmark]
  rfl

/-- What is clear behind some nodes is clear behind the later ones. -/
lemma ClearBehind.of_cons {n : Node} {ns : List Node} {r : List Char}
    (h : ClearBehind (n :: ns) r) : ClearBehind ns r := by
  intro s hs
  cases ns with
  | nil => cases hs
  | cons m ns => exact h s (by rw [List.getLast?_cons_cons]; exact hs)

/-- A text that is clear by itself is clear in front of everything. -/
lemma clear_of_isClear {s : String} (h : isClear s = true) (r : List Char) : Clear s.toList r := by
  simp only [isClear, Bool.and_eq_true, bne_iff_ne] at h
  exact ⟨fun hlast => absurd hlast h.1, fun hlast => absurd hlast h.2⟩

/-- Nodes inside a block are clear in front of everything. -/
lemma clearBehind_of_printable {ns : List Node} (h : nodesPrintable false ns = true)
    (r : List Char) : ClearBehind ns r := by
  induction ns with
  | nil => intro s hs; cases hs
  | cons n ns ih =>
    rw [nodesPrintable, Bool.and_eq_true, Bool.and_eq_true] at h
    cases ns with
    | nil =>
      intro s hs
      obtain rfl : n = .text s := Option.some.inj hs
      exact clear_of_isClear h.1.2 r
    | cons m ns =>
      intro s hs
      rw [List.getLast?_cons_cons] at hs
      exact ih h.2 s hs

/-- A text in front of a tag is read by itself. -/
lemma appendText_cons {n : Node} {ns : List Node} (h : ∀ s, n ≠ .text s) (t : List Char) :
    appendText (n :: ns) t = n :: appendText ns t := by
  cases n with
  | text s => exact absurd rfl (h s)
  | interpolation e raw => rfl
  | conditional branches fallback => rfl
  | loop source item index body fallback => rfl

/-- A text that is not empty is one node. -/
lemma textNodes_toList_append {s : String} (h : s ≠ "") (t : List Char) :
    textNodes (s.toList ++ t) = [.text (s ++ String.ofList t)] := by
  have hne : s.toList ++ t ≠ [] := by
    intro hnil
    exact h (String.toList_eq_nil_iff.mp (List.append_eq_nil_iff.mp hnil).1)
  rw [textNodes, if_neg hne, String.ofList_append, String.ofList_toList]

/-- Nothing is read as no nodes. -/
lemma nodesReadAs_nil : NodesReadAs [] [] := by
  intro depth levels _ _ region r _
  exact run_nodes_literalText _ region r

/-- A text at the end is read, and joined to the text behind it. -/
lemma nodesReadAs_text {s : String} (h : s ≠ "") :
    NodesReadAs (escapeMarks s.toList) [.text s] := by
  intro depth levels _ _ region r hclear
  have hs := literalText_escapeMarks (hclear s rfl)
  dsimp only
  rw [run_nodes_literalText, hs]
  dsimp only
  rw [textNodes_toList_append h]
  rfl

/-- A text in front of a tag is read. -/
lemma NodesReadAs.text_cons {s : String} (h : s ≠ "") (hclear : isClear s = true) {x : List Char}
    {n : Node} {ns : List Node} (hns : NodesReadAs (tagOpen ++ x) (n :: ns)) :
    NodesReadAs (escapeMarks s.toList ++ (tagOpen ++ x)) (.text s :: n :: ns) := by
  intro depth levels hdepth hlevels region r hbehind
  rw [List.length_append] at hdepth hlevels
  have hs := literalText_escapeMarks (clear_of_isClear hclear (tagOpen ++ x ++ r))
  have hmark : literalText (tagOpen ++ x ++ r) = ([], tagOpen ++ x ++ r) := rfl
  have hrest := hns depth levels (by omega) (by omega) region r hbehind.of_cons
  dsimp only at hrest ⊢
  rw [hmark] at hs
  rw [List.append_assoc, run_nodes_literalText, hs]
  dsimp only
  rw [hrest, textNodes_toList_append h, String.ofList_nil, String.append_empty]
  rfl

/-- A tag is read in front of other nodes. -/
lemma NodesReadAs.tag_cons {n : Node} (hn : ∀ s, n ≠ .text s) {x y : List Char} {ns : List Node}
    (htag : TagReadsAs y n) (hstop : HeadNot beginsStop y) (hy : y ≠ []) (hns : NodesReadAs x ns) :
    NodesReadAs (tagOpen ++ y ++ x) (n :: ns) := by
  intro depth levels hdepth hlevels region r hbehind
  simp only [List.length_append] at hdepth hlevels
  have hrun := htag depth levels (by omega) (by omega) (x ++ r)
  have hrest := hns depth levels (by omega) (by omega) region r hbehind.of_cons
  have hstop : HeadNot beginsStop (y ++ (x ++ r)) := by
    cases y with
    | nil => contradiction
    | cons c y => exact headNot_cons (hstop c rfl)
  dsimp only at hrest ⊢
  rw [List.append_assoc, List.append_assoc, run_nodes_tag region hstop hrun, appendText_cons hn,
    hrest]
  rfl

/-- No nodes come behind others without a change. -/
lemma appendText_nil (ns : List Node) : appendText ns [] = ns := by
  induction ns with
  | nil => rfl
  | cons n ns ih =>
    by_cases hlast : ∃ s, n = .text s ∧ ns = []
    · obtain ⟨s, rfl, rfl⟩ := hlast
      rw [appendText, String.ofList_nil, String.append_empty]
    · rw [appendText, ih]
      exact fun s hn hns => hlast ⟨s, hn, hns⟩

/-- Nodes are read up to a stop. -/
lemma NodesReadAs.run_of_stop {x : List Char} {ns : List Node} (h : NodesReadAs x ns)
    {depth levels : Nat} (hdepth : x.length ≤ depth) (hlevels : x.length ≤ levels) {region : Region}
    {r : List Char} (hclear : ClearBehind ns r) (hstop : beginsWithAny region.stops r = true) :
    (nodes (tag depth (block depth levels)) region).run (x ++ r) = (ns, r) := by
  have hrun := h depth levels hdepth hlevels region r hclear
  rw [literalText_of_stop hstop] at hrun
  dsimp only at hrun
  rw [run_nodes_of_stop _ hstop, appendText_nil, List.append_nil] at hrun
  exact hrun

/-- Nodes inside a block are read up to its next stop. -/
lemma NodesReadAs.bodyReadAs {x : List Char} {ns : List Node} (h : NodesReadAs x ns)
    (hns : nodesPrintable false ns = true) : BodyReadsAs x ns := by
  intro depth levels hdepth hlevels region r hstop
  exact h.run_of_stop hdepth hlevels (clearBehind_of_printable hns r) hstop

/-- A tag is no stop if its front is neither of the two characters behind the mark of one. -/
lemma headNot_beginsStop {x : List Char} (hcolon : HeadNot (· == ':') x)
    (hslash : HeadNot (· == '/') x) : HeadNot beginsStop x := by
  intro c hc
  rw [beginsStop, show (c == ':') = false from hcolon c hc,
    show (c == '/') = false from hslash c hc]
  rfl

mutual

/-- A node that is no text is read back behind its opening mark. -/
theorem tagReadsAs_source (style : Style) {n : Node} (h : n.printable = true)
    (hn : ∀ s, n ≠ .text s) :
    ∃ y, n.source style = tagOpen ++ y ∧ y ≠ [] ∧ HeadNot beginsStop y ∧ TagReadsAs y n := by
  cases n with
  | text s => exact absurd rfl (hn s)
  | interpolation e raw =>
    refine ⟨_, rfl, by simp [tagClose], ?_, interpolation_readsAs style h raw⟩
    cases raw with
    | false =>
      exact headNot_beginsStop (headNot_source _ style 0 h _ (by decide) (by decide))
        (headNot_source _ style 0 h _ (by decide) (by decide))
    | true => exact headNot_cons (by decide)
  | conditional branches fallback =>
    cases branches with
    | nil => cases h
    | cons first rest =>
      obtain ⟨e, body⟩ := first
      rw [Node.printable, Bool.and_eq_true, Bool.and_eq_true, branchesPrintable, Bool.and_eq_true,
        Bool.and_eq_true] at h
      obtain ⟨⟨_, ⟨he, hbody⟩, hrest⟩, hfallback⟩ := h
      have hrun := conditional_readsAs (style.part 0) he
        ((nodesReadAs_source ((style.part 0).part 1) hbody).bodyReadAs hbody)
        (branchesReadAs_source ((style.part 0).part 2) hrest
          (fallbackReadsAs_source (style.part 1) hfallback))
      refine ⟨_, ?_, List.cons_ne_nil _ _, headNot_cons (by decide), hrun⟩
      rw [Node.source, branchesSource, ifMark]
      simp only [List.append_assoc]
      rfl
  | loop source item index body fallback =>
    rw [Node.printable, Bool.and_eq_true, Bool.and_eq_true, Bool.and_eq_true, Bool.and_eq_true] at h
    obtain ⟨⟨⟨⟨hsource, hitem⟩, hindex⟩, hbody⟩, hfallback⟩ := h
    have hrun := loop_readsAs style hsource hitem hindex
      ((nodesReadAs_source (style.part 1) hbody).bodyReadAs hbody)
      (fallbackReadsAs_source (style.part 2) hfallback)
    refine ⟨_, ?_, List.cons_ne_nil _ _, headNot_cons (by decide), hrun⟩
    rw [Node.source, loopTag]
    simp only [List.append_assoc, List.cons_append]

/-- Nodes are read back. -/
theorem nodesReadAs_source (style : Style) {outermost : Bool} {ns : List Node}
    (h : nodesPrintable outermost ns = true) : NodesReadAs (nodesSource style ns) ns := by
  cases ns with
  | nil => exact nodesReadAs_nil
  | cons n ns =>
    rw [nodesPrintable, Bool.and_eq_true, Bool.and_eq_true] at h
    obtain ⟨⟨hn, hprecede⟩, hns⟩ := h
    by_cases htext : ∃ s, n = .text s
    · obtain ⟨s, rfl⟩ := htext
      have hs : s ≠ "" := bne_iff_ne.mp hn
      cases ns with
      | nil =>
        rw [nodesSource, nodesSource, List.append_nil]
        exact nodesReadAs_text hs
      | cons m ns =>
        -- two texts side by side cannot be written, so a mark comes next and ends this one
        have hm : ∀ t, m ≠ .text t := by
          rintro t rfl
          cases hprecede
        have hclear : isClear s = true := by
          cases m with
          | text t => exact absurd rfl (hm t)
          | _ => exact hprecede
        have hrest := nodesReadAs_source (style.part 1) hns
        rw [nodesPrintable, Bool.and_eq_true, Bool.and_eq_true] at hns
        obtain ⟨y, hy, _, _, _⟩ := tagReadsAs_source ((style.part 1).part 0) hns.1.1 hm
        rw [nodesSource, nodesSource, hy, List.append_assoc]
        rw [nodesSource, hy, List.append_assoc] at hrest
        exact hrest.text_cons hs hclear
    · obtain ⟨y, hy, hne, hstop, hrun⟩ :=
        tagReadsAs_source (style.part 0) hn fun s hs => htext ⟨s, hs⟩
      rw [nodesSource, hy]
      exact .tag_cons (fun s hs => htext ⟨s, hs⟩) hrun hstop hne
        (nodesReadAs_source (style.part 1) hns)

/-- The source of further branches is read as these branches, in front of a fallback. -/
theorem branchesReadAs_source (style : Style) {rest : List (Expr × List Node)}
    (h : branchesPrintable rest = true) {x : List Char} {fallback : Option (List Node)}
    (hfallback : FallbackReadsAs x fallback) :
    BranchesReadAs (branchesSource style (elseIfMark style) rest ++ (x ++ endIf)) rest
      fallback := by
  cases rest with
  | nil =>
    obtain ⟨rfl, rfl⟩ | ⟨y, ns, rfl, rfl, hns⟩ := hfallback
    · exact branchesReadAs_end
    · exact branchesReadAs_fallback hns
  | cons first rest =>
    obtain ⟨e, body⟩ := first
    rw [branchesPrintable, Bool.and_eq_true, Bool.and_eq_true] at h
    obtain ⟨⟨he, hbody⟩, hrest⟩ := h
    rw [branchesSource]
    simp only [List.append_assoc]
    exact .cons style he ((nodesReadAs_source (style.part 1) hbody).bodyReadAs hbody)
      (branchesReadAs_source (style.part 2) hrest hfallback)

/-- The source of a fallback is read as the fallback. -/
theorem fallbackReadsAs_source (style : Style) {fallback : Option (List Node)}
    (h : fallbackPrintable fallback = true) :
    FallbackReadsAs (fallbackSource style fallback) fallback := by
  cases fallback with
  | none => exact .inl ⟨rfl, rfl⟩
  | some ns => exact .inr ⟨_, ns, rfl, rfl, (nodesReadAs_source style h).bodyReadAs h⟩

end

namespace Template

/-- A template without a limit on its length is the outermost region. -/
lemma parse_eq (depth : Nat) (s : String) :
    parse ⟨depth, none⟩ s =
      ⟨((Reader.nodes (tag depth (block depth depth)) .outermost).run s.toList).1⟩ := by
  rw [parse, if_neg (show ¬(Option.any _ none) = true from Bool.false_ne_true)]

/-- Without a limit on length a template is what its characters are read as. -/
lemma parse_ofList (depth : Nat) (s : List Char) :
    parse ⟨depth, none⟩ (String.ofList s) =
      ⟨((Reader.nodes (tag depth (block depth depth)) .outermost).run s).1⟩ := by
  rw [parse_eq, String.toList_ofList]

/-- Every tree that can be written is read back from its source, in every style, with at least as
many levels as the source has characters and no limit on the length. What comes behind the source,
and does not complete a mark with it, is read as if it stood alone, after its first text has been
joined to the tree; and at a stop of a region, the nodes of the tree are all that the region holds.
-/
theorem parse_source (style : Style) {ns : List Node} (h : nodesPrintable true ns = true)
    {depth : Nat} (hdepth : (nodesSource style ns).length ≤ depth) :
    parse ⟨depth, none⟩ (String.ofList (nodesSource style ns)) = ⟨ns⟩ ∧
      (∀ r, ClearBehind ns r →
        (parse ⟨depth, none⟩ (String.ofList (nodesSource style ns ++ r))).nodes =
          appendText ns (literalText r).1 ++
            (parse ⟨depth, none⟩ (String.ofList (literalText r).2)).nodes) ∧
      ∀ levels, (nodesSource style ns).length ≤ levels → ∀ (region : Region) r, ClearBehind ns r →
        beginsWithAny region.stops r = true →
          (Reader.nodes (tag depth (block depth levels)) region).run (nodesSource style ns ++ r) =
            (ns, r) := by
  have hread := nodesReadAs_source style h
  -- the first part is this one with nothing behind the source
  have hbehind (r : List Char) (hclear : ClearBehind ns r) :
      (parse ⟨depth, none⟩ (String.ofList (nodesSource style ns ++ r))).nodes =
        appendText ns (literalText r).1 ++
          (parse ⟨depth, none⟩ (String.ofList (literalText r).2)).nodes := by
    have hrun := hread depth depth hdepth hdepth .outermost r hclear
    dsimp only at hrun
    rw [parse_ofList, parse_ofList, hrun]
  refine ⟨?_, hbehind, ?_⟩
  · have hclear : ClearBehind ns [] := fun s _ => ⟨fun _ => by decide, fun _ => rfl⟩
    have hnil := hbehind [] hclear
    rw [List.append_nil] at hnil
    refine Template.ext (hnil.trans ?_)
    rw [show literalText [] = ([], []) from rfl, appendText_nil, parse_ofList, run_nodes_nil,
      List.append_nil]
  · intro levels hlevels region r hclear hstop
    exact hread.run_of_stop hdepth hlevels hclear hstop

/-- A loop with a raw pipe in it, written with one blank wherever there may be some. -/
theorem parse_source_of_loop :
    parse ⟨42, none⟩
        "\x7b\x7b#each xs as x \x7d\x7d\x7b\x7b+ x | f +\x7d\x7d\x7b\x7b/each\x7d\x7d" =
      ⟨[.loop (.path ["xs"]) "x" none
        [.interpolation (.pipe (.path ["x"]) "f" []) true] none]⟩ := by
  have hsource : String.ofList (nodesSource (fun _ => default)
      [.loop (.path ["xs"]) "x" none [.interpolation (.pipe (.path ["x"]) "f" []) true] none]) =
      "\x7b\x7b#each xs as x \x7d\x7d\x7b\x7b+ x | f +\x7d\x7d\x7b\x7b/each\x7d\x7d" := by
    decide +kernel
  rw [← hsource]
  exact (parse_source (fun _ => default) (by decide +kernel) (by decide +kernel)).1

end Template

end Stencil
