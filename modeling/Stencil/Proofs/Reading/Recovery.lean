import Stencil.Proofs.Checking.Site
import Stencil.Proofs.Source.Template

/-!
# Recovery from malformed tags

A block whose keyword is unknown, a loop without `as` and a block that is too deep are no blocks:
their front becomes a text that tells what is wrong, and reading goes on behind it. Nothing of the
block stays with the reader: the rest of the template, which may be anything, is read as if it stood
alone, and the text does not join one that comes next. The check knows each of these texts
(`isRecoveryText`), so the malformed tag is the first problem that it reports.

Main statement: for each kind of malformed tag, how it is written and the text it becomes
(`Template.malformed_recovers`).
-/

namespace Stencil

open Delimiter Reader

/-- A problem of some nodes is found inside one of them. -/
lemma head?_of_mem_checkNodes {registry : Registry} {i : Nat} {ns : List Node} {p : Problem}
    (h : p ∈ checkNodes registry i ns) : ∃ j, i ≤ j ∧ p.path.head? = some (.node j) := by
  induction ns generalizing i with
  | nil => cases h
  | cons n ns ih =>
    rw [checkNodes, List.mem_append] at h
    obtain hn | hns := h
    · obtain ⟨q, _, rfl⟩ := List.mem_map.mp hn
      exact ⟨i, Nat.le_refl i, rfl⟩
    · obtain ⟨j, hj, hp⟩ := ih hns
      exact ⟨j, Nat.le_of_succ_le hj, hp⟩

section
variable {w : String} (hw : Text.isWord w = true) {depth : Nat} {s : List Char}
  (hs : HeadNot Text.isWordChar s)
include hw hs

/-- Without levels for blocks every keyword is a text. -/
lemma run_tag_block_zero :
    (tag depth (block depth 0)).run ('#' :: (w.toList ++ s)) =
      (.text (if w = "if" ∨ w = "each" then Fault.tooDeep else .unknownBlock w).message, s) := by
  rw [tag, run_bind, run_eat_cons]
  dsimp only
  rw [if_pos rfl, block, run_bind, run_word_append hw hs]
  dsimp only
  split
  · rfl
  · rfl

/-- A keyword of no block is a text, with any number of levels. -/
lemma run_tag_unknown (hif : w ≠ "if") (heach : w ≠ "each") (levels : Nat) :
    (tag depth (block depth levels)).run ('#' :: (w.toList ++ s)) =
      (.text (Fault.unknownBlock w).message, s) := by
  cases levels with
  | zero => rw [run_tag_block_zero hw hs, if_neg (not_or.mpr ⟨hif, heach⟩)]
  | succ levels =>
    rw [run_tag_block hs hw, if_neg hif, if_neg heach]
    rfl

end

section
variable {first : String} (hfirst : isFirstName first = true) {more : List String}
  (hmore : more.all Text.isName = true) {depth : Nat} (hdepth : 1 ≤ depth) {s : List Char}
include hfirst hmore hdepth

/-- A path at the head of a tag takes one level, however long it is. -/
lemma run_head_path :
    (head depth).run (' ' :: (first.toList ++ (segmentsSource more ++ (tagClose ++ s)))) =
      (.path (first :: more), tagClose ++ s) := by
  obtain ⟨levels, rfl⟩ : ∃ n, depth = n + 1 := ⟨depth - 1, by omega⟩
  obtain ⟨hname, _⟩ := isFirstName_iff.mp hfirst
  obtain ⟨c, t, hc, hword⟩ := isName_eq_cons hname
  have hbegins : beginsExpr c = true := by simp [beginsExpr, hword]
  have hbar : ['|'].isPrefixOf ((tagClose ++ s).dropWhile Text.isBlank) = false := rfl
  have hcons : first.toList ++ (segmentsSource more ++ (tagClose ++ s)) =
      c :: (t ++ (segmentsSource more ++ (tagClose ++ s))) := by
    rw [hc, List.cons_append]
  have hblank : (' ' :: (first.toList ++ (segmentsSource more ++ (tagClose ++ s)))).dropWhile
      Text.isBlank = c :: (t ++ (segmentsSource more ++ (tagClose ++ s))) := by
    rw [List.dropWhile_cons_of_pos (by decide), dropWhile_name hname, hcons]
  have hend : HeadNot extendsExpr (tagClose ++ s) := headNot_cons (by decide)
  rw [run_head_of_begins _ hblank hbegins, run_expression_succ, ← hcons, run_bind,
    run_primary_path hfirst hmore hend]
  exact pipes_of_no_bar hbar

/-- A loop that ends after its path is a text. -/
lemma run_tag_missingAs (levels : Nat) :
    (tag depth (block depth (levels + 1))).run ('#' :: 'e' :: 'a' :: 'c' :: 'h' :: ' ' ::
        (first.toList ++ (segmentsSource more ++ (tagClose ++ s)))) =
      (.text Fault.missingAs.message, s) := by
  have hend : AtTagEnd (tagClose ++ s) := .inr ⟨s, rfl⟩
  rw [run_tag_each (headNot_cons (by decide)), loop, run_bind, run_head_path hfirst hmore hdepth,
    run_bind, run_blanks, hend.dropWhile_isBlank, run_bind, hend.keyword_as]
  rfl

end

namespace Template

/-- Reading recovers from a malformed tag at the front of a template. The front becomes a text, and
the rest is read as if it stood alone. The check reports the text before all other problems, none of
which lies at its place. -/
structure RecoversFrom (limits : Limits) (front : String) (f : Fault) (r : String) : Prop where
  nodes : (parse limits (front ++ r)).nodes = .text f.message :: (parse limits r).nodes
  check : ∀ registry, (parse limits (front ++ r)).check registry =
    ⟨[.node 0], .malformedTag f.message⟩ :: checkNodes registry 1 (parse limits r).nodes
  elsewhere : ∀ registry, ∀ p ∈ checkNodes registry 1 (parse limits r).nodes,
    p.path.head? ≠ some (.node 0)

/-- A tag that is read as a text known to the check is recovered from. -/
lemma recoversFrom_of_run {depth : Nat} {front r : String} {f : Fault} {x : List Char}
    (hfront : front.toList = tagOpen ++ '#' :: x) (hmessage : isRecoveryText f.message = true)
    (hrun : (tag depth (block depth depth)).run ('#' :: (x ++ r.toList)) =
      (.text f.message, r.toList)) :
    RecoversFrom ⟨depth, none⟩ front f r := by
  have hnodes : (parse ⟨depth, none⟩ (front ++ r)).nodes =
      .text f.message :: (parse ⟨depth, none⟩ r).nodes := by
    rw [parse_eq, parse_eq, String.toList_append, hfront, List.append_assoc, List.cons_append,
      run_nodes_tag .outermost (headNot_cons (by decide)) hrun]
  refine ⟨hnodes, fun registry => ?_, fun registry p hp => ?_⟩
  · rw [Template.check, hnodes, checkNodes, checkNode, if_pos hmessage]
    rfl
  · obtain ⟨j, hj, hpath⟩ := head?_of_mem_checkNodes hp
    rw [hpath]
    intro hzero
    obtain rfl : j = 0 := by simpa using hzero
    contradiction

/-- A path as it is written, its segments with points between them. -/
lemma toList_path (first : String) (more : List String) :
    (String.intercalate "." (first :: more)).toList = first.toList ++ segmentsSource more := by
  induction more generalizing first with
  | nil => rw [String.intercalate_singleton, segmentsSource, List.append_nil]
  | cons s more ih =>
    rw [String.intercalate_cons_of_ne_nil (List.cons_ne_nil s more), String.toList_append,
      String.toList_append, ih, segmentsSource, List.append_assoc]
    rfl

/-- Every malformed block is recovered from, whatever comes behind it. A word that names no block is
one behind `#`, with any number of levels, and so is a loop with nothing but a path in its tag. With
no levels at all, so is the keyword of every block. A keyword ends before a character that is not of
a word. -/
theorem malformed_recovers (r : String) :
    (∀ depth w, Text.isWord w = true → w ≠ "if" → w ≠ "each" → HeadNot Text.isWordChar r.toList →
      RecoversFrom ⟨depth, none⟩ ("\x7b\x7b#" ++ w) (.unknownBlock w) r) ∧
    (∀ depth first more, 1 ≤ depth → isFirstName first = true → more.all Text.isName = true →
      RecoversFrom ⟨depth, none⟩
        ("\x7b\x7b#each " ++ String.intercalate "." (first :: more) ++ "\x7d\x7d") .missingAs r) ∧
    (∀ w, w = "if" ∨ w = "each" → HeadNot Text.isWordChar r.toList →
      RecoversFrom ⟨0, none⟩ ("\x7b\x7b#" ++ w) .tooDeep r) := by
  have hfront (w : String) : ("\x7b\x7b#" ++ w).toList = tagOpen ++ '#' :: w.toList := by
    rw [String.toList_append]
    rfl
  have hfrontEach (first : String) (more : List String) :
      ("\x7b\x7b#each " ++ String.intercalate "." (first :: more) ++ "\x7d\x7d").toList =
        tagOpen ++ ('#' :: 'e' :: 'a' :: 'c' :: 'h' :: ' ' ::
          (first.toList ++ (segmentsSource more ++ tagClose))) := by
    rw [String.toList_append, String.toList_append, toList_path, List.append_assoc,
      List.append_assoc]
    rfl
  refine ⟨fun depth w hw hif heach hr => ?_, fun depth first more hdepth hfirst hmore => ?_,
    fun w hw hr => ?_⟩
  · exact recoversFrom_of_run (hfront w) (isRecoveryText_unknownBlock hw)
      (run_tag_unknown hw hr hif heach depth)
  · obtain ⟨levels, rfl⟩ : ∃ n, depth = n + 1 := ⟨depth - 1, by omega⟩
    refine recoversFrom_of_run (hfrontEach first more) (by decide) ?_
    simp only [List.cons_append, List.append_assoc]
    exact run_tag_missingAs hfirst hmore hdepth levels
  · have hword : Text.isWord w = true := by
      obtain rfl | rfl := hw
      · decide
      · decide
    refine recoversFrom_of_run (hfront w) (by decide) ((run_tag_block_zero hword hr).trans ?_)
    rw [if_pos hw]

/-- An unknown block, a loop over a path and a block without levels, each in front of a tag that
closes nothing. -/
theorem malformed_recovers_of_closing :
    HeadNot Text.isWordChar " x\x7d\x7d\x7b\x7b/if\x7d\x7d".toList ∧
      RecoversFrom ⟨64, none⟩ "\x7b\x7b#unless" (.unknownBlock "unless")
        " x\x7d\x7d\x7b\x7b/if\x7d\x7d" ∧
      RecoversFrom ⟨1, none⟩ "\x7b\x7b#each a.b\x7d\x7d" .missingAs
        " x\x7d\x7d\x7b\x7b/if\x7d\x7d" ∧
      RecoversFrom ⟨0, none⟩ "\x7b\x7b#if" .tooDeep " x\x7d\x7d\x7b\x7b/if\x7d\x7d" := by
  have hr : HeadNot Text.isWordChar " x\x7d\x7d\x7b\x7b/if\x7d\x7d".toList :=
    headNot_cons (by decide)
  obtain ⟨hunknown, hmissing, hdeep⟩ := malformed_recovers " x\x7d\x7d\x7b\x7b/if\x7d\x7d"
  exact ⟨hr, hunknown 64 "unless" (by decide) (by decide) (by decide) hr,
    hmissing 1 "a" ["b"] (by decide) (by decide) (by decide), hdeep "if" (.inl rfl) hr⟩

end Template

end Stencil
