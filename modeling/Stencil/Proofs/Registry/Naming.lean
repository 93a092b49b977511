import Stencil.Evaluation.Registry
import Stencil.Proofs.Source.Template
import Stencil.Proofs.Tree.ReadTemplate

/-!
# Names of functions

A name can be registered for a function exactly if a template can call it. What the registry takes
is told by a test of the name, what a template can call by reading it in its place: behind the bar
of a pipe, or in front of parentheses. A name may be any text, so it may also close the tag, open a
call of its own or begin another pipe.

That a name is read back is shown by following the reader. That nothing else is, needs no such
thing: whatever is read, the name of a pipe is a word, and that of a call a word that is no numeral
and no constant (`FormedExpr`), so a text that is no name is not what was read.
-/

namespace Stencil

open Delimiter Reader

/-- Exactly the names are accepted. -/
lemma Registry.register_eq_ok_iff {registry : Registry} {name : String}
    {run : List Value → Value} :
    (∃ next, registry.register name run = .ok next) ↔ Text.isName name = true := by
  unfold register
  split
  · case isTrue h => exact ⟨fun _ => h, fun _ => ⟨_, rfl⟩⟩
  · case isFalse h => exact ⟨nofun, fun hname => absurd hname h⟩

section
variable {name : String} {depth : Nat} {r : List Char}

/-- Behind a constant and a bar a name is read as that of a pipe, however long it is. -/
lemma run_head_pipe (hname : Text.isName name = true) (hdepth : 2 ≤ depth) :
    (head depth).run (' ' :: ("null | ".toList ++ (name.toList ++ ' ' :: (tagClose ++ r)))) =
      (.pipe (.literal .null) name [], tagClose ++ r) := by
  obtain ⟨levels, rfl⟩ : ∃ n, depth = n + 2 := ⟨depth - 2, by omega⟩
  have hbegin : (' ' :: ("null | ".toList ++ (name.toList ++ ' ' :: (tagClose ++ r)))).dropWhile
      Text.isBlank =
      'n' :: ("ull".toList ++ (" | ".toList ++ (name.toList ++ ' ' :: (tagClose ++ r)))) := rfl
  have hnull : (primary (expression (levels + 1))).run
      ('n' :: ("ull".toList ++ (" | ".toList ++ (name.toList ++ ' ' :: (tagClose ++ r))))) =
      (.literal .null, " | ".toList ++ (name.toList ++ ' ' :: (tagClose ++ r))) := by
    rw [run_primary_name (by decide) (by decide)]
    exact run_named (w := "null") (by decide) (headNot_cons (by decide))
  have hbehind : HeadNot extendsExpr (' ' :: (tagClose ++ r)) := headNot_cons (by decide)
  rw [run_head_of_begins _ hbegin (by decide), run_expression_succ, run_bind, hnull,
    run_pipes_bar (t := ' ' :: (name.toList ++ ' ' :: (tagClose ++ r))) hname rfl
      (dropWhile_name hname _) hbehind.isWordChar
      ((expression levels).optionalArguments_none hbehind.not_parenthesis)]
  exact pipes_of_no_bar rfl

/-- In front of parentheses a name that begins an expression is read as that of a call. -/
lemma run_head_call (hname : isFirstName name = true) (hdepth : 1 ≤ depth) :
    (head depth).run (' ' :: (name.toList ++ ("() ".toList ++ (tagClose ++ r)))) =
      (.call name [], tagClose ++ r) := by
  obtain ⟨levels, rfl⟩ : ∃ n, depth = n + 1 := ⟨depth - 1, by omega⟩
  obtain ⟨c, t, hc, hword⟩ := isName_eq_cons (isFirstName_iff.mp hname).1
  have hbegin : (' ' :: (name.toList ++ ("() ".toList ++ (tagClose ++ r)))).dropWhile
      Text.isBlank = c :: (t ++ ("() ".toList ++ (tagClose ++ r))) := by
    rw [List.dropWhile_cons_of_pos (by decide), dropWhile_name (isFirstName_iff.mp hname).1, hc,
      List.cons_append]
  have hargs : (expression levels).argumentsFrom (')' :: ' ' :: (tagClose ++ r)) =
      ([], ' ' :: (tagClose ++ r)) := by
    rw [ExprReader.argumentsFrom_cons rfl, if_pos rfl]
  have hcall : (primary (expression levels)).run
      (name.toList ++ ("() ".toList ++ (tagClose ++ r))) =
      (.call name [], ' ' :: (tagClose ++ r)) := run_primary_call hname hargs
  rw [run_head_of_begins _ hbegin (by simp [beginsExpr, hword]), run_expression_succ,
    ← List.cons_append, ← hc, run_bind, hcall]
  exact pipes_of_no_bar rfl

end

/-- A tag that begins with a blank is an interpolation of what its head is read as. -/
lemma run_tag_blank (depth : Nat) (block : Reader Node) (s : List Char) :
    (tag depth block).run (' ' :: s) =
      (.interpolation ((head depth).run (' ' :: s)).1 false,
        (pastClose.run ((head depth).run (' ' :: s)).2).2) :=
  rfl

/-- Let a template be one tag that is read as some expression if this has the form of one that has
been read. Then the template is one interpolation of the expression exactly if it has that form. -/
lemma Template.parse_blank_tag_iff {depth : Nat} {source : String} {s : List Char} {e : Expr}
    (hsource : source.toList = tagOpen ++ ' ' :: s)
    (hread : e.isFormed = true → (head depth).run (' ' :: s) = (e, tagClose ++ [])) (raw : Bool) :
    (parse ⟨depth, none⟩ source).nodes = [.interpolation e raw] ↔
      raw = false ∧ e.isFormed = true := by
  rw [parse_eq, hsource, run_nodes_tag .outermost (headNot_cons (by decide))
    (run_tag_blank depth _ s)]
  constructor
  · -- the first node is what the head is read as, whatever else the template may hold
    intro h
    obtain ⟨hnode, _⟩ := List.cons.inj h
    obtain ⟨he, hraw⟩ := Node.interpolation.inj hnode
    have hformed : FormedExpr ((head depth).run (' ' :: s)).1 :=
      formedExpr_invariant.head_yields (.literal rfl) _
    rw [he] at hformed
    exact ⟨hraw.symm, hformed.self⟩
  · rintro ⟨rfl, he⟩
    rw [hread he, run_pastClose, run_nodes_nil]

/-- For every text that is not empty: it can be registered as the name of a function if and only if
it is read as the name of a pipe where one is expected, with nothing else in the template; and it is
read as the name of a call if and only if it can be registered, does not begin with a digit and is
no constant. -/
theorem Template.name_read_iff_registered {name : String} (hne : name ≠ "") (registry : Registry)
    (run : List Value → Value) (raw : Bool) :
    ((parse {} ("\x7b\x7b null | " ++ name ++ " \x7d\x7d")).nodes =
        [.interpolation (.pipe (.literal .null) name []) raw] ↔
      raw = false ∧ ∃ next, registry.register name run = .ok next) ∧
    ((parse {} ("\x7b\x7b " ++ name ++ "() \x7d\x7d")).nodes =
        [.interpolation (.call name []) raw] ↔
      raw = false ∧ (∃ next, registry.register name run = .ok next) ∧
        HeadNot Char.isDigit name.toList ∧ name ∉ ["true", "false", "null"]) := by
  have hword : Text.isName name = true ↔ Text.isWord name = true := by
    simp [Text.isName, hne]
  have hpipe : ("\x7b\x7b null | " ++ name ++ " \x7d\x7d").toList =
      tagOpen ++ ' ' :: ("null | ".toList ++ (name.toList ++ ' ' :: (tagClose ++ []))) := by
    rw [String.toList_append, String.toList_append, List.append_assoc]
    rfl
  have hcall : ("\x7b\x7b " ++ name ++ "() \x7d\x7d").toList =
      tagOpen ++ ' ' :: (name.toList ++ ("() ".toList ++ (tagClose ++ []))) := by
    rw [String.toList_append, String.toList_append, List.append_assoc]
    rfl
  rw [Registry.register_eq_ok_iff]
  constructor
  · refine (parse_blank_tag_iff hpipe (fun hformed => ?_) raw).trans ?_
    · exact run_head_pipe (hword.mpr hformed) (by decide)
    · rw [hword, Expr.isFormed]
  · refine (parse_blank_tag_iff hcall (fun hformed => ?_) raw).trans ?_
    · exact run_head_call hformed (by decide)
    · rw [Expr.isFormed, isFirstName_iff, ← headNot_iff]
      simp

/-- A name that begins with a digit is one for pipes alone, and a text that closes the tag and opens
another one is no name at all. -/
theorem Template.name_read_iff_registered_of_digit :
    (parse {} ("\x7b\x7b null | " ++ "1st" ++ " \x7d\x7d")).nodes =
        [.interpolation (.pipe (.literal .null) "1st" []) false] ∧
      (parse {} ("\x7b\x7b " ++ "1st" ++ "() \x7d\x7d")).nodes ≠
        [.interpolation (.call "1st" []) false] ∧
      (parse {} ("\x7b\x7b null | " ++ "f \x7d\x7d\x7b\x7b null | g" ++ " \x7d\x7d")).nodes ≠
        [.interpolation (.pipe (.literal .null) "f \x7d\x7d\x7b\x7b null | g" []) false] := by
  have hdigit : "1st" ≠ "" := by decide
  have hother : "f \x7d\x7d\x7b\x7b null | g" ≠ "" := by decide
  obtain ⟨hpipe, hcall⟩ := name_read_iff_registered hdigit .standard (fun _ => .null) false
  obtain ⟨hclosing, _⟩ := name_read_iff_registered hother .standard (fun _ => .null) false
  refine ⟨hpipe.mpr ⟨rfl, Registry.register_eq_ok_iff.mpr (by decide)⟩, fun h => ?_, fun h => ?_⟩
  · obtain ⟨_, _, hhead, _⟩ := hcall.mp h
    exact absurd (hhead '1' rfl) (by decide)
  · exact absurd (Registry.register_eq_ok_iff.mp (hclosing.mp h).2) (by decide)

end Stencil
