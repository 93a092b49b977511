import Stencil.Proofs.Limits.Counters
import Stencil.Proofs.Reading.Progress
import Stencil.Proofs.Source.Template

/-!
# Counters are balanced

A reader with counters reads what the library's reader reads with the levels that the counters leave
of the limit, and leaves the counters as they were. `Restores` says both at once, together with what
holds at every moment on the way, and is kept by every step (`Restores.bind`). Only pipes are left
open until the expression ends that they stand behind (`Opens`).

That a reading comes to an end is part of it. For expressions and for blocks the induction is on the
levels that are left, and within a level, for arguments, branches and nodes, on the length of the
text.

Main statement: all parts of a template restore the counters, and no counter passes the limit
(`counters_balanced`).
-/

namespace Stencil

namespace Counted

variable {α β : Type} {P : Moment → Prop}

/-- From a text and counters a reader comes to a result, with a text and counters left, as soon as
it may make enough calls, and the moments on the way are of some kind. -/
def Leads (P : Moment → Prop) (x : (calls : Nat) → Counted α) (s : List Char) (c : Counters) (a : α)
    (r : List Char) (d : Counters) : Prop :=
  ∃ moments enough, (∀ m ∈ moments, P m) ∧ ∀ calls ≥ enough, ∀ earlier,
    x calls ⟨s, c, earlier⟩ = some (a, ⟨r, d, earlier ++ moments⟩)

section
variable {x : Nat → Counted α} {s r t : List Char} {c d e : Counters} {a : α} {b : β}

/-- A step that makes no call. -/
lemma leads_of_eq {y : Counted α} (h : ∀ earlier, y ⟨s, c, earlier⟩ = some (a, ⟨r, d, earlier⟩)) :
    Leads P (fun _ => y) s c a r d := by
  refine ⟨[], 0, nofun, fun _ _ earlier => (h earlier).trans ?_⟩
  rw [List.append_nil]

/-- A result that is there takes no text and leaves the counters. -/
lemma Leads.pure (a : α) (s : List Char) (c : Counters) : Leads P (fun _ => pure a) s c a s c :=
  leads_of_eq fun _ => rfl

/-- A reading of two steps goes on from where the first one has come to. -/
lemma Leads.bind {f : Nat → α → Counted β} (hx : Leads P x s c a r d)
    (hf : Leads P (fun calls => f calls a) r d b t e) :
    Leads P (fun calls => x calls >>= f calls) s c b t e := by
  obtain ⟨first, enough, hfirst, hx⟩ := hx
  obtain ⟨second, more, hsecond, hf⟩ := hf
  refine ⟨first ++ second, max enough more, List.forall_mem_append.mpr ⟨hfirst, hsecond⟩,
    fun calls hcalls earlier => ?_⟩
  change (x calls ⟨s, c, earlier⟩ >>= fun p => f calls p.1 p.2) = _
  rw [hx calls (Nat.max_le.mp hcalls).1, ← List.append_assoc]
  exact hf calls (Nat.max_le.mp hcalls).2 _

/-- A call. -/
lemma Leads.succ (h : Leads P (fun calls => x (calls + 1)) s c a r d) : Leads P x s c a r d := by
  obtain ⟨moments, enough, hmoments, h⟩ := h
  refine ⟨moments, enough + 1, hmoments, fun calls hcalls earlier => ?_⟩
  obtain ⟨calls, rfl⟩ : ∃ n, calls = n + 1 := ⟨calls - 1, by omega⟩
  exact h calls (Nat.le_of_succ_le_succ hcalls) earlier

/-- A reader of the library leaves the counters. -/
lemma leads_read (y : Reader α) (s : List Char) (c : Counters) :
    Leads P (fun _ => read y) s c (y.run s).1 (y.run s).2 c :=
  leads_of_eq fun _ => rfl

/-- The counters are looked at. -/
lemma leads_counters (s : List Char) (c : Counters) : Leads P (fun _ => counters) s c c s c :=
  leads_of_eq fun _ => rfl

/-- The counters are changed, at a moment of the right kind. -/
lemma leads_setCounters (h : P ⟨d, false⟩) : Leads P (fun _ => setCounters d) s c () s d :=
  ⟨[⟨d, false⟩], 0, List.forall_mem_singleton.mpr h, fun _ _ _ => rfl⟩

/-- The beginning of a region or a block is one more moment on the way. -/
lemma leads_beginning (hbegin : P ⟨c, true⟩) (h : Leads P x s c a r d) :
    Leads P (fun calls => beginning (x calls)) s c a r d := by
  obtain ⟨moments, enough, hmoments, h⟩ := h
  refine ⟨⟨c, true⟩ :: moments, enough, List.forall_mem_cons.mpr ⟨hbegin, hmoments⟩,
    fun calls hcalls earlier => (h calls hcalls _).trans ?_⟩
  rw [List.append_assoc, List.singleton_append]

/-- A counter that is great enough is lowered. -/
lemma leads_lower (n k : Nat) : Leads P (fun _ => lower (n + k) k) s c n s c := by
  rw [lower, if_pos (Nat.le_add_left k n), Nat.add_sub_cancel]
  exact .pure n s c

end

section
variable {s : List Char} {b e : Nat}

/-- A block is opened. -/
lemma leads_openBlock (h : P ⟨⟨b + 1, e⟩, false⟩) :
    Leads P (fun _ => openBlock) s ⟨b, e⟩ () s ⟨b + 1, e⟩ :=
  (leads_counters s _).bind (leads_setCounters h)

/-- A block that is open is closed. -/
lemma leads_closeBlock (h : P ⟨⟨b, e⟩, false⟩) :
    Leads P (fun _ => closeBlock) s ⟨b + 1, e⟩ () s ⟨b, e⟩ :=
  (leads_counters s _).bind ((leads_lower b 1).bind (leads_setCounters h))

/-- An expression is opened. -/
lemma leads_openExpr (h : P ⟨⟨b, e + 1⟩, false⟩) :
    Leads P (fun _ => openExpr) s ⟨b, e⟩ () s ⟨b, e + 1⟩ :=
  (leads_counters s _).bind (leads_setCounters h)

/-- As many expressions and pipes are closed as are open. -/
lemma leads_closeExprs (n : Nat) (h : P ⟨⟨b, e⟩, false⟩) :
    Leads P (fun _ => closeExprs n) s ⟨b, e + n⟩ () s ⟨b, e⟩ :=
  (leads_counters s _).bind ((leads_lower e n).bind (leads_setCounters h))

end

/-- With some counters, `x` reads what `y` reads and leaves the counters as they were. -/
def Restores (P : Moment → Prop) (c : Counters) (x : (calls : Nat) → Counted α) (y : Reader α) :
    Prop :=
  ∀ s, Leads P x s c (y.run s).1 (y.run s).2 c

section
variable {c : Counters} {x : Nat → Counted α} {y : Reader α}

/-- A result that is there restores the counters. -/
lemma Restores.pure (a : α) : Restores P c (fun _ => pure a) (pure a) :=
  fun s => .pure a s c

/-- Two steps restore the counters if each of them does. -/
lemma Restores.bind {f : Nat → α → Counted β} {g : α → Reader β} (h : Restores P c x y)
    (hfg : ∀ a, Restores P c (fun calls => f calls a) (g a)) :
    Restores P c (fun calls => x calls >>= f calls) (y >>= g) :=
  fun s => (h s).bind (hfg _ _)

/-- A reader of the library restores the counters. -/
lemma restores_read (y : Reader α) : Restores P c (fun _ => read y) y :=
  fun s => leads_read y s c

/-- A reader of the library whose result is not used restores the counters. -/
lemma restores_discard (y : Reader α) : Restores P c (fun _ => discard (read y)) (discard y) :=
  restores_read (discard y)

/-- A step without regard to the counters does not change them. -/
lemma Restores.step (z : Reader α) {f : Nat → α → Counted β} {g : α → Reader β}
    (hfg : ∀ a, Restores P c (fun calls => f calls a) (g a)) :
    Restores P c (fun calls => read z >>= f calls) (z >>= g) :=
  (restores_read z).bind hfg

/-- Looking at the counters changes nothing. -/
lemma Restores.counters_bind {f : Nat → Counters → Counted α}
    (h : Restores P c (fun calls => f calls c) y) :
    Restores P c (fun calls => counters >>= f calls) y :=
  fun s => (leads_counters s c).bind (h s)

/-- A choice restores the counters if both ways do. -/
lemma Restores.ite {p : Prop} [Decidable p] {z : Nat → Counted α} {w : Reader α}
    (hthen : Restores P c x y) (helse : Restores P c z w) :
    Restores P c (fun calls => if p then x calls else z calls) (if p then y else w) := by
  by_cases hp : p
  · simp only [if_pos hp]
    exact hthen
  · simp only [if_neg hp]
    exact helse

/-- A delay makes no difference to what is restored. -/
lemma Restores.delay (h : Restores P c x y) : Restores P c x (.delay fun _ => y) :=
  h

/-- One more call makes no difference. -/
lemma Restores.succ (h : Restores P c (fun calls => x (calls + 1)) y) : Restores P c x y :=
  fun s => (h s).succ

/-- The note that a region or a block begins restores the counters. -/
lemma Restores.beginning (hbegin : P ⟨c, true⟩) (h : Restores P c x y) :
    Restores P c (fun calls => beginning (x calls)) y :=
  fun s => leads_beginning hbegin (h s)

section
variable {args : Nat → Counted (List Expr)} {inner : ExprReader}
  (h : Restores P c args inner.arguments)
include h

/-- Arguments in parentheses restore the counters if arguments do, also if there are none. -/
lemma optionalArguments_restores :
    Restores P c (fun calls => optionalArguments (args calls)) inner.optionalArguments := by
  refine .step (Reader.eat ['(']) fun opened => ?_
  cases opened with
  | true => exact h
  | false => exact .pure []

/-- What begins with a word restores the counters if arguments do. -/
lemma named_restores : Restores P c (fun calls => named (args calls)) (Reader.named inner) := by
  refine .step Reader.word fun name => ?_
  refine .ite (.pure _) (.ite (.pure _) (.ite (.pure _) ?_))
  refine .step (Reader.eat ['(']) fun opened => ?_
  cases opened with
  | true => exact h.bind fun args => .pure _
  | false => exact .step Reader.segments fun more => .pure _

/-- An expression without its pipes restores the counters if arguments do. -/
lemma primary_restores :
    Restores P c (fun calls => primary (args calls)) (Reader.primary inner) := by
  refine .step Reader.blanks fun _ => .step Reader.peek? fun next => ?_
  cases next with
  | none => exact .pure _
  | some a =>
    -- of strings, numerals, names and anything else, only names hold expressions
    refine .ite (.step (Reader.skip 1) fun _ => .step (Reader.quotedText a) fun s => .pure _) ?_
    refine .ite (restores_read Reader.numeral) ?_
    exact .ite (named_restores h) (.step (Reader.skip 1) fun _ => .pure _)

end

/-- Arguments restore the counters if each of them does. -/
lemma arguments_restores {limit : Nat} {inner : ExprReader}
    (h : Restores P c (expression limit) inner.reader) :
    Restores P c (arguments limit) inner.arguments := by
  intro s
  change Leads P _ s c (inner.argumentsFrom s).1 (inner.argumentsFrom s).2 c
  -- on the length of the text, since a round may take a whole argument or just a comma
  induction hn : s.length using Nat.strongRecOn generalizing s with
  | ind n ih =>
    subst hn
    have hs := (List.dropWhile_sublist (l := s) Text.isBlank).length_le
    refine .succ ?_
    simp only [arguments]
    refine (leads_read Reader.blanks s c).bind ((leads_read Reader.peek? _ c).bind ?_)
    dsimp only [Reader.run_blanks, Reader.run_peek?]
    cases hr : s.dropWhile Text.isBlank with
    | nil =>
      rw [ExprReader.argumentsFrom_nil hr]
      exact .pure [] [] c
    | cons a r =>
      rw [hr, List.length_cons] at hs
      rw [ExprReader.argumentsFrom_cons hr]
      dsimp only [List.head?_cons]
      by_cases hclose : a = ')'
      · simp only [if_pos hclose]
        exact (leads_read (Reader.skip 1) _ c).bind (.pure [] r c)
      simp only [if_neg hclose]
      by_cases hcomma : a = ','
      · simp only [if_pos hcomma]
        exact (leads_read (Reader.skip 1) _ c).bind (ih r.length hs r rfl)
      simp only [if_neg hcomma]
      by_cases hend : a = '}'
      · simp only [if_pos hend]
        exact .pure [] (a :: r) c
      simp only [if_neg hend]
      have hprogress := inner.progress a r hend
      exact (h (a :: r)).bind ((ih _ (by omega) _ rfl).bind (.pure _ _ c))

end

/-- `x` reads what `y` reads, opens some pipes after the first `count`, and leaves them open. -/
def Opens (P : Moment → Prop) (b e count : Nat) (x : (calls : Nat) → Counted (Expr × Nat))
    (y : Reader Expr) : Prop :=
  ∀ s, ∃ k, Leads P x s ⟨b, e⟩ ((y.run s).1, count + k) (y.run s).2 ⟨b, e + k⟩

section
variable {b e count : Nat} {x : Nat → Counted (Expr × Nat)} {y : Reader Expr}

/-- What restores the counters may come before pipes. -/
lemma Opens.bind {z : Nat → Counted α} {w : Reader α} {f : Nat → α → Counted (Expr × Nat)}
    {g : α → Reader Expr} (h : Restores P ⟨b, e⟩ z w)
    (hfg : ∀ a, Opens P b e count (fun calls => f calls a) (g a)) :
    Opens P b e count (fun calls => z calls >>= f calls) (w >>= g) := by
  intro s
  obtain ⟨k, hk⟩ := hfg (w.run s).1 (w.run s).2
  exact ⟨k, (h s).bind hk⟩

/-- Looking at the counters changes nothing. -/
lemma Opens.counters_bind {f : Nat → Counters → Counted (Expr × Nat)}
    (h : Opens P b e count (fun calls => f calls ⟨b, e⟩) y) :
    Opens P b e count (fun calls => counters >>= f calls) y := by
  intro s
  obtain ⟨k, hk⟩ := h s
  exact ⟨k, (leads_counters s _).bind hk⟩

/-- A call makes no difference to what pipes leave open. -/
lemma Opens.succ (h : Opens P b e count (fun calls => x (calls + 1)) y) :
    Opens P b e count x y := by
  intro s
  obtain ⟨k, hk⟩ := h s
  exact ⟨k, hk.succ⟩

/-- A reader that opens no pipe. -/
lemma opens_of_restores {z : Nat → Counted Expr} (h : Restores P ⟨b, e⟩ z y) :
    Opens P b e count (fun calls => z calls >>= fun a => pure (a, count)) y :=
  fun s => ⟨0, (h s).bind (.pure _ _ _)⟩

/-- A pipe that is opened before a reader counts as one of those that it opens. -/
lemma Opens.openExpr (h : Opens P b (e + 1) (count + 1) x y) (hP : P ⟨⟨b, e + 1⟩, false⟩) :
    Opens P b e count (fun calls => openExpr >>= fun _ => x calls) y := by
  intro s
  obtain ⟨k, hk⟩ := h s
  rw [Nat.add_right_comm count, Nat.add_right_comm e] at hk
  exact ⟨k + 1, (leads_openExpr hP).bind hk⟩

end

section
variable {limit bound b : Nat} (hP : ∀ e ≤ bound, P ⟨⟨b, e⟩, false⟩) (hbound : limit ≤ bound)
include hP hbound

/-- Expressions and pipes, by one induction on the levels that the counter has left. -/
lemma expression_pipes_restores (levels : Nat) : ∀ e ≤ bound, limit - e = levels →
    Restores P ⟨b, e⟩ (expression limit) (Stencil.expression levels).reader ∧
      ∀ x count, Opens P b e count (fun calls => pipes limit calls x count)
        (Stencil.pipes levels x) := by
  induction levels with
  | zero =>
    intro e _ hlevels
    have hdeep : limit ≤ e := by omega
    refine ⟨.succ ?_, fun x count => .succ ?_⟩
    · simp only [expression]
      refine .counters_bind ?_
      simp only [if_pos hdeep]
      exact restores_read Reader.cutOff
    · simp only [pipes, Stencil.pipes]
      refine .bind (restores_read Reader.blanks) fun _ => ?_
      refine .bind (restores_read (Reader.eat ['|'])) fun bar => ?_
      cases bar with
      | false => exact opens_of_restores (.pure x)
      | true =>
        refine .counters_bind ?_
        simp only [if_pos hdeep]
        exact opens_of_restores (restores_read Reader.cutOff)
  | succ levels ih =>
    intro e he hlevels
    have hopen : ¬limit ≤ e := by omega
    have hraise : P ⟨⟨b, e + 1⟩, false⟩ := hP (e + 1) (by omega)
    obtain ⟨hinner, hpipes⟩ := ih (e + 1) (by omega) (by omega)
    have hargs := arguments_restores hinner
    refine ⟨fun s => .succ ?_, fun x count => .succ ?_⟩
    · simp only [expression]
      refine (leads_counters s _).bind ?_
      simp only [if_neg hopen]
      refine (leads_openExpr hraise).bind ((primary_restores hargs s).bind ?_)
      -- what is closed at the end is the expression and the pipes that were opened behind it
      obtain ⟨k, hk⟩ := hpipes _ 0 _
      refine hk.bind ?_
      rw [show e + 1 + k = e + (1 + (0 + k)) by omega]
      exact (leads_closeExprs _ (hP e he)).bind (.pure _ _ _)
    · simp only [pipes, Stencil.pipes]
      refine .bind (restores_read Reader.blanks) fun _ => ?_
      refine .bind (restores_read (Reader.eat ['|'])) fun bar => ?_
      cases bar with
      | false => exact opens_of_restores (.pure x)
      | true =>
        refine .counters_bind ?_
        simp only [if_neg hopen]
        refine .openExpr ?_ hraise
        refine .bind (restores_read Reader.blanks) fun _ => ?_
        refine .bind (restores_read Reader.word) fun name => ?_
        exact .bind (optionalArguments_restores hargs) fun args => hpipes _ _

/-- An expression restores the counters, whatever they are. -/
theorem expression_restores {e : Nat} (he : e ≤ bound) :
    Restores P ⟨b, e⟩ (expression limit) (Stencil.expression (limit - e)).reader :=
  (expression_pipes_restores hP hbound (limit - e) e he rfl).1

end

section
variable {limit depth : Nat} {c : Counters} {expr : Nat → Counted Expr}
  (hexpr : Restores P c expr (Stencil.expression depth).reader)
include hexpr

/-- The expression of a tag restores the counters, and so does the end of the tag. -/
lemma head_restores : Restores P c (fun calls => head (expr calls)) (Reader.head depth) := by
  refine .step Reader.blanks fun _ => .step Reader.atEnd fun empty => ?_
  refine .step (Reader.isAt _) fun closed => .step (Reader.isAt _) fun rawClosed => ?_
  exact .ite (.pure _) hexpr

/-- A tag restores the counters if a block does. -/
lemma tag_restores {block : Nat → Counted Node} {reader : Reader Node}
    (h : Restores P c block reader) :
    Restores P c (fun calls => tag (expr calls) (block calls)) (Reader.tag depth reader) := by
  refine .step (Reader.eat ['#']) fun opens => .ite h ?_
  refine .step (Reader.eat ['+']) fun raw => .ite ?_ ?_
  · refine (head_restores hexpr).bind fun e => .step Reader.blanks fun _ => ?_
    exact (restores_discard _).bind fun _ => .step Reader.pastClose fun _ => .pure _
  · exact (head_restores hexpr).bind fun e => .step Reader.pastClose fun _ => .pure _

/-- A tag between branches restores the counters. -/
lemma elseTag_restores :
    Restores P c (fun calls => elseTag (expr calls)) (Reader.elseTag depth) := by
  refine .step (Reader.skip _) fun _ => .step Reader.elseIf fun named => .ite ?_ ?_
  · exact (head_restores hexpr).bind fun condition => .step Reader.pastClose fun _ => .pure _
  · exact .step Reader.pastClose fun _ => .pure _

end

/-- The nodes of a region restore the counters if each tag does. -/
lemma nodesFrom_restores {limit : Nat} {c : Counters} {reader : Reader Node}
    (h : Restores P c (fun calls => tag (expression limit calls) (block limit calls)) reader)
    (region : Region) : Restores P c (nodesFrom limit region) (Reader.nodes reader region) := by
  intro s
  change Leads P _ s c (Stencil.nodesFrom reader region.stops s).1
    (Stencil.nodesFrom reader region.stops s).2 c
  -- on the length of the text, since a round may take any number of characters
  induction hn : s.length using Nat.strongRecOn generalizing s with
  | ind n ih =>
    subst hn
    refine .succ ?_
    simp only [nodesFrom]
    refine (leads_read Reader.literal s c).bind ((leads_read Reader.atEnd _ c).bind ?_)
    refine (leads_read (Reader.isAtAny region.stops) _ c).bind ?_
    rw [Reader.run_literal, Reader.run_atEnd, Reader.run_isAtAny]
    by_cases hend : (literalText s).2 = [] ∨ beginsWithAny region.stops (literalText s).2 = true
    · rw [nodesFrom_end hend]
      simp only [if_pos ((ends_iff _ _).mpr hend)]
      exact .pure _ _ c
    · rw [nodesFrom_tag hend rfl]
      simp only [if_neg ((not_congr (ends_iff _ _)).mpr hend)]
      refine (leads_read (Reader.skip _) _ c).bind ((h _).bind ?_)
      exact (ih _ (length_tag_lt reader (not_or.mp hend).1) _ rfl).bind (.pure _ _ c)

section
variable {limit depth : Nat} {c : Counters} {reader : Region → Reader (List Node)}
  (hexpr : Restores P c (expression limit) (Stencil.expression depth).reader)
  (hnodes : ∀ region, Restores P c (nodes limit region) (reader region))
include hnodes

/-- The fallback of a loop restores the counters if its nodes do. -/
lemma loopFallback_restores :
    Restores P c (fun calls => loopFallback fun region => nodes limit region calls)
      (Reader.loopFallback reader) := by
  refine .step (Reader.isAt _) fun opens => .ite ?_ (.pure none)
  exact .step Reader.pastClose fun _ => (hnodes .eachFallback).bind fun fallback => .pure _

include hexpr

/-- A loop restores the counters if its nodes do. -/
lemma loop_restores :
    Restores P c
      (fun calls => loop (expression limit calls) fun region => nodes limit region calls)
      (Reader.loop depth reader) := by
  refine (head_restores hexpr).bind fun source => .step Reader.blanks fun _ => ?_
  refine .step (Reader.keyword ['a', 's']) fun named => .ite ?_ ?_
  · refine .step Reader.blanks fun _ => .step Reader.word fun item => ?_
    refine .step Reader.blanks fun _ => .step Reader.loopIndex fun index => ?_
    refine .step Reader.pastClose fun _ => (hnodes .eachBody).bind fun body => ?_
    refine (loopFallback_restores hnodes).bind fun fallback => ?_
    exact (restores_discard _).bind fun _ => .pure _
  · exact .step Reader.pastClose fun _ => .pure _

/-- The branches of a conditional restore the counters if their conditions and bodies do. -/
lemma branchesFrom_restores (condition : Expr) (s : List Char) :
    Leads P (fun calls => branchesFrom limit calls condition) s c
      (Stencil.branchesFrom depth reader condition s).1
      (Stencil.branchesFrom depth reader condition s).2 c := by
  -- on the length of the text, since a round may take any number of characters
  induction hn : s.length using Nat.strongRecOn generalizing s condition with
  | ind n ih =>
    subst hn
    refine .succ ?_
    simp only [branchesFrom]
    refine (hnodes .ifBody s).bind ?_
    cases hbody : (reader .ifBody).run s with
    | mk body r =>
    refine (leads_read (Reader.eat _) r c).bind ((leads_read Reader.atEnd _ c).bind ?_)
    rw [Reader.run_atEnd]
    by_cases hend : ((Reader.eat Delimiter.endIf).run r).1 = true ∨ r = []
    · rw [branchesFrom_last hbody hend]
      simp only [if_pos ((endsIf_iff r).mpr hend)]
      exact .pure _ _ c
    · obtain ⟨hopen, hne⟩ := not_or.mp hend
      have hlt := length_elseTag_lt depth hbody hne
      simp only [if_neg ((not_congr (endsIf_iff r)).mpr hend)]
      rw [run_eat_of_not hopen]
      refine (elseTag_restores hexpr r).bind ?_
      cases hnext : (Reader.elseTag depth).run r with
      | mk next t =>
      rw [hnext] at hlt
      cases next with
      | some more =>
        rw [branchesFrom_more hbody hend hnext]
        exact (ih _ hlt more t rfl).bind (.pure _ _ c)
      | none =>
        rw [branchesFrom_fallback hbody hend hnext rfl]
        refine (hnodes .ifFallback t).bind ?_
        exact (restores_discard _ _).bind (.pure _ _ c)

/-- A conditional restores the counters if its conditions and bodies do. -/
lemma conditional_restores :
    Restores P c
      (fun calls => conditional (expression limit calls) (branchesFrom limit calls))
      (Reader.conditional depth reader) := by
  refine (head_restores hexpr).bind fun condition => .step Reader.pastClose fun _ => ?_
  refine .bind (fun s => ?_) fun parts => .pure _
  exact branchesFrom_restores hexpr hnodes condition s

end

/-- What restores the counters with one more block open does so between the opening and the closing
of a block. -/
lemma restores_bracket {b e : Nat} {x : Nat → Counted α} {y : Reader α}
    (hopen : P ⟨⟨b + 1, e⟩, false⟩) (hclose : P ⟨⟨b, e⟩, false⟩) (h : Restores P ⟨b + 1, e⟩ x y) :
    Restores P ⟨b, e⟩
      (fun calls => do
        openBlock
        let a ← x calls
        closeBlock
        pure a)
      y :=
  fun s => (leads_openBlock hopen).bind
    ((h s).bind ((leads_closeBlock hclose).bind (.pure _ _ _)))

section
variable {limit top bound e : Nat}
  (hP : ∀ b ≤ top, ∀ x ≤ bound, P ⟨⟨b, x⟩, false⟩) (hbegin : ∀ b ≤ top, P ⟨⟨b, e⟩, true⟩)
  (htop : limit ≤ top) (hbound : limit ≤ bound) (he : e ≤ bound)
include hP hbegin htop hbound he

/-- A block restores the counters, by induction on the levels that the counter of blocks has left.
-/
theorem block_restores (levels : Nat) : ∀ b ≤ top, limit - b = levels →
    Restores P ⟨b, e⟩ (block limit) (Reader.block (limit - e) levels) := by
  induction levels with
  | zero =>
    intro b hb hlevels
    have hdeep : limit ≤ b := by omega
    refine .succ ?_
    simp only [block]
    refine .beginning (hbegin b hb) (.step Reader.word fun keyword => .counters_bind ?_)
    by_cases hkeyword : keyword = "if" ∨ keyword = "each"
    · simp only [hkeyword, hdeep, and_self, if_true]
      exact .pure _
    · obtain ⟨hif, heach⟩ := not_or.mp hkeyword
      simp only [hif, heach, or_self, false_and, if_false]
      exact .pure _
  | succ levels ih =>
    intro b hb hlevels
    have hshallow : ¬limit ≤ b := by omega
    have hexpr := expression_restores (hP (b + 1) (by omega)) hbound he
    have hblock := ih (b + 1) (by omega) (by omega)
    have hnodes := fun region => Restores.beginning (hbegin (b + 1) (by omega))
      (nodesFrom_restores (tag_restores hexpr hblock) region)
    have hbracket {x : Nat → Counted Node} {y : Reader Node} :=
      restores_bracket (x := x) (y := y) (hP (b + 1) (by omega) e he) (hP b hb e he)
    refine .delay (.succ ?_)
    simp only [block]
    refine .beginning (hbegin b hb) (.step Reader.word fun keyword => .counters_bind ?_)
    simp only [hshallow, and_false, if_false]
    refine .ite (hbracket (conditional_restores hexpr hnodes)) ?_
    exact .ite (hbracket (loop_restores hexpr hnodes)) (.pure _)

end

end Counted

/-- The parts of a template that are read on their own. -/
inductive Part
  | nodes (region : Region)
  | tag
  | block
  | conditional
  | loop
  | expression
  | arguments

namespace Part

/-- What a part is read as. -/
def Result : Part → Type
  | nodes _ => List Node
  | tag => Node
  | block => Node
  | conditional => Node
  | loop => Node
  | expression => Expr
  | arguments => List Expr

/-- The reader of a part with counters. -/
def counted (limit : Nat) (part : Part) (calls : Nat) : Counted part.Result :=
  match part with
  | nodes region => Counted.nodes limit region calls
  | tag => Counted.tag (Counted.expression limit calls) (Counted.block limit calls)
  | block => Counted.block limit calls
  | conditional =>
    Counted.conditional (Counted.expression limit calls) (Counted.branchesFrom limit calls)
  | loop =>
    Counted.loop (Counted.expression limit calls) fun region => Counted.nodes limit region calls
  | expression => Counted.expression limit calls
  | arguments => Counted.arguments limit calls

/-- The reader of a part with some levels left for blocks, and some for expressions. -/
def reader (levels depth : Nat) : (part : Part) → Reader part.Result
  | nodes region => Reader.nodes (Reader.tag depth (Reader.block depth levels)) region
  | tag => Reader.tag depth (Reader.block depth levels)
  | block => Reader.block depth levels
  | conditional =>
    Reader.conditional depth (Reader.nodes (Reader.tag depth (Reader.block depth levels)))
  | loop => Reader.loop depth (Reader.nodes (Reader.tag depth (Reader.block depth levels)))
  | expression => (Stencil.expression depth).reader
  | arguments => (Stencil.expression depth).arguments

end Part

/-- At a moment of a reading neither counter is beyond the limit, unless it was already when the
reading began; and where a region or a block begins, the same expressions are open as then. -/
structure Moment.Within (limit : Nat) (start : Counters) (m : Moment) : Prop where
  blocks : m.counters.blocks ≤ max limit start.blocks
  exprs : m.counters.exprs ≤ max limit start.exprs
  begins : m.begins = true → m.counters.exprs = start.exprs

namespace Counted

/-- Every part restores the counters. -/
lemma part_restores (limit : Nat) (c : Counters) (part : Part) :
    Restores (Moment.Within limit c) c (part.counted limit)
      (part.reader (limit - c.blocks) (limit - c.exprs)) := by
  obtain ⟨b, e⟩ := c
  have hP : ∀ b' ≤ max limit b, ∀ e' ≤ max limit e,
      Moment.Within limit ⟨b, e⟩ ⟨⟨b', e'⟩, false⟩ :=
    fun _ hb _ he => ⟨hb, he, nofun⟩
  have hbegin : ∀ b' ≤ max limit b, Moment.Within limit ⟨b, e⟩ ⟨⟨b', e⟩, true⟩ :=
    fun _ hb => ⟨hb, Nat.le_max_right _ _, fun _ => rfl⟩
  have hb : b ≤ max limit b := Nat.le_max_right _ _
  have he : e ≤ max limit e := Nat.le_max_right _ _
  have hlimit := Nat.le_max_left limit
  have hexpr := expression_restores (hP b hb) (hlimit e) he
  have hblock := block_restores hP hbegin (hlimit b) (hlimit e) he _ b hb rfl
  have htag := tag_restores hexpr hblock
  have hnodes := fun region => (nodesFrom_restores htag region).beginning (hbegin b hb)
  cases part with
  | nodes region => exact hnodes region
  | tag => exact htag
  | block => exact hblock
  | conditional => exact conditional_restores hexpr hnodes
  | loop => exact loop_restores hexpr hnodes
  | expression => exact hexpr
  | arguments => exact arguments_restores hexpr

/-- Whatever the counters are, reading a part with them comes to an end, as soon as enough calls may
be made, without a counter falling below zero; it reads what the library reads with what they leave
of the limit, and restores them. On the way they stay within the limit. So for a whole template,
which begins with nothing open, they never pass the limit, and no expression is open where a region
or a block begins. -/
theorem counters_balanced (limit : Nat) :
    (∀ (part : Part) (t : Reading), ∃ moments enough,
      (∀ m ∈ moments, m.Within limit t.counters) ∧ ∀ calls ≥ enough,
        let r := (part.reader (limit - t.counters.blocks) (limit - t.counters.exprs)).run t.rest
        part.counted limit calls t = some (r.1, ⟨r.2, t.counters, t.moments ++ moments⟩)) ∧
    ∀ s : String, ∃ moments enough,
      (∀ m ∈ moments, m.counters.blocks ≤ limit ∧ m.counters.exprs ≤ limit ∧
        (m.begins = true → m.counters.exprs = 0)) ∧
      ∀ calls ≥ enough, nodes limit .outermost calls ⟨s.toList, ⟨0, 0⟩, []⟩ =
        some ((Template.parse ⟨limit, none⟩ s).nodes, ⟨[], ⟨0, 0⟩, moments⟩) := by
  refine ⟨fun part t => ?_, fun s => ?_⟩
  · obtain ⟨moments, enough, hmoments, hread⟩ := part_restores limit t.counters part t.rest
    exact ⟨moments, enough, hmoments, fun calls hcalls => hread calls hcalls t.moments⟩
  · obtain ⟨moments, enough, hmoments, hread⟩ :=
      part_restores limit ⟨0, 0⟩ (.nodes .outermost) s.toList
    have hnodes := congrArg Template.nodes (Template.parse_eq limit s)
    have hrest := nodes_outermost (Reader.tag limit (Reader.block limit limit)) s.toList
    refine ⟨moments, enough, fun m hm => ?_, fun calls hcalls => ?_⟩
    · obtain ⟨hblocks, hexprs, hbegins⟩ := hmoments m hm
      rw [Nat.max_zero] at hblocks hexprs
      exact ⟨hblocks, hexprs, hbegins⟩
    · refine (hread calls hcalls []).trans (congrArg some (Prod.ext hnodes.symm ?_))
      exact congrArg (Reading.mk · ⟨0, 0⟩ moments) hrest

-- the pipe within the call is closed before the one behind it opens
example :
    ((expression 3 20 ⟨"f(a | b) | g".toList, ⟨0, 0⟩, []⟩).map fun p =>
      p.2.moments.map fun m => m.counters.exprs) = some [1, 2, 3, 1, 2, 0] := by
  decide +kernel

end Counted

end Stencil
