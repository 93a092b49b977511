import Stencil.CommandLine.Run
import Stencil.Proofs.Checking.Reports
import Stencil.Proofs.Tree.ReadTemplate

/-!
# Problems as lines

The program reports each problem of a template on a line of its own. Such a line never has a break
inside (`isLine_problemLine`): of a template that has been read, the names of calls are words, what
stands for a malformed tag has at most a word in it, and the steps of a path are made of indices.

That names are words holds of all expressions of the template. It is brought to a flaw along the
path to its place (`Place.Every.follow?`) and from there along the turns to its call
(`Expr.Every.follow?`).
-/

namespace Stencil

namespace Text

/-- A text that is one line. -/
def IsLine (s : String) : Prop :=
  '\n' ∉ s.toList

instance (s : String) : Decidable (IsLine s) :=
  inferInstanceAs (Decidable (¬ '\n' ∈ s.toList))

variable {s t : String}

/-- Two texts without a line break have none together. -/
lemma IsLine.append (hs : IsLine s) (ht : IsLine t) : IsLine (s ++ t) := by
  rw [IsLine, String.toList_append, List.mem_append]
  exact not_or.mpr ⟨hs, ht⟩

/-- There is no line break in a word. -/
lemma isLine_of_isWord (h : isWord s = true) : IsLine s := fun hmem =>
  absurd (List.all_eq_true.mp h _ hmem) (by decide)

/-- There is no line break in a number. -/
lemma isLine_repr (n : Nat) : IsLine n.repr := fun hmem => by
  rw [Nat.toList_repr] at hmem
  exact absurd (Nat.isDigit_of_mem_toDigits (by decide) (by decide) hmem) (by decide)

/-- There is no line break in joined texts if there is none in the parts and between them. -/
lemma isLine_intercalate {separator : String} (hseparator : IsLine separator)
    {parts : List String} (h : ∀ part ∈ parts, IsLine part) :
    IsLine (separator.intercalate parts) := by
  induction parts with
  | nil => exact List.not_mem_nil
  | cons part rest ih =>
    obtain ⟨hpart, hrest⟩ := List.forall_mem_cons.mp h
    cases rest with
    | nil => rwa [String.intercalate_singleton]
    | cons next more =>
      rw [String.intercalate_cons_cons]
      exact (hpart.append hseparator).append (ih hrest)

end Text

open Text

section
variable {p : Expr → Prop}

/-- What holds of all parts of an expression holds of those behind a turn. -/
lemma Expr.Every.turn? {e inner : Expr} (h : e.Every p) {turn : Turn}
    (hturn : e.turn? turn = some inner) : inner.Every p := by
  cases h with
  | literal _ => cases hturn
  | path _ => cases hturn
  | call _ hargs =>
    cases turn with
    | input => cases hturn
    | argument i => exact hargs inner (List.mem_of_getElem? hturn)
  | pipe _ hinput hargs =>
    cases turn with
    | input =>
      cases hturn
      exact hinput
    | argument i => exact hargs inner (List.mem_of_getElem? hturn)

/-- What holds of all parts of an expression holds of those behind some turns. -/
lemma Expr.Every.follow? {e inner : Expr} (h : e.Every p) {turns : List Turn}
    (hfollow : e.follow? turns = some inner) : inner.Every p := by
  induction turns generalizing e with
  | nil =>
    cases hfollow
    exact h
  | cons turn turns ih =>
    obtain ⟨next, hturn, hnext⟩ := Option.bind_eq_some_iff.mp hfollow
    exact ih (h.turn? hturn) hnext

variable (p) in
/-- A property of the expressions in all tags of a place. -/
def Place.Every : Place → Prop
  | region ns => ∀ n ∈ ns, n.Every (fun _ => True) p
  | node n => n.Every (fun _ => True) p
  | branch condition body => p condition ∧ ∀ n ∈ body, n.Every (fun _ => True) p

namespace Place

variable {place inner : Place}

/-- What holds of all expressions of a place holds of those behind a step. -/
lemma Every.step? (h : place.Every p) {step : Step} (hstep : place.step? step = some inner) :
    inner.Every p := by
  revert hstep
  fun_cases Place.step? place step with
  | case1 ns i =>
    intro hstep
    obtain ⟨n, hn, rfl⟩ := Option.map_eq_some_iff.mp hstep
    exact h n (List.mem_of_getElem? hn)
  | case2 _ body i =>
    intro hstep
    obtain ⟨n, hn, rfl⟩ := Option.map_eq_some_iff.mp hstep
    exact h.2 n (List.mem_of_getElem? hn)
  | case3 branches _ i =>
    intro hstep
    obtain ⟨b, hb, rfl⟩ := Option.map_eq_some_iff.mp hstep
    have hmem := List.mem_of_getElem? hb
    cases h with
    | conditional hconditions _ hbodies _ _ => exact ⟨hconditions b hmem, hbodies b hmem⟩
  | case4 _ fallback =>
    intro hstep
    obtain ⟨ns, hns, rfl⟩ := Option.map_eq_some_iff.mp hstep
    cases h with
    | conditional _ _ _ _ hfallback => exact hfallback ns hns
  | case5 _ _ _ body _ =>
    rintro ⟨⟩
    cases h with
    | loop _ _ hbody _ _ => exact hbody
  | case6 _ _ _ _ fallback =>
    intro hstep
    obtain ⟨ns, hns, rfl⟩ := Option.map_eq_some_iff.mp hstep
    cases h with
    | loop _ _ _ _ hfallback => exact hfallback ns hns
  | case7 => nofun

/-- What holds of all expressions of a place holds of those behind some steps. -/
lemma Every.follow? (h : place.Every p) {path : List Step}
    (hfollow : place.follow? path = some inner) : inner.Every p := by
  induction path generalizing place with
  | nil =>
    cases hfollow
    exact h
  | cons step path ih =>
    obtain ⟨next, hstep, hnext⟩ := Option.bind_eq_some_iff.mp hfollow
    exact ih (h.step? hstep) hnext

/-- What holds of all expressions of a place holds of its own. -/
lemma Every.expr? (h : place.Every p) {e : Expr} (he : place.expr? = some e) : p e := by
  revert he
  fun_cases Place.expr? place with
  | case1 _ _ =>
    rintro ⟨⟩
    cases h with
    | interpolation hp => exact hp
  | case2 _ _ _ _ _ =>
    rintro ⟨⟩
    cases h with
    | loop hp _ _ _ _ => exact hp
  | case3 _ _ =>
    rintro ⟨⟩
    exact h.1
  | case4 => nofun

end Place

end

/-- What takes the place of a malformed tag is one line. -/
lemma IsRecovery.isLine {s : String} (h : IsRecovery s) : IsLine s := by
  obtain rfl | rfl | rfl | ⟨w, hw, rfl⟩ := h
  · decide
  · decide
  · decide
  · exact ((by decide : IsLine "[Error: unknown block #").append (isLine_of_isWord hw)).append
      (by decide)

/-- The name of a call that has been read is a word. -/
lemma isWord_name_of_formedExpr {c : Call} (h : FormedExpr c.expr) : isWord c.name = true := by
  have hformed := h.self
  cases c with
  | direct name args =>
    simp only [Call.expr, Expr.isFormed, isFirstName, isName, Bool.and_eq_true] at hformed
    exact hformed.1.1.1.1.2
  | piped input name args => exact hformed

/-- What a registry lacks for a call with a word for its name is told in one line. -/
lemma Registry.Lacks.isLine_message {registry : Registry} {c : Call} {flaw : Flaw}
    (h : registry.Lacks c flaw) (hname : isWord c.name = true) : IsLine flaw.message := by
  have hline := isLine_of_isWord hname
  cases h with
  | unknown _ =>
    exact ((by decide : IsLine "Unknown function ").append hline).append (by decide)
  | @short b _ _ =>
    have hneeded := (hline.append (by decide : IsLine "() needs ")).append (isLine_repr b.minArgs)
    have hsupplied :=
      (hneeded.append (by decide : IsLine " args but ")).append (isLine_repr c.supplied)
    exact hsupplied.append (by decide)

/-- There is no line break in the message of a problem of a template that has been read. -/
lemma Place.Owns.isLine_message {registry : Registry} {place : Place} {spot : Spot} {flaw : Flaw}
    (h : place.Owns registry spot flaw) (hformed : place.Every FormedExpr) :
    IsLine flaw.message := by
  cases h with
  | text hs => exact (by decide : IsLine "Malformed tag: ").append hs.isLine
  | call he hflaw =>
    obtain ⟨c, hc, hlacks⟩ := hflaw
    exact hlacks.isLine_message (isWord_name_of_formedExpr ((hformed.expr? he).follow? hc))
  | binding _ => exact (by decide : IsLine "#each binding name is empty")

/-- There is no line break in a step. -/
lemma Step.isLine_text (step : Step) : IsLine step.text := by
  cases step with
  | node i => exact ((by decide : IsLine "[").append (isLine_repr i)).append (by decide)
  | branch i => exact ((by decide : IsLine "if[").append (isLine_repr i)).append (by decide)
  | _ => decide

/-- Whatever it is about, a flaw has a code of one line. -/
lemma Flaw.isLine_code (flaw : Flaw) : IsLine flaw.code := by
  cases flaw with
  | malformedTag _ => exact (by decide : IsLine "inline-error")
  | emptyBinding => exact (by decide : IsLine "empty-binding")
  | unknownFunction _ => exact (by decide : IsLine "unknown-function")
  | tooFewArguments _ _ _ => exact (by decide : IsLine "too-few-args")

/-- The expressions of a template that has been read are formed. -/
lemma Template.parse_formedExpr (limits : Limits) (s : String) :
    (parse limits s).Every (fun _ => True) FormedExpr := by
  have hexpr : (Reader.head limits.depth).Yields FormedExpr :=
    formedExpr_invariant.head_yields (.literal rfl)
  exact parse_every hexpr (fun _ _ _ => trivial) trivial s

/-- A problem of a template that has been read is reported on one line. -/
lemma isLine_problemLine {limits : Limits} {s : String} {registry : Registry} {p : Problem}
    (h : p ∈ (Template.parse limits s).check registry) :
    IsLine (CommandLine.problemLine p) := by
  obtain ⟨entries, -, hmem, hcheck⟩ := (Template.parse limits s).check_lists registry
  rw [hcheck] at h
  obtain ⟨⟨site, flaw⟩, hentry, rfl⟩ := List.mem_map.mp h
  obtain ⟨place, hfollow, howns⟩ := (hmem site flaw).mp hentry
  have hformed : (Place.region (Template.parse limits s).nodes).Every FormedExpr :=
    (Template.parse_formedExpr limits s).2
  have hmessage := howns.isLine_message (hformed.follow? hfollow)
  have hpath : IsLine ("/".intercalate (site.path.map Step.text)) := by
    refine isLine_intercalate (by decide) fun part hpart => ?_
    obtain ⟨step, -, rfl⟩ := List.mem_map.mp hpart
    exact step.isLine_text
  have hcode := (by decide : IsLine "[").append flaw.isLine_code
  exact (((hcode.append (by decide : IsLine "] ")).append hmessage).append
    (by decide : IsLine " at /")).append hpath

end Stencil
