import Stencil.Proofs.Checking.Listing

/-!
# What the check reports

The check has one entry for each site that has a flaw and no other, at the path of the site, in the
order of a walk (`Template.check_lists_sites`). So an entry is not only right: its path leads from
the nodes of the template to the node or the branch that has the flaw itself.

The check recurses over the tree, flaws are found by following paths. What a path can lead to is
therefore taken apart first, one lemma for each kind of node and of expression: either it ends here,
or its first step goes to a part (`Expr.flawed_call`, `Place.flawed_loop` and the others). The check
then puts together the listings of the parts.
-/

namespace Stencil

section
variable {registry : Registry} {flaw : Flaw}

/-- A turn to an argument, in front of more turns. -/
def argumentTurn (i : Nat) (turns : List Turn) : List Turn :=
  .argument i :: turns

/-- A flaw behind a turn is one of the expression there. -/
lemma Expr.flawed_cons {e : Expr} {turn : Turn} {turns : List Turn} :
    e.Flawed registry (turn :: turns) flaw ↔
      ∃ inner, e.turn? turn = some inner ∧ inner.Flawed registry turns flaw := by
  constructor
  · rintro ⟨c, hfollow, hlacks⟩
    obtain ⟨inner, hturn, hinner⟩ := Option.bind_eq_some_iff.mp hfollow
    exact ⟨inner, hturn, c, hinner, hlacks⟩
  · rintro ⟨inner, hturn, c, hinner, hlacks⟩
    exact ⟨c, Option.bind_eq_some_iff.mpr ⟨inner, hturn, hinner⟩, hlacks⟩

/-- Neither a literal nor a path has a flaw. -/
lemma Expr.not_flawed {e : Expr} (hturn : ∀ turn, e.turn? turn = none)
    (hcall : ∀ c : Call, e ≠ c.expr) (turns : List Turn) (flaw : Flaw) :
    ¬e.Flawed registry turns flaw := by
  cases turns with
  | nil =>
    rintro ⟨c, hc, _⟩
    exact hcall c (Option.some.inj hc)
  | cons turn turns =>
    rw [flawed_cons, hturn]
    rintro ⟨inner, hinner, _⟩
    cases hinner

/-- A call has its own flaw and those of its arguments. -/
lemma Expr.flawed_call {name : String} {args : List Expr} {turns : List Turn} :
    (Expr.call name args).Flawed registry turns flaw ↔
      (turns = [] ∧ registry.Lacks (.direct name args) flaw) ∨
        Indexed argumentTurn (Expr.Flawed registry) 0 args turns flaw := by
  rw [indexed_zero]
  constructor
  · intro h
    cases turns with
    | nil =>
      obtain ⟨c, hc, hlacks⟩ := h
      cases c with
      | direct _ _ =>
        cases hc
        exact .inl ⟨rfl, hlacks⟩
      | piped _ _ _ => cases hc
    | cons turn turns =>
      obtain ⟨inner, hturn, hinner⟩ := flawed_cons.mp h
      cases turn with
      | input => cases hturn
      | argument k => exact .inr ⟨k, inner, turns, hturn, rfl, hinner⟩
  · rintro (⟨rfl, hlacks⟩ | ⟨k, inner, turns, hinner, rfl, hflaw⟩)
    · exact ⟨.direct name args, rfl, hlacks⟩
    · exact flawed_cons.mpr ⟨inner, hinner, hflaw⟩

/-- A pipe has the flaws of its input, its own and those of its arguments. -/
lemma Expr.flawed_pipe {input : Expr} {name : String} {args : List Expr} {turns : List Turn} :
    (Expr.pipe input name args).Flawed registry turns flaw ↔
      ((∃ rest, turns = .input :: rest ∧ input.Flawed registry rest flaw) ∨
          (turns = [] ∧ registry.Lacks (.piped input name args) flaw)) ∨
        Indexed argumentTurn (Expr.Flawed registry) 0 args turns flaw := by
  rw [indexed_zero]
  constructor
  · intro h
    cases turns with
    | nil =>
      obtain ⟨c, hc, hlacks⟩ := h
      cases c with
      | direct _ _ => cases hc
      | piped _ _ _ =>
        cases hc
        exact .inl (.inr ⟨rfl, hlacks⟩)
    | cons turn turns =>
      obtain ⟨inner, hturn, hinner⟩ := flawed_cons.mp h
      cases turn with
      | input =>
        cases hturn
        exact .inl (.inl ⟨turns, rfl, hinner⟩)
      | argument k => exact .inr ⟨k, inner, turns, hturn, rfl, hinner⟩
  · rintro ((⟨rest, rfl, hflaw⟩ | ⟨rfl, hlacks⟩) | ⟨k, inner, turns, hinner, rfl, hflaw⟩)
    · exact flawed_cons.mpr ⟨input, rfl, hflaw⟩
    · exact ⟨.piped input name args, rfl, hlacks⟩
    · exact flawed_cons.mpr ⟨inner, hinner, hflaw⟩

/-- A registry lacks what a call needs just if the check finds a flaw in it. -/
lemma Registry.lacks_iff {c : Call} :
    registry.Lacks c flaw ↔ flaw ∈ registry.flaws c.name c.supplied := by
  constructor
  · rintro (hnone | ⟨hget, hlt⟩)
    · exact unknownFunction_mem_flaws.mpr ⟨rfl, hnone⟩
    · exact tooFewArguments_mem_flaws.mpr ⟨rfl, rfl, _, hget, rfl, hlt⟩
  · intro h
    have hcall := ofCall_of_mem_flaws h
    cases flaw with
    | malformedTag text => cases hcall
    | emptyBinding => cases hcall
    | unknownFunction name =>
      obtain ⟨rfl, hnone⟩ := unknownFunction_mem_flaws.mp h
      exact .unknown hnone
    | tooFewArguments name needed supplied =>
      obtain ⟨rfl, rfl, b, hget, rfl, hlt⟩ := tooFewArguments_mem_flaws.mp h
      exact .short hget hlt

/-- A call has at most one flaw of its own. -/
lemma flaws_eq (registry : Registry) (name : String) (supplied : Nat) :
    registry.flaws name supplied = [] ∨ ∃ flaw, registry.flaws name supplied = [flaw] := by
  unfold Registry.flaws
  split
  · exact .inr ⟨_, rfl⟩
  · split
    · exact .inr ⟨_, rfl⟩
    · exact .inl rfl
  · exact .inl rfl

/-- The flaws of a call itself stand where the call is. -/
lemma flaws_lists (registry : Registry) (c : Call) :
    Lists TurnsBefore (fun _ flaw => flaw) (fun turns flaw => turns = [] ∧ registry.Lacks c flaw)
      (registry.flaws c.name c.supplied) := by
  obtain h | ⟨own, h⟩ := flaws_eq registry c.name c.supplied
  · rw [h]
    refine .nil fun turns flaw => ?_
    rw [Registry.lacks_iff, h]
    exact fun hflaw => absurd hflaw.2 List.not_mem_nil
  · rw [h]
    refine .singleton fun turns flaw => and_congr_right fun _ => ?_
    rw [Registry.lacks_iff, h, List.mem_singleton]

mutual

/-- The check of an expression lists the flaws of its calls. -/
theorem checkExpr_lists (registry : Registry) (e : Expr) :
    Lists TurnsBefore (fun _ flaw => flaw) (e.Flawed registry) (checkExpr registry e) := by
  cases e with
  | literal v =>
    rw [checkExpr]
    exact .nil (Expr.not_flawed (fun turn => by cases turn <;> rfl) fun c => by cases c <;> nofun)
  | path segments =>
    rw [checkExpr]
    exact .nil (Expr.not_flawed (fun turn => by cases turn <;> rfl) fun c => by cases c <;> nofun)
  | call name args =>
    rw [checkExpr]
    refine ((flaws_lists registry (.direct name args)).append
      (checkExprs_lists registry 0 args) ?_).congr fun _ _ => Expr.flawed_call
    rintro _ _ _ _ ⟨rfl, _⟩ ⟨k, _, turns, _, rfl, _⟩
    exact trivial
  | pipe input name args =>
    rw [checkExpr]
    have hinput : Lists TurnsBefore (fun _ flaw => flaw)
        (fun turns flaw => ∃ rest, turns = .input :: rest ∧ input.Flawed registry rest flaw)
        ((checkExpr registry input).map id) :=
      (checkExpr_lists registry input).enter (.input :: ·) id (fun _ _ h => .inr ⟨rfl, h⟩)
        fun _ _ => rfl
    rw [List.map_id] at hinput
    refine ((hinput.append (flaws_lists registry (.piped input name args)) ?_).append
      (checkExprs_lists registry 0 args) ?_).congr fun _ _ => Expr.flawed_pipe
    · rintro _ _ _ _ ⟨turns, rfl, _⟩ ⟨rfl, _⟩
      exact trivial
    · -- the arguments come last, behind all that is in the input and behind the pipe itself
      rintro _ _ _ _ (⟨turns, rfl, _⟩ | ⟨rfl, _⟩) ⟨k, _, more, _, rfl, _⟩
      · exact .inl trivial
      · exact trivial

/-- The flaws that are found in some operands are those that they have, in the order of the
operands. -/
theorem checkExprs_lists (registry : Registry) (i : Nat) (es : List Expr) :
    Lists TurnsBefore (fun _ flaw => flaw) (Indexed argumentTurn (Expr.Flawed registry) i es)
      (checkExprs registry es) := by
  cases es with
  | nil =>
    rw [checkExprs]
    exact .nil not_indexed_nil
  | cons e es =>
    rw [checkExprs, ← List.map_id (checkExpr registry e)]
    exact (checkExprs_lists registry (i + 1) es).cons id (checkExpr_lists registry e)
      (fun _ _ h => .inr ⟨rfl, h⟩) (fun _ _ _ h => .inl h) fun _ _ => rfl

end

/-- A problem is a flaw at the path of its site. -/
def Site.problem (site : Site) (flaw : Flaw) : Problem :=
  ⟨site.path, flaw⟩

/-- A flaw of the expression in the tag of a place. -/
def TagFlawed (registry : Registry) (e : Expr) (site : Site) (flaw : Flaw) : Prop :=
  ∃ turns, site = ⟨[], .call turns⟩ ∧ e.Flawed registry turns flaw

/-- A flaw that is one step further inside. -/
def FlawedUnder (registry : Registry) (step : Step) (place : Place) (site : Site) (flaw : Flaw) :
    Prop :=
  ∃ inner : Site, site = inner.under step ∧ place.Flawed registry inner flaw

/-- A flaw in a fallback, if there is one. -/
def FallbackFlawed (registry : Registry) (fallback : Option (List Node)) (site : Site)
    (flaw : Flaw) : Prop :=
  ∃ ns ∈ fallback, FlawedUnder registry .fallback (.region ns) site flaw

namespace Place

/-- A flaw is one of the place itself, or one of a place that a step leads to. -/
lemma flawed_iff {place : Place} {site : Site} :
    place.Flawed registry site flaw ↔
      (site.path = [] ∧ place.Owns registry site.spot flaw) ∨
        ∃ step inner, place.step? step = some inner ∧
          FlawedUnder registry step inner site flaw := by
  obtain ⟨path, spot⟩ := site
  constructor
  · rintro ⟨inner, hfollow, howns⟩
    cases path with
    | nil =>
      cases hfollow
      exact .inl ⟨rfl, howns⟩
    | cons step path =>
      obtain ⟨next, hstep, hnext⟩ := Option.bind_eq_some_iff.mp hfollow
      exact .inr ⟨step, next, hstep, ⟨path, spot⟩, rfl, inner, hnext, howns⟩
  · rintro (⟨hpath, howns⟩ | ⟨step, next, hstep, ⟨path, spot⟩, hsite, inner, hnext, howns⟩)
    · cases hpath
      exact ⟨place, rfl, howns⟩
    · cases hsite
      exact ⟨inner, Option.bind_eq_some_iff.mpr ⟨next, hstep, hnext⟩, howns⟩

/-- What a place has itself, if that can only be the flaws of the expression in its tag. -/
lemma owns_iff_tagFlawed {place : Place} {e : Expr} {site : Site} (he : place.expr? = some e)
    (hcall : ∀ spot flaw, place.Owns registry spot flaw → ∃ turns, spot = .call turns) :
    (site.path = [] ∧ place.Owns registry site.spot flaw) ↔ TagFlawed registry e site flaw := by
  obtain ⟨path, spot⟩ := site
  constructor
  · rintro ⟨hpath, howns⟩
    obtain ⟨turns, hspot⟩ := hcall spot flaw howns
    cases hpath
    cases hspot
    cases howns with
    | call he' hflaw =>
      cases he.symm.trans he'
      exact ⟨turns, rfl, hflaw⟩
  · rintro ⟨turns, hsite, hflaw⟩
    cases hsite
    exact ⟨rfl, .call he hflaw⟩

section
variable {ns : List Node} {site : Site}

/-- Nodes side by side have no flaw as such: each belongs to one of them. -/
lemma not_owns_region {spot : Spot} : ¬(region ns).Owns registry spot flaw := by
  rintro ⟨⟩
  contradiction

/-- The flaws of nodes are those of each of them. -/
lemma flawed_region :
    (region ns).Flawed registry site flaw ↔
      Indexed (fun i => Site.under (.node i)) (fun n => (node n).Flawed registry) 0 ns site
        flaw := by
  rw [flawed_iff, indexed_zero]
  constructor
  · rintro (⟨_, howns⟩ | ⟨step, inner, hstep, under, hsite, hflaw⟩)
    · exact absurd howns not_owns_region
    · cases step with
      | node i =>
        obtain ⟨n, hn, rfl⟩ := Option.map_eq_some_iff.mp hstep
        exact ⟨i, n, under, hn, hsite, hflaw⟩
      | _ => cases hstep
  · rintro ⟨i, n, under, hn, hsite, hflaw⟩
    exact .inr ⟨.node i, node n, Option.map_eq_some_iff.mpr ⟨n, hn, rfl⟩, under, hsite, hflaw⟩

/-- The flaws of a branch are those of its condition and those of its body. -/
lemma flawed_branch {condition : Expr} :
    (branch condition ns).Flawed registry site flaw ↔
      TagFlawed registry condition site flaw ∨ (region ns).Flawed registry site flaw := by
  -- a branch leads where its body does, so only its condition is its own
  have hstep : (branch condition ns).step? = (region ns).step? := by
    funext step
    cases step <;> rfl
  rw [flawed_iff, owns_iff_tagFlawed rfl, flawed_iff, hstep]
  · exact or_congr_right (or_iff_right fun h => not_owns_region h.2).symm
  · intro spot flaw howns
    cases howns with
    | call _ _ => exact ⟨_, rfl⟩

/-- A text is flawed if it is what a malformed tag has become. -/
lemma flawed_text {s : String} :
    (node (.text s)).Flawed registry site flaw ↔
      site = ⟨[], .text⟩ ∧ IsRecovery s ∧ flaw = .malformedTag s := by
  rw [flawed_iff]
  constructor
  · rintro (⟨hpath, howns⟩ | ⟨step, inner, hstep, _⟩)
    · obtain ⟨path, spot⟩ := site
      cases hpath
      cases howns with
      | text hs => exact ⟨rfl, hs, rfl⟩
      | call he _ => cases he
    · cases step <;> cases hstep
  · rintro ⟨rfl, hs, rfl⟩
    exact .inl ⟨rfl, .text hs⟩

/-- An interpolation is flawed if its expression is. -/
lemma flawed_interpolation {e : Expr} {raw : Bool} :
    (node (.interpolation e raw)).Flawed registry site flaw ↔
      TagFlawed registry e site flaw := by
  rw [flawed_iff, owns_iff_tagFlawed rfl]
  · refine or_iff_left ?_
    rintro ⟨step, inner, hstep, _⟩
    cases step <;> cases hstep
  · intro spot flaw howns
    cases howns with
    | call _ _ => exact ⟨_, rfl⟩

/-- A conditional has no flaw itself: its conditions belong to its branches. -/
lemma not_owns_conditional {branches : List (Expr × List Node)} {fallback : Option (List Node)}
    {spot : Spot} : ¬(node (.conditional branches fallback)).Owns registry spot flaw := by
  rintro ⟨⟩
  contradiction

/-- The flaws of a conditional are those of its branches and of its fallback. -/
lemma flawed_conditional {branches : List (Expr × List Node)} {fallback : Option (List Node)} :
    (node (.conditional branches fallback)).Flawed registry site flaw ↔
      Indexed (fun i => Site.under (.branch i)) (fun b => (branch b.1 b.2).Flawed registry) 0
          branches site flaw ∨
        FallbackFlawed registry fallback site flaw := by
  rw [flawed_iff, indexed_zero]
  constructor
  · rintro (⟨_, howns⟩ | ⟨step, inner, hstep, under, hsite, hflaw⟩)
    · exact absurd howns not_owns_conditional
    · cases step with
      | branch i =>
        obtain ⟨b, hb, rfl⟩ := Option.map_eq_some_iff.mp hstep
        exact .inl ⟨i, b, under, hb, hsite, hflaw⟩
      | fallback =>
        obtain ⟨ns, hns, rfl⟩ := Option.map_eq_some_iff.mp hstep
        exact .inr ⟨ns, hns, under, hsite, hflaw⟩
      | _ => cases hstep
  · rintro (⟨i, b, under, hb, hsite, hflaw⟩ | ⟨ns, hns, hinside⟩)
    · exact .inr ⟨.branch i, branch b.1 b.2, Option.map_eq_some_iff.mpr ⟨b, hb, rfl⟩, under, hsite,
        hflaw⟩
    · exact .inr ⟨.fallback, region ns, Option.map_eq_some_iff.mpr ⟨ns, hns, rfl⟩, hinside⟩

/-- The flaws of a loop are those of its source, an empty name, and those of its body and of its
fallback. -/
lemma flawed_loop {source : Expr} {item : String} {index : Option String}
    {fallback : Option (List Node)} :
    (node (.loop source item index ns fallback)).Flawed registry site flaw ↔
      ((TagFlawed registry source site flaw ∨
            site = ⟨[], .binding⟩ ∧ (item = "" ∨ index = some "") ∧ flaw = .emptyBinding) ∨
          FlawedUnder registry .body (region ns) site flaw) ∨
        FallbackFlawed registry fallback site flaw := by
  rw [flawed_iff]
  constructor
  · rintro (⟨hpath, howns⟩ | ⟨step, inner, hstep, hinside⟩)
    · obtain ⟨path, spot⟩ := site
      cases hpath
      cases howns with
      | call he hflaw =>
        cases he
        exact .inl (.inl (.inl ⟨_, rfl, hflaw⟩))
      | binding hempty => exact .inl (.inl (.inr ⟨rfl, hempty, rfl⟩))
    · cases step with
      | body =>
        cases hstep
        exact .inl (.inr hinside)
      | fallback =>
        obtain ⟨ns, hns, rfl⟩ := Option.map_eq_some_iff.mp hstep
        exact .inr ⟨ns, hns, hinside⟩
      | _ => cases hstep
  · rintro (((⟨turns, rfl, hflaw⟩ | ⟨rfl, hempty, rfl⟩) | hinside) | ⟨ns, hns, hinside⟩)
    · exact .inl ⟨rfl, .call rfl hflaw⟩
    · exact .inl ⟨rfl, .binding hempty⟩
    · exact .inr ⟨.body, _, rfl, hinside⟩
    · exact .inr ⟨.fallback, region ns, Option.map_eq_some_iff.mpr ⟨ns, hns, rfl⟩, hinside⟩

end

end Place

/-- The flaws of the expression in a tag are reported where the tag is. -/
lemma tag_lists (registry : Registry) (e : Expr) :
    Lists Site.Before Site.problem (TagFlawed registry e) (problemsHere (checkExpr registry e)) :=
  (checkExpr_lists registry e).enter (fun turns => Site.mk [] (.call turns)) (Problem.mk [])
    (fun _ _ h => h) fun _ _ => rfl

/-- What is reported of a place is reported of the place around it, one step further out. -/
lemma under_lists {place : Place} {problems : List Problem} (step : Step)
    (h : Lists Site.Before Site.problem (place.Flawed registry) problems) :
    Lists Site.Before Site.problem (FlawedUnder registry step place)
      (problems.map (.under step)) :=
  h.enter (Site.under step) (Problem.under step) (fun _ _ h => h.under step) fun _ _ => rfl

/-- A flaw in the tag of a place comes before those that are further inside. -/
lemma TagFlawed.before_under {e : Expr} {site inner : Site} (h : TagFlawed registry e site flaw)
    (step : Step) : site.Before (inner.under step) := by
  obtain ⟨turns, rfl, _⟩ := h
  exact Site.before_under rfl

mutual

/-- The check of a node lists its flaws. -/
theorem checkNode_lists (registry : Registry) (n : Node) :
    Lists Site.Before Site.problem ((Place.node n).Flawed registry) (checkNode registry n) := by
  cases n with
  | text s =>
    rw [checkNode]
    by_cases hs : isRecoveryText s = true
    · rw [if_pos hs]
      refine .singleton (a := Site.mk [] .text) fun site flaw => ?_
      rw [Place.flawed_text, ← isRecoveryText_iff, and_iff_right hs]
    · rw [if_neg hs]
      refine .nil fun site flaw => ?_
      rw [Place.flawed_text, ← isRecoveryText_iff]
      exact fun h => hs h.2.1
  | interpolation e raw =>
    rw [checkNode]
    exact (tag_lists registry e).congr fun _ _ => Place.flawed_interpolation
  | conditional branches fallback =>
    rw [checkNode]
    refine ((checkBranches_lists registry 0 branches).append
      (checkFallback_lists registry fallback) ?_).congr fun _ _ => Place.flawed_conditional
    rintro _ _ _ _ ⟨i, b, inner, _, rfl, _⟩ ⟨ns, _, other, rfl, _⟩
    exact Site.under_before_under trivial
  | loop source item index body fallback =>
    rw [checkNode]
    have hbinding : Lists Site.Before Site.problem
        (fun site flaw => site = ⟨[], .binding⟩ ∧ (item = "" ∨ index = some "") ∧
          flaw = .emptyBinding)
        (problemsHere (if item = "" ∨ index = some "" then [.emptyBinding] else [])) := by
      split
      · case isTrue h =>
        exact .singleton (a := Site.mk [] .binding) fun site flaw => by rw [and_iff_right h]
      · case isFalse h => exact .nil fun site flaw hsite => h hsite.2.1
    -- source, names, body, fallback: each part comes before all those behind it
    refine ((((tag_lists registry source).append hbinding ?_).append
      (under_lists .body (checkNodes_lists registry body)) ?_).append
        (checkFallback_lists registry fallback) ?_).congr fun _ _ => Place.flawed_loop
    · rintro _ _ _ _ ⟨turns, rfl, _⟩ ⟨rfl, _⟩
      exact trivial
    · rintro _ _ _ _ (htag | ⟨rfl, _⟩) ⟨inner, rfl, _⟩
      · exact htag.before_under _
      · exact Site.before_under rfl
    · rintro _ _ _ _ ((htag | ⟨rfl, _⟩) | ⟨inner, rfl, _⟩) ⟨ns, _, other, rfl, _⟩
      · exact htag.before_under _
      · exact Site.before_under rfl
      · exact Site.under_before_under trivial

/-- The problems that are found in some nodes are those that they have, in the order of the nodes.
-/
theorem checkNodesFrom_lists (registry : Registry) (i : Nat) (ns : List Node) :
    Lists Site.Before Site.problem
      (Indexed (fun i => Site.under (.node i)) (fun n => (Place.node n).Flawed registry) i ns)
      (checkNodes registry i ns) := by
  cases ns with
  | nil =>
    rw [checkNodes]
    exact .nil not_indexed_nil
  | cons n ns =>
    rw [checkNodes]
    exact (checkNodesFrom_lists registry (i + 1) ns).cons (.under (.node i))
      (checkNode_lists registry n) (fun _ _ h => h.under _)
      (fun _ _ _ h => Site.under_before_under h) fun _ _ => rfl

/-- The check of some nodes lists their flaws. -/
theorem checkNodes_lists (registry : Registry) (ns : List Node) :
    Lists Site.Before Site.problem ((Place.region ns).Flawed registry)
      (checkNodes registry 0 ns) :=
  (checkNodesFrom_lists registry 0 ns).congr fun _ _ => Place.flawed_region

/-- The problems that are found in some branches are those that they have, in the order of the
branches. -/
theorem checkBranches_lists (registry : Registry) (i : Nat)
    (branches : List (Expr × List Node)) :
    Lists Site.Before Site.problem
      (Indexed (fun i => Site.under (.branch i)) (fun b => (Place.branch b.1 b.2).Flawed registry) i
        branches)
      (checkBranches registry i branches) := by
  cases branches with
  | nil =>
    rw [checkBranches]
    exact .nil not_indexed_nil
  | cons branch rest =>
    obtain ⟨condition, body⟩ := branch
    rw [checkBranches]
    refine (checkBranches_lists registry (i + 1) rest).cons (.under (.branch i)) ?_
      (fun _ _ h => h.under _) (fun _ _ _ h => Site.under_before_under h) fun _ _ => rfl
    refine ((tag_lists registry condition).append (checkNodes_lists registry body) ?_).congr
      fun _ _ => Place.flawed_branch
    intro site flaw other more htag hbody
    obtain ⟨i, n, inner, _, rfl, _⟩ := Place.flawed_region.mp hbody
    exact htag.before_under _

/-- The problems that are found in a fallback are those that it has. -/
theorem checkFallback_lists (registry : Registry) (fallback : Option (List Node)) :
    Lists Site.Before Site.problem (FallbackFlawed registry fallback)
      (checkFallback registry fallback) := by
  cases fallback with
  | none =>
    rw [checkFallback]
    refine .nil fun site flaw => ?_
    rintro ⟨ns, hns, _⟩
    cases hns
  | some ns =>
    rw [checkFallback]
    refine (under_lists .fallback (checkNodes_lists registry ns)).congr fun site flaw => ?_
    constructor
    · rintro ⟨_, hns, h⟩
      cases hns
      exact h
    · exact fun h => ⟨ns, rfl, h⟩

end

end

/-- The check of a template lists the flaws of its sites. -/
lemma Template.check_lists (template : Template) (registry : Registry) :
    Lists Site.Before Site.problem (template.Flawed registry) (template.check registry) :=
  checkNodes_lists registry template.nodes

/-- The check reports each flawed site of a template once, and nothing else: its entries are the
flaws of different sites, with the paths of these sites, in the order of a walk; and every flawed
site is among them. The path of an entry leads from the nodes of the template to the node or the
branch that has the flaw itself, and the words of its steps tell the steps apart. -/
theorem Template.check_lists_sites (template : Template) (registry : Registry) :
    (∃ entries : List (Site × Flaw),
      template.check registry = entries.map (fun e => ⟨e.1.path, e.2⟩) ∧
      (∀ site flaw, (site, flaw) ∈ entries ↔ template.Flawed registry site flaw) ∧
      (entries.map Prod.fst).Nodup ∧ (entries.map Prod.fst).Pairwise Site.Before) ∧
    (∀ p ∈ template.check registry, ∃ place spot,
      (Place.region template.nodes).follow? p.path = some place ∧
        (∀ ns, place ≠ .region ns) ∧ place.Owns registry spot p.flaw) ∧
    Function.Injective Step.text := by
  obtain ⟨entries, hordered, hmem, hcheck⟩ := template.check_lists registry
  have hsites : (entries.map Prod.fst).Pairwise Site.Before := List.pairwise_map.mpr hordered
  refine ⟨⟨entries, hcheck, hmem, ?_, hsites⟩, fun p hp => ?_, Step.text_injective⟩
  · -- a site that stood twice would come before itself
    refine hsites.imp fun hbefore heq => ?_
    subst heq
    exact hbefore.asymm hbefore
  · rw [hcheck] at hp
    obtain ⟨⟨site, flaw⟩, hentry, rfl⟩ := List.mem_map.mp hp
    obtain ⟨place, hfollow, howns⟩ := (hmem site flaw).mp hentry
    -- a path may also end between nodes, but nothing is wrong there
    refine ⟨place, site.spot, hfollow, ?_, howns⟩
    rintro ns rfl
    exact Place.not_owns_region howns

/-- In the second branch of a conditional: the input of a pipe, the pipe and its argument, then a
loop with an empty name and a text in its fallback. -/
example :
    (Template.check ⟨[.text "a", .conditional
        [(.path ["c"], []),
          (.pipe (.call "f" []) "g" [.call "not" []],
            [.loop (.path ["xs"]) "" none [] (some [.text Fault.tooDeep.message])])]
        none]⟩ .standard).map (fun p => (p.path.map Step.text, p.flaw.code)) =
      [(["[1]", "if[1]"], "unknown-function"), (["[1]", "if[1]"], "unknown-function"),
        (["[1]", "if[1]"], "too-few-args"), (["[1]", "if[1]", "[0]"], "empty-binding"),
        (["[1]", "if[1]", "[0]", "else", "[0]"], "inline-error")] := by
  decide +kernel

end Stencil
