import Stencil.Proofs.Checking.Calls
import Stencil.Proofs.Rendering.Congruence
import Stencil.Proofs.Scope.Names

/-!
# Renders along a renaming

Two scopes agree along a renaming if the one shows under each name what the other shows under the
new name. A tree and the renamed tree then render alike, the one with the first scope and the other
with the second, if three things hold (`renderNodes_rename`): the scopes agree on the free names of
the tree, the two registries hold the same functions for its calls, and no name is renamed to one
that a loop inside binds.

There are two main statements. Without a renaming it says that a render depends on nothing but the
functions that the template calls and the data under its free names. With one registry, and scopes
that differ in the name of an item, it says that the name given to the items of a loop does not
matter.
-/

namespace Stencil

/-- Two registries hold the same function, or none, for each of some calls. -/
def Registry.Agree (r₁ r₂ : Registry) (calls : List Occurrence) : Prop :=
  ∀ o ∈ calls, r₁.get? o.call.name = r₂.get? o.call.name

/-- Two scopes agree on some names along a renaming. -/
def Scope.Agree (s₁ s₂ : Scope) (ρ : String → String) (names : List String) : Prop :=
  ∀ name ∈ names, s₁.lookup name = s₂.lookup (ρ name)

/-- A renaming captures nothing: only a bound name itself is renamed to a bound name. -/
def NoCapture (ρ : String → String) (bound : List String) : Prop :=
  ∀ b ∈ bound, ∀ name, ρ name = b → name = b

section
variable {r₁ r₂ : Registry} {s₁ s₂ : Scope} {ρ : String → String}

/-- Whether registries agree on calls does not depend on the way to them. -/
lemma Registry.agree_map_under {step : Step} {calls : List Occurrence} :
    r₁.Agree r₂ (calls.map (.under step)) ↔ r₁.Agree r₂ calls :=
  List.forall_mem_map

/-- Registries agree on the calls of an expression where it stands if they do on its calls. -/
lemma Registry.agree_callsHere {e : Expr} :
    r₁.Agree r₂ (callsHere e) ↔ ∀ c ∈ e.calls, r₁.get? c.name = r₂.get? c.name :=
  List.forall_mem_map

/-- A renaming that leaves more names as they are captures no more. -/
lemma noCapture_keepNames {bound : List String} (h : NoCapture ρ bound) (names : List String) :
    NoCapture (keepNames names ρ) bound := by
  intro b hb name hname
  unfold keepNames at hname
  split at hname
  · exact hname
  · exact h b hb name hname

/-- A new name that no loop binds is not captured. -/
lemma noCapture_replaceName {old new : String} {bound : List String} (h : new ∉ bound) :
    NoCapture (replaceName old new) bound := by
  intro b hb name hname
  unfold replaceName at hname
  split at hname
  · exact absurd (hname ▸ hb) h
  · exact hname

/-- In a round of a loop, scopes agree on the names in its body if they agree outside on those that
the loop does not bind. -/
lemma Scope.Agree.push {item : String} {index : Option String} {names : List String}
    (h : s₁.Agree s₂ ρ (names.filter (· ∉ loopNames item index)))
    (hρ : NoCapture ρ (loopNames item index)) (v : Value) (i : Nat) :
    (s₁.push ⟨item, v, index.map fun name => (name, i)⟩).Agree
      (s₂.push ⟨item, v, index.map fun name => (name, i)⟩)
      (keepNames (loopNames item index) ρ) names := by
  intro name hname
  rw [lookup_push, lookup_push, keepNames]
  by_cases hbound : name ∈ loopNames item index
  · obtain ⟨w, hw⟩ := Option.ne_none_iff_exists'.mp
      (mt Frame.get?_eq_none_iff.mp (not_not_intro hbound))
    rw [if_pos hbound, hw, Option.some_or, Option.some_or]
  · -- outside the loop's names the frames are silent, also under the new name
    have hnew : ρ name ∉ loopNames item index := fun hmem => hbound (hρ _ hmem name rfl ▸ hmem)
    rw [if_neg hbound, Frame.get?_eq_none_iff.mpr hbound, Frame.get?_eq_none_iff.mpr hnew,
      Option.none_or, Option.none_or]
    exact h name (List.mem_filter.mpr ⟨hname, decide_eq_true hbound⟩)

end

section
variable {r₁ r₂ : Registry} {s₁ s₂ : Scope} {ρ : String → String}

mutual

/-- An expression and the renamed expression have one value and make the same host calls. -/
theorem evaluate_rename (e : Expr) (hcalls : ∀ c ∈ e.calls, r₁.get? c.name = r₂.get? c.name)
    (hnames : s₁.Agree s₂ ρ e.heads) : evaluate r₁ s₁ e = evaluate r₂ s₂ (e.rename ρ) := by
  cases e with
  | literal v => rw [Expr.rename, evaluate_literal, evaluate_literal]
  | path segments =>
    rw [Expr.rename, evaluate_path, evaluate_path]
    cases segments with
    | nil => rfl
    | cons name rest =>
      have hname : s₁.lookup name = s₂.lookup (ρ name) := hnames name (List.mem_singleton_self name)
      rw [List.modifyHead_cons, Scope.resolve, Scope.resolve, hname]
  | call name args =>
    obtain ⟨hname, hargs⟩ := List.forall_mem_cons.mp hcalls
    rw [Expr.rename, evaluate_call, evaluate_call, operands_rename args hargs hnames]
    exact Registry.call_congr hname _
  | pipe input name args =>
    obtain ⟨hinput, hcalls⟩ := List.forall_mem_append.mp hcalls
    obtain ⟨hname, hargs⟩ := List.forall_mem_cons.mp hcalls
    obtain ⟨hninput, hnargs⟩ := List.forall_mem_append.mp hnames
    rw [Expr.rename, evaluate_pipe, evaluate_pipe, evaluate_rename input hinput hninput,
      operands_rename args hargs hnargs]
    exact Registry.call_congr hname _

/-- Expressions and the renamed ones have one value each as operands and make the same host calls.
-/
theorem operands_rename (es : List Expr)
    (hcalls : ∀ c ∈ callsOf es, r₁.get? c.name = r₂.get? c.name)
    (hnames : s₁.Agree s₂ ρ (headsOf es)) :
    operands r₁ s₁ es = operands r₂ s₂ (renameExprs ρ es) := by
  cases es with
  | nil => rw [renameExprs, operands_nil, operands_nil]
  | cons e es =>
    obtain ⟨he, hes⟩ := List.forall_mem_append.mp hcalls
    obtain ⟨hne, hnes⟩ := List.forall_mem_append.mp hnames
    rw [renameExprs, operands_cons, operands_cons, evaluate_rename e he hne,
      operands_rename es hes hnes]

end

end

section
variable {r₁ r₂ : Registry}

mutual

/-- A node and the renamed node render alike. -/
theorem renderNode_rename (n : Node) {s₁ s₂ : Scope} {ρ : String → String}
    (hcalls : r₁.Agree r₂ (nodeCalls n)) (hnames : s₁.Agree s₂ ρ n.free)
    (hbound : NoCapture ρ n.bound) : renderNode r₁ s₁ n = renderNode r₂ s₂ (n.rename ρ) := by
  cases n with
  | text s => rw [Node.rename, renderNode_text, renderNode_text]
  | interpolation e raw =>
    exact renderNode_interpolation_congr
      (evaluate_rename e (Registry.agree_callsHere.mp hcalls) hnames) raw
  | conditional branches fallback =>
    obtain ⟨hcbranches, hcfallback⟩ := List.forall_mem_append.mp hcalls
    obtain ⟨hnbranches, hnfallback⟩ := List.forall_mem_append.mp hnames
    obtain ⟨hbbranches, hbfallback⟩ := List.forall_mem_append.mp hbound
    exact renderNode_conditional_congr
      (renderBranches_rename 0 branches hcbranches hnbranches hbbranches)
      (renderFallback_rename fallback hcfallback hnfallback hbfallback)
  | loop source item index body fallback =>
    obtain ⟨hcalls, hcfallback⟩ := List.forall_mem_append.mp hcalls
    obtain ⟨hcsource, hcbody⟩ := List.forall_mem_append.mp hcalls
    obtain ⟨hnames, hnfallback⟩ := List.forall_mem_append.mp hnames
    obtain ⟨hnsource, hnbody⟩ := List.forall_mem_append.mp hnames
    obtain ⟨hbound, hbfallback⟩ := List.forall_mem_append.mp hbound
    obtain ⟨hbloop, hbbody⟩ := List.forall_mem_append.mp hbound
    refine renderNode_loop_congr
      (evaluate_rename source (Registry.agree_callsHere.mp hcsource) hnsource) (fun v i => ?_)
      (renderFallback_rename fallback hcfallback hnfallback hbfallback)
    exact renderNodes_rename 0 body (Registry.agree_map_under.mp hcbody)
      (Scope.Agree.push hnbody hbloop v i) (noCapture_keepNames hbbody _)

/-- Nodes and the renamed nodes have one output and make the same host calls. -/
theorem renderNodes_rename (i : Nat) (ns : List Node) {s₁ s₂ : Scope} {ρ : String → String}
    (hcalls : r₁.Agree r₂ (nodesCalls i ns)) (hnames : s₁.Agree s₂ ρ (nodesFree ns))
    (hbound : NoCapture ρ (nodesBound ns)) :
    renderNodes r₁ s₁ ns = renderNodes r₂ s₂ (renameNodes ρ ns) := by
  cases ns with
  | nil => rw [renameNodes, renderNodes_nil, renderNodes_nil]
  | cons n ns =>
    obtain ⟨hcn, hcns⟩ := List.forall_mem_append.mp hcalls
    obtain ⟨hnn, hnns⟩ := List.forall_mem_append.mp hnames
    obtain ⟨hbn, hbns⟩ := List.forall_mem_append.mp hbound
    exact renderNodes_cons_congr (renderNode_rename n (Registry.agree_map_under.mp hcn) hnn hbn)
      (renderNodes_rename (i + 1) ns hcns hnns hbns)

/-- Branches and the renamed branches have one output and make the same host calls. -/
theorem renderBranches_rename (i : Nat) (branches : List (Expr × List Node)) {s₁ s₂ : Scope}
    {ρ : String → String} (hcalls : r₁.Agree r₂ (branchCalls i branches))
    (hnames : s₁.Agree s₂ ρ (branchesFree branches))
    (hbound : NoCapture ρ (branchesBound branches)) :
    renderBranches r₁ s₁ branches = renderBranches r₂ s₂ (renameBranches ρ branches) := by
  cases branches with
  | nil => rw [renameBranches, renderBranches_nil, renderBranches_nil]
  | cons branch rest =>
    obtain ⟨condition, body⟩ := branch
    obtain ⟨hcbranch, hcrest⟩ := List.forall_mem_append.mp hcalls
    obtain ⟨hccondition, hcbody⟩ :=
      List.forall_mem_append.mp (Registry.agree_map_under.mp hcbranch)
    obtain ⟨hnbranch, hnrest⟩ := List.forall_mem_append.mp hnames
    obtain ⟨hncondition, hnbody⟩ := List.forall_mem_append.mp hnbranch
    obtain ⟨hbbody, hbrest⟩ := List.forall_mem_append.mp hbound
    exact renderBranches_cons_congr
      (evaluate_rename condition (Registry.agree_callsHere.mp hccondition) hncondition)
      (renderNodes_rename 0 body hcbody hnbody hbbody)
      (renderBranches_rename (i + 1) rest hcrest hnrest hbrest)

/-- A fallback and the renamed one have one output and make the same host calls. -/
theorem renderFallback_rename (fallback : Option (List Node)) {s₁ s₂ : Scope}
    {ρ : String → String} (hcalls : r₁.Agree r₂ (fallbackCalls fallback))
    (hnames : s₁.Agree s₂ ρ (fallbackFree fallback))
    (hbound : NoCapture ρ (fallbackBound fallback)) :
    renderFallback r₁ s₁ fallback = renderFallback r₂ s₂ (renameFallback ρ fallback) := by
  cases fallback with
  | none => rw [renameFallback, renderFallback_none, renderFallback_none]
  | some ns => exact renderNodes_rename 0 ns (Registry.agree_map_under.mp hcalls) hnames hbound

end

end

/-- A render depends only on what the template mentions: on the functions that it calls, and on the
data under its free names. -/
theorem Template.render_eq_of_mentioned (template : Template) {r₁ r₂ : Registry}
    {d₁ d₂ : Fields Value}
    (hcalls : ∀ o ∈ template.calls, r₁.get? o.call.name = r₂.get? o.call.name)
    (hnames : ∀ name ∈ template.free, Fields.get? d₁ name = Fields.get? d₂ name) :
    template.render r₁ d₁ = template.render r₂ d₂ := by
  have hrenamed : renderNodes r₁ (.ofData d₁) template.nodes =
      renderNodes r₂ (.ofData d₂) (renameNodes id template.nodes) :=
    renderNodes_rename 0 template.nodes hcalls hnames fun _ _ _ hname => hname
  rwa [renameNodes_id] at hrenamed

/-- A loop that binds `x` and reads, in its body, `x` and the name `y` from outside. -/
def hidingLoop : Template :=
  ⟨[.loop (.path ["xs"]) "x" (some "i")
    [.interpolation (.pipe (.path ["x"]) "f" [.path ["y", "z"]]) false] none]⟩

/-- Data under a name that the loop hides makes no difference, and neither does a function that the
template does not call. -/
theorem Template.render_eq_of_mentioned_of_hiding :
    hidingLoop.render ⟨[("f", .host fun args => args.getLastD .null)]⟩
        [("xs", .array [.bool true, .null]), ("y", .object [("z", .string "<")])] =
      hidingLoop.render ⟨[("f", .host fun args => args.getLastD .null), ("g", .builtin .not)]⟩
        [("i", .null), ("x", .bool true), ("xs", .array [.bool true, .null]),
          ("y", .object [("z", .string "<")])] := by
  refine hidingLoop.render_eq_of_mentioned ?_ ?_
  · have hcalls : hidingLoop.calls.map (fun o => o.call.name) = ["f"] := by decide
    intro o ho
    have hname := List.mem_map_of_mem (f := fun o => o.call.name) ho
    rw [hcalls, List.mem_singleton] at hname
    rw [hname]
    rfl
  · have hfree : hidingLoop.free = ["xs", "y"] := by decide
    simp [hfree, Fields.get?_cons]

/-- In a round of a loop, two names for the item show the same on names that are not the new one. -/
lemma Scope.agree_push_replaceName (scope : Scope) {x y : String} {index : Option String}
    {names : List String} (hx : index ≠ some x) (hy : index ≠ some y) (hnew : y ∉ names) (v : Value)
    (i : Nat) :
    (scope.push ⟨x, v, index.map fun name => (name, i)⟩).Agree
      (scope.push ⟨y, v, index.map fun name => (name, i)⟩) (replaceName x y) names := by
  intro name hname
  rw [lookup_push, lookup_push, replaceName]
  by_cases hold : name = x
  · subst hold
    rw [if_pos rfl, Frame.get?_item hx, Frame.get?_item hy, Option.some_or, Option.some_or]
  · have hother : name ≠ y := fun h => hnew (h ▸ hname)
    rw [if_neg hold, Frame.get?_of_ne_item hold hother]

/-- The name that a loop gives to its items does not matter: it can be replaced, in the body where
it is free, by a name that is neither the index nor free or bound in the body. -/
theorem renderNode_loop_renamed (registry : Registry) (scope : Scope) (source : Expr) {x y : String}
    {index : Option String} {body : List Node} (fallback : Option (List Node))
    (hx : index ≠ some x) (hy : index ≠ some y) (hfree : y ∉ nodesFree body)
    (hbound : y ∉ nodesBound body) :
    renderNode registry scope
        (.loop source y index (renameNodes (replaceName x y) body) fallback) =
      renderNode registry scope (.loop source x index body fallback) := by
  refine renderNode_loop_congr rfl (fun v i => ?_) rfl
  exact (renderNodes_rename 0 body (fun _ _ => rfl)
    (scope.agree_push_replaceName hx hy hfree v i) (noCapture_replaceName hbound)).symm

/-- A body of a loop that names its items `x`. An inner loop hides the item in its own body. -/
def hidingBody : List Node :=
  [.loop (.path ["x", "rows"]) "x" none [.interpolation (.path ["x"]) false]
    (some [.interpolation (.path ["x", "name"]) false])]

/-- Data that has both names, and items with rows and without. -/
def hidingScope : Scope :=
  .ofData [("x", .bool true), ("xs", .array [.object [("rows", .array [.null])],
    .object [("name", .string "<"), ("rows", .array [])]]), ("y", .bool false)]

/-- The item is renamed in the source and the fallback of an inner loop that hides it, and not in
the body of that loop. -/
theorem renderNode_loop_renamed_of_hiding :
    renderNode .standard hidingScope
        (.loop (.path ["xs"]) "y" (some "i")
          [.loop (.path ["y", "rows"]) "x" none [.interpolation (.path ["x"]) false]
            (some [.interpolation (.path ["y", "name"]) false])] none) =
      renderNode .standard hidingScope (.loop (.path ["xs"]) "x" (some "i") hidingBody none) := by
  have hrenamed : renameNodes (replaceName "x" "y") hidingBody =
      [.loop (.path ["y", "rows"]) "x" none [.interpolation (.path ["x"]) false]
        (some [.interpolation (.path ["y", "name"]) false])] := rfl
  rw [← hrenamed]
  exact renderNode_loop_renamed .standard hidingScope (.path ["xs"]) none (by decide) (by decide)
    (by decide) (by decide)

end Stencil
