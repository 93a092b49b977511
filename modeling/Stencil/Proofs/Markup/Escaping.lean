import Mathlib.Tactic.Lemma
import Stencil.Evaluation.Render
import Stencil.Proofs.Tree.Parts

/-!
# Escaping whole renders

Escaping is done where a value is shown, and nowhere else. It could as well be done once, on the
whole output: a template in which nothing is raw and every text is escaped beforehand
(`Template.escaped`) renders to the escaped output of the template in which everything is raw
(`Template.raw`), and makes the same host calls. All paths to the output take part in this: texts
and values are escaped on one side or the other, and the messages that are written directly have no
character that escaping would change.

So a template in which nothing is raw and no text has a special character cannot write any, whatever
its data and its functions are: its output is inert.
-/

namespace Stencil

namespace Text

/-- The characters with a meaning in markup. -/
def special : List Char :=
  ['&', '<', '>', '"', '\'']

/-- The entities that stand for them. -/
def entities : List (List Char) :=
  [['&', 'a', 'm', 'p', ';'], ['&', 'l', 't', ';'], ['&', 'g', 't', ';'],
    ['&', 'q', 'u', 'o', 't', ';'], ['&', '#', '3', '9', ';']]

/-- A text without a character that has a meaning in markup, except that `&` may begin an entity. -/
structure Inert (s : List Char) : Prop where
  not_mem : ∀ c ∈ s, c ≠ '<' ∧ c ≠ '>' ∧ c ≠ '"' ∧ c ≠ '\''
  begins_entity : ∀ r, '&' :: r <:+ s → ∃ e ∈ entities, e <+: '&' :: r

/-- A character that is not special is not changed. -/
lemma entity_of_not_mem {c : Char} (h : c ∉ special) : entity c = [c] := by
  simp only [special, List.mem_cons, List.not_mem_nil, or_false, not_or] at h
  obtain ⟨hamp, hlt, hgt, hquote, hsingle⟩ := h
  rw [entity]
  · exact hamp
  · exact hlt
  · exact hgt
  · exact hquote
  · exact hsingle

/-- Whether a text has no special character can be computed. -/
lemma not_special_of_all {t : List Char} (h : t.all (fun c => !special.contains c) = true) :
    ∀ d ∈ t, d ∉ special := by
  intro d hd hspecial
  have hnot := List.all_eq_true.mp h d hd
  rw [List.contains_iff_mem.mpr hspecial] at hnot
  contradiction

/-- A special character becomes an entity, in which only the first character is special. -/
lemma entity_of_mem {c : Char} (h : c ∈ special) :
    ∃ t, entity c = '&' :: t ∧ '&' :: t ∈ entities ∧ ∀ d ∈ t, d ∉ special := by
  simp only [special, List.mem_cons, List.not_mem_nil, or_false] at h
  obtain rfl | rfl | rfl | rfl | rfl := h
  · exact ⟨_, rfl, by decide, not_special_of_all (by decide)⟩
  · exact ⟨_, rfl, by decide, not_special_of_all (by decide)⟩
  · exact ⟨_, rfl, by decide, not_special_of_all (by decide)⟩
  · exact ⟨_, rfl, by decide, not_special_of_all (by decide)⟩
  · exact ⟨_, rfl, by decide, not_special_of_all (by decide)⟩

/-- The empty text is inert. -/
lemma inert_nil : Inert [] := by
  refine ⟨nofun, fun r h => ?_⟩
  cases List.suffix_nil.mp h

/-- A character that is not special leaves a text inert. -/
lemma Inert.cons {c : Char} {s : List Char} (hc : c ∉ special) (h : Inert s) : Inert (c :: s) := by
  simp only [special, List.mem_cons, List.not_mem_nil, or_false, not_or] at hc
  obtain ⟨hamp, hrest⟩ := hc
  refine ⟨?_, ?_⟩
  · intro d hd
    obtain rfl | hd := List.mem_cons.mp hd
    · exact hrest
    · exact h.not_mem d hd
  · intro r hr
    obtain heq | hr := List.suffix_cons_iff.mp hr
    · cases heq
      exact absurd rfl hamp
    · exact h.begins_entity r hr

/-- Characters that are not special leave a text inert. -/
lemma Inert.append {t s : List Char} (ht : ∀ c ∈ t, c ∉ special) (h : Inert s) :
    Inert (t ++ s) := by
  induction t with
  | nil => exact h
  | cons c t ih =>
    exact (ih fun d hd => ht d (List.mem_cons_of_mem c hd)).cons (ht c List.mem_cons_self)

/-- An entity leaves a text inert. -/
lemma Inert.entity_append {e s : List Char} (he : '&' :: e ∈ entities)
    (hrest : ∀ c ∈ e, c ∉ special) (h : Inert s) : Inert ('&' :: e ++ s) := by
  have hs := h.append hrest
  refine ⟨?_, ?_⟩
  · intro d hd
    obtain rfl | hd := List.mem_cons.mp hd
    · decide
    · exact hs.not_mem d hd
  · intro r hr
    obtain heq | hr := List.suffix_cons_iff.mp hr
    · rw [heq]
      exact ⟨_, he, List.prefix_append _ s⟩
    · exact hs.begins_entity r hr

/-- What has been escaped is inert. -/
lemma inert_flatMap_entity (s : List Char) : Inert (s.flatMap entity) := by
  induction s with
  | nil => exact inert_nil
  | cons c s ih =>
    rw [List.flatMap_cons]
    by_cases hc : c ∈ special
    · obtain ⟨e, heq, he, hrest⟩ := entity_of_mem hc
      rw [heq]
      exact ih.entity_append he hrest
    · rw [entity_of_not_mem hc]
      exact ih.cons hc

/-- A text without special characters is not changed by escaping. -/
lemma escape_eq_self {s : String} (h : ∀ c ∈ s.toList, c ∉ special) : escape s = s := by
  apply String.toList_inj.mp
  rw [toList_escape]
  generalize s.toList = t at h
  induction t with
  | nil => rfl
  | cons c t ih =>
    rw [List.flatMap_cons, entity_of_not_mem (h c List.mem_cons_self),
      ih fun d hd => h d (List.mem_cons_of_mem c hd), List.singleton_append]

/-- Of the empty text there is nothing to escape. -/
@[simp] lemma escape_empty : escape "" = "" :=
  escape_eq_self (not_special_of_all (by decide))

/-- Escaping a joined text is joining escaped texts. -/
lemma escape_join (ss : List String) : escape (String.join ss) = String.join (ss.map escape) := by
  induction ss with
  | nil => exact escape_empty
  | cons s ss ih => rw [String.join_cons, escape_append, ih, List.map_cons, String.join_cons]

end Text

section
variable (text : String → String) (raw : Bool)

mutual

/-- A node with all its texts changed and all its interpolations raw or escaped. -/
def Node.restyle : Node → Node
  | .text s => .text (text s)
  | .interpolation e _ => .interpolation e raw
  | .conditional branches fallback =>
    .conditional (restyleBranches branches) (restyleFallback fallback)
  | .loop source item index body fallback =>
    .loop source item index (restyleNodes body) (restyleFallback fallback)

/-- Some nodes with all their texts changed and all their interpolations raw or escaped. -/
def restyleNodes : List Node → List Node
  | [] => []
  | n :: ns => n.restyle :: restyleNodes ns

/-- Some branches with all their texts changed and all their interpolations raw or escaped. -/
def restyleBranches : List (Expr × List Node) → List (Expr × List Node)
  | [] => []
  | (condition, body) :: rest => (condition, restyleNodes body) :: restyleBranches rest

/-- A fallback with all its texts changed and all its interpolations raw or escaped. -/
def restyleFallback : Option (List Node) → Option (List Node)
  | none => none
  | some ns => some (restyleNodes ns)

end

end

namespace Template

/-- The template in which every interpolation is raw. -/
def raw (template : Template) : Template :=
  ⟨restyleNodes id true template.nodes⟩

/-- The template in which no interpolation is raw and every text is escaped. -/
def escaped (template : Template) : Template :=
  ⟨restyleNodes Text.escape false template.nodes⟩

end Template

/-- The messages that a render writes directly have nothing to escape. -/
lemma Fault.escape_message (f : Fault)
    (h : f ∈ [Fault.arrayInterpolation, .objectInterpolation, .sourceNotArray]) :
    Text.escape f.message = f.message := by
  simp only [List.mem_cons, List.not_mem_nil, or_false] at h
  obtain rfl | rfl | rfl := h
  · exact Text.escape_eq_self (Text.not_special_of_all (by decide))
  · exact Text.escape_eq_self (Text.not_special_of_all (by decide))
  · exact Text.escape_eq_self (Text.not_special_of_all (by decide))

/-- What is shown of a value is escaped, or has nothing to escape. -/
lemma Value.shown_eq_escape (v : Value) : v.shown false = Text.escape (v.shown true) := by
  cases v with
  | null => exact Text.escape_empty.symm
  | array items => exact (Fault.escape_message .arrayInterpolation (by decide)).symm
  | object fields => exact (Fault.escape_message .objectInterpolation (by decide)).symm
  | bool b => rfl
  | number x => rfl
  | string s => rfl

/-- Escaping joined outputs is joining escaped outputs. -/
lemma Traced.concat_map_escape {α : Type} (f : α → Traced String) (as : List α) :
    Traced.concat (as.map fun a => Text.escape <$> f a) =
      Text.escape <$> Traced.concat (as.map f) := by
  apply Traced.ext
  · simp [Text.escape_join, Function.comp_def]
  · simp [List.flatMap_map]

section
variable {registry : Registry}

mutual

/-- A node whose parts are escaped renders to the escaped output of the node that is all raw. -/
theorem renderNode_restyle (scope : Scope) (n : Node) :
    renderNode registry scope (n.restyle Text.escape false) =
      Text.escape <$> renderNode registry scope (n.restyle id true) := by
  cases n with
  | text s =>
    rw [Node.restyle, Node.restyle, renderNode_text, renderNode_text]
    rfl
  | interpolation e raw =>
    rw [Node.restyle, Node.restyle, renderNode_interpolation, renderNode_interpolation, map_bind]
    refine bind_congr fun v => ?_
    rw [map_pure, Value.shown_eq_escape]
  | conditional branches fallback =>
    rw [Node.restyle, Node.restyle, renderNode_conditional, renderNode_conditional,
      renderBranches_restyle scope branches, map_bind, bind_map_left]
    refine bind_congr fun chosen => ?_
    cases chosen with
    | some out => exact (map_pure _ _).symm
    | none => exact renderFallback_restyle scope fallback
  | loop source item index body fallback =>
    -- the body is rendered in the scope of every round, so the equation is needed for all of them
    have hbody (p : Value × Nat) :=
      renderNodes_restyle (scope.push ⟨item, p.1, index.map fun name => (name, p.2)⟩) body
    rw [Node.restyle, Node.restyle, renderNode_loop, renderNode_loop, map_bind]
    refine bind_congr fun v => ?_
    cases v with
    | array items =>
      cases items with
      | nil => exact renderFallback_restyle scope fallback
      | cons first items =>
        refine Eq.trans ?_ (Traced.concat_map_escape _ (first :: items).zipIdx)
        exact congrArg (fun f => Traced.concat ((first :: items).zipIdx.map f)) (funext hbody)
    | _ => exact congrArg pure (Fault.escape_message .sourceNotArray (by decide)).symm

/-- Escaping the raw output of some nodes is what the nodes render to escaped. -/
theorem renderNodes_restyle (scope : Scope) (ns : List Node) :
    renderNodes registry scope (restyleNodes Text.escape false ns) =
      Text.escape <$> renderNodes registry scope (restyleNodes id true ns) := by
  cases ns with
  | nil =>
    rw [restyleNodes, restyleNodes, renderNodes_nil, map_pure, Text.escape_empty]
  | cons n ns =>
    rw [restyleNodes, restyleNodes, renderNodes_cons, renderNodes_cons, renderNode_restyle scope n,
      renderNodes_restyle scope ns]
    simp only [map_eq_pure_bind, bind_assoc, pure_bind, Text.escape_append]

/-- Escaping the raw output of some branches is what the branches render to escaped. -/
theorem renderBranches_restyle (scope : Scope) (branches : List (Expr × List Node)) :
    renderBranches registry scope (restyleBranches Text.escape false branches) =
      Option.map Text.escape <$>
        renderBranches registry scope (restyleBranches id true branches) := by
  cases branches with
  | nil =>
    rw [restyleBranches, restyleBranches, renderBranches_nil, map_pure]
    rfl
  | cons branch rest =>
    obtain ⟨condition, body⟩ := branch
    rw [restyleBranches, restyleBranches, renderBranches_cons, renderBranches_cons, map_bind]
    refine bind_congr fun v => ?_
    cases v.isTruthy with
    | true =>
      rw [if_pos rfl, if_pos rfl, renderNodes_restyle scope body, Functor.map_map, Functor.map_map]
      rfl
    | false => exact renderBranches_restyle scope rest

/-- Escaping the raw output of a fallback is what the fallback renders to escaped. -/
theorem renderFallback_restyle (scope : Scope) (fallback : Option (List Node)) :
    renderFallback registry scope (restyleFallback Text.escape false fallback) =
      Text.escape <$> renderFallback registry scope (restyleFallback id true fallback) := by
  cases fallback with
  | none =>
    rw [restyleFallback, restyleFallback, renderFallback_none, map_pure, Text.escape_empty]
  | some ns => exact renderNodes_restyle scope ns

end

end

/-- A text without special characters, an interpolation that is not raw, or a block. -/
def Node.Plain : Node → Prop
  | .text s => ∀ c ∈ s.toList, c ∉ Text.special
  | .interpolation _ raw => raw = false
  | .conditional _ _ => True
  | .loop _ _ _ _ _ => True

/-- Nodes that stand side by side and are all plain. -/
def PlainRegion (ns : List Node) : Prop :=
  ∀ n ∈ ns, n.Plain

mutual

/-- A plain node with only plain nodes inside has nothing to escape or to make escaped. -/
theorem Node.restyle_plain {n : Node} (hn : n.Plain) (h : n.Every PlainRegion fun _ => True) :
    n.restyle Text.escape false = n := by
  cases h with
  | text => rw [Node.restyle, Text.escape_eq_self hn]
  | interpolation => rw [Node.restyle, show _ = false from hn]
  | conditional _ hbodies hinside hfallback hinsideFallback =>
    rw [Node.restyle, restyleBranches_plain hbodies hinside,
      restyleFallback_plain hfallback hinsideFallback]
  | loop _ hbody hinside hfallback hinsideFallback =>
    rw [Node.restyle, restyleNodes_plain hbody hinside,
      restyleFallback_plain hfallback hinsideFallback]

/-- Plain nodes are not changed. -/
theorem restyleNodes_plain {ns : List Node} (hns : PlainRegion ns)
    (h : ∀ n ∈ ns, n.Every PlainRegion fun _ => True) :
    restyleNodes Text.escape false ns = ns := by
  cases ns with
  | nil => rfl
  | cons n ns =>
    obtain ⟨hn, hns⟩ := List.forall_mem_cons.mp hns
    obtain ⟨hinside, h⟩ := List.forall_mem_cons.mp h
    rw [restyleNodes, Node.restyle_plain hn hinside, restyleNodes_plain hns h]

/-- Plain branches are not changed. -/
theorem restyleBranches_plain {branches : List (Expr × List Node)}
    (hbodies : ∀ b ∈ branches, PlainRegion b.2)
    (h : ∀ b ∈ branches, ∀ n ∈ b.2, n.Every PlainRegion fun _ => True) :
    restyleBranches Text.escape false branches = branches := by
  cases branches with
  | nil => rfl
  | cons branch rest =>
    obtain ⟨condition, body⟩ := branch
    obtain ⟨hbody, hbodies⟩ := List.forall_mem_cons.mp hbodies
    obtain ⟨hinside, h⟩ := List.forall_mem_cons.mp h
    rw [restyleBranches, restyleNodes_plain hbody hinside, restyleBranches_plain hbodies h]

/-- A plain fallback is not changed. -/
theorem restyleFallback_plain {fallback : Option (List Node)}
    (hfallback : ∀ ns ∈ fallback, PlainRegion ns)
    (h : ∀ ns ∈ fallback, ∀ n ∈ ns, n.Every PlainRegion fun _ => True) :
    restyleFallback Text.escape false fallback = fallback := by
  cases fallback with
  | none => rfl
  | some ns => rw [restyleFallback, restyleNodes_plain (hfallback ns rfl) (h ns rfl)]

end

namespace Template

/-- Escaping every text and every value of a template is escaping its whole output. So if there is
nothing in it to escape or to make escaped, its output is inert, whatever the data and the functions
are. -/
theorem render_escaped (registry : Registry) (data : Fields Value) :
    (∀ template : Template, template.escaped.render registry data =
      Text.escape <$> template.raw.render registry data) ∧
    (∀ template : Template, template.Every PlainRegion (fun _ => True) →
      Text.Inert (template.render registry data).value.toList) := by
  have hescaped (template : Template) : template.escaped.render registry data =
      Text.escape <$> template.raw.render registry data :=
    renderNodes_restyle (.ofData data) template.nodes
  refine ⟨hescaped, fun template h => ?_⟩
  have hself : template.escaped = template :=
    Template.ext (restyleNodes_plain h.1 h.2)
  rw [← hself, hescaped, Traced.value_map, Text.toList_escape]
  exact Text.inert_flatMap_entity _

/-- A loop of which the items and a function write markup. -/
def markupLoop : Template :=
  ⟨[.text "Hi", .loop (.path ["xs"]) "x" none
    [.interpolation (.path ["x"]) false, .interpolation (.call "f" []) false] none]⟩

/-- A plain template with a loop gives an inert output for data and functions that are full of
markup. -/
theorem render_escaped_of_markupLoop :
    markupLoop.Every PlainRegion (fun _ => True) ∧
      Text.Inert (markupLoop.render ⟨[("f", .host fun _ => .string "<&")]⟩
        [("xs", .array [.string "'<b>'", .array []])]).value.toList := by
  have hplain : markupLoop.Every PlainRegion fun _ => True := by
    have hbody : PlainRegion
        [.interpolation (.path ["x"]) false, .interpolation (.call "f" []) false] := by
      simp [PlainRegion, Node.Plain]
    refine ⟨?_, ?_⟩
    · simp [markupLoop, PlainRegion, Node.Plain, Text.special]
    · simp only [markupLoop, List.forall_mem_cons, List.not_mem_nil, false_imp_iff, implies_true,
        and_true]
      refine ⟨.text, .loop trivial hbody ?_ nofun nofun⟩
      simp only [List.forall_mem_cons, List.not_mem_nil, false_imp_iff, implies_true, and_true]
      exact ⟨.interpolation trivial, .interpolation trivial⟩
  exact ⟨hplain, (render_escaped _ _).2 _ hplain⟩

end Template

end Stencil
