import Stencil.Proofs.Registry.Content
import Stencil.Proofs.Rendering.Related
import Stencil.Proofs.Value.ZeroSign

/-!
# Renders do not see the sign of zero

The data of two renders that differ only in the signs of zeros give the same output, if the registry
has no functions of the host. Such data lead to values that differ only in these signs
(`Scope.Alike.resolve`), and nothing that is asked of a value sees them
(`Value.congruence_alike`), be it the truth, the items or what is shown. So two renders of such data
are related (`Registry.Hostless.related_alike`).
-/

namespace Stencil

namespace Value

/-- Values that differ only in the signs of zeros. -/
def Alike (v w : Value) : Prop :=
  v.unsignZeros = w.unsignZeros

/-- A function that does not see the signs of zeros. -/
lemma Alike.apply {α : Type} {f : Value → α} (hf : ∀ v, f v.unsignZeros = f v) {v w : Value}
    (h : v.Alike w) : f v = f w := by
  rw [← hf v, h, hf]

/-- No operation on values sees the signs of zeros. -/
lemma congruence_alike : Congruence Alike where
  refl _ := rfl
  isTruthy_eq := Alike.apply isTruthy_unsignZeros
  text_eq := Alike.apply text_unsignZeros
  number_eq := Alike.apply (f := fun v => v.toNumber.unsignZero) toNumber_unsignZeros
  same_eq {v v' w w'} hv hw := by
    have hnan : v.holdsNan = v'.holdsNan := Alike.apply holdsNan_unsignZeros hv
    rw [Bool.eq_iff_iff, same_iff, same_iff, hv, hw, hnan]
  array {xs ys} h := by
    rw [Alike, unsignZeros, unsignZeros, unsignItems_eq_map, unsignItems_eq_map]
    exact congrArg array (forall₂_iff_map_eq.mp h)
  items {v w} h := by
    cases v with
    | array xs =>
      cases w with
      | array ys =>
        refine .inl ⟨xs, ys, rfl, rfl, forall₂_iff_map_eq.mpr ?_⟩
        rw [← unsignItems_eq_map, ← unsignItems_eq_map]
        exact array.inj h
      | _ => cases h
    | _ =>
      refine .inr ⟨nofun, ?_⟩
      rintro ys rfl
      cases h

/-- What is shown of a value does not depend on the signs of zeros. -/
lemma shown_unsignZeros (raw : Bool) (v : Value) : v.unsignZeros.shown raw = v.shown raw := by
  cases v with
  | number x =>
    have htext : (number x.unsignZero).text = (number x).text := text_unsignZeros (number x)
    simp only [unsignZeros, shown, htext]
  | _ => rfl

end Value

/-- Scopes in which each name has values that differ only in the signs of zeros, or none. -/
def Scope.Alike (s t : Scope) : Prop :=
  ∀ name, (s.lookup name).map Value.unsignZeros = (t.lookup name).map Value.unsignZeros

namespace Scope

/-- Data that differ only in the signs of zeros make scopes that do. -/
lemma alike_ofData {data₁ data₂ : Fields Value}
    (h : data₁.mapValues Value.unsignZeros = data₂.mapValues Value.unsignZeros) :
    (ofData data₁).Alike (ofData data₂) := by
  intro name
  rw [lookup_ofData, lookup_ofData, ← Fields.get?_mapValues, h, Fields.get?_mapValues]

/-- A round of a loop keeps scopes alike. -/
lemma Alike.push {s t : Scope} (h : s.Alike t) {v w : Value} (hvw : v.Alike w) (item : String)
    (index : Option (String × Nat)) :
    (s.push ⟨item, v, index⟩).Alike (t.push ⟨item, w, index⟩) := by
  intro name
  have hframe : ((⟨item, v, index⟩ : Frame).get? name).map Value.unsignZeros =
      ((⟨item, w, index⟩ : Frame).get? name).map Value.unsignZeros := by
    cases index with
    | none =>
      simp only [Frame.get?]
      split
      · exact congrArg some hvw
      · rfl
    | some _ =>
      simp only [Frame.get?]
      split
      · rfl
      · split
        · exact congrArg some hvw
        · rfl
  rw [lookup_push, lookup_push, Option.map_or, Option.map_or, hframe, h name]

/-- Paths lead to values that differ only in the signs of zeros. -/
lemma Alike.resolve {s t : Scope} (h : s.Alike t) (segments : List String) :
    ((s.resolve segments).getD .null).Alike ((t.resolve segments).getD .null) := by
  have hmissing (v : Option Value) :
      (v.getD .null).unsignZeros = (v.map Value.unsignZeros).getD .null := by
    cases v with
    | none => rfl
    | some _ => rfl
  rw [Value.Alike, hmissing, hmissing]
  cases segments with
  | nil => rfl
  | cons name rest =>
    have hname (scope : Scope) : (scope.resolve (name :: rest)).map Value.unsignZeros =
        ((scope.lookup name).map Value.unsignZeros).bind fun v => v.follow? rest := by
      rw [Scope.resolve, Option.map_bind, Option.bind_map]
      exact Option.bind_congr fun v _ => (v.follow?_unsignZeros rest).symm
    rw [hname, hname, h name]

end Scope

/-- A registry without functions of the host. -/
def Registry.Hostless (registry : Registry) : Prop :=
  ∀ name run, registry.get? name ≠ some (.host run)

/-- The standard registry has no functions of the host. -/
lemma Registry.hostless_standard : standard.Hostless := by
  intro name run
  rw [get?_standard]
  cases Builtin.all.find? (·.name = name) with
  | none => exact nofun
  | some _ => exact nofun

/-- Without functions of the host, one handler in scopes alike does not see the signs of zeros. -/
lemma Registry.Hostless.related_alike {registry : Registry} (hregistry : registry.Hostless) :
    Handler.Related Traced.lifting registry (fun _ => True) Traced.handler Traced.handler
      Value.Alike Scope.Alike where
  values := Value.congruence_alike
  shown_eq h raw := h.apply (Value.shown_unsignZeros raw)
  resolve h := h.resolve
  push h := h.push
  refuse _ _ := Traced.lifting.pure rfl
  host hget _ := absurd hget (hregistry _ _)

/-- In scopes alike nodes have one output. -/
lemma renderNodes_alike {registry : Registry} (hregistry : registry.Hostless) {s t : Scope}
    (h : s.Alike t) (nodes : List Node) :
    renderNodes registry s nodes = renderNodes registry t nodes := by
  obtain ⟨hvalue, hcalls⟩ :=
    Handler.renderNodes_related hregistry.related_alike h 0 nodes fun _ _ => trivial
  exact Traced.ext hvalue hcalls

/-- Data that differ only in the signs of zeros render to one output, if no function of the registry
is one of the host. They are equal as templates see it, if there is no `nan` in them. -/
theorem Template.render_eq_of_unsignZeros {registry : Registry} (hregistry : registry.Hostless)
    {data₁ data₂ : Fields Value}
    (hdata : data₁.mapValues Value.unsignZeros = data₂.mapValues Value.unsignZeros)
    (template : Template) :
    template.render registry data₁ = template.render registry data₂ ∧
      (Value.fieldsHoldNan data₁ = false → Value.sameFields data₁ data₂ = true) := by
  refine ⟨renderNodes_alike hregistry (Scope.alike_ofData hdata) template.nodes, fun hnan => ?_⟩
  rw [← Value.unsignFields_eq_mapValues, ← Value.unsignFields_eq_mapValues] at hdata
  exact (Value.sameFields_iff data₁ data₂).mpr ⟨hdata, hnan⟩

/-- Data with zeros of one sign at two depths. -/
def signedRows (negative : Bool) : Fields Value :=
  [("count", .number (.finite ⟨negative, .zero⟩)),
    ("rows", .array [.bool true, .object [("n", .number (.finite ⟨negative, .zero⟩))]])]

/-- A loop that shows, compares and counts with these zeros. -/
def rowsTemplate : Template :=
  ⟨[.loop (.path ["rows"]) "row" none
    [.interpolation (.path ["row", "n"]) false,
      .interpolation (.call "eq" [.path ["row", "n"], .path ["count"]]) false,
      .interpolation (.call "truncate" [.literal (.string "ab"), .path ["count"]]) false] none]⟩

/-- The two signs are different data, equal as templates see it, and give one output. -/
theorem Template.render_eq_of_unsignZeros_rows :
    signedRows true ≠ signedRows false ∧
      Value.sameFields (signedRows true) (signedRows false) = true ∧
      rowsTemplate.render .standard (signedRows true) =
        rowsTemplate.render .standard (signedRows false) := by
  obtain ⟨hrender, hsame⟩ := Template.render_eq_of_unsignZeros Registry.hostless_standard
    (show (signedRows true).mapValues Value.unsignZeros =
      (signedRows false).mapValues Value.unsignZeros from rfl) rowsTemplate
  refine ⟨?_, hsame (by decide), hrender⟩
  simp [signedRows]

example : (rowsTemplate.render .standard (signedRows true)).value = "false...0true..." := by
  decide +kernel

end Stencil
