import Stencil.Evaluation.Registry
import Stencil.Proofs.Fields.Order
import Stencil.Proofs.Text.Bytes

/-!
# What a registry holds

A registry that took registrations one after another, some accepted and some not, holds under each
name the last function accepted for it, and where there is none what it began with. One accepted
registration keeps that account (`Registry.Holds.register`), and so a run of registrations does
(`Registry.Holds.after`). Everything that can be asked of a registry follows from it and from the
order of the names (`Registry.observed_after`).
-/

namespace Stencil

/-- A function of the host and the name for it. -/
structure Registration where
  name : String
  run : List Value → Value

/-- The last registration of a name among some. -/
def latest (calls : List Registration) (name : String) : Option Registration :=
  (calls.filter (·.name = name)).getLast?

/-- One more registration is the latest of its name. -/
lemma latest_append (calls : List Registration) (c : Registration) (name : String) :
    latest (calls ++ [c]) name = if name = c.name then some c else latest calls name := by
  unfold latest
  rw [List.filter_append]
  split
  · case isTrue h =>
    subst h
    simp
  · case isFalse h => simp [Ne.symm h]

/-- A name has a latest registration if it has any. -/
lemma latest_isSome_iff {calls : List Registration} {name : String} :
    (latest calls name).isSome ↔ ∃ c ∈ calls, c.name = name := by
  rw [latest, List.getLast?_isSome]
  simp [List.filter_eq_nil_iff]

namespace Registry

/-- The registry after a registration was asked for. A rejected one leaves it as it is. -/
def attempt (registry : Registry) (c : Registration) : Registry :=
  match registry.register c.name c.run with
  | .ok next => next
  | .error _ => registry

/-- The registry after some registrations were asked for. -/
def after (registry : Registry) (calls : List Registration) : Registry :=
  calls.foldl attempt registry

/-- Those of some registrations that are accepted, each in the registry that the ones before it
left. -/
def accepted (registry : Registry) : List Registration → List Registration
  | [] => []
  | c :: calls =>
    match registry.register c.name c.run with
    | .ok next => c :: next.accepted calls
    | .error _ => registry.accepted calls

/-- Registrations in two parts are made one part after the other. -/
lemma after_append (registry : Registry) (before later : List Registration) :
    registry.after (before ++ later) = (registry.after before).after later :=
  List.foldl_append

/-- A registration that is accepted is made. -/
lemma attempt_of_ok {registry next : Registry} {c : Registration}
    (h : registry.register c.name c.run = .ok next) : registry.attempt c = next := by
  rw [attempt, h]

/-- A registration that is rejected changes nothing. -/
lemma attempt_of_error {registry : Registry} {c : Registration} {e : RegistryError}
    (h : registry.register c.name c.run = .error e) : registry.attempt c = registry := by
  rw [attempt, h]

/-- Registrations leave a name alone that none of them is for. -/
lemma get?_after_of_ne {registry : Registry} {calls : List Registration} {name : String}
    (h : ∀ c ∈ calls, c.name ≠ name) : (registry.after calls).get? name = registry.get? name := by
  induction calls generalizing registry with
  | nil => rfl
  | cons c calls ih =>
    obtain ⟨hne, hrest⟩ := List.forall_mem_cons.mp h
    refine (ih hrest).trans ?_
    cases hc : registry.register c.name c.run with
    | ok next => rw [attempt_of_ok hc, get?_of_register hc, if_neg (Ne.symm hne)]
    | error e => rw [attempt_of_error hc]

/-- A registry in order that holds, under each name, the last of some accepted registrations, and
where there is none what another registry holds. -/
structure Holds (registry start : Registry) (accepted : List Registration) : Prop where
  ascending : registry.functions.Ascending
  get?_eq (name : String) :
    registry.get? name = ((latest accepted name).map fun c => .host c.run).or (start.get? name)

/-- At first a registry holds what it begins with. -/
lemma Holds.start {registry : Registry} (h : registry.functions.Ascending) :
    Holds registry registry [] :=
  ⟨h, fun _ => rfl⟩

/-- A registration keeps the names in order. -/
lemma ascending_of_register {registry next : Registry} {name : String}
    {run : List Value → Value} (h : registry.functions.Ascending)
    (hnext : registry.register name run = .ok next) : next.functions.Ascending := by
  unfold register at hnext
  split at hnext
  · cases hnext
    exact h.insert name _
  · cases hnext

/-- An accepted registration is the last one of its name. -/
lemma Holds.register {registry start next : Registry} {accepted : List Registration}
    (h : registry.Holds start accepted) {c : Registration}
    (hc : registry.register c.name c.run = .ok next) : next.Holds start (accepted ++ [c]) := by
  refine ⟨ascending_of_register h.ascending hc, fun name => ?_⟩
  rw [get?_of_register hc, latest_append, h.get?_eq]
  split
  · rfl
  · rfl

/-- A run of registrations adds the accepted ones. -/
lemma Holds.after {registry start : Registry} {before : List Registration}
    (h : registry.Holds start before) (calls : List Registration) :
    (registry.after calls).Holds start (before ++ registry.accepted calls) := by
  induction calls generalizing registry before with
  | nil =>
    rw [accepted, List.append_nil]
    exact h
  | cons c calls ih =>
    change ((registry.attempt c).after calls).Holds start _
    cases hc : registry.register c.name c.run with
    | ok next =>
      rw [attempt_of_ok hc, accepted, hc, List.append_cons]
      exact ih (h.register hc)
    | error e =>
      rw [attempt_of_error hc, accepted, hc]
      exact ih h

/-- The names are those of the accepted registrations and those of the start. -/
lemma Holds.mem_names_iff {registry start : Registry} {accepted : List Registration}
    (h : registry.Holds start accepted) {name : String} :
    name ∈ registry.names ↔ name ∈ start.names ∨ ∃ c ∈ accepted, c.name = name := by
  rw [names, Fields.mem_names_iff, names, Fields.mem_names_iff]
  change (registry.get? name).isSome ↔ (start.get? name).isSome ∨ _
  rw [h.get?_eq, Option.isSome_or, Option.isSome_map, Bool.or_eq_true, latest_isSome_iff, or_comm]

/-- A registry in order lists its names in the order of their bytes. -/
lemma pairwise_bytes_names {registry : Registry} (h : registry.functions.Ascending) :
    (registry.names.map Text.bytes).Pairwise (· < ·) :=
  List.Pairwise.map Text.bytes (fun _ _ => Text.bytes_lt_of_lt) h

/-- The names of the built-ins are in order. -/
lemma ascending_standard : standard.functions.Ascending :=
  Fields.ascending_ofPairs _

/-- The standard registry holds each built-in under its name and nothing else. -/
lemma get?_standard (name : String) :
    standard.get? name = (Builtin.all.find? (·.name = name)).map .builtin := by
  have hdistinct :
      (Fields.names (Builtin.all.map fun b => (b.name, Function.builtin b))).Nodup := by
    decide +kernel
  rw [get?, standard, Fields.get?_ofPairs hdistinct]
  generalize Builtin.all = builtins
  induction builtins with
  | nil => rfl
  | cons b builtins ih =>
    rw [List.map_cons, Fields.get?_cons, List.find?_cons]
    by_cases h : b.name = name
    · simp [h]
    · simp [h, Ne.symm h, ih]

/-- The names of the standard registry are those of the built-ins. -/
lemma names_standard {name : String} :
    name ∈ standard.names ↔ ∃ b ∈ Builtin.all, b.name = name := by
  rw [names, Fields.mem_names_iff]
  change (standard.get? name).isSome ↔ _
  rw [get?_standard, Option.isSome_map, List.find?_isSome]
  simp

/-- Registrations under different names can be exchanged, accepted or not. -/
lemma attempt_comm {registry : Registry} (h : registry.functions.Ascending) {c d : Registration}
    (hne : c.name ≠ d.name) : (registry.attempt c).attempt d = (registry.attempt d).attempt c := by
  unfold attempt register
  cases Text.isName c.name with
  | false => cases Text.isName d.name <;> rfl
  | true =>
    cases Text.isName d.name with
    | false => rfl
    | true => exact congrArg Registry.mk (h.insert_comm hne _ _)

/-- A registry that began without functions or with the built-ins and took any registrations: its
names are those it began with and the accepted ones, in the order of their bytes and each once;
under a name is the function accepted last for it, else the built-in, else nothing; and it has a
function exactly under its names. A rejected registration can be left out of the run, and neighbours
of different names can change places. -/
theorem observed_after {start : Registry} {builtins : List Builtin}
    (hstart : start = .empty ∧ builtins = [] ∨ start = .standard ∧ builtins = Builtin.all)
    (calls : List Registration) :
    (∀ name, name ∈ (start.after calls).names ↔
      (∃ b ∈ builtins, b.name = name) ∨ ∃ c ∈ start.accepted calls, c.name = name) ∧
    ((start.after calls).names.map Text.bytes).Pairwise (· < ·) ∧
    (∀ name, (start.after calls).get? name =
      ((latest (start.accepted calls) name).map fun c => .host c.run).or
        ((builtins.find? (·.name = name)).map .builtin)) ∧
    (∀ name, (start.after calls).contains name = ((start.after calls).get? name).isSome) ∧
    (∀ c e later, (start.after calls).register c.name c.run = .error e →
      start.after (calls ++ c :: later) = start.after (calls ++ later)) ∧
    (∀ c d later, c.name ≠ d.name →
      start.after (calls ++ c :: d :: later) = start.after (calls ++ d :: c :: later)) := by
  have hbegin : start.functions.Ascending ∧
      (∀ name, start.get? name = (builtins.find? (·.name = name)).map .builtin) ∧
      ∀ name, name ∈ start.names ↔ ∃ b ∈ builtins, b.name = name := by
    obtain ⟨rfl, rfl⟩ | ⟨rfl, rfl⟩ := hstart
    · exact ⟨Fields.ascending_nil, fun _ => rfl, fun _ => by simp [names, Fields.names, empty]⟩
    · exact ⟨ascending_standard, get?_standard, fun _ => names_standard⟩
  obtain ⟨hascending, hget, hnames⟩ := hbegin
  have hafter : (start.after calls).Holds start (start.accepted calls) :=
    (Holds.start hascending).after calls
  refine ⟨fun name => ?_, pairwise_bytes_names hafter.ascending, fun name => ?_, fun name => rfl,
    fun c e later hc => ?_, fun c d later hne => ?_⟩
  · rw [hafter.mem_names_iff, hnames]
  · rw [hafter.get?_eq, hget]
  · rw [after_append, after_append]
    change ((start.after calls).attempt c).after later = _
    rw [attempt_of_error hc]
  · rw [after_append, after_append]
    exact congrArg (fun r => after r later) (attempt_comm hafter.ascending hne)

/-- Registrations of a new name, of a built-in twice and of what is no name. -/
def mixedCalls : List Registration :=
  [⟨"eq", fun _ => .null⟩, ⟨"no-name", fun _ => .null⟩, ⟨"Zip", fun _ => .null⟩,
    ⟨"eq", fun _ => .bool true⟩]

/-- The second function for `eq` is found, `ne` is the built-in, the new name comes first, and the
rejected one is nowhere. -/
theorem observed_after_mixedCalls :
    (standard.after mixedCalls).get? "eq" = some (.host fun _ => .bool true) ∧
      (standard.after mixedCalls).get? "ne" = some (.builtin .unequal) ∧
      (standard.after mixedCalls).get? "no-name" = none ∧
      "Zip" ∈ (standard.after mixedCalls).names := by
  obtain ⟨hnames, _, hget, _⟩ := observed_after (.inr ⟨rfl, rfl⟩) mixedCalls
  have haccepted : standard.accepted mixedCalls =
      [⟨"eq", fun _ => .null⟩, ⟨"Zip", fun _ => .null⟩, ⟨"eq", fun _ => .bool true⟩] := rfl
  rw [haccepted] at hnames hget
  refine ⟨(hget "eq").trans rfl, (hget "ne").trans rfl, (hget "no-name").trans rfl, ?_⟩
  exact (hnames "Zip").mpr (.inr ⟨⟨"Zip", fun _ => .null⟩, by simp, rfl⟩)

end Registry

end Stencil
