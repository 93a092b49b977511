import Mathlib.Data.List.TakeWhile
import Mathlib.Data.String.Basic
import Mathlib.Tactic.SplitIfs
import Stencil.CommandLine.Arguments
import Stencil.Proofs.Scope.Paths

/-!
# Which arguments are accepted

The arguments that the program accepts are described by a grammar (`Draft.Reads`), which knows
nothing of errors: what options set (`Draft.Sets`), where their values stand, and that there is one
template. Arguments are read just as the grammar says (`Draft.arguments_eq_ok_iff`), and this is
what the program is asked to do (`Invocation.ofArguments_eq_ok_iff`).

An invocation can be asked for just if its paths are not empty and its limits fit into 64 bits
(`Invocation.exists_arguments_iff`). One way to ask for it (`Invocation.spelling`) puts each value
into the argument of its option and the template behind `--`, so that paths may begin with any
character.
-/

namespace Stencil.CommandLine

/-- What has been read for an end was read in two steps. -/
lemma exists_of_bind_eq_ok {α β ε : Type} {x : Except ε α} {f : α → Except ε β} {b : β}
    (h : x >>= f = .ok b) : ∃ a, x = .ok a ∧ f a = .ok b := by
  cases x with
  | error e => cases h
  | ok a => exact ⟨a, rfl, h⟩

namespace Draft

/-- The draft after an option with a value, which has not been set before. -/
inductive Sets (draft : Draft) : String → String → Draft → Prop
  | data {path : String} :
    draft.data = none → path ≠ "" → Sets draft "--data" path { draft with data := some path }
  | depth {value : String} {n : Nat} :
    draft.depth = none → count? value = some n →
    Sets draft "--max-depth" value { draft with depth := some n }
  | length {value : String} {n : Nat} :
    draft.length = none → count? value = some n →
    Sets draft "--max-len" value { draft with length := some n }

section
variable {draft draft' : Draft} {name value : String}

/-- What may be set once is set if it has not been set before. -/
lemma once_eq_ok_iff {α : Type} {old new : Option α} {a : α} :
    once name old a = .ok new ↔ old = none ∧ new = some a := by
  cases old with
  | none => exact ⟨fun h => ⟨rfl, (Except.ok.inj h).symm⟩, fun h => h.2 ▸ rfl⟩
  | some _ => exact ⟨nofun, nofun⟩

/-- A path is accepted as it is, unless it is empty. -/
lemma pathOf_eq_ok_iff {path : String} :
    pathOf name value = .ok path ↔ value ≠ "" ∧ path = value := by
  unfold pathOf
  split_ifs with h
  · exact ⟨nofun, fun hne => absurd (String.isEmpty_iff.mp h) hne.1⟩
  · exact ⟨fun hok => ⟨fun hempty => h (String.isEmpty_iff.mpr hempty), (Except.ok.inj hok).symm⟩,
      fun hne => hne.2 ▸ rfl⟩

/-- A count is accepted if it can be read. -/
lemma countOf_eq_ok_iff {n : Nat} : countOf name value = .ok n ↔ count? value = some n := by
  unfold countOf
  cases count? value with
  | none => exact ⟨nofun, nofun⟩
  | some m =>
    exact ⟨fun h => congrArg some (Except.ok.inj h), fun h => congrArg _ (Option.some.inj h)⟩

/-- An option of the grammar is accepted. -/
lemma Sets.option_eq (h : draft.Sets name value draft') :
    draft.option name value = .ok draft' := by
  cases h with
  | data hunset hne =>
    rw [option, pathOf_eq_ok_iff.mpr ⟨hne, rfl⟩, hunset]
    rfl
  | depth hunset hcount =>
    rw [option, countOf_eq_ok_iff.mpr hcount, hunset]
    rfl
  | length hunset hcount =>
    rw [option, countOf_eq_ok_iff.mpr hcount, hunset]
    rfl

/-- The options with a value that are accepted are those of the grammar. -/
lemma option_eq_ok_iff : draft.option name value = .ok draft' ↔ draft.Sets name value draft' := by
  refine ⟨fun h => ?_, Sets.option_eq⟩
  revert h
  fun_cases option draft name value with
  | case1 =>
    intro h
    obtain ⟨path, hpath, h⟩ := exists_of_bind_eq_ok h
    obtain ⟨data, hdata, h⟩ := exists_of_bind_eq_ok h
    obtain ⟨hne, rfl⟩ := pathOf_eq_ok_iff.mp hpath
    obtain ⟨hunset, rfl⟩ := once_eq_ok_iff.mp hdata
    cases h
    exact .data hunset hne
  | case2 =>
    intro h
    obtain ⟨n, hn, h⟩ := exists_of_bind_eq_ok h
    obtain ⟨depth, hdepth, h⟩ := exists_of_bind_eq_ok h
    obtain ⟨hunset, rfl⟩ := once_eq_ok_iff.mp hdepth
    cases h
    exact .depth hunset (countOf_eq_ok_iff.mp hn)
  | case3 =>
    intro h
    obtain ⟨n, hn, h⟩ := exists_of_bind_eq_ok h
    obtain ⟨length, hlength, h⟩ := exists_of_bind_eq_ok h
    obtain ⟨hunset, rfl⟩ := once_eq_ok_iff.mp hlength
    cases h
    exact .length hunset (countOf_eq_ok_iff.mp hn)
  | case4 => nofun
  | case5 => nofun

/-- The first argument that is no option is tried as the template. -/
lemma positional_of_unset (h : draft.template = none) :
    draft.positional value =
      (pathOf "template" value).map fun path => { draft with template := some path } := by
  rw [positional, h]
  rfl

/-- An argument that is no option is accepted as the template, once and unless it is empty. -/
lemma positional_eq_ok_iff : draft.positional value = .ok draft' ↔
    draft.template = none ∧ value ≠ "" ∧ draft' = { draft with template := some value } := by
  cases htemplate : draft.template with
  | some path =>
    rw [positional, htemplate]
    exact ⟨nofun, nofun⟩
  | none =>
    rw [positional_of_unset htemplate]
    unfold pathOf
    split_ifs with h
    · exact ⟨nofun, fun hne => absurd (String.isEmpty_iff.mp h) hne.2.1⟩
    · have hne : value ≠ "" := fun hempty => h (String.isEmpty_iff.mpr hempty)
      exact ⟨fun hok => ⟨rfl, hne, (Except.ok.inj hok).symm⟩, fun hset => hset.2.2 ▸ rfl⟩

end

/-- Arguments that are accepted, with the drafts before and after them. The value of an option
stands behind it, or in the same argument behind an equals sign; whatever follows `--` is no
option. -/
inductive Reads : Draft → List String → Draft → Prop
  | done {draft : Draft} : Reads draft [] draft
  | value {draft next last : Draft} {name value : String} {rest : List String} :
    draft.Sets name value next → Reads next rest last →
    Reads draft ((name ++ "=" ++ value) :: rest) last
  | apart {draft next last : Draft} {name value : String} {rest : List String} :
    draft.Sets name value next → isOption value = false → Reads next rest last →
    Reads draft (name :: value :: rest) last
  | check {draft last : Draft} {rest : List String} :
    draft.check = false → Reads { draft with check := true } rest last →
    Reads draft ("--check" :: rest) last
  | template {draft last : Draft} {path : String} {rest : List String} :
    draft.template = none → path ≠ "" → isOption path = false →
    Reads { draft with template := some path } rest last → Reads draft (path :: rest) last
  | stop {draft : Draft} : Reads draft ["--"] draft
  | behind {draft : Draft} {path : String} :
    draft.template = none → path ≠ "" →
    Reads draft ["--", path] { draft with template := some path }

section
variable {draft draft' : Draft} {name value : String} {rest : List String}

/-- Of arguments none of which is an option, there is at most one, which is the template. -/
lemma positionals_eq_ok_iff {args : List String} : draft.positionals args = .ok draft' ↔
    args = [] ∧ draft' = draft ∨ ∃ path, args = [path] ∧ draft.template = none ∧ path ≠ "" ∧
      draft' = { draft with template := some path } := by
  constructor
  · intro h
    match args with
    | [] => exact .inl ⟨rfl, (Except.ok.inj h).symm⟩
    | [path] =>
      obtain ⟨next, hnext, h⟩ := exists_of_bind_eq_ok h
      cases h
      exact .inr ⟨path, rfl, positional_eq_ok_iff.mp hnext⟩
    | path :: second :: rest =>
      obtain ⟨next, hnext, h⟩ := exists_of_bind_eq_ok h
      obtain ⟨-, -, rfl⟩ := positional_eq_ok_iff.mp hnext
      -- there is a template already
      obtain ⟨last, hlast, -⟩ := exists_of_bind_eq_ok h
      cases (positional_eq_ok_iff.mp hlast).1
  · rintro (⟨rfl, rfl⟩ | ⟨path, rfl, h⟩)
    · rfl
    · rw [positionals, positional_eq_ok_iff.mpr h]
      rfl

/-- The options of the grammar are those that have a value. -/
lemma Sets.mem_valueOptions (h : draft.Sets name value draft') : name ∈ valueOptions := by
  cases h <;> decide

/-- What begins with a `-` looks like an option, but not the `-` alone. -/
lemma isOption_iff {a : String} : isOption a = true ↔ ['-'] <+: a.toList ∧ a ≠ "-" := by
  rw [isOption, Bool.and_eq_true, String.startsWith_string_iff, bne_iff_ne]
  rfl

/-- The name of an option begins with a `-`, is long enough to be told from `-` and `--`, and has no
equals sign in it. -/
lemma name_of_mem_valueOptions (h : name ∈ valueOptions) :
    ['-'] <+: name.toList ∧ 2 < name.toList.length ∧ '=' ∉ name.toList ∧ name ≠ "--check" := by
  revert name
  decide

/-- The name of an option with a value looks like an option, whatever stands behind it. -/
lemma isOption_append (h : name ∈ valueOptions) (s : String) :
    isOption (name ++ s) = true ∧ name ++ s ≠ "--" := by
  obtain ⟨hdash, hlength, -, -⟩ := name_of_mem_valueOptions h
  have hlong (t : String) (ht : t.toList.length ≤ 2) : name ++ s ≠ t := by
    rintro rfl
    rw [String.toList_append, List.length_append] at ht
    omega
  refine ⟨isOption_iff.mpr ⟨?_, hlong "-" (by decide)⟩, hlong "--" (by decide)⟩
  rw [String.toList_append]
  exact hdash.trans (List.prefix_append _ _)

section
variable {cs : List Char} (h : '=' ∉ cs)
include h

/-- The characters of a name are not equals signs. -/
lemma forall_bne_of_not_mem : ∀ c ∈ cs, (c != '=') = true :=
  fun _ hc => bne_iff_ne.mpr fun hequals => h (hequals ▸ hc)

/-- An argument without an equals sign is a name. -/
lemma split_name : cs.takeWhile (· != '=') = cs ∧ cs.dropWhile (· != '=') = [] :=
  ⟨List.takeWhile_eq_self_iff.mpr (forall_bne_of_not_mem h),
    List.dropWhile_eq_nil_iff.mpr (forall_bne_of_not_mem h)⟩

/-- Otherwise the name ends before the first of them. -/
lemma split_value (s : List Char) :
    (cs ++ '=' :: s).takeWhile (· != '=') = cs ∧
      (cs ++ '=' :: s).dropWhile (· != '=') = '=' :: s := by
  rw [List.takeWhile_append_of_pos (forall_bne_of_not_mem h),
    List.dropWhile_append_of_pos (forall_bne_of_not_mem h)]
  exact ⟨List.append_nil cs, rfl⟩

end

/-- The value of an option is taken from behind the equals sign. -/
lemma arguments_value (h : name ∈ valueOptions) :
    draft.arguments ((name ++ "=" ++ value) :: rest) =
      draft.option name value >>= fun next => next.arguments rest := by
  obtain ⟨hoption, hne⟩ := isOption_append h ("=" ++ value)
  obtain ⟨-, -, hequals, -⟩ := name_of_mem_valueOptions h
  obtain ⟨htake, hdrop⟩ := split_value hequals value.toList
  have hchars : (name ++ ("=" ++ value)).toList = name.toList ++ '=' :: value.toList := by
    rw [String.toList_append, String.toList_append]
    rfl
  rw [String.append_assoc, arguments, if_neg hne, if_pos hoption, hchars]
  dsimp only
  rw [htake, hdrop, String.ofList_toList]
  dsimp only
  rw [String.ofList_toList]

/-- The value of an option is taken from the next argument. -/
lemma arguments_apart (h : name ∈ valueOptions) (hvalue : isOption value = false) :
    draft.arguments (name :: value :: rest) =
      draft.option name value >>= fun next => next.arguments rest := by
  obtain ⟨hoption, hne⟩ := isOption_append h ""
  obtain ⟨-, -, hequals, hcheck⟩ := name_of_mem_valueOptions h
  obtain ⟨htake, hdrop⟩ := split_name hequals
  rw [String.append_empty] at hoption hne
  have hknown : (!valueOptions.contains name) = false := by
    rw [List.contains_iff_mem.mpr h, Bool.not_true]
  rw [arguments, if_neg hne, if_pos hoption]
  dsimp only
  rw [htake, hdrop, String.ofList_toList]
  dsimp only
  rw [if_neg hcheck, hknown, hvalue, if_neg Bool.false_ne_true, if_neg Bool.false_ne_true]

/-- The first `--check` asks for a check. -/
lemma arguments_check (h : draft.check = false) :
    draft.arguments ("--check" :: rest) = { draft with check := true }.arguments rest := by
  have hoption : isOption "--check" = true := isOption_iff.mpr (by decide)
  obtain ⟨htake, hdrop⟩ := split_name (by decide : '=' ∉ "--check".toList)
  rw [arguments, if_neg (by decide), if_pos hoption]
  dsimp only
  rw [htake, hdrop, String.ofList_toList]
  dsimp only
  rw [if_pos rfl, h, if_neg Bool.false_ne_true]

/-- What does not look like an option is taken for the template. -/
lemma arguments_path {path : String} (h : isOption path = false) :
    draft.arguments (path :: rest) = draft.positional path >>= fun next => next.arguments rest := by
  have hne : path ≠ "--" := by
    rintro rfl
    exact absurd (isOption_iff.mpr (by decide)) (Bool.eq_false_iff.mp h)
  rw [arguments, if_neg hne, if_neg (Bool.eq_false_iff.mp h)]

/-- Behind `--` no argument is an option. -/
lemma arguments_stop : draft.arguments ("--" :: rest) = draft.positionals rest := by
  rw [arguments, if_pos rfl]

/-- Arguments of the grammar are read as it says. -/
lemma Reads.arguments_eq {args : List String} (h : Reads draft args draft') :
    draft.arguments args = .ok draft' := by
  induction h with
  | done => rfl
  | value hsets _ ih =>
    rw [arguments_value hsets.mem_valueOptions, hsets.option_eq]
    exact ih
  | apart hsets hvalue _ ih =>
    rw [arguments_apart hsets.mem_valueOptions hvalue, hsets.option_eq]
    exact ih
  | check hunset _ ih => rw [arguments_check hunset, ih]
  | template hunset hne hpath _ ih =>
    rw [arguments_path hpath, positional_eq_ok_iff.mpr ⟨hunset, hne, rfl⟩]
    exact ih
  | stop => rw [arguments_stop, positionals]
  | behind hunset hne =>
    rw [arguments_stop]
    exact positionals_eq_ok_iff.mpr (.inr ⟨_, rfl, hunset, hne, rfl⟩)

/-- An argument without an equals sign is the name of an option as a whole. -/
lemma eq_of_split_name {a : String} (h : a.toList.dropWhile (· != '=') = []) :
    String.ofList (a.toList.takeWhile (· != '=')) = a := by
  rw [List.takeWhile_eq_self_iff.mpr (List.dropWhile_eq_nil_iff.mp h), String.ofList_toList]

/-- An argument with an equals sign is put together again from what stands around it. -/
lemma eq_of_split_value {a : String} {c : Char} {s : List Char}
    (h : a.toList.dropWhile (· != '=') = c :: s) :
    String.ofList (a.toList.takeWhile (· != '=')) ++ "=" ++ String.ofList s = a := by
  have hstop := List.head?_dropWhile_not (· != '=') a.toList
  rw [h] at hstop
  obtain rfl : c = '=' := bne_eq_false_iff_eq.mp hstop
  have hwhole := List.takeWhile_append_dropWhile (p := (· != '=')) (l := a.toList)
  rw [h] at hwhole
  rw [← String.toList_inj, String.toList_append, String.toList_append, String.toList_ofList,
    String.toList_ofList, String.toList_ofList, List.append_assoc]
  exact hwhole

/-- Arguments are read just as the grammar says. -/
theorem arguments_eq_ok_iff {args : List String} :
    draft.arguments args = .ok draft' ↔ Reads draft args draft' := by
  refine ⟨fun h => ?_, Reads.arguments_eq⟩
  revert h
  fun_induction arguments draft args with
  | case1 draft =>
    rintro ⟨⟩
    exact .done
  | case2 draft rest =>
    intro h
    obtain ⟨rfl, rfl⟩ | ⟨path, rfl, hunset, hne, rfl⟩ := positionals_eq_ok_iff.mp h
    · exact .stop
    · exact .behind hunset hne
  | case3 draft a rest _ _ cs name c value hsplit ih =>
    intro h
    obtain ⟨next, hnext, h⟩ := exists_of_bind_eq_ok h
    rw [← eq_of_split_value hsplit]
    exact .value (option_eq_ok_iff.mp hnext) (ih next h)
  | case5 draft a rest _ _ cs name hsplit hcheck hunset ih =>
    intro h
    obtain rfl : a = "--check" := (eq_of_split_name hsplit).symm.trans hcheck
    exact .check (Bool.eq_false_iff.mpr hunset) (ih h)
  | case8 draft a _ _ cs name hsplit _ _ value rest hvalue ih =>
    intro h
    obtain ⟨next, hnext, h⟩ := exists_of_bind_eq_ok h
    rw [← eq_of_split_name hsplit]
    exact .apart (option_eq_ok_iff.mp hnext) (Bool.eq_false_iff.mpr hvalue) (ih next h)
  | case10 draft path rest _ hpath ih =>
    intro h
    obtain ⟨next, hnext, h⟩ := exists_of_bind_eq_ok h
    obtain ⟨hunset, hne, rfl⟩ := positional_eq_ok_iff.mp hnext
    exact .template hunset hne (Bool.eq_false_iff.mpr hpath) (ih _ h)
  | case4 => nofun
  | case6 => nofun
  | case7 => nofun
  | case9 => nofun

end

/-- What has been read of the arguments is sound: paths are not empty, and limits fit. -/
structure Sound (draft : Draft) : Prop where
  template : ∀ path ∈ draft.template, path ≠ ""
  data : ∀ path ∈ draft.data, path ≠ ""
  depth : ∀ n ∈ draft.depth, n ≤ Number.maxCount
  length : ∀ n ∈ draft.length, n ≤ Number.maxCount

/-- Before any argument the draft is sound. -/
lemma sound_start : Sound {} :=
  ⟨nofun, nofun, nofun, nofun⟩

section
variable {draft draft' : Draft}

/-- A count that is read fits into 64 bits. -/
lemma le_of_count?_eq {s : String} {n : Nat} (h : count? s = some n) : n ≤ Number.maxCount := by
  unfold count? at h
  dsimp only at h
  split_ifs at h with hfits
  cases h
  exact hfits.2.2

/-- An option keeps a draft sound. -/
lemma Sets.sound {name value : String} (h : draft.Sets name value draft') (hsound : draft.Sound) :
    draft'.Sound := by
  cases h with
  | data _ hne => exact { hsound with data := by rintro _ ⟨⟩; exact hne }
  | depth _ hcount => exact { hsound with depth := by rintro _ ⟨⟩; exact le_of_count?_eq hcount }
  | length _ hcount => exact { hsound with length := by rintro _ ⟨⟩; exact le_of_count?_eq hcount }

/-- A path that is not empty keeps a draft sound as its template. -/
lemma Sound.setTemplate {path : String} (h : draft.Sound) (hne : path ≠ "") :
    Sound { draft with template := some path } :=
  { h with template := by rintro _ ⟨⟩; exact hne }

/-- The arguments of the grammar keep a draft sound. -/
lemma Reads.sound {args : List String} (h : Reads draft args draft') (hsound : draft.Sound) :
    draft'.Sound := by
  induction h with
  | done => exact hsound
  | value hsets _ ih => exact ih (hsets.sound hsound)
  | apart hsets _ _ ih => exact ih (hsets.sound hsound)
  | check _ _ ih => exact ih { hsound with }
  | template _ hne _ _ ih => exact ih (hsound.setTemplate hne)
  | stop => exact hsound
  | behind _ hne => exact hsound.setTemplate hne

end

end Draft

/-- A draft asks for an invocation: there is a template, and a depth that has not been set is 64. -/
structure Draft.Asks (draft : Draft) (invocation : Invocation) : Prop where
  template : draft.template = some invocation.template
  data : draft.data = invocation.data
  check : draft.check = invocation.check
  depth : draft.depth.getD 64 = invocation.limits.depth
  length : draft.length = invocation.limits.length

/-- A draft is complete just if it asks for an invocation. -/
lemma Draft.finish_eq_ok_iff {draft : Draft} {invocation : Invocation} :
    draft.finish = .ok invocation ↔ draft.Asks invocation := by
  unfold finish
  constructor
  · intro h
    split at h
    · cases h
    · case h_2 template htemplate =>
      cases h
      exact ⟨htemplate, rfl, rfl, rfl, rfl⟩
  · rintro ⟨htemplate, hdata, hcheck, hdepth, hlength⟩
    rw [htemplate, hdata, hcheck, hlength]
    change Except.ok (Invocation.mk _ _ _ ⟨draft.depth.getD 64, _⟩) = _
    rw [hdepth]

namespace Invocation

/-- What the program is asked to do is what its arguments say by the grammar. -/
theorem ofArguments_eq_ok_iff {args : List String} {invocation : Invocation} :
    ofArguments args = .ok invocation ↔
      ∃ draft, Draft.Reads {} args draft ∧ draft.Asks invocation := by
  constructor
  · intro h
    obtain ⟨draft, hreads, hfinish⟩ := exists_of_bind_eq_ok h
    exact ⟨draft, Draft.arguments_eq_ok_iff.mp hreads, Draft.finish_eq_ok_iff.mp hfinish⟩
  · rintro ⟨draft, hreads, hasks⟩
    rw [ofArguments, Draft.arguments_eq_ok_iff.mpr hreads]
    exact Draft.finish_eq_ok_iff.mpr hasks

/-- The paths of an invocation are not empty, and its limits fit into 64 bits. -/
structure Sound (invocation : Invocation) : Prop where
  template : invocation.template ≠ ""
  data : ∀ path ∈ invocation.data, path ≠ ""
  depth : invocation.limits.depth ≤ Number.maxCount
  length : ∀ n ∈ invocation.limits.length, n ≤ Number.maxCount

/-- What arguments ask for is sound. -/
lemma sound_of_ofArguments {args : List String} {invocation : Invocation}
    (h : ofArguments args = .ok invocation) : invocation.Sound := by
  obtain ⟨draft, hreads, hasks⟩ := ofArguments_eq_ok_iff.mp h
  have hsound := hreads.sound Draft.sound_start
  refine ⟨hsound.template _ hasks.template, hasks.data ▸ hsound.data, ?_,
    hasks.length ▸ hsound.length⟩
  rw [← hasks.depth]
  cases hdepth : draft.depth with
  | none => exact (by decide : 64 ≤ Number.maxCount)
  | some n => exact hsound.depth n hdepth

/-- Arguments that set limits. -/
def limitArguments (limits : Limits) : List String :=
  ("--max-depth" ++ "=" ++ limits.depth.repr) ::
    (limits.length.map fun n => "--max-len" ++ "=" ++ n.repr).toList

/-- Arguments that ask for an invocation. -/
def spelling (invocation : Invocation) : List String :=
  (invocation.data.map fun path => "--data" ++ "=" ++ path).toList ++
    ((if invocation.check then ["--check"] else []) ++
      (limitArguments invocation.limits ++ ["--", invocation.template]))

/-- A count that fits into 64 bits is read from its digits. -/
lemma count?_repr {n : Nat} (h : n ≤ Number.maxCount) : count? n.repr = some n := by
  rw [count?_of_isNumeral (Digits.isNumeral_iff.mpr (Nat.toList_repr).symm), if_pos h]

/-- The spelling of a sound invocation asks for it. -/
lemma ofArguments_spelling {invocation : Invocation} (h : invocation.Sound) :
    ofArguments invocation.spelling = .ok invocation := by
  obtain ⟨template, data, check, limits⟩ := invocation
  obtain ⟨htemplate, hdata, hdepth, hlength⟩ := h
  obtain ⟨depth, length⟩ := limits
  dsimp only at htemplate hdata hdepth hlength
  -- the last argument is read first
  have hlast : Draft.Reads ⟨none, data, check, some depth, none⟩
      ((length.map fun n => "--max-len" ++ "=" ++ n.repr).toList ++ ["--", template])
      ⟨some template, data, check, some depth, length⟩ := by
    cases length with
    | none => exact .behind rfl htemplate
    | some n => exact .value (.length rfl (count?_repr (hlength n rfl))) (.behind rfl htemplate)
  have hlimits : Draft.Reads ⟨none, data, check, none, none⟩
      (limitArguments ⟨depth, length⟩ ++ ["--", template])
      ⟨some template, data, check, some depth, length⟩ :=
    .value (.depth rfl (count?_repr hdepth)) hlast
  have hcheck : Draft.Reads ⟨none, data, false, none, none⟩
      ((if check then ["--check"] else []) ++ (limitArguments ⟨depth, length⟩ ++ ["--", template]))
      ⟨some template, data, check, some depth, length⟩ := by
    cases check with
    | false => exact hlimits
    | true => exact .check rfl hlimits
  have hreads : Draft.Reads {} (spelling ⟨template, data, check, depth, length⟩)
      ⟨some template, data, check, some depth, length⟩ := by
    cases data with
    | none => exact hcheck
    | some path => exact .value (.data rfl (hdata path rfl)) hcheck
  exact ofArguments_eq_ok_iff.mpr ⟨_, hreads, rfl, rfl, rfl, rfl, rfl⟩

/-- There are arguments for an invocation just if it is sound. -/
theorem exists_arguments_iff {invocation : Invocation} :
    (∃ args, ofArguments args = .ok invocation) ↔ invocation.Sound :=
  ⟨fun ⟨_, h⟩ => sound_of_ofArguments h, fun h => ⟨_, ofArguments_spelling h⟩⟩

end Invocation

end Stencil.CommandLine
