import Mathlib.Data.String.Basic
import Stencil.Proofs.Checking.Lines
import Stencil.Proofs.CommandLine.Grammar

/-!
# What the program does with its inputs

The program renders a template or checks it, and tells by its code how that went: `0` if all went
well, `1` if the check has found problems, `2` if an input is missing or makes no sense.

What its inputs come to is described here without any steps: what a path leads to (`Inputs.Gives`,
`Inputs.Denies`), whether there are data (`Inputs.GivesData`, `Inputs.LacksData`), and from that the
ways in which a run can end (`Invocation.Ends`). A run ends in one of these ways and in no other
(`Invocation.perform_eq_iff`). Standard input can be read once, so whoever comes second finds
nothing there.

Main statement: the program keeps its contract for all arguments that are accepted, whatever the
files and standard input hold (`run_keeps`). It rests on one thing alone that the libraries do, to
find no document in the empty text. Which arguments the program with its own readers accepts, and
what they ask for, is said by their grammar (`Invocation.ofArguments_eq_ok_iff`).
-/

namespace Stencil.CommandLine

open Text

section
variable (inputs : Inputs) (used : Bool) (path : String)

/-- The bytes that a path leads to. There are none left on standard input when it has been read
before. -/
def Inputs.bytes : Except ReadError ByteArray :=
  if isStdin path then .ok (if used then .empty else inputs.stdin) else inputs.file path

/-- A path leads to a text in UTF-8. -/
def Inputs.Gives (text : String) : Prop :=
  inputs.bytes used path = .ok text.toUTF8

/-- A path leads to no text: there are no bytes, or they are not UTF-8. -/
inductive Inputs.Denies : ReadError → Prop
  | noBytes {e : ReadError} : inputs.bytes used path = .error e → Denies e
  | noText {bytes : ByteArray} :
    inputs.bytes used path = .ok bytes → (∀ text : String, bytes ≠ text.toUTF8) → Denies .notText

end

/-- Bytes are a text if they are the UTF-8 of it. -/
lemma textOf_eq_ok_iff {bytes : ByteArray} {text : String} :
    textOf bytes = .ok text ↔ bytes = text.toUTF8 := by
  unfold textOf String.fromUTF8?
  constructor
  · intro h
    split at h
    · case h_1 s hs =>
      cases h
      split at hs
      · cases hs
        rfl
      · cases hs
    · cases h
  · rintro rfl
    rw [dif_pos (show text.toUTF8.IsValidUTF8 from text.isValidUTF8)]
    rfl

/-- Bytes are refused if they are the UTF-8 of no text. -/
lemma textOf_eq_error_iff {bytes : ByteArray} {e : ReadError} :
    textOf bytes = .error e ↔ e = .notText ∧ ∀ text : String, bytes ≠ text.toUTF8 := by
  constructor
  · intro h
    refine ⟨?_, fun text htext => ?_⟩
    · unfold textOf at h
      split at h
      · cases h
      · exact (Except.error.inj h).symm
    · rw [textOf_eq_ok_iff.mpr htext] at h
      cases h
  · rintro ⟨rfl, h⟩
    cases htext : textOf bytes with
    | ok text => exact absurd (textOf_eq_ok_iff.mp htext) (h text)
    | error e =>
      unfold textOf at htext
      split at htext
      · cases htext
      · exact htext.symm

section
variable {inputs : Inputs} {used : Bool} {path text : String} {e : ReadError}

/-- Reading an input is reading its bytes as text. -/
lemma Inputs.read_eq : inputs.read used path = (inputs.bytes used path).bind textOf := by
  unfold Inputs.read Inputs.bytes
  split <;> rfl

/-- A text is read just if the path leads to it. -/
lemma Inputs.read_eq_ok_iff : inputs.read used path = .ok text ↔ inputs.Gives used path text := by
  rw [read_eq, Gives]
  cases inputs.bytes used path with
  | error e => exact iff_of_false nofun nofun
  | ok bytes =>
    rw [Except.ok.injEq]
    exact textOf_eq_ok_iff

/-- Reading fails just if the path leads to no text. -/
lemma Inputs.read_eq_error_iff : inputs.read used path = .error e ↔ inputs.Denies used path e := by
  rw [read_eq]
  constructor
  · intro h
    cases hbytes : inputs.bytes used path with
    | error e' =>
      rw [hbytes] at h
      cases h
      exact .noBytes hbytes
    | ok bytes =>
      rw [hbytes] at h
      obtain ⟨rfl, htext⟩ := textOf_eq_error_iff.mp h
      exact .noText hbytes htext
  · rintro (h | ⟨hbytes, htext⟩)
    · rw [h]
      rfl
    · rw [hbytes]
      exact textOf_eq_error_iff.mpr ⟨rfl, htext⟩

/-- A path leads to a text or to none. -/
lemma Inputs.gives_or_denies (inputs : Inputs) (used : Bool) (path : String) :
    (∃ text, inputs.Gives used path text) ∨ ∃ e, inputs.Denies used path e := by
  cases h : inputs.read used path with
  | ok text => exact .inl ⟨text, read_eq_ok_iff.mp h⟩
  | error e => exact .inr ⟨e, read_eq_error_iff.mp h⟩

end

section
variable (libraries : Libraries) (inputs : Inputs) (used : Bool)

/-- There are data: no fields without a path, and otherwise those of a JSON object. -/
inductive Inputs.GivesData : Option String → Fields Value → Prop
  | unset : GivesData none []
  | object {path text : String} {members : List (String × Json)} :
    inputs.Gives used path text → libraries.document text = .ok (.object members) →
    GivesData (some path) (Json.toFields members)

/-- There are no data, and this is what the program says about it: the path leads to no text, to
one that is not JSON, or to a JSON document that is not an object. -/
inductive Inputs.LacksData : Option String → String → Prop
  | noText {path : String} {e : ReadError} :
    inputs.Denies used path e → LacksData (some path) (unreadable path e)
  | notJson {path text reason : String} :
    inputs.Gives used path text → libraries.document text = .error reason →
    LacksData (some path) (Json.invalid reason)
  | notAnObject {path text : String} {j : Json} :
    inputs.Gives used path text → libraries.document text = .ok j → j.kind ≠ .object →
    LacksData (some path) (DataError.notAnObject j.kind).message

end

section
variable {libraries : Libraries} {inputs : Inputs} {used : Bool} {path text reason : String}
  {data : Fields Value}

/-- The data of a text are those of the document that it is. -/
lemma loadData_of_gives (h : inputs.Gives used path text) :
    loadData libraries inputs used (some path) =
      ((libraries.document text).mapError Json.invalid).bind fun j =>
        j.toData.mapError DataError.message := by
  rw [loadData, Inputs.read_eq_ok_iff.mpr h]
  rfl

/-- A path that leads to no text leads to no data. -/
lemma loadData_of_denies {e : ReadError} (h : inputs.Denies used path e) :
    loadData libraries inputs used (some path) = .error (unreadable path e) := by
  rw [loadData, Inputs.read_eq_error_iff.mpr h]
  rfl

variable {source : Option String}

/-- Data that are there are loaded. -/
lemma Inputs.GivesData.loadData_eq (h : inputs.GivesData libraries used source data) :
    loadData libraries inputs used source = .ok data := by
  cases h with
  | unset => rfl
  | object htext hjson =>
    rw [loadData_of_gives htext, hjson]
    rfl

/-- Data that are not there are missed, for the reason that there is. -/
lemma Inputs.LacksData.loadData_eq (h : inputs.LacksData libraries used source reason) :
    loadData libraries inputs used source = .error reason := by
  cases h with
  | noText htext => exact loadData_of_denies htext
  | notJson htext hjson =>
    rw [loadData_of_gives htext, hjson]
    rfl
  | @notAnObject _ _ j htext hjson hkind =>
    rw [loadData_of_gives htext, hjson]
    cases j with
    | object _ => exact absurd rfl hkind
    | _ => rfl

/-- There are data or there are none. -/
lemma Inputs.givesData_or_lacksData (libraries : Libraries) (inputs : Inputs) (used : Bool)
    (source : Option String) :
    (∃ data, inputs.GivesData libraries used source data) ∨
      ∃ reason, inputs.LacksData libraries used source reason := by
  cases source with
  | none => exact .inl ⟨_, .unset⟩
  | some path =>
    obtain ⟨text, htext⟩ | ⟨e, htext⟩ := inputs.gives_or_denies used path
    · cases hjson : libraries.document text with
      | error reason => exact .inr ⟨_, .notJson htext hjson⟩
      | ok j =>
        cases j with
        | object members => exact .inl ⟨_, .object htext hjson⟩
        | _ => exact .inr ⟨_, .notAnObject htext hjson nofun⟩
    · exact .inr ⟨_, .noText htext⟩

end

namespace Invocation

/-- The template that a source is read as, within the limits asked for. -/
def templateOf (invocation : Invocation) (source : String) : Template :=
  Template.parse invocation.limits source

section
variable (libraries : Libraries) (invocation : Invocation) (inputs : Inputs)

/-- The ways in which a run can end. -/
inductive Ends : Outcome → Prop
  | noTemplate {e : ReadError} :
    inputs.Denies false invocation.template e →
    Ends (.failure (unreadable invocation.template e))
  | clean {source : String} :
    inputs.Gives false invocation.template source → invocation.check = true →
    (invocation.templateOf source).check .standard = [] → Ends (.success "")
  | problems {source : String} {found : List Problem} :
    inputs.Gives false invocation.template source → invocation.check = true →
    (invocation.templateOf source).check .standard = found → found ≠ [] →
    Ends (.problems (found.map problemLine))
  | noData {source reason : String} :
    inputs.Gives false invocation.template source → invocation.check = false →
    inputs.LacksData libraries (isStdin invocation.template) invocation.data reason →
    Ends (.failure reason)
  | rendered {source : String} {data : Fields Value} :
    inputs.Gives false invocation.template source → invocation.check = false →
    inputs.GivesData libraries (isStdin invocation.template) invocation.data data →
    Ends (.success ((invocation.templateOf source).render .standard data).value)

end

variable {libraries : Libraries} {invocation : Invocation} {inputs : Inputs} {outcome : Outcome}

/-- What an invocation does with the source of its template. -/
lemma perform_of_gives {source : String} (h : inputs.Gives false invocation.template source) :
    invocation.perform libraries inputs =
      if invocation.check then
        match (invocation.templateOf source).check .standard with
        | [] => .success ""
        | found => .problems (found.map problemLine)
      else
        match loadData libraries inputs (isStdin invocation.template) invocation.data with
        | .error reason => .failure reason
        | .ok data => .success ((invocation.templateOf source).render .standard data).value := by
  rw [perform, Inputs.read_eq_ok_iff.mpr h]
  rfl

/-- A run ends in each way in which it can. -/
lemma Ends.perform_eq (h : invocation.Ends libraries inputs outcome) :
    invocation.perform libraries inputs = outcome := by
  cases h with
  | noTemplate h =>
    rw [perform, Inputs.read_eq_error_iff.mpr h]
  | clean h hcheck hfound =>
    rw [perform_of_gives h, hcheck, hfound]
    rfl
  | @problems _ found h hcheck hfound hne =>
    rw [perform_of_gives h, hcheck, hfound]
    cases found with
    | nil => contradiction
    | cons _ _ => rfl
  | noData h hcheck hdata =>
    rw [perform_of_gives h, hcheck, hdata.loadData_eq]
    rfl
  | rendered h hcheck hdata =>
    rw [perform_of_gives h, hcheck, hdata.loadData_eq]
    rfl

/-- There is a way in which a run can end. -/
lemma exists_ends (libraries : Libraries) (invocation : Invocation) (inputs : Inputs) :
    ∃ outcome, invocation.Ends libraries inputs outcome := by
  obtain ⟨source, h⟩ | ⟨e, h⟩ := inputs.gives_or_denies false invocation.template
  · cases hcheck : invocation.check with
    | true =>
      by_cases hfound : (invocation.templateOf source).check .standard = []
      · exact ⟨_, .clean h hcheck hfound⟩
      · exact ⟨_, .problems h hcheck rfl hfound⟩
    | false =>
      obtain ⟨data, hdata⟩ | ⟨reason, hdata⟩ :=
        inputs.givesData_or_lacksData libraries (isStdin invocation.template) invocation.data
      · exact ⟨_, .rendered h hcheck hdata⟩
      · exact ⟨_, .noData h hcheck hdata⟩
  · exact ⟨_, .noTemplate h⟩

/-- The program does what is described, and only that. -/
theorem perform_eq_iff :
    invocation.perform libraries inputs = outcome ↔ invocation.Ends libraries inputs outcome := by
  constructor
  · rintro rfl
    obtain ⟨outcome, h⟩ := exists_ends libraries invocation inputs
    rwa [h.perform_eq]
  · exact Ends.perform_eq

variable (libraries invocation inputs) in
/-- What the program promises about the outcome of an invocation. -/
structure Keeps (outcome : Outcome) : Prop where
  /-- There is output only after a success. -/
  stdout_eq : outcome.code ≠ 0 → outcome.stdout = ""
  /-- Without a check, a template and data that are there are rendered with the built-ins, and
  nothing else is said. -/
  render : ∀ source data, inputs.Gives false invocation.template source →
    invocation.check = false →
    inputs.GivesData libraries (isStdin invocation.template) invocation.data data →
    outcome = ⟨0, ((invocation.templateOf source).render .standard data).value, ""⟩
  /-- Without a check, there is no success without a template and data. -/
  of_success : invocation.check = false → outcome.code = 0 →
    (∃ source, inputs.Gives false invocation.template source) ∧
      ∃ data, inputs.GivesData libraries (isStdin invocation.template) invocation.data data
  /-- The program fails just if there is no template, or no data where they are needed. -/
  failure_iff : outcome.code = 2 ↔
    (∃ e, inputs.Denies false invocation.template e) ∨
      (invocation.check = false ∧
        ∃ reason, inputs.LacksData libraries (isStdin invocation.template) invocation.data reason)
  /-- The template comes first: without one, that is all that is said. -/
  template_first : ∀ e, inputs.Denies false invocation.template e →
    outcome = ⟨2, "", unreadable invocation.template e ++ "\n"⟩
  /-- A check of a template that is there tells by its code whether there are problems, and says
  one line for each of them, in their order. -/
  check : ∀ source found, inputs.Gives false invocation.template source →
    invocation.check = true → (invocation.templateOf source).check .standard = found →
    outcome = ⟨if found = [] then 0 else 1, "",
        String.join (found.map fun p => problemLine p ++ "\n")⟩ ∧
      ∀ p ∈ found, IsLine (problemLine p)
  /-- Standard input cannot be both: nothing of it is left for the data. -/
  both_stdin : isStdin invocation.template = true → invocation.check = false →
    ∀ path ∈ invocation.data, isStdin path = true →
      inputs.Gives (isStdin invocation.template) path "" ∧ outcome.code = 2

/-- A check leaves the outcome to the problems that it finds. -/
lemma perform_of_check {source : String} (h : inputs.Gives false invocation.template source)
    (hcheck : invocation.check = true) {found : List Problem}
    (hfound : (invocation.templateOf source).check .standard = found) :
    invocation.perform libraries inputs = ⟨if found = [] then 0 else 1, "",
      String.join (found.map fun p => problemLine p ++ "\n")⟩ := by
  cases found with
  | nil => exact (Ends.clean h hcheck hfound).perform_eq
  | cons p found =>
    rw [(Ends.problems h hcheck hfound (List.cons_ne_nil _ _)).perform_eq, Outcome.problems,
      List.map_map, if_neg (List.cons_ne_nil _ _)]
    rfl

/-- The program fails just if there is no template, or no data where they are needed. -/
lemma code_perform_eq_two_iff : (invocation.perform libraries inputs).code = 2 ↔
    (∃ e, inputs.Denies false invocation.template e) ∨
      (invocation.check = false ∧
        ∃ reason,
          inputs.LacksData libraries (isStdin invocation.template) invocation.data reason) := by
  constructor
  · intro hcode
    obtain ⟨outcome, h⟩ := exists_ends libraries invocation inputs
    rw [h.perform_eq] at hcode
    cases h with
    | noTemplate h => exact .inl ⟨_, h⟩
    | noData _ hcheck hdata => exact .inr ⟨hcheck, _, hdata⟩
    | _ => cases hcode
  · rintro (⟨e, h⟩ | ⟨hcheck, reason, hdata⟩)
    · rw [(Ends.noTemplate h).perform_eq]
      rfl
    -- without data it does not matter whether there is a template
    · obtain ⟨source, h⟩ | ⟨e, h⟩ := inputs.gives_or_denies false invocation.template
      · rw [(Ends.noData h hcheck hdata).perform_eq]
        rfl
      · rw [(Ends.noTemplate h).perform_eq]
        rfl

/-- Nothing of standard input is left for the data if the template has been read from it. -/
lemma lacksData_of_stdin (libraries : Libraries) (inputs : Inputs) {path : String}
    (hstdin : isStdin path = true) :
    inputs.Gives true path "" ∧ ∃ reason, inputs.LacksData libraries true (some path) reason := by
  have hempty : inputs.Gives true path "" := by
    rw [Inputs.Gives, Inputs.bytes, if_pos hstdin]
    rfl
  refine ⟨hempty, ?_⟩
  cases hdocument : libraries.document "" with
  | error reason => exact ⟨_, .notJson hempty hdocument⟩
  | ok j => exact absurd hdocument (libraries.document_empty j)

/-- What an invocation does is what the program promises. -/
lemma perform_keeps (libraries : Libraries) (invocation : Invocation) (inputs : Inputs) :
    invocation.Keeps libraries inputs (invocation.perform libraries inputs) := by
  generalize houtcome : invocation.perform libraries inputs = outcome
  have hends := perform_eq_iff.mp houtcome
  constructor
  case stdout_eq =>
    intro hcode
    cases hends with
    | rendered _ _ _ => exact absurd rfl hcode
    | _ => rfl
  case render =>
    intro source data h hcheck hdata
    exact houtcome.symm.trans (Ends.rendered h hcheck hdata).perform_eq
  case of_success =>
    intro hcheck hcode
    cases hends with
    | clean _ hcheck' _ => cases hcheck.symm.trans hcheck'
    | rendered h _ hdata => exact ⟨⟨_, h⟩, _, hdata⟩
    | _ => cases hcode
  case failure_iff =>
    rw [← houtcome]
    exact code_perform_eq_two_iff
  case template_first =>
    intro e h
    exact houtcome.symm.trans (Ends.noTemplate h).perform_eq
  case check =>
    intro source found h hcheck hfound
    refine ⟨houtcome.symm.trans (perform_of_check h hcheck hfound), fun p hp => ?_⟩
    rw [← hfound] at hp
    exact isLine_problemLine hp
  case both_stdin =>
    intro htemplate hcheck path hpath hstdin
    obtain ⟨hempty, reason, hdata⟩ := lacksData_of_stdin libraries inputs hstdin
    rw [← htemplate] at hempty hdata
    rw [← Option.mem_def.mp hpath] at hdata
    rw [← houtcome]
    exact ⟨hempty, code_perform_eq_two_iff.mpr (.inr ⟨hcheck, _, hdata⟩)⟩

/-- A check depends on the template and the limits alone. -/
lemma perform_check_congr {invocation' : Invocation} {inputs' : Inputs}
    (hcheck : invocation.check = true) (hcheck' : invocation'.check = true)
    (htemplate : invocation'.template = invocation.template)
    (hlimits : invocation'.limits = invocation.limits)
    (hbytes : inputs'.bytes false invocation.template = inputs.bytes false invocation.template) :
    invocation'.perform libraries inputs' = invocation.perform libraries inputs := by
  rw [perform, perform, htemplate, hlimits, hcheck, hcheck', Inputs.read_eq, Inputs.read_eq, hbytes]
  rfl

end Invocation

/-- The contract of the program, whatever libraries read its arguments and documents, for all
arguments that are accepted and all inputs. Besides what `Invocation.Keeps` promises, a check
depends on the bytes of the template and on the limits alone: neither other arguments, about the
data for instance, nor other files change what it leaves behind. -/
theorem run_keeps (libraries : Libraries) {args : List String} {invocation : Invocation}
    (h : libraries.invocation args = .ok invocation) (inputs : Inputs) :
    invocation.Keeps libraries inputs (libraries.run inputs args) ∧
      ∀ args' invocation' inputs', libraries.invocation args' = .ok invocation' →
        invocation.check = true → invocation'.check = true →
        invocation'.template = invocation.template → invocation'.limits = invocation.limits →
        inputs'.bytes false invocation.template = inputs.bytes false invocation.template →
        libraries.run inputs' args' = libraries.run inputs args := by
  have hrun : libraries.run inputs args = invocation.perform libraries inputs := by
    rw [Libraries.run, h]
  refine ⟨hrun ▸ invocation.perform_keeps libraries inputs, ?_⟩
  intro args' invocation' inputs' h' hcheck hcheck' htemplate hlimits hbytes
  have hrun' : libraries.run inputs' args' = invocation'.perform libraries inputs' := by
    rw [Libraries.run, h']
  rw [hrun, hrun']
  exact Invocation.perform_check_congr hcheck hcheck' htemplate hlimits hbytes

/-- The program with its own readers accepts the arguments of the grammar. -/
lemma Libraries.own_invocation_eq_ok_iff {args : List String} {invocation : Invocation} :
    own.invocation args = .ok invocation ↔ Invocation.ofArguments args = .ok invocation := by
  change (Invocation.ofArguments args).mapError _ = .ok invocation ↔ _
  cases Invocation.ofArguments args with
  | error e => simp [Except.mapError]
  | ok _ => simp [Except.mapError]

/-- A template with a text in it, and with a name that an empty object has no field for. -/
def greetingSource : String :=
  "Hi \x7b\x7b 'you' \x7d\x7d\x7b\x7b who \x7d\x7d"

/-- A template as standard input, and an empty object in every file. -/
def greeting : Inputs where
  file _ := .ok "\x7b\x7d".toUTF8
  stdin := greetingSource.toUTF8

/-- With its own readers, the program renders a template from standard input with the data of a
file; a check of it says the same if that file is missing. -/
theorem run_keeps_of_greeting :
    Libraries.own.invocation ["--data=d", "--max-depth=8", "--", "-"] =
        .ok ⟨"-", some "d", false, ⟨8, none⟩⟩ ∧
      run greeting ["--data=d", "--max-depth=8", "--", "-"] = ⟨0, "Hi you", ""⟩ ∧
      run ⟨fun _ => .error .notFound, greeting.stdin⟩
          ["--data=d", "--check", "--max-depth=8", "--", "-"] =
        run greeting ["--check", "--max-depth=8", "--", "-"] := by
  have htemplate : "-" ≠ "" := by decide
  have hpath : ∀ path ∈ some "d", path ≠ "" := by
    rintro _ ⟨⟩
    decide
  have hdepth : 8 ≤ Number.maxCount := by decide
  have hboth (check : Bool) : Invocation.Sound ⟨"-", some "d", check, ⟨8, none⟩⟩ :=
    ⟨htemplate, hpath, hdepth, nofun⟩
  have hsingle : Invocation.Sound ⟨"-", none, true, ⟨8, none⟩⟩ :=
    ⟨htemplate, nofun, hdepth, nofun⟩
  have hrender : Libraries.own.invocation ["--data=d", "--max-depth=8", "--", "-"] =
      .ok ⟨"-", some "d", false, ⟨8, none⟩⟩ :=
    Libraries.own_invocation_eq_ok_iff.mpr (Invocation.ofArguments_spelling (hboth false))
  have hcheck : Libraries.own.invocation ["--check", "--max-depth=8", "--", "-"] =
      .ok ⟨"-", none, true, ⟨8, none⟩⟩ :=
    Libraries.own_invocation_eq_ok_iff.mpr (Invocation.ofArguments_spelling hsingle)
  have hcheck' : Libraries.own.invocation ["--data=d", "--check", "--max-depth=8", "--", "-"] =
      .ok ⟨"-", some "d", true, ⟨8, none⟩⟩ :=
    Libraries.own_invocation_eq_ok_iff.mpr (Invocation.ofArguments_spelling (hboth true))
  have hobject : Libraries.own.document "\x7b\x7d" = .ok (.object []) := rfl
  have hdata : greeting.GivesData Libraries.own true (some "d") [] :=
    .object (show greeting.Gives true "d" "\x7b\x7d" from rfl) hobject
  have hvalue : ((Template.parse ⟨8, none⟩ greetingSource).render .standard []).value =
      "Hi you" := by
    decide +kernel
  refine ⟨hrender, ?_, ?_⟩
  · calc run greeting ["--data=d", "--max-depth=8", "--", "-"]
      _ = ⟨0, ((Template.parse ⟨8, none⟩ greetingSource).render .standard []).value, ""⟩ :=
        (run_keeps .own hrender greeting).1.render greetingSource [] rfl rfl hdata
      _ = ⟨0, "Hi you", ""⟩ := by rw [hvalue]
  · exact (run_keeps .own hcheck greeting).2 _ _ _ hcheck' rfl rfl rfl rfl rfl

end Stencil.CommandLine
