import Stencil.Evaluation.Check
import Stencil.Evaluation.Render
import Stencil.Json.Data
import Stencil.Template.Block

/-!
# Sessions

A session holds a current registry, saved registries and compiled templates, each under a name, and
answers requests one after another. A request can be put to a saved registry instead of the current
one. An error is an answer like any other, and the session goes on.
-/

namespace Stencil

/-- Where the data of a render come from. -/
inductive DataSource
  | text (s : String)
  | document (j : Json)
  | fields (data : Fields Value)

/-- The data of a source. -/
def DataSource.load : DataSource → Except DataError (Fields Value)
  | text s => Json.dataOfText s
  | document j => j.toData
  | fields data => .ok data

/-- The template of a render: one that was compiled before, or a text. -/
inductive TemplateSource
  | compiled (name : String)
  | text (s : String)

/-- What a session can be asked. A `registry` names a saved registry; without it the request is put
to the current one. -/
inductive Request
  | register (name : String) (run : List Value → Value)
  | names (registry : Option String)
  | get (registry : Option String) (name : String)
  | save (registry : Option String) (name : String)
  | compile (name : String) (limits : Limits) (text : String)
  | render (registry : Option String) (template : TemplateSource) (data : DataSource)
  | check (registry : Option String) (template : String)

/-- What a session answers. -/
inductive Answer
  | done
  | names (names : List String)
  | function (f : Option Function)
  | compiled (template : Template)
  | rendered (out : Traced String)
  | problems (problems : List Problem)
  | rejected (error : RegistryError)
  | badData (error : DataError)
  | unknownName (name : String)

/-- The state of a session. -/
structure Session where
  current : Registry
  saved : Fields Registry
  templates : Fields Template

namespace Session

/-- The session that begins with a registry. -/
def start (registry : Registry) : Session :=
  ⟨registry, [], []⟩

/-- The registry that a request is put to. -/
def registry (session : Session) : Option String → Except Answer Registry
  | none => .ok session.current
  | some name =>
    match Fields.get? session.saved name with
    | some registry => .ok registry
    | none => .error (.unknownName name)

/-- The compiled template with a name. -/
def compiled (session : Session) (name : String) : Except Answer Template :=
  match Fields.get? session.templates name with
  | some template => .ok template
  | none => .error (.unknownName name)

/-- The template that a source stands for. A text is read with the usual limits. -/
def template (session : Session) : TemplateSource → Except Answer Template
  | .compiled name => session.compiled name
  | .text s => .ok (Template.parse {} s)

/-- The answer of a request that went well, and otherwise the reason. -/
def answerOf : Except Answer Answer → Answer
  | .ok answer => answer
  | .error answer => answer

/-- Answers a request. Only `register`, `save` and `compile` change the session. -/
def step (session : Session) : Request → Answer × Session
  | .register name run =>
    match session.current.register name run with
    | .ok registry => (.done, { session with current := registry })
    | .error e => (.rejected e, session)
  | .names saved =>
    (answerOf (do
      let registry ← session.registry saved
      pure (.names registry.names)), session)
  | .get saved name =>
    (answerOf (do
      let registry ← session.registry saved
      pure (.function (registry.get? name))), session)
  | .save saved name =>
    match session.registry saved with
    | .ok registry => (.done, { session with saved := Fields.insert session.saved name registry })
    | .error answer => (answer, session)
  | .compile name limits text =>
    let template := Template.parse limits text
    (.compiled template,
      { session with templates := Fields.insert session.templates name template })
  | .render saved template data =>
    (answerOf (do
      let registry ← session.registry saved
      let data ← data.load.mapError .badData
      let template ← session.template template
      pure (.rendered (template.render registry data))), session)
  | .check saved name =>
    (answerOf (do
      let registry ← session.registry saved
      let template ← session.compiled name
      pure (.problems (template.check registry))), session)

/-- Answers some requests, each in the state that the ones before it left. -/
def run (session : Session) : List Request → List Answer
  | [] => []
  | request :: rest =>
    let (answer, next) := session.step request
    answer :: next.run rest

end Session

end Stencil
