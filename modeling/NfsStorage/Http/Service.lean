import NfsStorage.Admission.Decision
import NfsStorage.Extender.Filter
import NfsStorage.Http.Message

/-!
The services that the programs of the module offer: the extender verbs of the scheduler, the
admission webhooks, and probes of health.
-/

namespace NfsStorage.Http

open Json

/-- How a path is served: by a text to whoever asks for it, or by an answer to what is posted. -/
inductive Endpoint where
  | page (content : String)
  | form (answer : Request → Program Response)

abbrev Service := List (String × Endpoint)

/-- The greatest body of a question to the extender, in bytes. -/
def extenderBodyLimit : Nat := 10 * 1024 * 1024

/-- The greatest body of an admission review, in bytes. -/
def reviewBodyLimit : Nat := 2 * 1024 * 1024

/-- The extender reads the body whatever its content type says. -/
def askExtender {α : Type} (render : α → Json)
    (answer : Extender.Question → Pass Extender.Error α) (r : Request) : Program Response :=
  if extenderBodyLimit < r.body.utf8ByteSize then pure ⟨413, .none⟩
  else match ((shape Extender.Question).read r.content).toOption.bind Extender.Question.ofJson? with
    | none => pure (.ofFault Extender.Error.undecodable.status Extender.Error.undecodable)
    | some q => do
      match ← (answer q).run with
      | .ok a => return .ok (render a)
      | .error e => return .ofFault e.status e

def filterEndpoint : Endpoint := .form (askExtender Extender.Verdict.toJson Extender.filter)

def prioritizeEndpoint : Endpoint :=
  .form (askExtender (fun ps : List Extender.Priority => .array (ps.map Extender.Priority.toJson))
    fun q => ExceptT.mk (pure (Extender.prioritize q)))

/-- A review has to say that it is JSON, and to be it. What is no JSON is told from JSON that is no
review, and what follows a review is looked at last. -/
def judgeReview {K : Type} [Resource K] [Shaped K]
    (judgement : Admission.Request K → Program Admission.Verdict) (r : Request) :
    Program Response :=
  if !(r.contentType.map isJsonType).getD false then pure ⟨415, .none⟩
  else if reviewBodyLimit < r.body.utf8ByteSize then pure ⟨413, .none⟩
  else match (shape (Admission.Review K)).readFirst r.content with
    | .error .malformed => pure ⟨400, .none⟩
    | .error .unfit => pure ⟨422, .none⟩
    | .ok (j, rest) =>
      match Admission.Review.ofJson? K j with
      | none => pure ⟨422, .none⟩
      | some review =>
        if rest.all isBlank then do
          let answer ← Admission.answer judgement review
          return .ok answer
        else pure ⟨400, .none⟩

def health : Service := [("/healthz", .page "ok"), ("/readyz", .page "ok")]

def scheduler : Service :=
  [("/scheduler/filter", filterEndpoint),
    ("/scheduler/prioritize", prioritizeEndpoint),
    ("/status", .page "ok")] ++ health

def webhooks (tls : Bool) : Service :=
  [("/nsc-validate", .form (judgeReview (Admission.admitDeclaration tls))),
    ("/mc-validate", .form (judgeReview (Admission.admitModuleConfig tls))),
    ("/sc-validate", .form (judgeReview Admission.admitAny)),
    ("/healthz", .page "Ok.")]

/-- An unknown path is 404, and a method that a path does not know is 405. -/
def Service.respond (service : Service) (r : Request) : Program Response :=
  match service.lookup r.path, r.method with
  | none, _ => pure ⟨404, .none⟩
  | some (.page content), "GET" => pure ⟨200, .text content⟩
  | some (.page _), "HEAD" => pure ⟨200, .text ""⟩
  | some (.form answer), "POST" => answer r
  | some _, _ => pure ⟨405, .none⟩

end NfsStorage.Http
