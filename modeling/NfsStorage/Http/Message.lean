import NfsStorage.Fault
import NfsStorage.Json.Reader
import NfsStorage.Net.Uri
import NfsStorage.Text.Blank

/-!
HTTP requests and responses, as far as the services look at them.
-/

namespace NfsStorage.Http

structure Request where
  method : String := "POST"
  /-- The path, possibly with a query. -/
  target : String := "/"
  contentType : Option String := none
  body : String := ""

inductive Body where
  | none
  | text (content : String)
  | json (content : Json)

structure Response where
  status : Nat
  body : Body := .none

namespace Request

/-- The path that is asked for, without a query. The target may name a scheme and a host before
it. -/
def path (r : Request) : String :=
  let target := r.target.toList
  match Net.Uri.afterScheme? target with
  | some rest =>
    match (rest.dropWhile (!Net.Uri.isAuthorityEnd ·)).takeWhile (!Net.Uri.isPathEnd ·) with
    | [] => "/"
    | path => String.ofList path
  | none => String.ofList (target.takeWhile (!Net.Uri.isPathEnd ·))

/-- The body without the blanks at its end, which may be many. -/
def content (r : Request) : String := r.body.trimAsciiEnd.copy

end Request

def isTokenChar (c : Char) : Bool :=
  c.isAlphanum || "!#$%&\x27*+-.^_\x60|~".toList.contains c

def isQuotedValue (c : Char) : Bool := ' ' ≤ c && c ≠ '\x7f'

def lowerAscii (text : List Char) : List Char := text.map Char.toLower

/-- A subtype with the suffix after its last plus sign, if something stands before that. -/
def subtypeParts (subtype : List Char) : List Char × Option (List Char) :=
  let suffix := (subtype.reverse.takeWhile (· ≠ '+')).reverse
  match (subtype.take (subtype.length - suffix.length)).dropLast with
  | [] => (subtype, none)
  | base => (base, some suffix)

mutual

/-- The parameters of a media type, after a semicolon. Blanks may come before a name only, and the
last value may be empty. -/
def areParameters : (fuel : Nat) → List Char → Bool
  | _, [] => true
  | 0, _ => false
  | fuel + 1, ' ' :: rest => areParameters fuel rest
  | fuel + 1, text =>
    let name := text.takeWhile isTokenChar
    match name, text.drop name.length with
    | _ :: _, '=' :: '\x22' :: first :: rest => isQuotedValue first && endsQuoted fuel rest
    | _ :: _, '=' :: rest =>
      let value := rest.takeWhile isTokenChar
      match value, rest.drop value.length with
      | _, [] => true
      | _ :: _, ';' :: rest => areParameters fuel rest
      | _, _ => false
    | _, _ => false

def endsQuoted : (fuel : Nat) → List Char → Bool
  | _, [] => false
  | 0, _ => false
  | fuel + 1, '\x22' :: rest =>
    match rest.dropWhile (· = ' ') with
    | [] => true
    | ';' :: rest => areParameters fuel rest
    | _ => false
  | fuel + 1, c :: rest => isQuotedValue c && endsQuoted fuel rest

end

/-- Whether a content type says that the content is JSON: `application/json`, or a type of
`application` with the suffix `json`, in any case and with any parameters. -/
def isJsonType (contentType : String) : Bool :=
  let text := lowerAscii contentType.toList
  let type := text.takeWhile isTokenChar
  match text.drop type.length with
  | '/' :: rest =>
    let subtype := rest.takeWhile isTokenChar
    let (base, suffix?) := subtypeParts subtype
    let json := ['j', 's', 'o', 'n']
    type = "application".toList && (base = json || suffix? = some json) &&
      match rest.drop subtype.length with
      | [] => true
      | ';' :: parameters => areParameters parameters.length parameters
      | _ => false
  | _ => false

namespace Response

def ok (content : Json) : Response := ⟨200, .json content⟩

def ofFault {ε : Type} [Fault ε] (status : Nat) (error : ε) : Response :=
  let texts := Fault.texts error
  ⟨status, .json (.object [("error", .object [
    ("message", .string (texts.headD "")),
    ("causes", encode texts.tail)])])⟩

end Response

end NfsStorage.Http
