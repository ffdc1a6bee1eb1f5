import NfsStorage.Store.Address
import NfsStorage.Text.Quoted

/-!
Errors of the API server, and the calls by which it refuses service.
-/

namespace NfsStorage

structure ApiError where
  code : Nat
  reason : String
  message : String
deriving DecidableEq, Repr

namespace ApiError

def isNotFound (e : ApiError) : Bool := e.code = 404

def isConflict (e : ApiError) : Bool := e.code = 409

def notFound (name : String) : ApiError := ⟨404, "NotFound", name ++ " not found"⟩

def alreadyExists (name : String) : ApiError := ⟨409, "AlreadyExists", name ++ " already exists"⟩

def modified (name : String) : ApiError := ⟨409, "Conflict", name ++ " has been modified"⟩

def statusText (e : ApiError) : String := e.message ++ ": " ++ e.reason

/-- An API error is its own cause, once with and once without the response it came in. -/
instance : Fault ApiError where
  texts e :=
    ["ApiError: " ++ e.statusText ++ " (ErrorResponse \x7b status: \"Failure\", message: " ++
        Text.quoted e.message ++ ", reason: " ++ Text.quoted e.reason ++ ", code: " ++
        toString e.code ++ " \x7d)",
      e.statusText]

end ApiError

/-- Why a call on a store fails: the server refuses it, an object that a patch leads to is no object
of its kind, or the call cannot be sent to the server. -/
inductive StoreError where
  | api (error : ApiError)
  | undecodable
  | unsent (cause : AddressError)
deriving DecidableEq, Repr

namespace StoreError

def isNotFound : StoreError → Bool
  | api e => e.isNotFound
  | undecodable | unsent _ => false

def isConflict : StoreError → Bool
  | api e => e.isConflict
  | undecodable | unsent _ => false

instance : Fault StoreError where
  texts
    | api e => Fault.texts e
    | undecodable => ["Error deserializing response"]
    | unsent cause => Fault.texts cause

end StoreError

inductive Verb where
  | get | list | create | replace | delete | patch | patchStatus
deriving DecidableEq, Repr

namespace Verb

def text : Verb → String
  | get => "get"
  | list => "list"
  | create => "create"
  | replace => "replace"
  | delete => "delete"
  | patch => "patch"
  | patchStatus => "patch-status"

def all : List Verb := [get, list, create, replace, delete, patch, patchStatus]

def ofText? (text : String) : Option Verb := all.find? (·.text = text)

def refusal (verb : Verb) (code : Nat) (name : String) : ApiError :=
  { code
    reason := if code = 404 then "NotFound" else if code = 409 then "Conflict" else "InternalError"
    message := "injected failure for " ++ verb.text ++ " " ++ name }

end Verb

end NfsStorage
