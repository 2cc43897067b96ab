import RentalGuard.Failure
import RentalGuard.Json.Record

/-! What a client is told about a failure. A refusal always has the same words, so that nobody can
learn from it which records exist. -/

namespace RentalGuard

open Json

/-- One parameter that is not valid. -/
structure InvalidParam where
  name : String
  reason : String
deriving DecidableEq, Repr

structure Problem where
  typeUri : String
  title : String
  status : UInt16
  detail : String
  invalidParams : List InvalidParam
deriving DecidableEq, Repr

namespace Problem

def typeBase : String := "https://pedalhub.example.com/errors"

/-- A problem without parameters. -/
def make (suffix title : String) (status : UInt16) (detail : String) : Problem :=
  ⟨typeBase ++ "/" ++ suffix, title, status, detail, []⟩

def badRequest (detail : String) : Problem := make "bad-request" "Bad Request" 400 detail

/-- The one answer to all requests that are refused. -/
def accessDenied : Problem :=
  make "forbidden" "Forbidden" 403 "このリソースにアクセスする権限がありません"

def invalidField (field reason : String) : Problem :=
  { make "validation-error" "Validation Error" 400 reason with invalidParams := [⟨field, reason⟩] }

def internalError : Problem :=
  make "internal-error" "Internal Server Error" 500 "内部エラーが発生しました"

def ofDomainError : DomainError → Problem
  | .validation text => badRequest text
  | .payment field reason => invalidField field reason
  | .forbidden _ => accessDenied

def ofServiceError : ServiceError → Problem
  | .accessDenied => accessDenied
  | .database _ | .scope _ | .unexpected _ => internalError

end Problem

def InvalidParam.toJson (param : InvalidParam) : Json :=
  object [("name", string param.name), ("reason", string param.reason)]

def InvalidParam.ofJson? (v : Json) : Option InvalidParam := do
  match ← record? ["name", "reason"] v with
  | [name, reason] => return ⟨← name.required text?, ← reason.required text?⟩
  | _ => none

/-- The parameters are left out if there are none. -/
def Problem.toJson (problem : Problem) : Json :=
  object <|
    [("type", string problem.typeUri), ("title", string problem.title),
      ("status", integer problem.status.toNat), ("detail", string problem.detail)] ++
    if problem.invalidParams.isEmpty then []
    else [("invalid-params", array (problem.invalidParams.map InvalidParam.toJson))]

def Problem.ofJson? (v : Json) : Option Problem := do
  match ← record? ["type", "title", "status", "detail", "invalid-params"] v with
  | [typeUri, title, status, detail, params] =>
    let typeUri ← typeUri.required text?
    let title ← title.required text?
    let status ← status.required (natural? 0x10000)
    let detail ← detail.required text?
    let params ← params.orElse [] (list? InvalidParam.ofJson?)
    return ⟨typeUri, title, UInt16.ofNat status, detail, params⟩
  | _ => none

end RentalGuard
