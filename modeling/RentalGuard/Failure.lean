import RentalGuard.Company
import RentalGuard.Payment.Fault

/-! What a service can fail with. Messages are for the log; what a client is told is in
`RentalGuard.Problem`. -/

namespace RentalGuard

/-- A rule of the domain refuses a request. -/
inductive DomainError where
  | validation (message : String)
  | payment (field reason : String)
  | forbidden (message : String)
deriving DecidableEq, Repr

namespace DomainError

def ofCompanyFault (fault : CompanyFault) : DomainError := validation fault.message

def ofPaymentFault (fault : PaymentFault) : DomainError := payment fault.field fault.reason

def message : DomainError → String
  | validation text => "バリデーションエラー: " ++ text
  | payment field reason => field ++ ": " ++ reason
  | forbidden text => "権限がありません: " ++ text

end DomainError

/-- The ambient context cannot be used. -/
inductive ScopeError where
  /-- There is no context outside the handling of a request. -/
  | notInitialized
deriving DecidableEq, Repr

def ScopeError.message : ScopeError → String
  | notInitialized => "テナントコンテキストが初期化されていません"

/-- The database, or the way to it, has failed. -/
structure DatabaseError where
  message : String
  /-- The code that the database gave with its answer. There is none if it gave no code, and none
  if it was not reached. -/
  code : Option String
deriving DecidableEq, Repr

/-- The code with which a row policy refuses. -/
def DatabaseError.policyDenialCode : String := "42501"

/-- A service could not do its work. -/
inductive ServiceError where
  | database (cause : DatabaseError)
  | scope (cause : ScopeError)
  /-- Access is refused. What was refused is told to the audit only. -/
  | accessDenied
  | unexpected (message : String)
deriving DecidableEq, Repr

namespace ServiceError

def message : ServiceError → String
  | database cause => "データベースエラー: " ++ cause.message
  | scope cause => "テナントコンテキストエラー: " ++ cause.message
  | accessDenied => "アクセスが拒否されました"
  | unexpected text => "予期しないエラー: " ++ text

/-- The message of the error that lies behind. -/
def causeMessage? : ServiceError → Option String
  | database cause => some cause.message
  | scope cause => some cause.message
  | accessDenied | unexpected _ => none

def isAccessDenied : ServiceError → Bool
  | accessDenied => true
  | _ => false

/-- Whether a row policy of the database has refused. -/
def isPolicyDenial : ServiceError → Bool
  | database cause => cause.code == some DatabaseError.policyDenialCode
  | scope _ | accessDenied | unexpected _ => false

end ServiceError

end RentalGuard
