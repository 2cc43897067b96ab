import RentalGuard.Json.Document
import RentalGuard.Json.Record
import RentalGuard.Tenancy.Claims

/-! The JSON forms of identifiers, owners, owned values and claims. Reading checks every
identifier. -/

namespace RentalGuard

open Json

namespace CompanyId

def toJson (id : CompanyId) : Json := string id.text

def ofJson? (v : Json) : Option CompanyId := do
  (parse (← v.text?)).toOption

end CompanyId

namespace Ownership

def toJson : Ownership → Json
  | company id => object [("kind", string "company"), ("company_id", id.toJson)]
  | shared => object [("kind", string "shared")]

/-- Reads the owner from the name of its kind and what else is said. Shared records have no
company. -/
def ofKind? (kind : String) (owner : Field) : Option Ownership := do
  match kind with
  | "company" => return .company (← owner.required CompanyId.ofJson?)
  | "shared" =>
    match owner with
    | .absent | .present null => some .shared
    | _ => none
  | _ => none

/-- Reads the name of the kind in a record of this form. In an array it can only be text. -/
def kindName? : Json → Json → Option String
  | array _ => text?
  | _ => caseName?

def ofJson? (v : Json) : Option Ownership := do
  match ← record? ["kind", "company_id"] v with
  | [kind, owner] => ofKind? (← kind.required (kindName? v)) owner
  | _ => none

end Ownership

namespace CompanyOwned

def toJson (record : CompanyOwned Document) : Json :=
  object [("ownership", record.ownership.toJson), ("value", record.value.tree)]

def ofJson? (v : Json) : Option (CompanyOwned Document) := do
  match ← record? ["ownership", "value"] v with
  | [ownership, value] =>
    let ownership ← ownership.required Ownership.ofJson?
    let value ← value.required document?
    return ⟨ownership, value⟩
  | _ => none

end CompanyOwned

namespace TenantClaims

def toJson (claims : TenantClaims) : Json :=
  object [("companies", array (claims.companies.map CompanyId.toJson)),
    ("roles", array (claims.roles.map string))]

def ofJson? (v : Json) : Option TenantClaims := do
  match ← record? ["companies", "roles"] v with
  | [companies, roles] =>
    let companies ← companies.required (list? CompanyId.ofJson?)
    let roles ← roles.required (list? text?)
    return ⟨companies, roles⟩
  | _ => none

end TenantClaims

end RentalGuard
