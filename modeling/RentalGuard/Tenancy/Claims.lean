import RentalGuard.Tenancy.Context
import RentalGuard.Text.Bytes
import RentalGuard.Text.Letters

/-! What a verified token says about its bearer. -/

namespace RentalGuard

structure TenantClaims where
  companies : List CompanyId
  roles : List String
deriving DecidableEq

namespace TenantClaims

/-- The role of a super administrator, without its optional mark. -/
def superAdminRole : List Char := "SUPER_ADMIN".toList

/-- The mark that some services put before the name of a role. -/
def roleMark : List Char := "ROLE_".toList

/-- The text with its ASCII letters in upper case. -/
def upperAscii (cs : List Char) : List Char := cs.map Char.toUpper

/-- Whether a role is that of a super administrator. Blanks around it, the case of ASCII letters
and one mark make no difference. -/
def isSuperAdminRole (role : String) : Bool :=
  let cs := upperAscii (Text.trim role.toList)
  (if roleMark.isPrefixOf cs then cs.drop roleMark.length else cs) == superAdminRole

/-- The role without its mark, which takes five bytes. The role is looked at up to its fifth byte,
if it can be cut there, and is then cut there without another look. None if that fails. -/
def withoutMark? (role : String) : Option String :=
  match (Text.before? role 5).filter fun start => Text.sameLetters start.toList roleMark with
  | some _ => Text.after? role 5
  | none => some role

/-- The same test on the bytes of a role. None if a cut would be inside a character. -/
def readRole? (role : String) : Option Bool :=
  (withoutMark? (Text.trimmed role)).map fun name => Text.sameLetters name.toList superAdminRole

def isSuperAdmin (claims : TenantClaims) : Bool := claims.roles.any isSuperAdminRole

/-- The context of a request that carries the claims. -/
def toContext (claims : TenantClaims) : TenantContext :=
  .make claims.companies claims.isSuperAdmin

end TenantClaims

end RentalGuard
