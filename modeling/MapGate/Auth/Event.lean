import MapGate.Auth.Address

/-!
Outcomes of login attempts. Only failures of guessable credentials count as credential failures.
-/
namespace MapGate

inductive EventKind where
  | success
  | badCredentials
  | providerNotFound
  | accountLocked
  | accountDisabled
  | credentialsExpired
  | serviceError
deriving DecidableEq, Repr

namespace EventKind

def text : EventKind → String
  | success => "success"
  | badCredentials => "bad_credentials"
  | providerNotFound => "provider_not_found"
  | accountLocked => "account_locked"
  | accountDisabled => "account_disabled"
  | credentialsExpired => "credentials_expired"
  | serviceError => "service_error"

def ofText? : String → Option EventKind
  | "success" => some success
  | "bad_credentials" => some badCredentials
  | "provider_not_found" => some providerNotFound
  | "account_locked" => some accountLocked
  | "account_disabled" => some accountDisabled
  | "credentials_expired" => some credentialsExpired
  | "service_error" => some serviceError
  | _ => none

def isCredentialFailure : EventKind → Bool
  | badCredentials => true
  | providerNotFound => true
  | _ => false

def isFailure (k : EventKind) : Bool := k != success

end EventKind

structure AuthEvent where
  kind : EventKind
  username : Option String := none
  source : Option Address := none
deriving DecidableEq, Repr

/-- The trimmed username, unless there is none or it is blank. -/
def AuthEvent.principal? (e : AuthEvent) : Option String :=
  match e.username with
  | some name => if blank name then none else some (trimmed name)
  | none => none

end MapGate
