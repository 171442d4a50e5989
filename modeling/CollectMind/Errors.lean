import CollectMind.Library.Json

set_option autoImplicit false

/- The errors of errors.py, as the response each is answered with, and the part of a `Principal`
that the handlers read. -/
namespace CollectMind

open Python

/-- `CollectMindError`: what an error response carries. -/
structure ApiError where
  code : String
  status : Nat
  reason : String
  details : Dict

def authInvalidToken : ApiError :=
  ⟨"AUTH_INVALID_TOKEN", 401, "Authentication failed: invalid or unsigned token.", []⟩

def authExpired : ApiError := ⟨"AUTH_EXPIRED", 401, "Authentication failed: token expired.", []⟩

def authTenantMissing : ApiError :=
  ⟨"AUTH_TENANT_MISSING", 401, "Authentication failed: tenant_id claim missing or empty.", []⟩

def schemaValidationFailed (field message : String) : ApiError where
  code := "SCHEMA_VALIDATION_FAILED"
  status := 400
  reason := "Inbound payload does not conform to the documented schema."
  details := [("field", .str field), ("message", .str message)]

def schemaVersionUnsupported (requested : Json) (supportedMajor : String) : ApiError where
  code := "SCHEMA_VERSION_UNSUPPORTED"
  status := 422
  reason := "Inbound schema_version major is not supported."
  details := [("requested", requested), ("supported_major", .str supportedMajor)]

def notFound (resource identifier : String) : ApiError where
  code := "NOT_FOUND"
  status := 404
  reason := resource ++ " not found."
  details := [("identifier", .str identifier)]

def dependencyUnavailable (dependency : String) : ApiError where
  code := "DEPENDENCY_UNAVAILABLE"
  status := 503
  reason := "Internal dependency unavailable: " ++ dependency ++ "."
  details := [("dependency", .str dependency)]

/-- An exception that no handler names. -/
def internalError : ApiError := ⟨"INTERNAL", 500, "", []⟩

structure Principal where
  tenantId : String
  subject : String

end CollectMind
