import CollectMind.Errors
import CollectMind.Library.PyText

set_option autoImplicit false

/- `JWTVerifier.verify` of auth/jwt_verifier.py, with PyJWT and the issuer as parties that may
answer anything their documentation allows, and the dependency of auth/dependencies.py that turns
its exceptions into responses. -/
namespace CollectMind.Auth

open Python

/-- The subclasses of `InvalidTokenError`, with those that `verify` names. -/
inductive InvalidTokenError where
  | expiredSignature
  | invalidAudience
  | invalidIssuer
  | invalidSignature
  | decode
  | other (errorClass : String)
  deriving DecidableEq, Repr

/-- What `verify` can raise: the errors of `collectmind.errors` that it maps to, and exceptions
that pass through it. -/
inductive Raised where
  | authInvalidToken
  | authExpired
  | authTenantMissing
  | dependencyUnavailable (dependency : String)
  | decodeError
  | pyJWKClientError
  | pyJWKSetError
  | attributeError
  deriving DecidableEq, Repr

/-- PyJWT: whether a token can be decoded without its key, and `jwt.decode` with the options that
`verify` passes. -/
structure PyJwt (Key : Type) where
  tokenDecodes : String → Bool
  decode : String → Key → Except InvalidTokenError Dict

/-- What a client comes to that looks for the key of a token: a key, the `PyJWKClientError` of a key
set that has none for it or cannot be fetched, or the `PyJWKSetError` of one without any usable
key. -/
inductive KeySearch (Key : Type) where
  | found (key : Key)
  | clientError
  | setError

/-- The issuer during one call: its discovery document, or `none` for an `HTTPError` or a
`ValueError` on the way; and what the search for the token's key comes to, at first and after a
refresh. -/
structure Issuer (Key : Type) where
  discovery : Option Json
  signingKey : KeySearch Key
  refreshedKey : KeySearch Key

/-- The search that decides: the second, if the first ends in a `PyJWKClientError`. -/
def Issuer.search {Key : Type} (issuer : Issuer Key) : KeySearch Key :=
  match issuer.signingKey with
  | .clientError => issuer.refreshedKey
  | other => other

structure Principal extends CollectMind.Principal where
  scopes : List String
  tokenId : String

/-- A `JWTVerifier` between two calls. A client is known by its URI, the one that was resolved. -/
structure JWTVerifier where
  jwksUri : Option String
  jwksClient : Option String
  resolved : ∀ uri, jwksClient = some uri → jwksUri = some uri

/-- A verifier as `__init__` leaves it. -/
def JWTVerifier.init : JWTVerifier := ⟨none, none, fun _ client => client⟩

/-- `_resolve_jwks_uri`. What comes back has been stored. -/
def resolveJwksUri (discovery : Option Json) (jwksUri : Option String) : Except Raised String :=
  match jwksUri, discovery with
  | some uri, _ => .ok uri
  | none, none => .error (.dependencyUnavailable "oauth2_issuer")
  | none, some (.obj metadata) =>
    match Dict.get metadata "jwks_uri" with
    | some (.str uri) => if uri = "" then .error (.dependencyUnavailable "oauth2_issuer") else .ok uri
    | _ => .error (.dependencyUnavailable "oauth2_issuer")
  | none, some _ => .error .attributeError

/-- `_client`. -/
def JWTVerifier.client (verifier : JWTVerifier) (discovery : Option Json) :
    JWTVerifier × Except Raised String :=
  match verifier.jwksClient with
  | some client => (verifier, .ok client)
  | none =>
    match resolveJwksUri discovery verifier.jwksUri with
    | .ok uri => (⟨some uri, some uri, fun _ client => client⟩, .ok uri)
    | .error raised => (verifier, .error raised)

/-- `_refresh_jwks`. -/
def JWTVerifier.refreshJwks (verifier : JWTVerifier) (discovery : Option Json) :
    JWTVerifier × Except Raised String :=
  JWTVerifier.client ⟨verifier.jwksUri, none, nofun⟩ discovery

section Verify

variable {Key : Type}

/-- `get_signing_key_from_jwt`. -/
def getSigningKeyFromJwt (pyjwt : PyJwt Key) (search : KeySearch Key) (token : String) :
    Except Raised Key :=
  if pyjwt.tokenDecodes token then
    match search with
    | .found key => .ok key
    | .clientError => .error .pyJWKClientError
    | .setError => .error .pyJWKSetError
  else .error .decodeError

/-- `except PyJWKClientError: raise AuthInvalidToken()`. -/
def clientErrorAsInvalid {α : Type} : Except Raised α → Except Raised α
  | .error .pyJWKClientError => .error .authInvalidToken
  | result => result

/-- `_signing_key_or_refresh`. -/
def JWTVerifier.signingKeyOrRefresh (verifier : JWTVerifier) (pyjwt : PyJwt Key)
    (issuer : Issuer Key) (token : String) : JWTVerifier × Except Raised Key :=
  match getSigningKeyFromJwt pyjwt issuer.signingKey token with
  | .error .pyJWKClientError =>
    match verifier.refreshJwks issuer.discovery with
    | (refreshed, .error raised) => (refreshed, clientErrorAsInvalid (.error raised))
    | (refreshed, .ok _) =>
      (refreshed, clientErrorAsInvalid (getSigningKeyFromJwt pyjwt issuer.refreshedKey token))
  | result => (verifier, result)

/-- The `except` clauses around `jwt.decode`. -/
def InvalidTokenError.raised : InvalidTokenError → Raised
  | .expiredSignature => .authExpired
  | .invalidAudience | .invalidIssuer | .invalidSignature | .decode => .authInvalidToken
  | .other _ => .authInvalidToken

/-- `scope.split()`; only a string has the method. -/
def splitScope : Json → Except Raised (List String)
  | .str text => .ok (split text)
  | _ => .error .attributeError

/-- What `verify` makes of the claims. -/
def principalOf (payload : Dict) : Except Raised Principal :=
  match payload.get "tenant_id" with
  | some (.str tenantId) =>
    if tenantId = "" then .error .authTenantMissing
    else
      match payload.get "sub" with
      | some (.str subject) =>
        if subject = "" then .error .authInvalidToken
        else
          let scope := match payload.get "scope" with
            | some value => if value.truthy then value else .str ""
            | none => .str ""
          match splitScope scope with
          | .error raised => .error raised
          | .ok scopes =>
            let tokenId := match payload.get "jti" with
              | some (.str jti) => jti
              | _ => ""
            .ok ⟨⟨tenantId, subject⟩, scopes, tokenId⟩
      | _ => .error .authInvalidToken
  | _ => .error .authTenantMissing

/-- `jwt.decode` with the key, and what `verify` makes of its result. -/
def decoded (pyjwt : PyJwt Key) (token : String) (key : Key) : Except Raised Principal :=
  match pyjwt.decode token key with
  | .error failure => .error failure.raised
  | .ok payload => principalOf payload

/-- `verify`. -/
def JWTVerifier.verify (verifier : JWTVerifier) (pyjwt : PyJwt Key) (issuer : Issuer Key)
    (token : String) : JWTVerifier × Except Raised Principal :=
  if token = "" then (verifier, .error .authInvalidToken)
  else
    match verifier.client issuer.discovery with
    | (ready, .error raised) => (ready, .error raised)
    | (ready, .ok _) =>
      match ready.signingKeyOrRefresh pyjwt issuer token with
      | (left, .error raised) => (left, .error raised)
      | (left, .ok key) => (left, decoded pyjwt token key)

/-- The four documented exceptions. -/
def Raised.documented : Raised → Bool
  | .authInvalidToken | .authExpired | .authTenantMissing | .dependencyUnavailable _ => true
  | .decodeError | .pyJWKClientError | .pyJWKSetError | .attributeError => false

/-- A principal with a tenant and a subject, or a documented exception. -/
def Documented : Except Raised Principal → Prop
  | .ok principal => principal.tenantId ≠ "" ∧ principal.subject ≠ ""
  | .error raised => raised.documented = true

/-- The claim is a text that is not empty. -/
def Names (payload : Dict) (claim : String) : Prop :=
  ∃ text, payload.get claim = some (.str text) ∧ text ≠ ""

/-- Claims that name a tenant and a subject, with a scope that is there and not a text. -/
structure OddScope (payload : Dict) : Prop where
  tenant : Names payload "tenant_id"
  subject : Names payload "sub"
  scope : ∃ value, payload.get "scope" = some value ∧ value.truthy = true ∧
    ∀ text, value ≠ .str text

/-- The key set can be asked: its URI is known, or the discovery document has it. -/
def Resolvable (verifier : JWTVerifier) (discovery : Option Json) : Prop :=
  verifier.jwksUri.isSome = true ∨
    ∃ metadata, discovery = some (.obj metadata) ∧ Names metadata "jwks_uri"

/-- The four ways for another exception: a discovery document that is no object, a token that cannot
be decoded, a key set without any key, and a verified token with an odd scope. -/
inductive Escapes (verifier : JWTVerifier) (pyjwt : PyJwt Key) (issuer : Issuer Key)
    (token : String) : Prop
  | discovery {metadata : Json} (unresolved : verifier.jwksUri = none)
      (answered : issuer.discovery = some metadata) (odd : ∀ fields, metadata ≠ .obj fields)
  | token (resolvable : Resolvable verifier issuer.discovery)
      (malformed : pyjwt.tokenDecodes token = false)
  | keySet (resolvable : Resolvable verifier issuer.discovery) (empty : issuer.search = .setError)
  | scope {key : Key} {payload : Dict} (resolvable : Resolvable verifier issuer.discovery)
      (found : issuer.search = .found key)
      (verified : pyjwt.decode token key = .ok payload) (odd : OddScope payload)

section Parts

variable {verifier : JWTVerifier} {pyjwt : PyJwt Key} {issuer : Issuer Key} {token : String}

/-- All that resolving the URI can come to. -/
inductive Resolution (verifier : JWTVerifier) (discovery : Option Json) :
    Except Raised String → Prop
  | found {uri : String} (source : Resolvable verifier discovery) :
      Resolution verifier discovery (.ok uri)
  | unavailable (unnamed : ¬ Resolvable verifier discovery)
      (object : ∀ metadata, discovery = some metadata → ∃ fields, metadata = .obj fields) :
      Resolution verifier discovery (.error (.dependencyUnavailable "oauth2_issuer"))
  | odd {metadata : Json} (unresolved : verifier.jwksUri = none)
      (answered : discovery = some metadata) (noObject : ∀ fields, metadata ≠ .obj fields) :
      Resolution verifier discovery (.error .attributeError)

theorem not_resolvable {discovery : Option Json} (unresolved : verifier.jwksUri = none)
    (unnamed : ∀ metadata, discovery = some (.obj metadata) → ¬ Names metadata "jwks_uri") :
    ¬ Resolvable verifier discovery := by
  rintro (known | ⟨metadata, answered, named⟩)
  · rw [unresolved] at known
    cases known
  · exact unnamed metadata answered named

theorem resolveJwksUri_resolution (verifier : JWTVerifier) (discovery : Option Json) :
    Resolution verifier discovery (resolveJwksUri discovery verifier.jwksUri) := by
  cases unresolved : verifier.jwksUri with
  | some uri => exact .found (Or.inl (by rw [unresolved]; rfl))
  | none =>
      cases discovery with
      | none => exact .unavailable (not_resolvable unresolved nofun) nofun
      | some metadata =>
          cases metadata with
          | obj fields =>
              have object : ∀ metadata : Json, some (Json.obj fields) = some metadata →
                  ∃ fields, metadata = .obj fields := by
                intro metadata same
                exact ⟨fields, (Option.some.inj same).symm⟩
              by_cases named : Names fields "jwks_uri"
              · obtain ⟨uri, entry, nonempty⟩ := named
                have read : resolveJwksUri (some (.obj fields)) none = .ok uri := by
                  simp only [resolveJwksUri, entry, if_neg nonempty]
                rw [read]
                exact .found (Or.inr ⟨fields, rfl, uri, entry, nonempty⟩)
              · have refused : resolveJwksUri (some (.obj fields)) none =
                    .error (.dependencyUnavailable "oauth2_issuer") := by
                  unfold resolveJwksUri
                  dsimp only
                  split
                  · rename_i uri entry
                    exact if_pos (by_contra fun nonempty => named ⟨uri, entry, nonempty⟩)
                  · rfl
                rw [refused]
                refine .unavailable (not_resolvable unresolved ?_) object
                intro metadata same
                cases same
                exact named
          | _ => exact .odd unresolved rfl nofun

theorem client_resolution (verifier : JWTVerifier) (discovery : Option Json) :
    Resolution verifier discovery (verifier.client discovery).2 := by
  unfold JWTVerifier.client
  split
  · rename_i uri client
    exact .found (Or.inl (by rw [verifier.resolved uri client]; rfl))
  · have resolution := resolveJwksUri_resolution verifier discovery
    split
    · rename_i same
      rwa [same] at resolution
    · rename_i same
      rwa [same] at resolution

/-- With a client the URI is known. -/
theorem client_known {ready : JWTVerifier} {discovery : Option Json} {uri : String}
    (built : verifier.client discovery = (ready, .ok uri)) : ready.jwksUri = some uri := by
  unfold JWTVerifier.client at built
  split at built
  · rename_i client held
    cases built
    exact verifier.resolved uri held
  · split at built
    · cases built
      rfl
    · cases built

/-- A verifier that knows the URI asks for the key once more before it gives up; only a token that
cannot be decoded and an empty key set are let through. -/
theorem signingKeyOrRefresh_result {uri : String} (pyjwt : PyJwt Key) (issuer : Issuer Key)
    (token : String) (known : verifier.jwksUri = some uri) :
    (verifier.signingKeyOrRefresh pyjwt issuer token).2 =
      clientErrorAsInvalid (getSigningKeyFromJwt pyjwt issuer.search token) := by
  have again : verifier.refreshJwks issuer.discovery =
      (⟨some uri, some uri, fun _ client => client⟩, .ok uri) := by
    simp only [JWTVerifier.refreshJwks, JWTVerifier.client, known, resolveJwksUri]
  by_cases decodes : pyjwt.tokenDecodes token = true
  · cases first : issuer.signingKey <;>
      simp [JWTVerifier.signingKeyOrRefresh, getSigningKeyFromJwt, Issuer.search, decodes, first,
        again, clientErrorAsInvalid]
  · simp [JWTVerifier.signingKeyOrRefresh, getSigningKeyFromJwt, decodes, clientErrorAsInvalid]

theorem raised_documented (failure : InvalidTokenError) : failure.raised.documented = true := by
  cases failure <;> rfl

theorem splitScope_odd {value : Json} (odd : ∀ text, value ≠ .str text) :
    splitScope value = .error .attributeError := by
  cases value with
  | str text => exact absurd rfl (odd text)
  | _ => rfl

theorem not_names_empty {payload : Dict} {claim text : String}
    (read : payload.get claim = some (.str text)) (empty : text = "") : ¬ Names payload claim := by
  rintro ⟨other, same, nonempty⟩
  rw [read] at same
  cases same
  exact nonempty empty

theorem not_names_odd {payload : Dict} {claim : String}
    (odd : ∀ text, payload.get claim = some (.str text) → False) : ¬ Names payload claim := by
  rintro ⟨text, read, _⟩
  exact odd text read

theorem principalOf_documented (payload : Dict) :
    Documented (principalOf payload) ↔ ¬ OddScope payload := by
  unfold principalOf
  split
  · rename_i tenantId tenant
    split
    · rename_i empty
      exact iff_of_true rfl fun odd => not_names_empty tenant empty odd.tenant
    · rename_i tenantNonempty
      split
      · rename_i subject sub
        split
        · rename_i empty
          exact iff_of_true rfl fun odd => not_names_empty sub empty odd.subject
        · rename_i subjectNonempty
          -- only the scope is left to decide
          have plain : tenantId ≠ "" ∧ subject ≠ "" := ⟨tenantNonempty, subjectNonempty⟩
          cases read : payload.get "scope" with
          | none =>
              refine iff_of_true plain fun odd => ?_
              obtain ⟨value, present, _⟩ := odd.scope
              rw [read] at present
              cases present
          | some value =>
              by_cases truthy : value.truthy = true
              · by_cases text : ∃ text, value = .str text
                · obtain ⟨text, rfl⟩ := text
                  simp only [truthy, if_true, splitScope]
                  refine iff_of_true plain fun odd => ?_
                  obtain ⟨other, present, _, odd⟩ := odd.scope
                  rw [read] at present
                  exact odd text (Option.some.inj present).symm
                · rw [not_exists] at text
                  simp only [truthy, if_true, splitScope_odd text]
                  apply iff_of_false Bool.false_ne_true
                  exact fun even => even ⟨⟨tenantId, tenant, tenantNonempty⟩,
                    ⟨subject, sub, subjectNonempty⟩, value, read, truthy, text⟩
              · simp only [truthy, splitScope]
                refine iff_of_true plain fun odd => ?_
                obtain ⟨other, present, isTrue, _⟩ := odd.scope
                rw [read] at present
                cases present
                exact truthy isTrue
      · rename_i odd
        exact iff_of_true rfl fun scope => not_names_odd odd scope.subject
  · rename_i odd
    exact iff_of_true rfl fun scope => not_names_odd odd scope.tenant

theorem decoded_documented (pyjwt : PyJwt Key) (token : String) (key : Key) :
    Documented (decoded pyjwt token key) ↔
      ¬ ∃ payload, pyjwt.decode token key = .ok payload ∧ OddScope payload := by
  unfold decoded
  split
  · rename_i failure failed
    exact iff_of_true (raised_documented failure) (by simp [failed])
  · rename_i payload verified
    rw [principalOf_documented]
    simp [verified]

theorem verify_result (nonempty : token ≠ "") :
    (verifier.verify pyjwt issuer token).2 =
      (verifier.client issuer.discovery).2.bind fun _ =>
        ((verifier.client issuer.discovery).1.signingKeyOrRefresh pyjwt issuer token).2.bind
          (decoded pyjwt token) := by
  rw [JWTVerifier.verify, if_neg nonempty]
  rcases verifier.client issuer.discovery with ⟨ready, _ | _⟩
  · rfl
  · dsimp only
    rcases ready.signingKeyOrRefresh pyjwt issuer token with ⟨left, _ | _⟩ <;> rfl

/-- Once the key set can be asked, the token, the keys and the scope decide. -/
theorem escapes_iff (resolvable : Resolvable verifier issuer.discovery) :
    Escapes verifier pyjwt issuer token ↔ pyjwt.tokenDecodes token = false ∨
      issuer.search = .setError ∨
      ∃ key payload, issuer.search = .found key ∧ pyjwt.decode token key = .ok payload ∧
        OddScope payload := by
  constructor
  · intro escapes
    cases escapes with
    | discovery unresolved answered odd =>
        rcases resolvable with known | ⟨fields, object, _⟩
        · rw [unresolved] at known
          cases known
        · rw [answered] at object
          exact absurd (Option.some.inj object) (odd fields)
    | token _ malformed => exact Or.inl malformed
    | keySet _ empty => exact Or.inr (Or.inl empty)
    | scope _ found verified odd => exact Or.inr (Or.inr ⟨_, _, found, verified, odd⟩)
  · rintro (malformed | empty | ⟨key, payload, found, verified, odd⟩)
    · exact .token resolvable malformed
    · exact .keySet resolvable empty
    · exact .scope resolvable found verified odd

end Parts

/-- `verify` returns a principal or raises one of its four exceptions, exactly if none of the
ways out is taken. -/
theorem verify_documented_iff (verifier : JWTVerifier) (pyjwt : PyJwt Key) (issuer : Issuer Key)
    (token : String) :
    Documented (verifier.verify pyjwt issuer token).2 ↔
      token = "" ∨ ¬ Escapes verifier pyjwt issuer token := by
  by_cases empty : token = ""
  · rw [JWTVerifier.verify, if_pos empty]
    exact iff_of_true rfl (Or.inl empty)
  · rw [verify_result empty, or_iff_right empty]
    have resolution := client_resolution verifier issuer.discovery
    cases built : verifier.client issuer.discovery with
    | mk ready result =>
        rw [built] at resolution
        cases resolution with
        | unavailable unnamed object =>
            apply iff_of_true rfl
            intro escapes
            cases escapes with
            | @discovery metadata _ answered odd =>
                obtain ⟨fields, same⟩ := object metadata answered
                exact odd fields same
            | token resolvable _ => exact unnamed resolvable
            | keySet resolvable _ => exact unnamed resolvable
            | scope resolvable _ _ _ => exact unnamed resolvable
        | odd unresolved answered noObject =>
            apply iff_of_false Bool.false_ne_true
            exact fun none => none (.discovery unresolved answered noObject)
        | found source =>
            rw [escapes_iff source]
            dsimp only [Except.bind]
            rw [signingKeyOrRefresh_result pyjwt issuer token (client_known built)]
            by_cases decodes : pyjwt.tokenDecodes token = true
            · cases searched : issuer.search with
              | clientError => simp [getSigningKeyFromJwt, decodes, clientErrorAsInvalid,
                  Documented, Raised.documented]
              | setError => simp [getSigningKeyFromJwt, decodes, clientErrorAsInvalid,
                  Documented, Raised.documented]
              | found key =>
                  have searches : clientErrorAsInvalid
                      (getSigningKeyFromJwt pyjwt (.found key) token) = .ok key := by
                    simp [getSigningKeyFromJwt, decodes, clientErrorAsInvalid]
                  rw [searches]
                  dsimp only
                  rw [decoded_documented]
                  simp [decodes]
            · have refused : getSigningKeyFromJwt pyjwt issuer.search token = .error .decodeError :=
                if_neg decodes
              rw [refused]
              apply iff_of_false Bool.false_ne_true
              exact fun none => none (Or.inl (Bool.eq_false_iff.mpr decodes))

/-- A token that is no JWT, a verified one whose scope is a list, a discovery document that is a
list, and a key set without keys: none of the exceptions is among the four. -/
theorem verify_raises_others :
    let pyjwt : PyJwt Unit := ⟨fun token => (token.toList.splitOn '.').length == 3, fun _ _ =>
      .ok [("tenant_id", .str "tenant-a"), ("sub", .str "client"), ("scope", .arr [.str "read"])]⟩
    let discovery : Json := .obj [("jwks_uri", .str "https://issuer/jwks")]
    let issuer : Issuer Unit := ⟨some discovery, .found (), .clientError⟩
    (JWTVerifier.init.verify pyjwt issuer "abc").2 = .error .decodeError ∧
      (JWTVerifier.init.verify pyjwt issuer "a.b.c").2 = .error .attributeError ∧
      (JWTVerifier.init.verify pyjwt ⟨some (.arr []), .found (), .clientError⟩ "a.b.c").2 =
        .error .attributeError ∧
      (JWTVerifier.init.verify pyjwt ⟨some discovery, .setError, .clientError⟩ "a.b.c").2 =
        .error .pyJWKSetError ∧
      Raised.documented .decodeError = false ∧ Raised.documented .attributeError = false ∧
      Raised.documented .pyJWKSetError = false :=
  ⟨rfl, rfl, rfl, rfl, rfl, rfl, rfl⟩

section Dependency

/-- The `CollectMindError`s among the exceptions. -/
def Raised.apiError : Raised → Option ApiError
  | .authInvalidToken => some CollectMind.authInvalidToken
  | .authExpired => some CollectMind.authExpired
  | .authTenantMissing => some CollectMind.authTenantMissing
  | .dependencyUnavailable dependency => some (CollectMind.dependencyUnavailable dependency)
  | .decodeError | .pyJWKClientError | .pyJWKSetError | .attributeError => none

/-- `authenticated_principal`, on a scheme and a token; an exception of another kind is answered
by the server. -/
def authenticatedPrincipal (verifier : JWTVerifier) (pyjwt : PyJwt Key) (issuer : Issuer Key)
    (credentials : Option (String × String)) : JWTVerifier × Except ApiError Principal :=
  let refuse (raised : Raised) : Except ApiError Principal :=
    .error (raised.apiError.getD internalError)
  match credentials with
  | none => (verifier, refuse .authInvalidToken)
  | some (scheme, token) =>
    if lower scheme ≠ "bearer".toList ∨ token = "" then
      (verifier, refuse .authInvalidToken)
    else
      match verifier.verify pyjwt issuer token with
      | (left, .ok principal) => (left, .ok principal)
      | (left, .error raised) => (left, refuse raised)

/-- Every documented exception has a response of its own, and no other has one. -/
theorem apiError_internal_iff (raised : Raised) :
    (raised.apiError.getD internalError).code = "INTERNAL" ↔ raised.documented = false := by
  cases raised <;> simp [Raised.apiError, Raised.documented, internalError,
    CollectMind.authInvalidToken, CollectMind.authExpired, CollectMind.authTenantMissing,
    CollectMind.dependencyUnavailable]

/-- A bearer token is answered with an internal error exactly if `verify` lets an undocumented
exception through. -/
theorem authenticatedPrincipal_internal_iff (verifier : JWTVerifier) (pyjwt : PyJwt Key)
    (issuer : Issuer Key) {scheme token : String} (bearer : lower scheme = "bearer".toList)
    (nonempty : token ≠ "") :
    (∃ error, (authenticatedPrincipal verifier pyjwt issuer (some (scheme, token))).2 = .error error ∧
      error.code = "INTERNAL") ↔
      ∃ raised, (verifier.verify pyjwt issuer token).2 = .error raised ∧
        raised.documented = false := by
  have plain : ¬ (lower scheme ≠ "bearer".toList ∨ token = "") := by
    simp [bearer, nonempty]
  simp only [authenticatedPrincipal, if_neg plain]
  rcases verifier.verify pyjwt issuer token with ⟨left, raised | principal⟩
  · simp [apiError_internal_iff]
  · simp

end Dependency

end Verify

end CollectMind.Auth
