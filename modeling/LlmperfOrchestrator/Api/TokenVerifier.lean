import LlmperfOrchestrator.Storage.TrustedClients

set_option autoImplicit false

namespace LlmperfOrchestrator.Api

open Tables Storage Storage.TrustedClients

abbrev Bytes := List UInt8

-- What the key library reads. A PEM text encodes the DER bytes of its key.
structure Cryptography where
  PublicKey : Type
  loadPem : Bytes → Except String PublicKey
  loadSsh : Bytes → Except String PublicKey
  isRsa : PublicKey → Bool
  keySize : PublicKey → Nat
  pem : PublicKey → Bytes
  der : PublicKey → Bytes
  hexdigest : Bytes → String
  encoded : ∀ first second, pem first = pem second → der first = der second

inductive TokenError where
  | invalidSignature (message : String)
  | invalidToken (message : String)
  | runtime (message : String)
deriving DecidableEq, Repr

abbrev Claims := Dict String Json

structure DecodeOptions where
  algorithm : String
  issuer : String
  audience : String
  leeway : Nat
  require : List String
deriving DecidableEq, Repr

structure Jwt where
  unverifiedKid : String → Except String (Option String)
  decode : String → Bytes → DecodeOptions → Except TokenError Claims
  signer : String → Option Bytes
  signed : ∀ token pem options claims, decode token pem options = .ok claims → signer token = some pem

structure AuthConfig where
  enabled : Bool
  publicKeyPath : Option String
  algorithm : String
  bootstrapSubject : String
  issuer : String
  audience : String
  leewaySeconds : Nat
  reloadIntervalSeconds : Rat
  previousKeyGraceSeconds : Nat
deriving DecidableEq, Repr

abbrev FileSignature := Int × Int × Int

structure KeyMaterial where
  pem : Bytes
  keyId : KeyId
  fileSignature : FileSignature
deriving DecidableEq, Repr

structure KeyFile where
  stat : Except String FileSignature
  read : Except String (Bytes × FileSignature)

structure TokenVerifier where
  keyPath : Option String
  active : Option KeyMaterial
  previous : Option KeyMaterial
  previousExpiresAt : Rat
  nextReloadCheck : Rat
  generation : Nat
  lastReloadError : Option String
deriving DecidableEq, Repr

section Keys

variable (crypto : Cryptography)

-- _key_id
def keyIdOf (key : crypto.PublicKey) : KeyId := String.ofList ((crypto.hexdigest (crypto.der key)).toList.take 16)

def deserializePublicKey (data : Bytes) : Except String crypto.PublicKey := do
  let key ← match crypto.loadPem data with
    | .ok key => .ok key
    | .error _ => match crypto.loadSsh data with
        | .ok key => .ok key
        | .error _ => .error "Unable to parse PEM or OpenSSH public key"
  if crypto.isRsa key = false then .error "Trusted client public key must be RSA"
  else if crypto.keySize key < 2048 then .error "Trusted client RSA public key must be at least 2048 bits"
  else .ok key

def loadKey (path : String) (file : KeyFile) : Except String KeyMaterial :=
  match file.read with
  | .error reason => .error s!"Unable to load auth public key {path}: {reason}"
  | .ok (source, signature) =>
      match deserializePublicKey crypto source with
      | .error reason => .error s!"Unable to load auth public key {path}: {reason}"
      | .ok key => .ok ⟨crypto.pem key, keyIdOf crypto key, signature⟩

end Keys

namespace TokenVerifier

variable (crypto : Cryptography) (config : AuthConfig)

-- TokenVerifier.__init__; the path is resolved.
def create (resolve : String → String) (file : KeyFile) : Except String TokenVerifier :=
  if config.enabled then
    match config.publicKeyPath with
    | none | some "" => .error "auth.public_key_path is required when auth is enabled"
    | some path => do
        let active ← loadKey crypto (resolve path) file
        .ok ⟨some (resolve path), some active, none, 0, 0, 1, none⟩
  else .ok ⟨none, none, none, 0, 0, 0, none⟩

def expirePrevious (now : Rat) (verifier : TokenVerifier) : TokenVerifier :=
  if verifier.previous.isSome ∧ verifier.previousExpiresAt ≤ now then
    { verifier with previous := none, previousExpiresAt := 0 }
  else verifier

-- The part of refresh that follows the throttle.
def reload (now : Rat) (path : String) (file : KeyFile) (verifier : TokenVerifier) : TokenVerifier × Bool :=
  match file.stat with
  | .error reason => ({ verifier with lastReloadError := some reason }, false)
  | .ok signature =>
      if verifier.active.any fun key => signature = key.fileSignature then (verifier.expirePrevious now, false)
      else
        match loadKey crypto path file with
        | .error reason => ({ verifier with lastReloadError := some reason }, false)
        | .ok candidate =>
            if verifier.active.any fun key => candidate.keyId = key.keyId then
              (expirePrevious now { verifier with active := some candidate, lastReloadError := none }, false)
            else
              ({ verifier with
                  active := some candidate
                  previous := verifier.active
                  previousExpiresAt := now + config.previousKeyGraceSeconds
                  generation := verifier.generation + 1
                  lastReloadError := none }, true)

def refresh (force : Bool) (now : Rat) (file : KeyFile) (verifier : TokenVerifier) : TokenVerifier × Bool :=
  match verifier.keyPath with
  | none => (verifier, false)
  | some path =>
      if config.enabled = false then (verifier, false)
      else if force = false ∧ now < verifier.nextReloadCheck then (verifier, false)
      else reload crypto config now path file { verifier with nextReloadCheck := now + config.reloadIntervalSeconds }

structure Status where
  enabled : Bool
  generation : Nat
  activeKeyId : Option KeyId
  previousKeyActive : Bool
  reloadError : Bool
deriving DecidableEq, Repr

def status (now : Rat) (verifier : TokenVerifier) : Status × TokenVerifier :=
  let verifier := verifier.expirePrevious now
  (⟨config.enabled, verifier.generation, verifier.active.map KeyMaterial.keyId, verifier.previous.isSome,
    verifier.lastReloadError.isSome⟩, verifier)

section Tokens

variable (jwt : Jwt)

def decodePem (token : String) (pem : Bytes) : Except TokenError Claims :=
  jwt.decode token pem ⟨config.algorithm, config.issuer, config.audience, config.leewaySeconds,
    ["exp", "iat", "iss", "aud", "sub", "jti"]⟩

def bootstrapPrincipal (claims : Claims) : Except TokenError Claims :=
  if Dict.get "sub" claims = some (.text config.bootstrapSubject) then
    .ok (Dict.put "auth_source" (.text "bootstrap") (Dict.put "role" (.text "superuser") claims))
  else .error (.invalidToken "Bootstrap token subject does not match key owner")

def tokenKeyId (token : String) : Option String :=
  match jwt.unverifiedKid token with
  | .ok kid => kid
  | .error _ => none

def claimsOf (verifier : TokenVerifier) (token : String) : Except TokenError Claims :=
  match verifier.active with
  | none => .error (.runtime "Authentication public key is not loaded")
  | some active =>
      if tokenKeyId jwt token = some active.keyId then decodePem config jwt token active.pem
      else
        match verifier.previous.filter fun previous => tokenKeyId jwt token = some previous.keyId with
        | some previous => decodePem config jwt token previous.pem
        | none =>
            if tokenKeyId jwt token ≠ none then .error (.invalidSignature "Token key ID is not trusted")
            else
              match decodePem config jwt token active.pem with
              | .error (.invalidSignature message) =>
                  match verifier.previous with
                  | none => .error (.invalidSignature message)
                  | some previous => decodePem config jwt token previous.pem
              | other => other

def anonymous : Claims := [("sub", .text "anonymous"), ("role", .text "superuser"), ("auth_source", .text "disabled")]

-- verify_token: a refresh, then a check of its own time.
def verifyToken (token : String) (now : Rat) (file : KeyFile) (later : Rat) (verifier : TokenVerifier) :
    Except TokenError Claims × TokenVerifier :=
  if config.enabled = false then (.ok anonymous, verifier)
  else
    let verifier := ((verifier.refresh crypto config false now file).1).expirePrevious later
    (claimsOf config jwt verifier token >>= bootstrapPrincipal config, verifier)

def bootstrapIds (verifier : TokenVerifier) : List KeyId :=
  [verifier.active, verifier.previous].filterMap fun key => key.map KeyMaterial.keyId

def databasePrincipal (token : String) : Option TrustedClient → Except TokenError Claims
  | none => .error (.invalidSignature "Token key ID is not trusted")
  | some client => do
      let claims ← decodePem config jwt token client.publicKeyPem.toUTF8.toList
      if Dict.get "sub" claims = some (.text client.username) then
        .ok (Dict.put "auth_source" (.text "database") (Dict.put "role" (.text client.role) claims))
      else .error (.invalidToken "Token subject does not match key owner")

structure Reads where
  first : Rat
  firstFile : KeyFile
  second : Rat
  secondFile : KeyFile
  check : Rat
  client : Option TrustedClient

def verifyAnyTrustedKey (token : String) (reads : Reads) (verifier : TokenVerifier) :
    Except TokenError Claims × TokenVerifier :=
  let verifier := (verifier.refresh crypto config false reads.first reads.firstFile).1
  match tokenKeyId jwt token with
  | none => verifier.verifyToken crypto config jwt token reads.second reads.secondFile reads.check
  | some kid =>
      if kid ∈ verifier.bootstrapIds then
        verifier.verifyToken crypto config jwt token reads.second reads.secondFile reads.check
      else (databasePrincipal config jwt token reads.client, verifier)

end Tokens

end TokenVerifier

end LlmperfOrchestrator.Api
