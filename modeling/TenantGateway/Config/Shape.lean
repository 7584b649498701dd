/-
What a document has to look like to be a configuration.

A `Shape` says what a node may be; a record lists its fields with, for those that may be left out, the value that stands in
for them. `Shape.config` is the shape of the whole configuration and the only place where a field or a default is declared.
-/
import TenantGateway.Config.Schema

namespace TenantGateway.Config

/-- the widths of the numbers -/
inductive NumberKind where
  | word32
  | word64
  | size
  deriving DecidableEq, Repr

namespace NumberKind

def name : NumberKind → String
  | .word32 => "u32"
  | .word64 => "u64"
  | .size => "usize"

/-- the largest number of the kind -/
def largest : NumberKind → Nat
  | .word32 => 0xFFFFFFFF
  | .word64 | .size => 0xFFFFFFFFFFFFFFFF

end NumberKind

/-- what a node was read as; a record holds the values of its fields in declaration order -/
inductive Value where
  | text (value : String)
  | flag (value : Bool)
  | number (value : Nat)
  /-- one of the named variants, by its position -/
  | variant (position : Nat)
  | absent
  | list (items : List Value)
  | record (fields : List Value)
  | source (value : TenantSource)
  deriving Repr

inductive Shape where
  | text
  | flag
  | number (kind : NumberKind)
  | choice (names : List String)
  /-- a value that may be null -/
  | optional (inner : Shape)
  | list (item : Shape)
  | record (name : String) (fields : List (String × Shape × Option Value))
  | source
  deriving Repr

/-- a field with its name, shape and, if it may be left out, the value it then has -/
abbrev Field := String × Shape × Option Value

namespace Shape

/-- a field that may not be left out -/
def required (name : String) (s : Shape) : Field := (name, s, none)

/-- a field with the value it has when left out -/
def defaulted (name : String) (s : Shape) (v : Value) : Field := (name, s, some v)

def category : Shape := .choice (Category.all.map Category.name)

def endpoint : Shape := .record "BackendEndpoint" [required "url" .text]

def gateway : Shape :=
  let d : GatewaySection := {}
  .record "GatewaySection"
    [defaulted "listen" .text (.text d.listen),
      defaulted "tenant_source" .source (.source d.tenantSource),
      defaulted "request_cost" (.number .word32) (.number d.requestCost),
      defaulted "drain_grace_ms" (.number .word64) (.number d.drainGraceMs),
      defaulted "max_body_bytes" (.number .size) (.number d.maxBodyBytes)]

def backends : Shape :=
  let d : BackendsSection := {}
  .record "BackendsSection"
    [defaulted "timeout_ms" (.number .word64) (.number d.timeoutMs),
      defaulted "openai" (.optional endpoint) .absent,
      defaulted "document_intelligence" (.optional endpoint) .absent]

def credentialModes : List String := ["managed_identity", "static"]

def credentials : Shape :=
  let d : CredentialsSection := {}
  .record "CredentialsSection"
    [defaulted "mode" (.choice credentialModes) (.variant 0),
      defaulted "client_id" (.optional .text) .absent,
      defaulted "static_token_env" .text (.text d.staticTokenEnv),
      defaulted "refresh_skew_secs" (.number .word64) (.number d.refreshSkewSecs)]

def route : Shape := .record "RouteConfig" [required "pattern" .text, required "backend" category]

def rateLimit : Shape :=
  .record "TenantRateLimit" [defaulted "tokens_per_minute" (.number .word32) (.number 1000)]

def piiModes : List String := [PiiFailMode.failOpen.name, PiiFailMode.failClosed.name]

def piiRedaction : Shape :=
  .record "PiiRedaction" [defaulted "enabled" .flag (.flag false), defaulted "mode" (.choice piiModes) (.variant 1)]

def policy : Shape :=
  .record "TenantPolicy"
    [defaulted "pii_redaction" piiRedaction (.record [.flag false, .variant 1]),
      defaulted "usage_logging" .flag (.flag false),
      defaulted "streaming_metrics" .flag (.flag false),
      defaulted "intelligent_routing" .flag (.flag false)]

def tenant : Shape :=
  .record "TenantConfig"
    [required "id" .text,
      defaulted "display_name" (.optional .text) .absent,
      defaulted "enabled" .flag (.flag true),
      defaulted "backends" (.list category) (.list [.variant 0, .variant 1]),
      defaulted "rate_limit" rateLimit (.record [.number 1000]),
      defaulted "policy" policy (.record [.record [.flag false, .variant 1], .flag false, .flag false, .flag false])]

/-- the value of a record of which every field is left out -/
def emptyRecord (s : Shape) : Value :=
  match s with
  | .record _ fields => .record (fields.map fun (_, _, v) => v.getD .absent)
  | _ => .absent

def config : Shape :=
  .record "GatewayConfig"
    [required "version" (.number .word32),
      defaulted "gateway" gateway gateway.emptyRecord,
      defaulted "backends" backends backends.emptyRecord,
      defaulted "credentials" credentials credentials.emptyRecord,
      defaulted "routes" (.optional (.list route)) .absent,
      defaulted "tenants" (.list tenant) (.list [])]

end Shape

namespace Value

def toText : Value → String
  | .text s => s
  | _ => ""

def toFlag : Value → Bool
  | .flag b => b
  | _ => false

def toNumber : Value → Nat
  | .number n => n
  | _ => 0

def toList : Value → List Value
  | .list vs => vs
  | _ => []

/-- nothing for a value that was left out -/
def toOption : Value → Option Value
  | .absent => none
  | v => some v

/-- the field of a record at a position -/
def field (v : Value) (position : Nat) : Value :=
  match v with
  | .record fields => fields.getD position .absent
  | _ => .absent

def toSource : Value → TenantSource
  | .source s => s
  | _ => .pathPrefix

/-- the member of a list a variant stands for -/
def choose {α : Type} (all : List α) (d : α) : Value → α
  | .variant n => all.getD n d
  | _ => d

def toCategory (v : Value) : Category := v.choose Category.all .unmatched

def toEndpoint (v : Value) : BackendEndpoint := ⟨(v.field 0).toText⟩

def toGateway (v : Value) : GatewaySection :=
  { listen := (v.field 0).toText
    tenantSource := (v.field 1).toSource
    requestCost := (v.field 2).toNumber
    drainGraceMs := (v.field 3).toNumber
    maxBodyBytes := (v.field 4).toNumber }

def toBackends (v : Value) : BackendsSection :=
  { timeoutMs := (v.field 0).toNumber
    openai := (v.field 1).toOption.map toEndpoint
    documentIntelligence := (v.field 2).toOption.map toEndpoint }

def toCredentials (v : Value) : CredentialsSection :=
  { mode := (v.field 0).choose [.managedIdentity, .static] .managedIdentity
    clientId := (v.field 1).toOption.map toText
    staticTokenEnv := (v.field 2).toText
    refreshSkewSecs := (v.field 3).toNumber }

def toRoute (v : Value) : RouteConfig := ⟨(v.field 0).toText, (v.field 1).toCategory⟩

def toPii (v : Value) : PiiRedaction :=
  ⟨(v.field 0).toFlag, (v.field 1).choose [.failOpen, .failClosed] .failClosed⟩

def toPolicy (v : Value) : TenantPolicy :=
  ⟨(v.field 0).toPii, (v.field 1).toFlag, (v.field 2).toFlag, (v.field 3).toFlag⟩

def toTenant (v : Value) : TenantConfig :=
  { id := (v.field 0).toText
    displayName := (v.field 1).toOption.map toText
    enabled := (v.field 2).toFlag
    backends := (v.field 3).toList.map toCategory
    tokensPerMinute := ((v.field 4).field 0).toNumber
    policy := (v.field 5).toPolicy }

/-- the configuration a value of the shape `Shape.config` is -/
def toConfig (v : Value) : Config :=
  { version := (v.field 0).toNumber
    gateway := (v.field 1).toGateway
    backends := (v.field 2).toBackends
    credentials := (v.field 3).toCredentials
    routes := (v.field 4).toOption.map fun v => v.toList.map toRoute
    tenants := (v.field 5).toList.map toTenant }

end Value

end TenantGateway.Config
