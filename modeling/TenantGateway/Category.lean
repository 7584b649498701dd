/-
Backend categories: the families of services a request can be sent to.
-/
namespace TenantGateway

/-- the service family a path belongs to; `unmatched` is the absence of one -/
inductive Category where
  | documentIntelligence
  | openai
  | unmatched
  deriving DecidableEq, Repr

namespace Category

/-- every category, in declaration order -/
def all : List Category :=
  [.documentIntelligence, .openai, .unmatched]

/-- the categories that have a backend -/
def served : List Category :=
  [.openai, .documentIntelligence]

def name : Category → String
  | .documentIntelligence => "document_intelligence"
  | .openai => "openai"
  | .unmatched => "unmatched"

/-- the category a name stands for -/
def ofName? (s : String) : Option Category :=
  all.find? (·.name = s)

/-- the audience of the tokens every served category accepts -/
def serviceAudience : String :=
  "https://cognitiveservices.azure.com"

/-- the audience to ask a token for; nothing is ever forwarded to `unmatched`, so it has none -/
def audience? : Category → Option String
  | .unmatched => none
  | _ => some serviceAudience

def isMatched (c : Category) : Bool :=
  c ≠ .unmatched

end Category

end TenantGateway
