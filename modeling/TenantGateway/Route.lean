/-
Routes: an ordered table of patterns, each standing for a backend category.

`RouteTable.classify` gives the category of the first rule whose pattern occurs in the path, the query left out and ASCII
case ignored; a path in which no pattern occurs is `unmatched`.
-/
import TenantGateway.Category
import TenantGateway.Error
import TenantGateway.Text.Blank
import TenantGateway.Text.Search

namespace TenantGateway

open Text

/-- a pattern in lower case, and the category of the paths it occurs in -/
structure RouteRule where
  pattern : String
  category : Category
  deriving DecidableEq, Repr

namespace RouteRule

/-- a rule from its pattern as written; blank patterns and the absent backend are refused -/
def make (pattern : String) (category : Category) : Except GatewayError RouteRule :=
  let core := trim pattern
  if core.isEmpty then .error (.badRequest "route pattern must not be empty")
  else if category.isMatched then .ok ⟨String.ofList (lowerAscii core.toList), category⟩
  else .error (.badRequest ("route '" ++ core ++ "' must target a concrete backend"))

/-- whether the rule applies to a path that is already in lower case -/
def appliesTo (rule : RouteRule) (lowered : List Char) : Bool :=
  occursIn rule.pattern.toList lowered

end RouteRule

/-- rules in the order in which they are tried -/
structure RouteTable where
  rules : List RouteRule
  deriving DecidableEq, Repr

namespace RouteTable

/-- the table used when none is configured -/
def standard : RouteTable :=
  ⟨[⟨"documentintelligence", .documentIntelligence⟩, ⟨"formrecognizer", .documentIntelligence⟩,
    ⟨"documentmodels", .documentIntelligence⟩, ⟨"openai", .openai⟩]⟩

def make (rules : List RouteRule) : Except GatewayError RouteTable :=
  if rules.isEmpty then .error (.badRequest "route table must not be empty") else .ok ⟨rules⟩

/-- the category of a path: that of the first rule that applies -/
def classify (table : RouteTable) (path : String) : Category :=
  let lowered := lowerAscii (before '?' path.toList)
  match table.rules.find? (·.appliesTo lowered) with
  | some rule => rule.category
  | none => .unmatched

end RouteTable

end TenantGateway
