/-
Why a document is no configuration, and where.

A failure names its place by the keys and positions that lead there. Its text is what operators see; where the document is
not well formed, or too deep or too large once its aliases are followed, the text says only that.
-/
namespace TenantGateway.Config

/-- one step from a collection to what it holds: an entry, an entry whose key is no scalar, an item -/
inductive Step where
  | key (name : List Char)
  | unnamed
  | item (position : Nat)
  deriving DecidableEq, Repr

abbrev Path := List Step

/-- the text of a path: names with points between them, positions in brackets -/
def Path.render : Path → List Char
  | [] => []
  | step :: rest =>
    let render (first : Bool) : Step → List Char
      | .key name => (if first then [] else ['.']) ++ name
      | .unnamed => (if first then [] else ['.']) ++ ['?']
      | .item position => '[' :: ((toString position).toList ++ [']'])
    render true step ++ rest.flatMap (render false)

/-- what is wrong at a place -/
inductive Cause where
  | wrongType (found wanted : String)
  | wrongValue (found wanted : String)
  | wrongLength (found wanted : Nat)
  | unknownField (name : List Char) (known : List String)
  | unknownVariant (name : List Char) (known : List String)
  | missingField (name : String)
  | duplicateField (name : String)
  /-- a tag that chooses among variants, where there is no choice to make -/
  | strayVariant
  /-- the document is not well formed, or beyond the limits of expansion -/
  | malformed
  deriving DecidableEq, Repr

namespace Cause

def inTicks (s : String) : String :=
  "\x60" ++ s ++ "\x60"

/-- the names that could have been used -/
def listing (names : List String) : String :=
  match names with
  | [a] => inTicks a
  | [a, b] => inTicks a ++ " or " ++ inTicks b
  | _ => "one of " ++ ", ".intercalate (names.map inTicks)

def message : Cause → String
  | .wrongType found wanted => "invalid type: " ++ found ++ ", expected " ++ wanted
  | .wrongValue found wanted => "invalid value: " ++ found ++ ", expected " ++ wanted
  | .wrongLength found wanted =>
    "invalid length " ++ toString found ++ ", expected " ++ toString wanted ++ (if wanted = 1 then " element" else " elements")
      ++ " in sequence"
  | .unknownField name known => "unknown field " ++ inTicks (String.ofList name) ++ ", expected " ++ listing known
  | .unknownVariant name known => "unknown variant " ++ inTicks (String.ofList name) ++ ", expected " ++ listing known
  | .missingField name => "missing field " ++ inTicks name
  | .duplicateField name => "duplicate field " ++ inTicks name
  | .strayVariant => "untagged and internally tagged enums do not support enum input"
  | .malformed => "<syntax>"

end Cause

/-- a cause and its place -/
structure Failure where
  path : Path
  cause : Cause
  deriving DecidableEq, Repr

namespace Failure

def malformed : Failure := ⟨[], .malformed⟩

def message (f : Failure) : String :=
  if f.path.isEmpty || f.cause = .malformed then f.cause.message
  else String.ofList f.path.render ++ ": " ++ f.cause.message

end Failure

end TenantGateway.Config
