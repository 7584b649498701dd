/-
Searching in texts given as character lists: ASCII case folding, contiguous occurrence, and cutting at a character.
-/
namespace TenantGateway.Text

/-- the characters of ASCII -/
def isAscii (c : Char) : Bool :=
  c.toNat < 128

/-- lower the ASCII capitals and leave every other character alone -/
def lowerAscii (cs : List Char) : List Char :=
  cs.map Char.toLower

/-- whether `needle` stands somewhere in the text, without gaps -/
def occursIn (needle : List Char) : List Char → Bool
  | [] => needle.isEmpty
  | c :: rest => needle.isPrefixOf (c :: rest) || occursIn needle rest

/-- the part before the first `mark`, and what follows it if there is one -/
def cutAt (mark : Char) : List Char → List Char × Option (List Char)
  | [] => ([], none)
  | c :: rest =>
    if c = mark then ([], some rest)
    else
      let (before, after) := cutAt mark rest
      (c :: before, after)

/-- the part before the first `mark`, everything if there is none -/
def before (mark : Char) (cs : List Char) : List Char :=
  cs.takeWhile (· ≠ mark)

/-- the parts between the marks; one part where there is none -/
def splitOn (mark : Char) : List Char → List (List Char)
  | [] => [[]]
  | c :: rest =>
    match splitOn mark rest with
    | part :: parts => if c = mark then [] :: part :: parts else (c :: part) :: parts
    | [] => [[]]

/-- whether the text begins with `head` -/
def startsWith (head : String) (s : String) : Bool :=
  head.toList.isPrefixOf s.toList

/-- the bytes of a text in UTF-8 -/
def bytes (s : String) : List UInt8 :=
  s.toList.flatMap String.utf8EncodeChar

end TenantGateway.Text
