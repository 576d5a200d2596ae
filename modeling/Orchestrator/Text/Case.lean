import Orchestrator.Text.CaseTable

/-!
Full Unicode letter case. Upper case is decided character by character. Lower case is too, but for
the capital sigma, which becomes a final sigma at the end of a word.
-/
namespace Orchestrator.Text

/-- The image of a code point under the first run that holds it. -/
def CaseRun.image? (runs : Array CaseRun) (n : Nat) : Option Nat :=
  (runs.find? fun run =>
    run.first ≤ n && n ≤ run.last && (n - run.first) % run.stride == 0).map
      fun run => ((n : Int) + run.delta).toNat

/-- The image of a character under a case mapping given by expansions and runs. -/
def mapCase (expansions : Array (Nat × List Nat)) (runs : Array CaseRun) (c : Char) :
    List Char :=
  match expansions.find? (fun entry => entry.1 == c.toNat) with
  | some entry => entry.2.map Char.ofNat
  | none => [((CaseRun.image? runs c.toNat).map Char.ofNat).getD c]

/-- The upper case of a character, which may be several characters. -/
def upperChar (c : Char) : List Char :=
  if c.toNat < 0x80 then [c.toUpper] else mapCase upperExpansions upperRuns c

/-- The lower case of a character on its own. -/
def lowerChar (c : Char) : List Char :=
  if c.toNat < 0x80 then [c.toLower] else mapCase lowerExpansions lowerRuns c

/-- The text in upper case. -/
def toUpper (s : List Char) : List Char := s.flatMap upperChar

/-- Does the text, read past characters that do not end a word, go on with a cased one? -/
def meetsCased (s : List Char) : Bool :=
  match s.dropWhile caseIgnorableRanges.has with
  | c :: _ => casedRanges.has c
  | [] => false

/-- Lower case of `rest`, where `before` is the text in front of it, last character first. -/
def lowerAfter (before : List Char) : List Char → List Char
  | [] => []
  | c :: rest =>
    let image :=
      if c.toNat = 0x3A3 then
        if meetsCased before && !meetsCased rest then [Char.ofNat 0x3C2] else [Char.ofNat 0x3C3]
      else lowerChar c
    image ++ lowerAfter (c :: before) rest

/-- The text in lower case. -/
def toLower (s : List Char) : List Char := lowerAfter [] s

end Orchestrator.Text
