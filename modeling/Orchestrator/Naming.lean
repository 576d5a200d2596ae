import Orchestrator.Text.Case
import Orchestrator.Validation

/-!
The grammar of deployment names and secret keys, and what is derived from them: the collection that
holds a deployment's secrets, the alias of a secret and its environment variable.
-/
namespace Orchestrator

def isLowerLetter (c : Char) : Bool := 'a' ≤ c && c ≤ 'z'

def isUpperLetter (c : Char) : Bool := 'A' ≤ c && c ≤ 'Z'

def isDigit (c : Char) : Bool := '0' ≤ c && c ≤ '9'

/-- The characters that may stand inside a deployment name. -/
def isNameChar (c : Char) : Bool := isLowerLetter c || isDigit c || c = '_' || c = '-'

/-- An ASCII letter or digit. -/
def isKeyEnd (c : Char) : Bool := isLowerLetter c || isUpperLetter c || isDigit c

/-- The characters that may stand inside a secret key. -/
def isKeyChar (c : Char) : Bool := isKeyEnd c || c = '_' || c = '-'

/-- At least two characters: one of `first`, any number of `inner`, one of `last`. -/
def isFramed (first inner last : Char → Bool) : List Char → Bool
  | c :: d :: rest =>
    first c && (d :: rest).dropLast.all inner && last ((d :: rest).getLast (by simp))
  | _ => false

/-- The longest name or key, in bytes. -/
def maxNameBytes : Nat := 50

/-- Is the text a deployment name? -/
def isDeploymentName (name : String) : Bool :=
  name.utf8ByteSize ≤ maxNameBytes
    && isFramed isLowerLetter isNameChar (fun c => isLowerLetter c || isDigit c) name.toList

/-- Is the text a secret key? -/
def isSecretKey (key : String) : Bool :=
  key.utf8ByteSize ≤ maxNameBytes && isFramed isKeyEnd isKeyChar isKeyEnd key.toList

/-- Refuses what is not a deployment name. -/
def validateName (name : String) : Except ValidationError Unit :=
  if isDeploymentName name then .ok () else .error (.invalidName name)

/-- Refuses what is not a secret key. -/
def validateKey (key : String) : Except ValidationError Unit :=
  if isSecretKey key then .ok () else .error (.invalidSecretKey key)

/-- The alias of a key: an at sign and the key in upper case, with underscores for dashes. -/
def aliasFor (key : String) : String :=
  String.ofList ('@' :: (Text.toUpper key.toList).map fun c => if c = '-' then '_' else c)

/-- The variable an alias names: the alias without the at signs in front. -/
def variableName (aliasText : String) : String :=
  String.ofList (aliasText.toList.dropWhile (· = '@'))

/-- The collection that holds a deployment's secrets. -/
def secretCollection (deployment : String) : String :=
  String.ofList (Text.toLower (deployment ++ "-secrets").toList)

end Orchestrator
