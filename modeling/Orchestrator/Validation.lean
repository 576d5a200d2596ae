import Orchestrator.Text.Quoted

/-!
What can be wrong with names, keys, deployments and jobs, and how it is said.
-/
namespace Orchestrator

/-- Why a job is not acceptable. -/
inductive JobFlaw where
  | emptyNamespace
  /-- The job's namespace is not the name of the deployment it is for. -/
  | foreignNamespace (namespaceName deployment : String)
  | noAttempts
  deriving DecidableEq, Repr

/-- Why a value is refused. -/
inductive ValidationError where
  | invalidName (name : String)
  | missingImage (deployment : String)
  | invalidSecretKey (key : String)
  | invalidJob (flaw : JobFlaw)
  deriving DecidableEq, Repr

def JobFlaw.message : JobFlaw → String
  | .emptyNamespace => "empty namespace"
  | .foreignNamespace namespaceName deployment =>
    "namespace " ++ Text.quoted namespaceName ++ " does not match deployment "
      ++ Text.quoted deployment
  | .noAttempts => "retry policy must allow at least one attempt"

def ValidationError.message : ValidationError → String
  | .invalidName name => "invalid deployment name: " ++ Text.quoted name
  | .missingImage deployment => "deployment " ++ Text.quoted deployment ++ " has no image"
  | .invalidSecretKey key => "invalid secret key: " ++ Text.quoted key
  | .invalidJob flaw => "invalid job: " ++ flaw.message

end Orchestrator
