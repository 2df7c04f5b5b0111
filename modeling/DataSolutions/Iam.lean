import DataSolutions.IamWildcard

/-! The IAM side of the helpers: ARNs, roles, and the grants the CDK records for them. An
attribute of a construct the stack creates, such as a new role's ARN, is known only once the
stack is deployed; the template refers to it by the construct's path. -/
namespace DataSolutions.Iam
open IamWildcard

/-- The environment `Stack.of(scope)` gives. -/
structure Stack where
  partition : String
  region : String
  account : String
  deriving DecidableEq, Repr

/-- The template's reference to attribute `attr` of the construct at `path`. -/
def getAtt (path : List String) (attr : String) : String :=
  "/".intercalate path ++ "." ++ attr

/-- The CDK's `Arn.format` with a resource name and the default `/` separator: the partition and region
are the stack's, and so is the account unless one is given. -/
def Arn.format (service : String) (account : Option String) (resource resourceName : String)
    (stack : Stack) : String :=
  "arn:" ++ stack.partition ++ ":" ++ service ++ ":" ++ stack.region ++ ":" ++
    account.getD stack.account ++ ":" ++ resource ++ "/" ++ resourceName

structure Role where
  roleArn : String
  /-- The service principal of a role the stack creates; `none` for an imported role. -/
  assumedBy : Option String
  /-- Whether a statement granted to the role is added to its policy: `false` for a role
  imported with `mutable: false`. -/
  mutable : Bool
  deriving DecidableEq, Repr

/-- A role created by `new Role(scope, id, ...)` at `path`, assumed by `service`. -/
def Role.new (path : List String) (service : String) : Role := ⟨getAtt path "Arn", some service, true⟩

/-- The CDK's `Role.fromRoleArn`, with its `mutable` option. -/
def Role.fromRoleArn (roleArn : String) (mutable : Bool) : Role := ⟨roleArn, none, mutable⟩

/-- The kind of a grant; the action list the CDK attaches to each kind is not modelled. -/
inductive Access
  | readWrite
  /-- The KMS actions `IBucket.grantReadWrite` grants on the bucket's key. -/
  | encryptDecrypt
  | invoke
  | assumeRole
  deriving DecidableEq, Repr

/-- A CDK `Grant`: `grantee` may perform `access` on `resourceArns`. -/
structure Grant where
  grantee : String
  access : Access
  resourceArns : List String
  deriving DecidableEq, Repr

/-- IAM lets the grant's statement act on `arn` when one of its resource patterns matches. -/
def Grant.Covers (g : Grant) (arn : String) : Prop :=
  ∃ r ∈ g.resourceArns, wildcardMatch r.data arn.data = true

instance (g : Grant) (arn : String) : Decidable (g.Covers arn) :=
  inferInstanceAs (Decidable (∃ r ∈ g.resourceArns, _))

lemma grant_covers_iff (g : Grant) (arn : String) :
    g.Covers arn ↔ ∃ r ∈ g.resourceArns, Matches r.data arn.data := by
  simp [Grant.Covers, wildcardMatch_iff]

structure PolicyStatement where
  actions : List String
  resources : List String
  deriving DecidableEq, Repr

end DataSolutions.Iam
