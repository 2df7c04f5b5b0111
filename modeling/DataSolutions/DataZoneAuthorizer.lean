import DataSolutions.Iam
import DataSolutions.CdkCore

/-! The environment side of the DataZone MSK authorizer. The setup imports the central
authorizer's role by name, `{authorizerName}Role` in the central account, immutable and adding
grants to resources, and grants it invoking the grant function and assuming the function's role;
a function without a role is refused. The invoke grant becomes a permission of the function, and
the assume-role grant adds no statement. The `DataZoneMskEnvironmentAuthorizer` construct creates
the grant role and function first, so its setup always succeeds. `createSubscriptionTarget`
declares a subscription target. -/
namespace DataSolutions.DataZoneAuthorizer
open Iam CdkCore

/-- An `IFunction` as the setup reads it; an imported function may have no role. -/
structure LambdaFunction where
  functionArn : String
  role : Option Role
  deriving DecidableEq, Repr

/-- The CDK's `IFunction.grantInvoke`. A grantee whose policy takes statements is allowed to
invoke the function and its versions. One imported immutable, adding grants to resources, takes
none: the function declares a permission for it on the function's own ARN instead. -/
def LambdaFunction.grantInvoke (f : LambdaFunction) (grantee : Role) : Grant :=
  ⟨grantee.roleArn, .invoke,
    if grantee.mutable then [f.functionArn, f.functionArn ++ ":*"] else [f.functionArn]⟩

/-- The statement the CDK's `IRole.grantAssumeRole` adds to the grantee's policy: none for a
grantee imported immutable, adding grants to resources. -/
def grantAssumeRole (role grantee : Role) : Option Grant :=
  if grantee.mutable then some ⟨grantee.roleArn, .assumeRole, [role.roleArn]⟩ else none

structure AuthorizerEnvironmentWorflow where
  lambdaInvokeGrant : Grant
  assumeRoleGrant : Option Grant
  deriving DecidableEq, Repr

/-- The ARN `authorizerEnvironmentWorkflowSetup` formats for the central authorizer's role. -/
def centralAuthorizerRoleArn (stack : Stack) (authorizerName : String)
    (centralAccount : Option String) : String :=
  Arn.format "iam" centralAccount "role" (authorizerName ++ "Role") stack

/-- The setup imports the central authorizer's role with `mutable: false` and
`addGrantsToResources: true`. -/
def authorizerEnvironmentWorkflowSetup (stack : Stack) (authorizerName : String)
    (grantFunction : LambdaFunction) (centralAccount : Option String) :
    Except String AuthorizerEnvironmentWorflow :=
  let centralAuthorizerRole :=
    Role.fromRoleArn (centralAuthorizerRoleArn stack authorizerName centralAccount) false
  match grantFunction.role with
  | none => .error "grantFunction.role is undefined"
  | some role =>
    .ok { lambdaInvokeGrant := grantFunction.grantInvoke centralAuthorizerRole
          assumeRoleGrant := grantAssumeRole role centralAuthorizerRole }

structure DataZoneMskEnvironmentAuthorizerProps where
  domainId : String
  centralAccountId : Option String := none
  grantMskManagedVpc : Option Bool := none
  removalPolicy : Option RemovalPolicy := none
  deriving DecidableEq, Repr

/-- The inline `IamPermissions` policy of the grant role: editing role policies and MSK
cluster policies, on any resource. -/
def grantRolePermissions : List PolicyStatement :=
  [⟨["iam:PutRolePolicy", "iam:DeleteRolePolicy"], ["*"]⟩,
   ⟨["kafka:GetClusterPolicy", "kafka:PutClusterPolicy"], ["*"]⟩]

/-- The props of the grant function. -/
structure FunctionProps where
  runtime : String
  handler : String
  code : String
  role : Role
  timeoutSeconds : Nat
  environment : List (String × String)
  deriving DecidableEq, Repr

def grantFunctionProps (role : Role) (props : DataZoneMskEnvironmentAuthorizerProps) :
    FunctionProps where
  runtime := "nodejs20.x"
  handler := "index.handler"
  code := "resources/datazone-msk-authorizer-grant/"
  role := role
  timeoutSeconds := 60
  environment := [("GRANT_VPC", if props.grantMskManagedVpc = some true then "true" else "false")]

structure DataZoneMskEnvironmentAuthorizer where
  grantRole : Role
  grantFunction : LambdaFunction
  assumeRoleGrant : Option Grant
  lambdaInvokeGrant : Grant
  deriving DecidableEq, Repr

/-- The constructor at `path`, `authorizerName` standing for the central authorizer's
`AUTHORIZER_NAME`. -/
def DataZoneMskEnvironmentAuthorizer.new (stack : Stack) (authorizerName : String)
    (path : List String) (props : DataZoneMskEnvironmentAuthorizerProps) :
    Except String DataZoneMskEnvironmentAuthorizer := do
  let grantRole := Role.new (path ++ ["GrantRole"]) "lambda.amazonaws.com"
  let grantFunction : LambdaFunction := ⟨getAtt (path ++ ["GrantFunction"]) "Arn", some grantRole⟩
  let customAuthorizer ←
    authorizerEnvironmentWorkflowSetup stack authorizerName grantFunction props.centralAccountId
  pure { grantRole, grantFunction
         assumeRoleGrant := customAuthorizer.assumeRoleGrant
         lambdaInvokeGrant := customAuthorizer.lambdaInvokeGrant }

/-- The construct always gets through the setup, its grant function having the grant role. The
central authorizer's role is given a permission to invoke the grant function, and no statement
lets it assume the grant role. -/
theorem DataZoneMskEnvironmentAuthorizer.new_eq_ok (stack : Stack) (authorizerName : String)
    (path : List String) (props : DataZoneMskEnvironmentAuthorizerProps) :
    ∃ a, DataZoneMskEnvironmentAuthorizer.new stack authorizerName path props = .ok a ∧
      a.lambdaInvokeGrant = ⟨centralAuthorizerRoleArn stack authorizerName props.centralAccountId,
        .invoke, [a.grantFunction.functionArn]⟩ ∧
      a.assumeRoleGrant = none ∧ a.grantFunction.role = some a.grantRole :=
  ⟨_, rfl, rfl, rfl, rfl⟩

/-! ## Subscription targets -/

/-- A custom asset type as the factory returns it. -/
structure CustomAssetType where
  name : String
  domainIdentifier : String
  deriving DecidableEq, Repr

structure CfnSubscriptionTarget where
  applicableAssetTypes : List String
  authorizedPrincipals : List String
  domainIdentifier : String
  environmentIdentifier : String
  manageAccessRole : String
  name : String
  provider : String
  subscriptionTargetConfig : List (String × String)
  type : String
  deriving DecidableEq, Repr

/-- The construct id `createSubscriptionTarget` gives the target. -/
def subscriptionTargetId (customAssetType : CustomAssetType) (environmentId : String) : String :=
  customAssetType.name ++ environmentId ++ "SubscriptionTarget"

def createSubscriptionTarget (customAssetType : CustomAssetType) (name provider environmentId : String)
    (authorizedPrincipals : List Role) (manageAccessRole : Role) : CfnSubscriptionTarget where
  applicableAssetTypes := [customAssetType.name]
  authorizedPrincipals := authorizedPrincipals.map (·.roleArn)
  domainIdentifier := customAssetType.domainIdentifier
  environmentIdentifier := environmentId
  manageAccessRole := manageAccessRole.roleArn
  name := name
  provider := provider
  subscriptionTargetConfig := []
  type := "BaseSubscriptionTargetType"

end DataSolutions.DataZoneAuthorizer
