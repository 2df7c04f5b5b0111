import DataSolutions.Iam
import DataSolutions.CdkCore

/-! The Lake Formation helpers: registering an S3 location with a data access role of its own,
making a principal a data lake administrator, revoking the `IAM_ALLOWED_PRINCIPALS` permission
of a database, and granting data location access. Each helper is modelled by what it declares;
`Provisioning` declares it in the construct tree. -/
namespace DataSolutions.LakeFormationHelpers
open IamWildcard Iam CdkCore

inductive PermissionModel
  | IAM
  | HYBRID
  | LAKE_FORMATION
  deriving DecidableEq, Repr

/-- An S3 bucket as the helpers read it: its ARN and, for a bucket encrypted with a KMS key,
the key's ARN. Bucket names and partitions are lowercase letters, digits, dots and hyphens, and
a key's ARN ends in the key's id, so neither ARN holds an IAM wildcard. -/
structure Bucket where
  bucketArn : String
  bucketArn_wildcardFree : WildcardFree bucketArn.data
  encryptionKeyArn : Option String
  encryptionKeyArn_wildcardFree : ∀ k ∈ encryptionKeyArn, WildcardFree k.data

/-- The ARN of the bucket's objects that `keyPattern` names, as `IBucket.arnForObjects`
writes it. -/
def Bucket.arnForObjects (b : Bucket) (keyPattern : String) : String :=
  b.bucketArn ++ "/" ++ keyPattern

/-- The grant the CDK's `IBucket.grantReadWrite` returns: read and write on the bucket and on
the objects `objectsKeyPattern` names. -/
def Bucket.grantReadWrite (b : Bucket) (identity : Role) (objectsKeyPattern : String) : Grant :=
  ⟨identity.roleArn, .readWrite, [b.bucketArn, b.arnForObjects objectsKeyPattern]⟩

/-- The grant `IBucket.grantReadWrite` adds besides to the identity's policy for an encrypted
bucket: the KMS actions on the bucket's key. -/
def Bucket.keyGrant (b : Bucket) (identity : Role) : Option Grant :=
  b.encryptionKeyArn.map fun k => ⟨identity.roleArn, .encryptDecrypt, [k]⟩

/-- The `AWS::LakeFormation::Resource` that registers a data location. -/
structure CfnResource where
  hybridAccessEnabled : Bool
  useServiceLinkedRole : Bool
  roleArn : String
  resourceArn : String
  deriving DecidableEq, Repr

/-- The objects Lake Formation governs under a registered location: the one at its ARN and
every one below it. -/
def CfnResource.Contains (l : CfnResource) (arn : String) : Prop :=
  arn = l.resourceArn ∨ (l.resourceArn ++ "/").data <+: arn.data

instance (l : CfnResource) (arn : String) : Decidable (l.Contains arn) :=
  inferInstanceAs (Decidable (_ ∨ _))

/-! ## `registerS3Location` -/

/-- What `registerS3Location` declares, in order: the data access role, its read-write grant
on the location, and the location, made to depend on the grant. -/
structure S3LocationRegistration where
  lfDataAccessRole : Role
  grantRead : Grant
  /-- The grant on the bucket's key that goes into the role's policy with `grantRead`. -/
  keyGrant : Option Grant
  dataLakeLocation : CfnResource

def registerS3Location (scope : List String) (id : String) (locationBucket : Bucket)
    (locationPrefix : String) (accessMode : Option PermissionModel) : S3LocationRegistration :=
  let lfDataAccessRole := Role.new (scope ++ [id ++ "DataAccessRole"]) "lakeformation.amazonaws.com"
  { lfDataAccessRole := lfDataAccessRole
    grantRead := locationBucket.grantReadWrite lfDataAccessRole locationPrefix
    keyGrant := locationBucket.keyGrant lfDataAccessRole
    dataLakeLocation :=
      { hybridAccessEnabled := accessMode == some .HYBRID
        useServiceLinkedRole := false
        roleArn := lfDataAccessRole.roleArn
        resourceArn := locationBucket.arnForObjects locationPrefix } }

lemma wildcardFree_bucketArn_slash (b : Bucket) : WildcardFree (b.bucketArn ++ "/").data := by
  intro c hc
  simp only [String.data_append, List.mem_append] at hc
  rcases hc with hc | hc
  · exact b.bucketArn_wildcardFree c hc
  · simp_all [String.data]

lemma arnForObjects_data (b : Bucket) (k : String) :
    (b.arnForObjects k).data = (b.bucketArn ++ "/").data ++ k.data := by
  simp [Bucket.arnForObjects]

lemma arnForObjects_inj (b : Bucket) {k p : String} : b.arnForObjects k = b.arnForObjects p ↔ k = p := by
  rw [String.ext_iff, arnForObjects_data, arnForObjects_data, List.append_cancel_left_eq,
    ← String.ext_iff]

/-- A read-write grant reaches the bucket's objects whose keys its pattern matches. -/
lemma grantReadWrite_covers_iff (b : Bucket) (role : Role) (pattern k : String) :
    (b.grantReadWrite role pattern).Covers (b.arnForObjects k) ↔
      wildcardMatch pattern.data k.data = true := by
  have hslash := wildcardFree_bucketArn_slash b
  have hbucket : wildcardMatch b.bucketArn.data ((b.bucketArn ++ "/").data ++ k.data) = false := by
    rw [Bool.eq_false_iff, ne_eq, wildcardMatch_of_wildcardFree b.bucketArn_wildcardFree]
    intro h
    have := congrArg List.length h
    simp at this
  simp only [Bucket.grantReadWrite, Grant.Covers, List.mem_cons, List.mem_singleton,
    List.not_mem_nil, or_false, exists_eq_or_imp, exists_eq_left, hbucket, Bool.false_eq_true,
    false_or, arnForObjects_data, wildcardMatch_append_of_wildcardFree hslash,
    List.append_cancel_left_eq, exists_eq_left']

/-- The registered location governs the object with key `p` and the objects below `p/`. -/
lemma registerS3Location_contains_iff (scope : List String) (id : String) (b : Bucket)
    (p : String) (accessMode : Option PermissionModel) (k : String) :
    (registerS3Location scope id b p accessMode).dataLakeLocation.Contains (b.arnForObjects k) ↔
      k = p ∨ (p ++ "/").data <+: k.data := by
  simp only [registerS3Location, CfnResource.Contains, arnForObjects_inj]
  simp [Bucket.arnForObjects, String.data_append, List.append_assoc]

/-- For a prefix with no wildcard, the grant reaches exactly one object of the bucket: the
one whose key is the prefix. -/
lemma registerS3Location_covers_iff (scope : List String) (id : String) (b : Bucket) {p : String}
    (accessMode : Option PermissionModel) (hp : WildcardFree p.data) (k : String) :
    (registerS3Location scope id b p accessMode).grantRead.Covers (b.arnForObjects k) ↔ k = p := by
  rw [registerS3Location, grantReadWrite_covers_iff, wildcardMatch_of_wildcardFree hp,
    ← String.ext_iff]

/-- The bucket of the `DataCatalogDatabase` end-to-end test, encrypted with the test's key. -/
def e2eBucket : Bucket :=
  ⟨"arn:aws:s3:::datacatalogteststack-testbucket", by decide,
    some (getAtt ["DataCatalogTestStack", "DataKey"] "Arn"), by rintro k ⟨⟩; decide⟩

/-- With the end-to-end test's prefix the registered location holds objects the grant does not
reach, and with the prefix `*` the grant reaches objects outside the location. -/
theorem registerS3Location_grant_not_location :
    ((registerS3Location [] "TestDatabase" e2eBucket "test_database" none).dataLakeLocation.Contains
        (e2eBucket.arnForObjects "test_database/part-00000.parquet") ∧
      ¬ (registerS3Location [] "TestDatabase" e2eBucket "test_database" none).grantRead.Covers
        (e2eBucket.arnForObjects "test_database/part-00000.parquet")) ∧
    ((registerS3Location [] "TestDatabase" e2eBucket "*" none).grantRead.Covers
        (e2eBucket.arnForObjects "gold/part-00000.parquet") ∧
      ¬ (registerS3Location [] "TestDatabase" e2eBucket "*" none).dataLakeLocation.Contains
        (e2eBucket.arnForObjects "gold/part-00000.parquet")) := by
  decide

/-- For a location prefix with no wildcard, every object of the bucket the data access role's
grant reaches lies in the registered location. -/
theorem registerS3Location_grant_within_location (scope : List String) (id : String)
    (locationBucket : Bucket) (locationPrefix : String) (accessMode : Option PermissionModel)
    (h : WildcardFree locationPrefix.data) (k : String) :
    (registerS3Location scope id locationBucket locationPrefix accessMode).grantRead.Covers
        (locationBucket.arnForObjects k) →
      (registerS3Location scope id locationBucket locationPrefix accessMode).dataLakeLocation.Contains
        (locationBucket.arnForObjects k) := by
  rw [registerS3Location_covers_iff scope id locationBucket accessMode h,
    registerS3Location_contains_iff]
  exact .inl

theorem registerS3Location_grant_within_location_testDatabase :
    WildcardFree "test_database".data ∧
      ((registerS3Location [] "TestDatabase" e2eBucket "test_database" none).grantRead.Covers
          (e2eBucket.arnForObjects "test_database") →
        (registerS3Location [] "TestDatabase" e2eBucket "test_database" none).dataLakeLocation.Contains
          (e2eBucket.arnForObjects "test_database")) :=
  ⟨by decide, registerS3Location_grant_within_location [] "TestDatabase" e2eBucket "test_database"
    none (by decide) "test_database"⟩

/-! ## Administrators, data location permissions and the `IAM_ALLOWED_PRINCIPALS` revocation -/

/-- The principal `grantLfAdminRole` takes: an IAM role, an IAM user, or a SAML provider with a
user name. -/
inductive LfPrincipal
  | role (roleArn : String)
  | user (userArn : String)
  | saml (samlProviderArn : String) (name : String)
  deriving DecidableEq, Repr

/-- The principal's ARN as `grantLfAdminRole` probes it: the role ARN if truthy, else the user
ARN if truthy, else the SAML provider ARN followed by the name. A role or a user whose ARN is
empty falls through to the SAML branch, which reads `samlProviderArn` off `undefined`. -/
def principalArn : LfPrincipal → Except String String
  | .role roleArn => if roleArn ≠ "" then .ok roleArn else .error samlProviderTypeError
  | .user userArn => if userArn ≠ "" then .ok userArn else .error samlProviderTypeError
  | .saml samlProviderArn name => .ok (samlProviderArn ++ name)
where
  samlProviderTypeError : String := "Cannot read properties of undefined (reading 'samlProviderArn')"

/-- The `AWS::LakeFormation::DataLakeSettings` that makes principals administrators. -/
structure CfnDataLakeSettings where
  admins : List String
  mutationType : String
  /-- The `CROSS_ACCOUNT_VERSION` parameter, when the settings set one. -/
  crossAccountVersion : Option Nat
  deriving DecidableEq, Repr

/-- The settings both versions of `grantLfAdminRole` declare: the principal appended to the
administrators. -/
def lfAdminSettings (crossAccountVersion : Option Nat) (principal : LfPrincipal) :
    Except String CfnDataLakeSettings := do
  let principalArn ← principalArn principal
  pure { admins := [principalArn], mutationType := "APPEND", crossAccountVersion }

def grantLfAdminRole (principal : LfPrincipal) : Except String CfnDataLakeSettings :=
  lfAdminSettings (some 4) principal

/-! The helpers of the file that also holds `makeCdkLfAdmin`, whose `grantLfAdminRole` sets
no parameters. -/
namespace CdkLfAdmin

def grantLfAdminRole (principal : LfPrincipal) : Except String CfnDataLakeSettings :=
  lfAdminSettings none principal

/-- The error of the synthesizer's `deployRoleArn` getter when it holds no deploy role. -/
def deployRoleArnGetterError : String :=
  "deployRoleArn getter can only be called after the synthesizer has been bound to a Stack"

/-- The synthesizer's `deployRoleArn` getter, over the deploy role ARN it holds (empty when it
holds none). -/
def synthesizerDeployRoleArn (deployRoleArn : String) : Except String String :=
  if deployRoleArn = "" then .error deployRoleArnGetterError else .ok deployRoleArn

/-- The stack's deploy role, which the code's comments call the CDK execution role, imported as
`CdkRole` and made an administrator. `Fn.sub` of the getter's ARN is a non-empty token, so
`grantLfAdminRole` takes the role branch. -/
def makeCdkLfAdmin (deployRoleArn : String) : Except String CfnDataLakeSettings := do
  let arn ← synthesizerDeployRoleArn deployRoleArn
  grantLfAdminRole (.role arn)

end CdkLfAdmin

/-- The settings add exactly the principal's ARN to the administrators, and never replace them. -/
theorem lfAdminSettings_eq_ok {v : Option Nat} {principal : LfPrincipal} {s : CfnDataLakeSettings} :
    lfAdminSettings v principal = .ok s ↔
      ∃ arn, principalArn principal = .ok arn ∧ s = ⟨[arn], "APPEND", v⟩ := by
  simp only [lfAdminSettings, bind_eq_ok, pure, Except.pure, Except.ok.injEq]
  exact exists_congr fun _ => and_congr_right fun _ => eq_comm

/-- `makeCdkLfAdmin` succeeds exactly for a synthesizer that holds a deploy role, whose ARN it
appends to the administrators. -/
lemma makeCdkLfAdmin_eq_ok {deployRoleArn : String} {s : CfnDataLakeSettings} :
    CdkLfAdmin.makeCdkLfAdmin deployRoleArn = .ok s ↔
      deployRoleArn ≠ "" ∧ s = ⟨[deployRoleArn], "APPEND", none⟩ := by
  unfold CdkLfAdmin.makeCdkLfAdmin CdkLfAdmin.synthesizerDeployRoleArn
  by_cases h : deployRoleArn = ""
  · simp [h, bind, Except.bind]
  · simp [h, bind, Except.bind, CdkLfAdmin.grantLfAdminRole, lfAdminSettings_eq_ok, principalArn]

/-- The Lake Formation call the revocation makes when the custom resource is created. -/
structure AwsSdkCall where
  service : String
  action : String
  permissions : List String
  principal : String
  databaseName : String
  physicalResourceId : String
  deriving DecidableEq, Repr

/-- The props `removeIamAllowedPrincipal` gives `AwsCustomResource`. -/
structure AwsCustomResource where
  removalPolicy : RemovalPolicy
  role : String
  onCreate : AwsSdkCall
  policy : List PolicyStatement
  logRetentionDays : Nat
  timeoutSeconds : Nat
  deriving DecidableEq, Repr

/-- The custom resource revoking every permission of `IAM_ALLOWED_PRINCIPALS` on `database`,
whose policy allows only the revocation and reading the database. The role, timeout and log
retention are the props of the stack's provider function, which the first custom resource of
the stack creates: later ones share it as it is. -/
def removeIamAllowedPrincipal (stack : Stack) (database : String) (execRole : Role)
    (removalPolicy : RemovalPolicy) : AwsCustomResource where
  removalPolicy := removalPolicy
  role := execRole.roleArn
  onCreate :=
    { service := "LakeFormation"
      action := "RevokePermissions"
      permissions := ["ALL"]
      principal := "IAM_ALLOWED_PRINCIPALS"
      databaseName := database
      physicalResourceId := database }
  policy :=
    [ ⟨["lakeformation:RevokePermissions"],
        ["arn:" ++ stack.partition ++ ":lakeformation:" ++ stack.region ++ ":" ++ stack.account ++
          ":catalog:" ++ stack.account]⟩,
      ⟨["glue:GetDatabase"],
        ["arn:" ++ stack.partition ++ ":glue:" ++ stack.region ++ ":" ++ stack.account ++
          ":database/" ++ database,
         "arn:" ++ stack.partition ++ ":glue:" ++ stack.region ++ ":" ++ stack.account ++ ":catalog"]⟩ ]
  logRetentionDays := 7
  timeoutSeconds := 60

/-- The `AWS::LakeFormation::Permissions` granting a principal access to a data location. -/
structure CfnPermissions where
  permissions : List String
  permissionsWithGrantOption : List String
  dataLakePrincipalIdentifier : String
  catalogId : String
  s3Resource : String
  deriving DecidableEq, Repr

def grantDataLakeLocation (stack : Stack) (location : String) (principal : Role) : CfnPermissions where
  permissions := ["DATA_LOCATION_ACCESS"]
  permissionsWithGrantOption := []
  dataLakePrincipalIdentifier := principal.roleArn
  catalogId := stack.account
  s3Resource := location

end DataSolutions.LakeFormationHelpers
