import DataSolutions.ConstructTree
import DataSolutions.LakeFormationHelpers
import DataSolutions.DataZoneAuthorizer
import DataSolutions.DataLake
import Mathlib.Data.List.Nodup

/-! The constructs the helpers declare, run one after another into one construct tree. A call
declares its constructs in its scope, in the order the source creates them. A revocation also
finds or makes its stack's `AwsCustomResource` provider function; making it finds or makes the
stack's log retention function. What the library makes inside a construct is folded into the
construct's node: a role's or policy's `Resource`, a function's invoke permission and code asset,
a custom resource's `Provider` handle, `CustomResourcePolicy` and `Resource`, and the provider
function's `LogRetention`.

Whatever the order of the calls, every tree a run reaches is `Safe`: each construct is declared
once, after the constructs it depends on; every data lake location is declared after its data
access role's `DefaultPolicy`, which grants the role read-write on the location, and depends on
it; administrator settings only append; data location permissions grant `DATA_LOCATION_ACCESS`
alone, with no grant option; the `IAM_ALLOWED_PRINCIPALS` revocations revoke on the one database
they name; and every bucket's lifecycle moves data to infrequent access first. A run succeeds
only if its calls are valid and declare their constructs under new, distinct paths. -/
namespace DataSolutions.Provisioning
open ConstructTree Iam CdkCore LakeFormationHelpers DataZoneAuthorizer DataLake

/-- What a declared construct stands for in the template. -/
inductive Resource
  | construct
  | role (r : Role) (managedPolicies : List String) (inlinePolicies : List PolicyStatement)
  | importedRole (r : Role)
  /-- A role's `DefaultPolicy`, by the grants whose statements it holds. -/
  | defaultPolicy (statements : List Grant)
  | dataLakeLocation (l : CfnResource)
  | dataLakeSettings (s : CfnDataLakeSettings)
  /-- An `AwsCustomResource`, its policy attached to the stack's provider function's role. -/
  | revocation (c : AwsCustomResource)
  | permissions (p : CfnPermissions)
  | function (f : FunctionProps) (invokePermission : Grant)
  /-- The stack's `AwsCustomResource` provider function. -/
  | providerFunction (role : String) (timeoutSeconds logRetentionDays : Nat)
  | logRetentionFunction
  | subscriptionTarget (s : CfnSubscriptionTarget)
  | accessLogsBucket
  | key (k : Key)
  | analyticsBucket (b : AnalyticsBucketProps)

abbrev Template := ConstructTree.Tree Resource

/-- A call of one of the helpers, or of one of the constructs, in `scope`. -/
inductive Op
  | registerS3Location (scope : Scope) (id : String) (locationBucket : Bucket)
      (locationPrefix : String) (accessMode : Option PermissionModel)
  | grantLfAdminRole (scope : Scope) (id : String) (principal : LfPrincipal)
  | makeCdkLfAdmin (scope : Scope) (id : String) (deployRoleArn : String)
  | removeIamAllowedPrincipal (scope : Scope) (id database : String) (execRole : Role)
      (removalPolicy : RemovalPolicy)
  | grantDataLakeLocation (scope : Scope) (id location : String) (principal : Role)
  | dataZoneMskEnvironmentAuthorizer (scope : Scope) (id : String)
      (props : DataZoneMskEnvironmentAuthorizerProps)
  | createSubscriptionTarget (scope : Scope) (customAssetType : CustomAssetType)
      (name provider environmentId : String) (authorizedPrincipals : List Role)
      (manageAccessRole : Role)
  | dataLakeStorage (scope : Scope) (id : String) (props : Option DataLakeStorageProps)

/-- The constructs `registerS3Location` declares in `scope`: the role; the role's
`DefaultPolicy`, which the grant makes, holding the grant on the location and, for an encrypted
bucket, the one on the bucket's key; and the location, depending on the policy. -/
def s3LocationNodes (scope : Scope) (id : String) (r : S3LocationRegistration) :
    List (Node Resource) :=
  let policy : Node Resource := ⟨scope.child (id ++ "DataAccessRole") "Role", "DefaultPolicy",
    .defaultPolicy (r.grantRead :: r.keyGrant.toList), []⟩
  [⟨scope, id ++ "DataAccessRole", .role r.lfDataAccessRole [] [], []⟩, policy,
   ⟨scope, id ++ "DataLakeLocation", .dataLakeLocation r.dataLakeLocation, [policy.path]⟩]

/-- The constructs the `DataZoneMskEnvironmentAuthorizer` constructor declares in itself: the
grant role, the grant function, and the two constructs `Role.fromRoleArn` declares for a role
imported with `mutable: false`, the mutable import and the immutable role wrapping it. -/
def authorizerNodes (stack : Stack) (authorizerName : String) (inner : Scope)
    (props : DataZoneMskEnvironmentAuthorizerProps) (a : DataZoneMskEnvironmentAuthorizer) :
    List (Node Resource) :=
  let centralRoleArn := centralAuthorizerRoleArn stack authorizerName props.centralAccountId
  [⟨inner, "GrantRole", .role a.grantRole ["service-role/AWSLambdaBasicExecutionRole"]
      grantRolePermissions, []⟩,
   ⟨inner, "GrantFunction", .function (grantFunctionProps a.grantRole props) a.lambdaInvokeGrant, []⟩,
   ⟨inner, "MutableRoleCentraRole", .importedRole (Role.fromRoleArn centralRoleArn true), []⟩,
   ⟨inner, "CentraRole", .importedRole (Role.fromRoleArn centralRoleArn false), []⟩]

/-- The children of a `DataLakeStorage`: the access logs bucket, the key unless one is given,
and the three layers' buckets. -/
def dataLakeStorageNodes (inner : Scope) (props : Option DataLakeStorageProps)
    (s : DataLakeStorage) : List (Node Resource) :=
  ⟨inner, "AccessLogsBucket", .accessLogsBucket, []⟩ ::
  ((if (props.getD {}).dataLakeKey = none then [⟨inner, "DataKey", .key s.dataLakeKey, []⟩] else []) ++
  [⟨inner, "BronzeBucket", .analyticsBucket s.bronzeBucket, []⟩,
   ⟨inner, "SilverBucket", .analyticsBucket s.silverBucket, []⟩,
   ⟨inner, "GoldBucket", .analyticsBucket s.goldBucket, []⟩])

/-! ## The stack's provider function -/

/-- The id `SingletonFunction` gives the `AwsCustomResource` provider: its purpose `AWS` and its
uuid without dashes. -/
def providerId : String := "AWS679f53fac002430cb0da5b7982bd2287"

/-- The id `LogRetention` gives the stack's log retention function. -/
def logRetentionId : String := "LogRetentionaae0aa3c5b4d4f87b02d85b201efdd8a"

/-- The provider function a custom resource makes in its stack, from its own props. -/
def providerNode (stackScope : Scope) (c : AwsCustomResource) : Node Resource :=
  ⟨stackScope, providerId, .providerFunction c.role c.timeoutSeconds c.logRetentionDays, []⟩

def logRetentionNode (stackScope : Scope) : Node Resource :=
  ⟨stackScope, logRetentionId, .logRetentionFunction, []⟩

/-- The provider as `SingletonFunction` finds or makes it: a construct the stack holds under the
provider's id is used as it is, whatever its props; otherwise the provider is made with the
custom resource's role, timeout and log retention, and making it finds or makes the stack's log
retention function. -/
def ensureProvider (stackScope : Scope) (c : AwsCustomResource) (t : Template) : Template :=
  if (providerNode stackScope c).path ∈ t.paths then t
  else (t.ensure (providerNode stackScope c)).ensure (logRetentionNode stackScope)

/-! ## Runs -/

/-- Running one call: its constructs are declared in the order the source creates them, each
failing computation at the point where the source throws. -/
def Op.apply (stack : Stack) (authorizerName : String) (t : Template) : Op → Except String Template
  | .registerS3Location scope id locationBucket locationPrefix accessMode =>
    t.declare (s3LocationNodes scope id
      (LakeFormationHelpers.registerS3Location scope.path id locationBucket locationPrefix accessMode))
  | .grantLfAdminRole scope id principal => do
    let s ← LakeFormationHelpers.grantLfAdminRole principal
    t.declare [⟨scope, id, .dataLakeSettings s, []⟩]
  | .makeCdkLfAdmin scope id deployRoleArn => do
    let arn ← CdkLfAdmin.synthesizerDeployRoleArn deployRoleArn
    let t ← t.declare [⟨scope, "CdkRole", .importedRole (Role.fromRoleArn arn true), []⟩]
    let s ← CdkLfAdmin.grantLfAdminRole (.role arn)
    t.declare [⟨scope, id, .dataLakeSettings s, []⟩]
  | .removeIamAllowedPrincipal scope id database execRole removalPolicy => do
    let c := LakeFormationHelpers.removeIamAllowedPrincipal stack database execRole removalPolicy
    let t ← t.declare [⟨scope, id, .revocation c, []⟩]
    pure (ensureProvider scope.stackScope c t)
  | .grantDataLakeLocation scope id location principal =>
    t.declare [⟨scope, id, .permissions (LakeFormationHelpers.grantDataLakeLocation stack location principal), []⟩]
  | .dataZoneMskEnvironmentAuthorizer scope id props => do
    let inner := scope.child id "DataZoneMskEnvironmentAuthorizer"
    let t ← t.declare [⟨scope, id, .construct, []⟩]
    let a ← DataZoneMskEnvironmentAuthorizer.new stack authorizerName inner.path props
    t.declare (authorizerNodes stack authorizerName inner props a)
  | .createSubscriptionTarget scope customAssetType name provider environmentId
      authorizedPrincipals manageAccessRole =>
    t.declare [⟨scope, subscriptionTargetId customAssetType environmentId,
      .subscriptionTarget (DataZoneAuthorizer.createSubscriptionTarget customAssetType name provider environmentId
        authorizedPrincipals manageAccessRole), []⟩]
  | .dataLakeStorage scope id props => do
    let t ← t.declare [⟨scope, id, .construct, []⟩]
    let s ← DataLakeStorage.new props
    t.declare (dataLakeStorageNodes (scope.child id "DataLakeStorage") props s)

/-- Running calls in order, stopping at the first that throws. -/
def run (stack : Stack) (authorizerName : String) (t : Template) : List Op → Except String Template
  | [] => .ok t
  | op :: ops => match op.apply stack authorizerName t with
    | .ok t' => run stack authorizerName t' ops
    | .error e => .error e

/-- The constructs a call declares in its scope, computed as the call computes them, with no
tree; `none` of them when the call's own computation throws. -/
def Op.nodes (stack : Stack) (authorizerName : String) : Op → Except String (List (Node Resource))
  | .registerS3Location scope id locationBucket locationPrefix accessMode =>
    .ok (s3LocationNodes scope id
      (LakeFormationHelpers.registerS3Location scope.path id locationBucket locationPrefix accessMode))
  | .grantLfAdminRole scope id principal => do
    let s ← LakeFormationHelpers.grantLfAdminRole principal
    pure [⟨scope, id, .dataLakeSettings s, []⟩]
  | .makeCdkLfAdmin scope id deployRoleArn => do
    let s ← CdkLfAdmin.makeCdkLfAdmin deployRoleArn
    pure [⟨scope, "CdkRole", .importedRole (Role.fromRoleArn deployRoleArn true), []⟩,
      ⟨scope, id, .dataLakeSettings s, []⟩]
  | .removeIamAllowedPrincipal scope id database execRole removalPolicy =>
    .ok [⟨scope, id, .revocation
      (LakeFormationHelpers.removeIamAllowedPrincipal stack database execRole removalPolicy), []⟩]
  | .grantDataLakeLocation scope id location principal =>
    .ok [⟨scope, id, .permissions (LakeFormationHelpers.grantDataLakeLocation stack location principal), []⟩]
  | .dataZoneMskEnvironmentAuthorizer scope id props => do
    let inner := scope.child id "DataZoneMskEnvironmentAuthorizer"
    let a ← DataZoneMskEnvironmentAuthorizer.new stack authorizerName inner.path props
    pure (⟨scope, id, .construct, []⟩ :: authorizerNodes stack authorizerName inner props a)
  | .createSubscriptionTarget scope customAssetType name provider environmentId
      authorizedPrincipals manageAccessRole =>
    .ok [⟨scope, subscriptionTargetId customAssetType environmentId,
      .subscriptionTarget (DataZoneAuthorizer.createSubscriptionTarget customAssetType name provider
        environmentId authorizedPrincipals manageAccessRole), []⟩]
  | .dataLakeStorage scope id props => do
    let s ← DataLakeStorage.new props
    pure (⟨scope, id, .construct, []⟩ :: dataLakeStorageNodes (scope.child id "DataLakeStorage") props s)

/-- The stack constructs a call finds or makes after declaring its own. -/
def Op.ensureSingletons (stack : Stack) (t : Template) : Op → Template
  | .removeIamAllowedPrincipal scope _ database execRole removalPolicy =>
    ensureProvider scope.stackScope
      (LakeFormationHelpers.removeIamAllowedPrincipal stack database execRole removalPolicy) t
  | _ => t

section Apply

variable {stack : Stack} {authorizerName : String} {t t' : Template}

lemma makeCdkLfAdmin_eq_ok_of {deployRoleArn arn : String} {s : CfnDataLakeSettings}
    (harn : CdkLfAdmin.synthesizerDeployRoleArn deployRoleArn = .ok arn)
    (hs : CdkLfAdmin.grantLfAdminRole (.role arn) = .ok s) :
    arn = deployRoleArn ∧ CdkLfAdmin.makeCdkLfAdmin deployRoleArn = .ok s := by
  refine ⟨?_, by rw [CdkLfAdmin.makeCdkLfAdmin, harn]; exact hs⟩
  unfold CdkLfAdmin.synthesizerDeployRoleArn at harn
  split at harn
  · cases harn
  · exact (Except.ok.inj harn).symm

/-- A successful call declares the constructs `Op.nodes` computes, each accepted in turn, then
finds or makes its stack constructs. -/
theorem Op.apply_eq_ok {op : Op} (h : op.apply stack authorizerName t = .ok t') :
    ∃ ns t₁, op.nodes stack authorizerName = .ok ns ∧ t.declare ns = .ok t₁ ∧
      t' = op.ensureSingletons stack t₁ := by
  cases op
  case removeIamAllowedPrincipal =>
    obtain ⟨t₁, h₁, h⟩ := bind_eq_ok.mp h
    exact ⟨_, t₁, rfl, h₁, (Except.ok.inj h).symm⟩
  case grantLfAdminRole =>
    obtain ⟨s, hs, h⟩ := bind_eq_ok.mp h
    exact ⟨_, t', by rw [Op.nodes, hs]; rfl, h, rfl⟩
  case makeCdkLfAdmin =>
    obtain ⟨arn, harn, h₁⟩ := bind_eq_ok.mp h
    obtain ⟨t₁, h₁, h₂⟩ := bind_eq_ok.mp h₁
    obtain ⟨s, hs, h₂⟩ := bind_eq_ok.mp h₂
    obtain ⟨rfl, hmk⟩ := makeCdkLfAdmin_eq_ok_of harn hs
    exact ⟨_, t', by rw [Op.nodes, hmk]; rfl, Tree.declare_append_eq_ok.mpr ⟨t₁, h₁, h₂⟩, rfl⟩
  case dataZoneMskEnvironmentAuthorizer | dataLakeStorage =>
    obtain ⟨t₁, h₁, h⟩ := bind_eq_ok.mp h
    obtain ⟨a, ha, h⟩ := bind_eq_ok.mp h
    exact ⟨_, t', by rw [Op.nodes, ha]; rfl, Tree.declare_append_eq_ok.mpr ⟨t₁, h₁, h⟩, rfl⟩
  all_goals exact ⟨_, t', rfl, h, rfl⟩

lemma run_cons_eq_ok {op : Op} {ops : List Op} :
    run stack authorizerName t (op :: ops) = .ok t' ↔
      ∃ t₁, op.apply stack authorizerName t = .ok t₁ ∧ run stack authorizerName t₁ ops = .ok t' := by
  simp only [run]
  split <;> simp_all

/-- The stack constructs a custom resource finds or makes go in front of the tree. -/
lemma ensureProvider_nodes (stackScope : Scope) (c : AwsCustomResource) (t : Template) :
    ∃ ms, (ensureProvider stackScope c t).nodes = ms ++ t.nodes ∧
      ∀ n ∈ ms, n = providerNode stackScope c ∨ n = logRetentionNode stackScope := by
  unfold ensureProvider
  split
  · exact ⟨[], rfl, List.forall_mem_nil _⟩
  · rename_i hp
    obtain ⟨ms, he, hms⟩ :=
      (t.ensure (providerNode stackScope c)).ensure_eq_append (logRetentionNode stackScope)
    refine ⟨ms ++ [providerNode stackScope c], ?_, fun n hn => ?_⟩
    · rw [he, Tree.ensure_nodes, if_neg hp, List.append_assoc]
    · rcases List.mem_append.mp hn with hn | hn
      · exact .inr (hms n hn)
      · exact .inl (List.mem_singleton.mp hn)

lemma Op.ensureSingletons_nodes (stack : Stack) (op : Op) (t : Template) :
    ∃ ms, (op.ensureSingletons stack t).nodes = ms ++ t.nodes ∧
      ∀ n ∈ ms, ∃ stackScope c, n = providerNode stackScope c ∨ n = logRetentionNode stackScope := by
  cases op
  case removeIamAllowedPrincipal scope _ _ _ _ =>
    obtain ⟨ms, he, hms⟩ := ensureProvider_nodes scope.stackScope _ t
    exact ⟨ms, he, fun n hn => ⟨_, _, hms n hn⟩⟩
  all_goals exact ⟨[], rfl, List.forall_mem_nil _⟩

end Apply

/-! ## The safety invariant -/

/-- What each kind of construct is limited to. -/
def Resource.Scoped : Resource → Prop
  | .dataLakeSettings s => s.mutationType = "APPEND" ∧ s.admins.length = 1
  | .permissions p => p.permissions = ["DATA_LOCATION_ACCESS"] ∧ p.permissionsWithGrantOption = []
  | .revocation c => c.onCreate.action = "RevokePermissions" ∧
      c.onCreate.principal = "IAM_ALLOWED_PRINCIPALS" ∧
      c.onCreate.physicalResourceId = c.onCreate.databaseName
  | .dataLakeLocation l => l.useServiceLinkedRole = false
  | .analyticsBucket b => ∀ r ∈ b.lifecycleRules,
      (r.transitions.head?.map (·.storageClass)) = some .INFREQUENT_ACCESS
  | _ => True

/-- A data lake location depends on a construct declared before it: the `DefaultPolicy` whose
grant gives the location's role read-write on the location's ARN. -/
def LocationGranted (n : Node Resource) (older : List (Node Resource)) : Prop :=
  ∀ l, n.resource = .dataLakeLocation l → ∃ m ∈ older, m.path ∈ n.dependsOn ∧
    ∃ gs, m.resource = .defaultPolicy gs ∧ ∃ g ∈ gs, g.grantee = l.roleArn ∧ g.access = .readWrite ∧
      l.resourceArn ∈ g.resourceArns

def SafeNode (n : Node Resource) (older : List (Node Resource)) : Prop :=
  WfNode n older ∧ n.resource.Scoped ∧ LocationGranted n older

def Safe (t : Template) : Prop := EachOver SafeNode t.nodes

/-- What a call declares is safe as soon as the library accepts it. -/
abbrev SafeDecl (base ns : List (Node Resource)) : Prop :=
  DeclaredOver (fun n older => Accepted n older → SafeNode n older) base ns

/-- A construct with no dependency, a scoped resource, and not a location: safe wherever its path
is new (`Plain.safeNode`). -/
def Plain (n : Node Resource) : Prop :=
  n.dependsOn = [] ∧ n.resource.Scoped ∧ ∀ l, n.resource ≠ .dataLakeLocation l

lemma Plain.safeNode {n : Node Resource} {older : List (Node Resource)} (hn : Plain n)
    (hp : n.path ∉ older.map Node.path) : SafeNode n older :=
  ⟨⟨hp, by simp [hn.1]⟩, hn.2.1, fun l he => absurd he (hn.2.2 l)⟩

lemma safe_empty : Safe ConstructTree.Tree.empty := trivial

lemma declare_safe {t t' : Template} {ns : List (Node Resource)} (ht : Safe t)
    (h : t.declare ns = .ok t') (hns : SafeDecl t.nodes ns) : Safe t' := by
  obtain ⟨he, hd⟩ := Tree.declare_eq_ok h
  unfold Safe
  rw [he, eachOver_reverse_append]
  exact ⟨ht, hns.mp hd⟩

lemma ensure_safe {t : Template} {n : Node Resource} (ht : Safe t) (hn : Plain n) :
    Safe (t.ensure n) := by
  unfold Tree.ensure
  split
  · exact ht
  · exact ⟨hn.safeNode ‹_›, ht⟩

lemma ensureProvider_safe (stackScope : Scope) (c : AwsCustomResource) {t : Template}
    (ht : Safe t) : Safe (ensureProvider stackScope c t) := by
  unfold ensureProvider
  split
  · exact ht
  · exact ensure_safe (ensure_safe ht ⟨rfl, trivial, nofun⟩) ⟨rfl, trivial, nofun⟩

lemma safeDecl_of_plain {base ns : List (Node Resource)} (h : ∀ n ∈ ns, Plain n) :
    SafeDecl base ns := by
  induction ns generalizing base with
  | nil => trivial
  | cons n ns ih =>
    exact ⟨fun hf => (h n (List.mem_cons_self n ns)).safeNode hf.2,
      ih fun m hm => h m (List.mem_cons_of_mem n hm)⟩

lemma safeDecl_cons {base ns : List (Node Resource)} {n : Node Resource} (hn : Plain n)
    (hns : SafeDecl (n :: base) ns) : SafeDecl base (n :: ns) :=
  ⟨fun hf => hn.safeNode hf.2, hns⟩

lemma s3LocationNodes_safe (base : List (Node Resource)) (scope : Scope) (id : String)
    (b : Bucket) (p : String) (m : Option PermissionModel) :
    SafeDecl base (s3LocationNodes scope id (registerS3Location scope.path id b p m)) :=
  ⟨fun hf => Plain.safeNode ⟨rfl, trivial, nofun⟩ hf.2,
    fun hf => Plain.safeNode ⟨rfl, trivial, nofun⟩ hf.2,
    fun hf => ⟨⟨hf.2, fun d hd => List.mem_singleton.mp hd ▸ List.mem_map_of_mem _
      (List.mem_cons_self _ _)⟩, rfl, fun l hl => by
        cases hl
        exact ⟨_, List.mem_cons_self _ _, List.mem_singleton_self _, _, rfl, _,
          List.mem_cons_self _ _, rfl, rfl, List.mem_cons_of_mem _ (List.mem_singleton_self _)⟩⟩,
    trivial⟩

lemma lfAdminSettings_scoped {v : Option Nat} {principal : LfPrincipal} {s : CfnDataLakeSettings}
    (h : lfAdminSettings v principal = .ok s) : (Resource.dataLakeSettings s).Scoped := by
  obtain ⟨_, _, rfl⟩ := lfAdminSettings_eq_ok.mp h
  exact ⟨rfl, rfl⟩

lemma analyticsBucket_scoped {props : DataLakeStorageProps} {s : DataLakeStorage}
    (h : DataLakeStorage.new (some props) = .ok s) (layer : Layer) :
    (Resource.analyticsBucket (s.bucket layer)).Scoped := by
  have hr := new_ruleDelays h layer
  unfold RuleDelays at hr
  intro r hr'
  have := List.mem_map_of_mem (fun r => r.transitions.map Transition.summary) hr'
  rw [hr, List.mem_singleton] at this
  cases ht : r.transitions with
  | nil => simp [ht] at this
  | cons t ts =>
    simp only [ht, List.map_cons, List.cons.injEq, Transition.summary, Prod.mk.injEq] at this
    simp [this.1.1]

lemma dataLakeStorageNodes_plain (inner : Scope) (props : Option DataLakeStorageProps)
    {s : DataLakeStorage} (h : DataLakeStorage.new props = .ok s) :
    ∀ n ∈ dataLakeStorageNodes inner props s, Plain n := by
  have hs : DataLakeStorage.new (some (props.getD {})) = .ok s := by cases props <;> exact h
  intro n hn
  simp only [dataLakeStorageNodes, List.mem_cons, List.mem_append, List.not_mem_nil,
    or_false] at hn
  rcases hn with rfl | hn | rfl | rfl | rfl
  · exact ⟨rfl, trivial, nofun⟩
  · split at hn
    · rw [List.mem_singleton.mp hn]
      exact ⟨rfl, trivial, nofun⟩
    · cases hn
  · exact ⟨rfl, analyticsBucket_scoped hs .bronze, nofun⟩
  · exact ⟨rfl, analyticsBucket_scoped hs .silver, nofun⟩
  · exact ⟨rfl, analyticsBucket_scoped hs .gold, nofun⟩

/-- Whatever a call computes is safe to declare. -/
lemma Op.nodes_safe (base : List (Node Resource)) {stack : Stack} {authorizerName : String}
    {op : Op} {ns : List (Node Resource)} (h : op.nodes stack authorizerName = .ok ns) :
    SafeDecl base ns := by
  cases op <;> simp only [Op.nodes, bind_eq_ok, pure, Except.pure, Except.ok.injEq] at h
  case registerS3Location => subst h; exact s3LocationNodes_safe ..
  case grantLfAdminRole =>
    obtain ⟨s, hs, rfl⟩ := h
    exact safeDecl_cons ⟨rfl, lfAdminSettings_scoped hs, nofun⟩ trivial
  case makeCdkLfAdmin =>
    obtain ⟨s, hs, rfl⟩ := h
    obtain ⟨-, rfl⟩ := makeCdkLfAdmin_eq_ok.mp hs
    exact safeDecl_cons ⟨rfl, trivial, nofun⟩ (safeDecl_cons ⟨rfl, ⟨rfl, rfl⟩, nofun⟩ trivial)
  case removeIamAllowedPrincipal => subst h; exact safeDecl_cons ⟨rfl, ⟨rfl, rfl, rfl⟩, nofun⟩ trivial
  case grantDataLakeLocation => subst h; exact safeDecl_cons ⟨rfl, ⟨rfl, rfl⟩, nofun⟩ trivial
  case dataZoneMskEnvironmentAuthorizer =>
    obtain ⟨a, -, rfl⟩ := h
    refine safeDecl_of_plain fun n hn => ?_
    simp only [authorizerNodes, List.mem_cons, List.mem_singleton, List.not_mem_nil,
      or_false] at hn
    rcases hn with rfl | rfl | rfl | rfl | rfl <;> exact ⟨rfl, trivial, nofun⟩
  case createSubscriptionTarget => subst h; exact safeDecl_cons ⟨rfl, trivial, nofun⟩ trivial
  case dataLakeStorage =>
    obtain ⟨s, hs, rfl⟩ := h
    exact safeDecl_cons ⟨rfl, trivial, nofun⟩ (safeDecl_of_plain (dataLakeStorageNodes_plain _ _ hs))

/-- One call keeps the tree safe. -/
theorem Op.apply_safe (stack : Stack) (authorizerName : String) {t t' : Template} (op : Op)
    (ht : Safe t) (h : op.apply stack authorizerName t = .ok t') : Safe t' := by
  obtain ⟨ns, t₁, hns, hd, rfl⟩ := Op.apply_eq_ok h
  have ht₁ := declare_safe ht hd (Op.nodes_safe t.nodes hns)
  cases op
  case removeIamAllowedPrincipal => exact ensureProvider_safe _ _ ht₁
  all_goals exact ht₁

/-- Every run keeps the tree safe. -/
theorem run_safe (stack : Stack) (authorizerName : String) {t t' : Template} (ops : List Op)
    (ht : Safe t) (h : run stack authorizerName t ops = .ok t') : Safe t' := by
  induction ops generalizing t with
  | nil => cases h; exact ht
  | cons op ops ih =>
    obtain ⟨t₁, h₁, h⟩ := run_cons_eq_ok.mp h
    exact ih (Op.apply_safe stack authorizerName op ht h₁) h

/-- Every tree a run builds from the empty one is safe. -/
theorem run_empty_safe (stack : Stack) (authorizerName : String) {t : Template} (ops : List Op)
    (h : run stack authorizerName ConstructTree.Tree.empty ops = .ok t) : Safe t :=
  run_safe stack authorizerName ops safe_empty h

/-- A stack in one account and region. -/
def exampleStack : Stack := ⟨"aws", "us-east-1", "123456789012"⟩

/-- The stack of the end-to-end tests, as a scope. -/
def e2eScope : Scope := ⟨("E2eTestStack", "Stack"), []⟩

/-- A program calling each helper and construct once: the environment authorizer and the
subscription target as the DataZone MSK test declares them, and the test database's location. -/
def exampleCalls : List Op :=
  [.dataZoneMskEnvironmentAuthorizer e2eScope "MskEnvAuthorizer"
      { domainId := getAtt ["CfnDomain"] "Id", removalPolicy := some .DESTROY },
   .createSubscriptionTarget e2eScope ⟨"MskTopicAssetType", getAtt ["CfnDomain"] "Id"⟩
      "testSubscription" "dsf" "ConsumerEnv" [Role.new ["ConsumerRole"] "lambda.amazonaws.com"]
      (Role.new ["ConsumerRole"] "lambda.amazonaws.com"),
   .makeCdkLfAdmin e2eScope "CdkLfAdmin" "arn:aws:iam::123456789012:role/cdk-deploy-role",
   .registerS3Location e2eScope "TestDatabase" e2eBucket "test_database" (some .IAM),
   .grantLfAdminRole e2eScope "LfAdmin" (.role "arn:aws:iam::123456789012:role/Admin"),
   .grantDataLakeLocation e2eScope "LocationAccess" (e2eBucket.arnForObjects "test_database")
      (Role.new ["ConsumerRole"] "lambda.amazonaws.com"),
   .removeIamAllowedPrincipal e2eScope "RemoveIamAllowedPrincipal" "test_database"
      (Role.new ["ExecRole"] "lambda.amazonaws.com") .DESTROY,
   .dataLakeStorage e2eScope "DataLakeStorage" none]

/-- The example program runs through; its run is evaluated once, here. -/
lemma run_exampleCalls_isOk :
    ∃ t, run exampleStack "Authorizer" ConstructTree.Tree.empty exampleCalls = .ok t :=
  ⟨_, rfl⟩

theorem run_exampleCalls_safe :
    ∃ t, run exampleStack "Authorizer" ConstructTree.Tree.empty exampleCalls = .ok t ∧ Safe t :=
  let ⟨t, h⟩ := run_exampleCalls_isOk
  ⟨t, h, run_empty_safe exampleStack "Authorizer" exampleCalls h⟩

/-! ## The paths a run takes -/

/-- Where a call declares its constructs in its scope: each construct's scope and id, in order. -/
def Op.declared : Op → List (Scope × String)
  | .registerS3Location scope id .. =>
    [(scope, id ++ "DataAccessRole"), (scope.child (id ++ "DataAccessRole") "Role", "DefaultPolicy"),
      (scope, id ++ "DataLakeLocation")]
  | .grantLfAdminRole scope id _ => [(scope, id)]
  | .makeCdkLfAdmin scope id _ => [(scope, "CdkRole"), (scope, id)]
  | .removeIamAllowedPrincipal scope id .. => [(scope, id)]
  | .grantDataLakeLocation scope id .. => [(scope, id)]
  | .dataZoneMskEnvironmentAuthorizer scope id _ =>
    let inner := scope.child id "DataZoneMskEnvironmentAuthorizer"
    [(scope, id), (inner, "GrantRole"), (inner, "GrantFunction"), (inner, "MutableRoleCentraRole"),
      (inner, "CentraRole")]
  | .createSubscriptionTarget scope customAssetType _ _ environmentId .. =>
    [(scope, subscriptionTargetId customAssetType environmentId)]
  | .dataLakeStorage scope id props =>
    let inner := scope.child id "DataLakeStorage"
    (scope, id) :: (inner, "AccessLogsBucket") ::
      ((if (props.getD {}).dataLakeKey = none then [(inner, "DataKey")] else []) ++
        [(inner, "BronzeBucket"), (inner, "SilverBucket"), (inner, "GoldBucket")])

/-- The paths of the constructs a call declares in its scope. -/
def Op.paths (op : Op) : List (List String) :=
  op.declared.map fun (scope, id) => scope.path ++ [sanitizeId id]

section Paths

variable {stack : Stack} {authorizerName : String} {t t' : Template}

/-- A call declares its constructs where `Op.declared` says. -/
lemma Op.nodes_declared {op : Op} {ns : List (Node Resource)}
    (h : op.nodes stack authorizerName = .ok ns) : ns.map (fun n => (n.scope, n.id)) = op.declared := by
  cases op <;> simp only [Op.nodes, bind_eq_ok, pure, Except.pure, Except.ok.injEq] at h
  case dataLakeStorage =>
    obtain ⟨_, -, rfl⟩ := h
    simp only [dataLakeStorageNodes, Op.declared]
    split <;> rfl
  case grantLfAdminRole | makeCdkLfAdmin | dataZoneMskEnvironmentAuthorizer =>
    obtain ⟨_, -, rfl⟩ := h
    rfl
  all_goals subst h; rfl

lemma Op.nodes_paths {op : Op} {ns : List (Node Resource)}
    (h : op.nodes stack authorizerName = .ok ns) : ns.map Node.path = op.paths := by
  rw [Op.paths, ← Op.nodes_declared h, List.map_map]
  rfl

/-- A successful call declares its constructs under distinct paths, none taken before, and every
path taken before stays taken. -/
lemma Op.apply_paths {op : Op} (h : op.apply stack authorizerName t = .ok t') :
    op.paths.Nodup ∧ (∀ p ∈ op.paths, p ∉ t.paths) ∧ ∀ p, p ∈ op.paths ∨ p ∈ t.paths → p ∈ t'.paths := by
  obtain ⟨ns, t₁, hns, hd, rfl⟩ := Op.apply_eq_ok h
  obtain ⟨he, hacc⟩ := Tree.declare_eq_ok hd
  obtain ⟨ms, he', -⟩ := Op.ensureSingletons_nodes stack op t₁
  obtain ⟨hnd, hfresh⟩ := hacc.paths_nodup
  rw [← Op.nodes_paths hns]
  refine ⟨hnd, List.forall_mem_map.mpr hfresh, fun p hp => ?_⟩
  simp only [Tree.paths, he', he, List.map_append, List.map_reverse, List.mem_append, List.mem_reverse]
  exact .inr hp

/-- A run succeeds only if its calls declare their constructs under paths distinct from each
other and from the tree's. -/
theorem run_paths_nodup {ops : List Op} (h : run stack authorizerName t ops = .ok t') :
    (ops.flatMap Op.paths).Nodup ∧ ∀ p ∈ ops.flatMap Op.paths, p ∉ t.paths := by
  induction ops generalizing t with
  | nil => exact ⟨List.nodup_nil, List.forall_mem_nil _⟩
  | cons op ops ih =>
    obtain ⟨t₁, h₁, h⟩ := run_cons_eq_ok.mp h
    obtain ⟨hnd, hfresh, hsub⟩ := Op.apply_paths h₁
    obtain ⟨hnd', hfresh'⟩ := ih h
    rw [List.flatMap_cons]
    refine ⟨List.nodup_append.mpr ⟨hnd, hnd', fun p hp hp' => hfresh' p hp' (hsub p (.inl hp))⟩,
      fun p hp => ?_⟩
    rcases List.mem_append.mp hp with hp | hp
    · exact hfresh p hp
    · exact fun ht => hfresh' p hp (hsub p (.inr ht))

/-- A run in which two calls declare a construct under one path fails. -/
theorem run_shared_path {xs ys zs : List Op} {op₁ op₂ : Op} {p : List String}
    (h₁ : p ∈ op₁.paths) (h₂ : p ∈ op₂.paths) :
    ¬ ∃ t', run stack authorizerName t (xs ++ op₁ :: ys ++ op₂ :: zs) = .ok t' := by
  rintro ⟨t', h⟩
  have hsub : (op₁.paths ++ op₂.paths).Sublist ((xs ++ op₁ :: ys ++ op₂ :: zs).flatMap Op.paths) := by
    simp only [List.flatMap_append, List.flatMap_cons, List.append_assoc]
    exact (((List.sublist_append_left _ _).trans (List.sublist_append_right _ _)).append_left _).trans
      (List.sublist_append_right _ _)
  exact List.disjoint_of_nodup_append ((run_paths_nodup h).1.sublist hsub) h₁ h₂

/-- `makeCdkLfAdmin` imports the deploy role under the fixed id `CdkRole`: a run calling it twice
in one scope fails, whatever ids the two calls are given. -/
theorem run_makeCdkLfAdmin_twice (xs ys zs : List Op) (scope : Scope)
    (id₁ id₂ deployRoleArn₁ deployRoleArn₂ : String) :
    ¬ ∃ t', run stack authorizerName t (xs ++ .makeCdkLfAdmin scope id₁ deployRoleArn₁ :: ys ++
      .makeCdkLfAdmin scope id₂ deployRoleArn₂ :: zs) = .ok t' :=
  run_shared_path (List.mem_cons_self _ _) (List.mem_cons_self _ _)

/-- A subscription target's id runs the asset type's name and the environment's id together,
so two targets in one scope whose names and ids run together alike make a run fail. -/
theorem run_createSubscriptionTarget_clash (xs ys zs : List Op) (scope : Scope)
    (a₁ a₂ : CustomAssetType) (name₁ name₂ provider₁ provider₂ e₁ e₂ : String)
    (principals₁ principals₂ : List Role) (role₁ role₂ : Role) (h : a₁.name ++ e₁ = a₂.name ++ e₂) :
    ¬ ∃ t', run stack authorizerName t
      (xs ++ .createSubscriptionTarget scope a₁ name₁ provider₁ e₁ principals₁ role₁ :: ys ++
        .createSubscriptionTarget scope a₂ name₂ provider₂ e₂ principals₂ role₂ :: zs) = .ok t' :=
  run_shared_path (List.mem_singleton_self _) (by simp [Op.paths, Op.declared, subscriptionTargetId, h])

/-- The MSK topic asset type's target for environment `Env1` and an asset type named
`MskTopicEnv`'s target for environment `1` share the id `MskTopicEnv1SubscriptionTarget`. -/
theorem run_subscriptionTargets_env1_clash :
    "MskTopic" ++ "Env1" = "MskTopicEnv" ++ "1" ∧
      ¬ ∃ t', run exampleStack "Authorizer" ConstructTree.Tree.empty
        [.createSubscriptionTarget e2eScope ⟨"MskTopic", "dzd"⟩ "first" "dsf" "Env1" []
          (Role.fromRoleArn "" true),
         .createSubscriptionTarget e2eScope ⟨"MskTopicEnv", "dzd"⟩ "second" "dsf" "1" []
          (Role.fromRoleArn "" true)]
        = .ok t' :=
  ⟨rfl, run_createSubscriptionTarget_clash [] [] [] e2eScope ⟨"MskTopic", "dzd"⟩ ⟨"MskTopicEnv", "dzd"⟩
    "first" "second" "dsf" "dsf" "Env1" "1" [] [] _ _ rfl⟩

end Paths

/-! ## The administrators a deployment leaves -/

end DataSolutions.Provisioning
