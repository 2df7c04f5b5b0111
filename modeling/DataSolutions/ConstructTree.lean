import Mathlib.Data.List.Basic

/-! The construct tree the helpers declare into, as the constructs library keeps it. A construct
is declared in a scope under an id, and its path is the scope's path followed by the id. The
library writes each `/` of an id as `--`, refuses an empty id, and refuses a second child of one
id in a scope, naming the scope by its class and its id. Library constructs that a whole stack
shares are looked up at the stack by id and declared only when absent (`Tree.ensure`). A
dependency is kept with the construct that depends. -/
namespace DataSolutions.ConstructTree

variable {R : Type}

/-- The library's `sanitizeId`: each `/` of an id becomes `--`. -/
def sanitizeId (id : String) : String :=
  ⟨id.data.flatMap fun c => if c = '/' then ['-', '-'] else [c]⟩

/-- A construct as the scope of new ones, as the library reads it: the stack's id and class name,
and the constructs from the stack down to the scope, each by its id and class name. -/
structure Scope where
  stack : String × String
  segments : List (String × String)
  deriving DecidableEq, Repr

def Scope.path (s : Scope) : List String := s.stack.1 :: s.segments.map Prod.fst

/-- The scope's own id and class name. -/
def Scope.self (s : Scope) : String × String := s.segments.getLastD s.stack

/-- `Stack.of(scope)`, as a scope. -/
def Scope.stackScope (s : Scope) : Scope := ⟨s.stack, []⟩

/-- The construct `id` of class `typeName` declared in `s`, as a scope. -/
def Scope.child (s : Scope) (id typeName : String) : Scope :=
  ⟨s.stack, s.segments ++ [(sanitizeId id, typeName)]⟩

@[simp] lemma Scope.child_path (s : Scope) (id typeName : String) :
    (s.child id typeName).path = s.path ++ [sanitizeId id] := by
  simp [Scope.child, Scope.path]

@[simp] lemma Scope.stackScope_path (s : Scope) : s.stackScope.path = [s.stack.1] := rfl

structure Node (R : Type) where
  scope : Scope
  id : String
  resource : R
  dependsOn : List (List String)

def Node.path (n : Node R) : List String := n.scope.path ++ [sanitizeId n.id]

/-- The constructs declared so far, the latest first. -/
structure Tree (R : Type) where
  nodes : List (Node R)

def Tree.empty : Tree R := ⟨[]⟩

def Tree.paths (t : Tree R) : List (List String) := t.nodes.map Node.path

/-- The library's error for a construct declared with an empty id. -/
def emptyIdMessage : String := "Only root constructs may have an empty ID"

/-- The library's error for a second child `childName` of `scope`: the scope is named by its
class, then by its id when it has one. -/
def duplicateMessage (scope : Scope) (childName : String) : String :=
  let name := scope.self.1
  let typeName := scope.self.2
  let inScope := if name.length > 0 then typeName ++ " [" ++ name ++ "]" else typeName
  s!"There is already a Construct with name '{childName}' in {inScope}"

/-- Declaring one construct, as the library's `Node` constructor does. -/
def Tree.add (t : Tree R) (n : Node R) : Except String (Tree R) :=
  if sanitizeId n.id = "" then .error emptyIdMessage
  else if n.path ∈ t.paths then .error (duplicateMessage n.scope (sanitizeId n.id))
  else .ok ⟨n :: t.nodes⟩

/-- Declaring constructs in order, stopping at the first refused. -/
def Tree.declare (t : Tree R) : List (Node R) → Except String (Tree R)
  | [] => .ok t
  | n :: ns => match t.add n with
    | .ok t' => t'.declare ns
    | .error e => .error e

/-- A construct the stack shares, as the library finds or makes it (`tryFindChild`, then `new`):
the tree as it is when a construct holds the path, otherwise with the construct declared. -/
def Tree.ensure (t : Tree R) (n : Node R) : Tree R :=
  if n.path ∈ t.paths then t else ⟨n :: t.nodes⟩

/-- Each construct satisfies `P` with respect to the constructs declared before it. -/
def EachOver (P : Node R → List (Node R) → Prop) : List (Node R) → Prop
  | [] => True
  | n :: older => P n older ∧ EachOver P older

/-- Each of `ns`, declared in order after `base`, satisfies `P` with respect to the constructs
declared before it. -/
def DeclaredOver (P : Node R → List (Node R) → Prop) (base : List (Node R)) :
    List (Node R) → Prop
  | [] => True
  | n :: ns => P n base ∧ DeclaredOver P (n :: base) ns

/-- A construct's path is new, and its dependencies are declared. -/
def WfNode (n : Node R) (older : List (Node R)) : Prop :=
  n.path ∉ older.map Node.path ∧ ∀ d ∈ n.dependsOn, d ∈ older.map Node.path

/-- What the library takes: a construct whose id is not empty, under a path not taken. -/
def Accepted (n : Node R) (older : List (Node R)) : Prop :=
  sanitizeId n.id ≠ "" ∧ n.path ∉ older.map Node.path

@[simp] lemma Tree.paths_mk (nodes : List (Node R)) : (Tree.mk nodes).paths = nodes.map Node.path :=
  rfl

lemma eachOver_reverse_append {P : Node R → List (Node R) → Prop} (base ns : List (Node R)) :
    EachOver P (ns.reverse ++ base) ↔ EachOver P base ∧ DeclaredOver P base ns := by
  induction ns generalizing base with
  | nil => simp [DeclaredOver]
  | cons n ns ih =>
    simp only [List.reverse_cons, List.append_assoc, List.singleton_append, ih, EachOver,
      DeclaredOver]
    tauto

lemma DeclaredOver.mp {P Q : Node R → List (Node R) → Prop} {base ns : List (Node R)}
    (h : DeclaredOver (fun n older => P n older → Q n older) base ns)
    (hp : DeclaredOver P base ns) : DeclaredOver Q base ns := by
  induction ns generalizing base with
  | nil => trivial
  | cons n ns ih => exact ⟨h.1 hp.1, ih h.2 hp.2⟩

lemma DeclaredOver.append {P : Node R → List (Node R) → Prop} {base ns ms : List (Node R)} :
    DeclaredOver P base (ns ++ ms) ↔ DeclaredOver P base ns ∧ DeclaredOver P (ns.reverse ++ base) ms := by
  induction ns generalizing base with
  | nil => simp [DeclaredOver]
  | cons n ns ih => simp [DeclaredOver, ih, and_assoc]

/-- Constructs declared in order, each accepted, have distinct paths, none of them taken before. -/
lemma DeclaredOver.paths_nodup {base ns : List (Node R)} (h : DeclaredOver Accepted base ns) :
    (ns.map Node.path).Nodup ∧ ∀ n ∈ ns, n.path ∉ base.map Node.path := by
  induction ns generalizing base with
  | nil => simp
  | cons n ns ih =>
    obtain ⟨hnd, hfresh⟩ := ih h.2
    refine ⟨List.nodup_cons.mpr ⟨fun hn => ?_, hnd⟩, fun m hm => ?_⟩
    · obtain ⟨m, hm, he⟩ := List.mem_map.mp hn
      exact hfresh m hm (he ▸ List.mem_cons_self _ _)
    · rcases List.mem_cons.mp hm with rfl | hm
      · exact h.1.2
      · exact fun hb => hfresh m hm (List.mem_cons_of_mem _ hb)

lemma Tree.add_eq_ok {t t' : Tree R} {n : Node R} :
    t.add n = .ok t' ↔ Accepted n t.nodes ∧ t' = ⟨n :: t.nodes⟩ := by
  unfold Tree.add Accepted Tree.paths
  split_ifs <;> simp_all [eq_comm]

/-- A successful declaration puts the constructs in front, each accepted when it was declared. -/
lemma Tree.declare_eq_ok {t t' : Tree R} {ns : List (Node R)} (h : t.declare ns = .ok t') :
    t'.nodes = ns.reverse ++ t.nodes ∧ DeclaredOver Accepted t.nodes ns := by
  induction ns generalizing t with
  | nil => cases h; exact ⟨rfl, trivial⟩
  | cons n ns ih =>
    unfold Tree.declare at h
    split at h
    · rename_i t₁ h₁
      obtain ⟨hn, rfl⟩ := Tree.add_eq_ok.mp h₁
      obtain ⟨he, hd⟩ := ih h
      exact ⟨by simp [he], hn, hd⟩
    · cases h

/-- Declaring in two steps is declaring the constructs of both, in order. -/
lemma Tree.declare_append_eq_ok {t t₂ : Tree R} {ns ms : List (Node R)} :
    t.declare (ns ++ ms) = .ok t₂ ↔ ∃ t₁, t.declare ns = .ok t₁ ∧ t₁.declare ms = .ok t₂ := by
  induction ns generalizing t with
  | nil => simp [Tree.declare]
  | cons n ns ih => cases h : t.add n <;> simp [Tree.declare, h, ih]

/-- Finding or making a construct declares it exactly when its path is not taken. -/
lemma Tree.ensure_nodes (t : Tree R) (n : Node R) :
    (t.ensure n).nodes = (if n.path ∈ t.paths then [] else [n]) ++ t.nodes := by
  unfold Tree.ensure
  split <;> rfl

/-- Finding or making a construct puts at most that construct in front of the tree. -/
lemma Tree.ensure_eq_append (t : Tree R) (n : Node R) :
    ∃ ms, (t.ensure n).nodes = ms ++ t.nodes ∧ ∀ m ∈ ms, m = n := by
  rw [Tree.ensure_nodes]
  exact ⟨_, rfl, fun m hm => by split at hm <;> simp_all⟩

end DataSolutions.ConstructTree
