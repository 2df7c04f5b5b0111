import Mathlib.Data.List.Infix

/-! IAM's reading of a resource pattern: `*` stands for any run of characters, `/` included,
`?` for any one character, and every other character for itself. `wildcardMatch` is the
executable matcher, `Matches` the policy language's reading, and `wildcardMatch_iff` ties
them. A pattern with no wildcard matches only itself. -/
namespace DataSolutions.IamWildcard

def wildcardMatch : List Char → List Char → Bool
  | [], s => s.isEmpty
  | '*' :: p, s => s.tails.any (wildcardMatch p)
  | '?' :: _, [] => false
  | '?' :: p, _ :: s => wildcardMatch p s
  | _ :: _, [] => false
  | c :: p, d :: s => c == d && wildcardMatch p s

inductive Matches : List Char → List Char → Prop
  | nil : Matches [] []
  | star {p s : List Char} (t : List Char) : Matches p s → Matches ('*' :: p) (t ++ s)
  | any {p s : List Char} (c : Char) : Matches p s → Matches ('?' :: p) (c :: s)
  | lit {p s : List Char} (c : Char) : c ≠ '*' → c ≠ '?' → Matches p s → Matches (c :: p) (c :: s)

/-- A pattern in which IAM reads no character as a wildcard. -/
def WildcardFree (p : List Char) : Prop := ∀ c ∈ p, c ≠ '*' ∧ c ≠ '?'

instance : DecidablePred WildcardFree := fun p =>
  inferInstanceAs (Decidable (∀ c ∈ p, c ≠ '*' ∧ c ≠ '?'))

lemma wildcardMatch_nil (s : List Char) : wildcardMatch [] s = true ↔ s = [] := by
  simp [wildcardMatch]

lemma wildcardMatch_star (p s : List Char) :
    wildcardMatch ('*' :: p) s = true ↔ ∃ t u, s = t ++ u ∧ wildcardMatch p u = true := by
  simp only [wildcardMatch, List.any_eq_true, List.mem_tails, List.IsSuffix]
  exact ⟨fun ⟨u, ⟨t, ht⟩, hu⟩ => ⟨t, u, ht.symm, hu⟩, fun ⟨t, u, hs, hu⟩ => ⟨u, ⟨t, hs.symm⟩, hu⟩⟩

lemma wildcardMatch_any (p s : List Char) :
    wildcardMatch ('?' :: p) s = true ↔ ∃ c u, s = c :: u ∧ wildcardMatch p u = true := by
  cases s <;> simp [wildcardMatch, and_assoc]

lemma wildcardMatch_lit {c : Char} (h1 : c ≠ '*') (h2 : c ≠ '?') (p s : List Char) :
    wildcardMatch (c :: p) s = true ↔ ∃ u, s = c :: u ∧ wildcardMatch p u = true := by
  cases s with
  | nil => simp [wildcardMatch.eq_5 c p h1 h2]
  | cons d s =>
    rw [wildcardMatch.eq_6 c p d s h1 h2]
    simp only [Bool.and_eq_true, beq_iff_eq, List.cons.injEq]
    exact ⟨fun ⟨h, hs⟩ => ⟨s, ⟨h.symm, rfl⟩, hs⟩, fun ⟨_, ⟨h, rfl⟩, hs⟩ => ⟨h.symm, hs⟩⟩

lemma matches_nil_iff (s : List Char) : Matches [] s ↔ s = [] :=
  ⟨fun h => by cases h; rfl, fun h => h ▸ .nil⟩

lemma matches_star_iff (p s : List Char) :
    Matches ('*' :: p) s ↔ ∃ t u, s = t ++ u ∧ Matches p u := by
  constructor
  · rintro (_ | ⟨t, h⟩ | _ | ⟨_, h1⟩)
    · exact ⟨t, _, rfl, h⟩
    · exact absurd rfl h1
  · rintro ⟨t, u, rfl, h⟩
    exact .star t h

lemma matches_any_iff (p s : List Char) :
    Matches ('?' :: p) s ↔ ∃ c u, s = c :: u ∧ Matches p u := by
  constructor
  · rintro (_ | _ | ⟨c, h⟩ | ⟨_, _, h2⟩)
    · exact ⟨c, _, rfl, h⟩
    · exact absurd rfl h2
  · rintro ⟨c, u, rfl, h⟩
    exact .any c h

lemma matches_lit_iff {c : Char} (h1 : c ≠ '*') (h2 : c ≠ '?') (p s : List Char) :
    Matches (c :: p) s ↔ ∃ u, s = c :: u ∧ Matches p u := by
  constructor
  · rintro (_ | _ | _ | ⟨_, _, _, h⟩)
    · exact absurd rfl h1
    · exact absurd rfl h2
    · exact ⟨_, rfl, h⟩
  · rintro ⟨u, rfl, h⟩
    exact .lit c h1 h2 h

/-- The matcher decides the policy language's reading of the pattern. -/
theorem wildcardMatch_iff (p s : List Char) : wildcardMatch p s = true ↔ Matches p s := by
  induction p generalizing s with
  | nil => rw [wildcardMatch_nil, matches_nil_iff]
  | cons c p ih =>
    by_cases h1 : c = '*'
    · subst h1
      simp only [wildcardMatch_star, matches_star_iff, ih]
    by_cases h2 : c = '?'
    · subst h2
      simp only [wildcardMatch_any, matches_any_iff, ih]
    simp only [wildcardMatch_lit h1 h2, matches_lit_iff h1 h2, ih]

/-- A literal head of the pattern must be the head of the ARN. -/
lemma wildcardMatch_append_of_wildcardFree {a : List Char} (ha : WildcardFree a) (p s : List Char) :
    wildcardMatch (a ++ p) s = true ↔ ∃ u, s = a ++ u ∧ wildcardMatch p u = true := by
  induction a generalizing s with
  | nil => simp
  | cons c a ih =>
    have hc := ha c (List.mem_cons_self c a)
    have ha' : WildcardFree a := fun x hx => ha x (List.mem_cons_of_mem c hx)
    simp only [List.cons_append, wildcardMatch_lit hc.1 hc.2, ih ha']
    constructor
    · rintro ⟨_, rfl, u, rfl, hu⟩
      exact ⟨u, rfl, hu⟩
    · rintro ⟨u, rfl, hu⟩
      exact ⟨_, rfl, u, rfl, hu⟩

/-- A pattern with no wildcard matches only itself. -/
theorem wildcardMatch_of_wildcardFree {p : List Char} (hp : WildcardFree p) (s : List Char) :
    wildcardMatch p s = true ↔ s = p := by
  simpa [wildcardMatch_nil] using wildcardMatch_append_of_wildcardFree hp [] s

end DataSolutions.IamWildcard
