import DataSolutions.CdkCore
import Mathlib.Data.Option.Defs

/-! The `DataLakeStorage` construct: three `AnalyticsBucket`s for the bronze, silver and gold
layers, each with one lifecycle rule moving objects to infrequent access and then, for bronze
always and for silver and gold only when an archive delay is given, to Glacier. The model
returns the props the constructor hands to each `AnalyticsBucket`. -/
namespace DataSolutions.DataLake
open CdkCore

inductive StorageClass
  | INFREQUENT_ACCESS
  | GLACIER
  deriving DecidableEq, Repr

structure Transition where
  storageClass : StorageClass
  transitionAfter : Duration
  deriving DecidableEq

structure LifecycleRule where
  transitions : List Transition
  deriving DecidableEq

/-- A KMS key, read only as the value handed on to the buckets. -/
structure Key where
  id : String
  removalPolicy : RemovalPolicy
  enableKeyRotation : Bool
  deriving DecidableEq, Repr

instance : Truthy Key := ⟨fun _ => true⟩

structure DataLakeStorageProps where
  dataLakeKey : Option Key := none
  bronzeBucketName : Option String := none
  silverBucketName : Option String := none
  goldBucketName : Option String := none
  bronzeBucketInfrequentAccessDelay : Option Int := none
  bronzeBucketArchiveDelay : Option Int := none
  silverBucketInfrequentAccessDelay : Option Int := none
  silverBucketArchiveDelay : Option Int := none
  goldBucketInfrequentAccessDelay : Option Int := none
  goldBucketArchiveDelay : Option Int := none
  removalPolicy : Option RemovalPolicy := none
  deriving DecidableEq, Repr

/-- The props of one `new AnalyticsBucket(this, id, ...)` call. -/
structure AnalyticsBucketProps where
  id : String
  encryptionKey : Key
  bucketName : String
  lifecycleRules : List LifecycleRule
  removalPolicy : RemovalPolicy
  serverAccessLogsBucket : String
  serverAccessLogsPrefix : String
  deriving DecidableEq

structure DataLakeStorage where
  accessLogsBucket : String
  dataLakeKey : Key
  bronzeBucket : AnalyticsBucketProps
  silverBucket : AnalyticsBucketProps
  goldBucket : AnalyticsBucketProps
  deriving DecidableEq

def DataLakeStorage.buckets (s : DataLakeStorage) : List AnalyticsBucketProps :=
  [s.bronzeBucket, s.silverBucket, s.goldBucket]

/-- The bronze rule: both transitions are always there, each delay defaulted by `||`. -/
def bronzeTransitions (props : DataLakeStorageProps) : Except String (List Transition) := do
  let infrequentAccess ← Duration.days (jsOr props.bronzeBucketInfrequentAccessDelay 90)
  let glacier ← Duration.days (jsOr props.bronzeBucketArchiveDelay 180)
  pure [⟨.INFREQUENT_ACCESS, infrequentAccess⟩, ⟨.GLACIER, glacier⟩]

/-- The silver and gold rule: infrequent access after the delay `|| 180`, and a Glacier
transition pushed only when the archive delay is truthy. -/
def layerTransitions (infrequentAccessDelay archiveDelay : Option Int) :
    Except String (List Transition) := do
  let infrequentAccess ← Duration.days (jsOr infrequentAccessDelay 180)
  match jsTruthy archiveDelay with
  | some delay =>
    let glacier ← Duration.days delay
    pure [⟨.INFREQUENT_ACCESS, infrequentAccess⟩, ⟨.GLACIER, glacier⟩]
  | none => pure [⟨.INFREQUENT_ACCESS, infrequentAccess⟩]

def silverTransitions (props : DataLakeStorageProps) : Except String (List Transition) :=
  layerTransitions props.silverBucketInfrequentAccessDelay props.silverBucketArchiveDelay

def goldTransitions (props : DataLakeStorageProps) : Except String (List Transition) :=
  layerTransitions props.goldBucketInfrequentAccessDelay props.goldBucketArchiveDelay

/-- One layer's bucket: the name defaults by `||` and prefixes the access logs. -/
def layerBucket (id : String) (encryptionKey : Key) (bucketName : Option String)
    (defaultName : String) (transitions : List Transition) (removalPolicy : RemovalPolicy) :
    AnalyticsBucketProps where
  id := id
  encryptionKey := encryptionKey
  bucketName := jsOr bucketName defaultName
  lifecycleRules := [⟨transitions⟩]
  removalPolicy := removalPolicy
  serverAccessLogsBucket := "AccessLogsBucket"
  serverAccessLogsPrefix := jsOr bucketName defaultName ++ "-bucket"

/-- The `DataLakeStorage` constructor, `props` being optional as in the source. -/
def DataLakeStorage.new (props : Option DataLakeStorageProps) : Except String DataLakeStorage := do
  let props := props.getD {}
  let removalPolicy := jsOr props.removalPolicy .RETAIN
  let dataLakeKey := jsOr props.dataLakeKey ⟨"DataKey", removalPolicy, true⟩
  let bronze ← bronzeTransitions props
  let silver ← silverTransitions props
  let gold ← goldTransitions props
  pure {
    accessLogsBucket := "AccessLogsBucket"
    dataLakeKey := dataLakeKey
    bronzeBucket := layerBucket "BronzeBucket" dataLakeKey props.bronzeBucketName "bronze"
      bronze removalPolicy
    silverBucket := layerBucket "SilverBucket" dataLakeKey props.silverBucketName "silver"
      silver removalPolicy
    goldBucket := layerBucket "GoldBucket" dataLakeKey props.goldBucketName "gold"
      gold removalPolicy }

/-! ## The lifecycle rules -/

/-- A transition as the template shows it: the storage class and the delay in days. -/
def Transition.summary (t : Transition) : StorageClass × Int :=
  (t.storageClass, t.transitionAfter.amount)

/-- The order the construct's doc comment describes: infrequent access first, and a Glacier
transition, if any, after it and at a strictly later day. -/
def TransitionsOrdered : List Transition → Prop
  | [] => False
  | t :: rest => t.storageClass = .INFREQUENT_ACCESS ∧
      ∀ g ∈ rest, g.storageClass = .GLACIER → t.transitionAfter.amount < g.transitionAfter.amount

instance : DecidablePred TransitionsOrdered
  | [] => inferInstanceAs (Decidable False)
  | _ :: _ => inferInstanceAs (Decidable (_ ∧ _))

/-- A bucket has a lifecycle rule in that order. -/
def LifecycleOrdered (b : AnalyticsBucketProps) : Prop :=
  ∃ r ∈ b.lifecycleRules, TransitionsOrdered r.transitions

/-- The bucket's lifecycle is one rule: infrequent access after `infrequentAccess` days, then
Glacier after `archive` days when there is an archive delay. -/
def RuleDelays (b : AnalyticsBucketProps) (infrequentAccess : Int) (archive : Option Int) :
    Prop :=
  b.lifecycleRules.map (fun r => r.transitions.map Transition.summary) =
    [(.INFREQUENT_ACCESS, infrequentAccess) :: archive.toList.map (.GLACIER, ·)]

lemma transitionsOrdered_iff {ts : List Transition} {ia : Int} {archive : Option Int}
    (h : ts.map Transition.summary = (.INFREQUENT_ACCESS, ia) :: archive.toList.map (.GLACIER, ·)) :
    TransitionsOrdered ts ↔ ∀ a ∈ archive, ia < a := by
  obtain _ | ⟨t, rest⟩ := ts
  · simp at h
  simp only [List.map_cons, List.cons.injEq, Transition.summary, Prod.ext_iff] at h
  obtain ⟨⟨hc, ha⟩, hrest⟩ := h
  have hg : (∀ g ∈ rest, g.storageClass = .GLACIER → ia < g.transitionAfter.amount) ↔
      ∀ p ∈ rest.map Transition.summary, p.1 = .GLACIER → ia < p.2 := by
    simp [Transition.summary]
  simp only [TransitionsOrdered, hc, ha, true_and, hg, hrest]
  simp

lemma lifecycleOrdered_iff {b : AnalyticsBucketProps} {ia : Int} {archive : Option Int}
    (h : RuleDelays b ia archive) : LifecycleOrdered b ↔ ∀ a ∈ archive, ia < a := by
  unfold RuleDelays at h
  rcases hb : b.lifecycleRules with _ | ⟨r, _ | ⟨r', rs⟩⟩ <;> simp only [hb, List.map_cons,
    List.map_nil, List.cons.injEq, reduceCtorEq, and_false, and_true] at h
  simp [LifecycleOrdered, hb, transitionsOrdered_iff h]

lemma bronzeTransitions_eq_ok {props : DataLakeStorageProps} {ts : List Transition}
    (h : bronzeTransitions props = .ok ts) :
    ts.map Transition.summary = [(.INFREQUENT_ACCESS, jsOr props.bronzeBucketInfrequentAccessDelay 90),
      (.GLACIER, jsOr props.bronzeBucketArchiveDelay 180)] := by
  simp only [bronzeTransitions, bind_eq_ok, pure, Except.pure, Except.ok.injEq] at h
  obtain ⟨ia, hia, g, hg, rfl⟩ := h
  simp [Transition.summary, Duration.days_eq_ok.mp hia, Duration.days_eq_ok.mp hg]

lemma layerTransitions_eq_ok {infrequentAccessDelay archiveDelay : Option Int}
    {ts : List Transition} (h : layerTransitions infrequentAccessDelay archiveDelay = .ok ts) :
    ts.map Transition.summary = (.INFREQUENT_ACCESS, jsOr infrequentAccessDelay 180) ::
      (jsTruthy archiveDelay).toList.map (.GLACIER, ·) := by
  simp only [layerTransitions, bind_eq_ok] at h
  obtain ⟨ia, hia, h⟩ := h
  cases ha : jsTruthy archiveDelay with
  | none =>
    simp only [ha, pure, Except.pure, Except.ok.injEq] at h
    simp [← h, Transition.summary, Duration.days_eq_ok.mp hia]
  | some a =>
    simp only [ha, bind_eq_ok, pure, Except.pure, Except.ok.injEq] at h
    obtain ⟨g, hg, rfl⟩ := h
    simp [Transition.summary, Duration.days_eq_ok.mp hia, Duration.days_eq_ok.mp hg]

/-! ## The constructor -/

inductive Layer
  | bronze
  | silver
  | gold
  deriving DecidableEq, Repr

def DataLakeStorage.bucket (s : DataLakeStorage) : Layer → AnalyticsBucketProps
  | .bronze => s.bronzeBucket
  | .silver => s.silverBucket
  | .gold => s.goldBucket

/-- The infrequent-access delay of a layer's rule: the supplied delay, or its default when
it is omitted or `0`. -/
def DataLakeStorageProps.infrequentAccessDelay (props : DataLakeStorageProps) : Layer → Int
  | .bronze => jsOr props.bronzeBucketInfrequentAccessDelay 90
  | .silver => jsOr props.silverBucketInfrequentAccessDelay 180
  | .gold => jsOr props.goldBucketInfrequentAccessDelay 180

/-- The Glacier delay of a layer's rule, if it has one. -/
def DataLakeStorageProps.archiveDelay (props : DataLakeStorageProps) : Layer → Option Int
  | .bronze => some (jsOr props.bronzeBucketArchiveDelay 180)
  | .silver => jsTruthy props.silverBucketArchiveDelay
  | .gold => jsTruthy props.goldBucketArchiveDelay

def DataLakeStorageProps.delays (props : DataLakeStorageProps) : List (Option Int) :=
  [props.bronzeBucketInfrequentAccessDelay, props.bronzeBucketArchiveDelay,
    props.silverBucketInfrequentAccessDelay, props.silverBucketArchiveDelay,
    props.goldBucketInfrequentAccessDelay, props.goldBucketArchiveDelay]

/-- No supplied delay is negative. -/
def DelaysNonneg (props : DataLakeStorageProps) : Prop := ∀ d ∈ props.delays, ∀ n ∈ d, 0 ≤ n

instance : DecidablePred DelaysNonneg := fun props =>
  inferInstanceAs (Decidable (∀ d ∈ props.delays, ∀ n ∈ d, 0 ≤ n))

instance (b : AnalyticsBucketProps) (ia : Int) (archive : Option Int) :
    Decidable (RuleDelays b ia archive) := inferInstanceAs (Decidable (_ = _))

instance : DecidablePred LifecycleOrdered := fun b =>
  inferInstanceAs (Decidable (∃ r ∈ b.lifecycleRules, _))

/-- What a successful construction is made of. -/
lemma new_eq_ok {props : Option DataLakeStorageProps} {s : DataLakeStorage}
    (h : DataLakeStorage.new props = .ok s) :
    ∃ bronze silver gold, bronzeTransitions (props.getD {}) = .ok bronze ∧
      silverTransitions (props.getD {}) = .ok silver ∧ goldTransitions (props.getD {}) = .ok gold ∧
      s.bronzeBucket.lifecycleRules = [⟨bronze⟩] ∧ s.silverBucket.lifecycleRules = [⟨silver⟩] ∧
      s.goldBucket.lifecycleRules = [⟨gold⟩] := by
  simp only [DataLakeStorage.new, bind_eq_ok, pure, Except.pure, Except.ok.injEq] at h
  obtain ⟨b, hb, si, hsi, g, hg, rfl⟩ := h
  exact ⟨b, si, g, hb, hsi, hg, rfl, rfl, rfl⟩

lemma ruleDelays_of_eq {b : AnalyticsBucketProps} {ts : List Transition} {ia : Int}
    {archive : Option Int} (hb : b.lifecycleRules = [⟨ts⟩])
    (h : ts.map Transition.summary = (.INFREQUENT_ACCESS, ia) :: archive.toList.map (.GLACIER, ·)) :
    RuleDelays b ia archive := by
  simp [RuleDelays, hb, h]

/-- Every layer's rule is the one its delays, defaulted by `||`, describe. -/
lemma new_ruleDelays {props : DataLakeStorageProps} {s : DataLakeStorage}
    (h : DataLakeStorage.new (some props) = .ok s) (layer : Layer) :
    RuleDelays (s.bucket layer) (props.infrequentAccessDelay layer) (props.archiveDelay layer) := by
  obtain ⟨b, si, g, hb, hsi, hg, rb, rsi, rg⟩ := new_eq_ok h
  cases layer
  · exact ruleDelays_of_eq rb (bronzeTransitions_eq_ok hb)
  · exact ruleDelays_of_eq rsi (layerTransitions_eq_ok hsi)
  · exact ruleDelays_of_eq rg (layerTransitions_eq_ok hg)

example : ∃ s, DataLakeStorage.new none = .ok s ∧ RuleDelays s.bronzeBucket 90 (some 180) ∧
    RuleDelays s.silverBucket 180 none ∧ RuleDelays s.goldBucket 180 none :=
  ⟨_, rfl, by decide, by decide, by decide⟩

/-- The buckets share one configuration: the storage's key, by default the `DataKey` with the
storage's removal policy, that removal policy, by default `RETAIN`, and the access logs bucket,
under a prefix named after the bucket. -/
lemma new_buckets {props : Option DataLakeStorageProps} {s : DataLakeStorage}
    (h : DataLakeStorage.new props = .ok s) :
    s.dataLakeKey = jsOr (props.getD {}).dataLakeKey
        ⟨"DataKey", jsOr (props.getD {}).removalPolicy .RETAIN, true⟩ ∧
      ∀ b ∈ s.buckets, b.encryptionKey = s.dataLakeKey ∧
        b.removalPolicy = jsOr (props.getD {}).removalPolicy .RETAIN ∧
        b.serverAccessLogsBucket = s.accessLogsBucket ∧
        b.serverAccessLogsPrefix = b.bucketName ++ "-bucket" := by
  simp only [DataLakeStorage.new, bind_eq_ok, pure, Except.pure, Except.ok.injEq] at h
  obtain ⟨_, _, _, _, _, _, rfl⟩ := h
  simp [DataLakeStorage.buckets, layerBucket]

lemma ruleDelays_nonneg {b : AnalyticsBucketProps} {ia : Int} {archive : Option Int}
    (h : RuleDelays b ia archive) : 0 ≤ ia ∧ ∀ a ∈ archive, 0 ≤ a := by
  have hn : ∀ r ∈ b.lifecycleRules, ∀ p ∈ r.transitions.map Transition.summary, 0 ≤ p.2 := by
    simp [Transition.summary, Duration.amount_nonneg]
  unfold RuleDelays at h
  rcases hb : b.lifecycleRules with _ | ⟨⟨ts⟩, rest⟩ <;> simp only [hb, List.map_cons,
    List.map_nil, List.cons.injEq, reduceCtorEq] at h
  have ht := hn ⟨ts⟩ (by simp [hb])
  rw [h.1] at ht
  exact ⟨ht _ (List.mem_cons_self _ _), fun a ha => ht (.GLACIER, a) (by simp [Option.mem_def.mp ha])⟩

lemma bronzeTransitions_isOk {props : DataLakeStorageProps}
    (hi : ∀ n ∈ props.bronzeBucketInfrequentAccessDelay, 0 ≤ n)
    (ha : ∀ n ∈ props.bronzeBucketArchiveDelay, 0 ≤ n) : ∃ ts, bronzeTransitions props = .ok ts :=
  ⟨_, by simp only [bronzeTransitions, Duration.days_of_nonneg (jsOr_nonneg (d := 90) hi (by decide)),
    Duration.days_of_nonneg (jsOr_nonneg (d := 180) ha (by decide))]; rfl⟩

lemma layerTransitions_isOk {infrequentAccessDelay archiveDelay : Option Int}
    (hi : ∀ n ∈ infrequentAccessDelay, 0 ≤ n) (ha : ∀ n ∈ archiveDelay, 0 ≤ n) :
    ∃ ts, layerTransitions infrequentAccessDelay archiveDelay = .ok ts := by
  simp only [layerTransitions, Duration.days_of_nonneg (jsOr_nonneg (d := 180) hi (by decide))]
  cases h : jsTruthy archiveDelay with
  | none => exact ⟨_, rfl⟩
  | some a => exact ⟨_, by simp only [Duration.days_of_nonneg (ha a (mem_jsTruthy (by simp [h])))]; rfl⟩

/-- `Duration.days` over `||` with a non-negative fallback fails only on a negative supplied
delay, which its message names. -/
lemma days_jsOr_eq_error {a : Option Int} {d : Int} {e : String} (hd : 0 ≤ d)
    (h : Duration.days (jsOr a d) = .error e) :
    ∃ n ∈ a, n < 0 ∧ e = s!"Duration amounts cannot be negative. Received: {n}" := by
  obtain ⟨hn, rfl⟩ := Duration.days_eq_error.mp h
  exact ⟨_, jsOr_mem_of_neg hd hn, hn, rfl⟩

lemma bronzeTransitions_eq_error {props : DataLakeStorageProps} {e : String}
    (h : bronzeTransitions props = .error e) :
    ∃ n, (n ∈ props.bronzeBucketInfrequentAccessDelay ∨ n ∈ props.bronzeBucketArchiveDelay) ∧
      n < 0 ∧ e = s!"Duration amounts cannot be negative. Received: {n}" := by
  simp only [bronzeTransitions, bind_eq_error] at h
  rcases h with h | ⟨_, -, h | ⟨_, -, h⟩⟩
  · obtain ⟨n, hn, hneg, rfl⟩ := days_jsOr_eq_error (by decide) h
    exact ⟨n, .inl hn, hneg, rfl⟩
  · obtain ⟨n, hn, hneg, rfl⟩ := days_jsOr_eq_error (by decide) h
    exact ⟨n, .inr hn, hneg, rfl⟩
  · cases h

lemma layerTransitions_eq_error {infrequentAccessDelay archiveDelay : Option Int} {e : String}
    (h : layerTransitions infrequentAccessDelay archiveDelay = .error e) :
    ∃ n, (n ∈ infrequentAccessDelay ∨ n ∈ archiveDelay) ∧
      n < 0 ∧ e = s!"Duration amounts cannot be negative. Received: {n}" := by
  simp only [layerTransitions, bind_eq_error] at h
  rcases h with h | ⟨_, -, h⟩
  · obtain ⟨n, hn, hneg, rfl⟩ := days_jsOr_eq_error (by decide) h
    exact ⟨n, .inl hn, hneg, rfl⟩
  · split at h
    · rename_i a ha
      rcases bind_eq_error.mp h with h | ⟨_, -, h⟩
      · obtain ⟨hneg, rfl⟩ := Duration.days_eq_error.mp h
        exact ⟨a, .inr (mem_jsTruthy (by simp [ha])), hneg, rfl⟩
      · cases h
    · cases h

/-- The constructor throws only `Duration.days`'s error, for a negative delay it was given,
which the message names. -/
lemma new_eq_error {props : Option DataLakeStorageProps} {e : String}
    (h : DataLakeStorage.new props = .error e) :
    ∃ d ∈ (props.getD {}).delays, ∃ n ∈ d,
      n < 0 ∧ e = s!"Duration amounts cannot be negative. Received: {n}" := by
  simp only [DataLakeStorage.new, bind_eq_error] at h
  have hlayer : ∃ ia ∈ (props.getD {}).delays, ∃ archive ∈ (props.getD {}).delays, ∃ n,
      (n ∈ ia ∨ n ∈ archive) ∧ n < 0 ∧ e = s!"Duration amounts cannot be negative. Received: {n}" := by
    rcases h with h | ⟨_, -, h | ⟨_, -, h | ⟨_, -, h⟩⟩⟩
    · exact ⟨_, by simp [DataLakeStorageProps.delays], _, by simp [DataLakeStorageProps.delays],
        bronzeTransitions_eq_error h⟩
    · exact ⟨_, by simp [DataLakeStorageProps.delays], _, by simp [DataLakeStorageProps.delays],
        layerTransitions_eq_error h⟩
    · exact ⟨_, by simp [DataLakeStorageProps.delays], _, by simp [DataLakeStorageProps.delays],
        layerTransitions_eq_error h⟩
    · cases h
  obtain ⟨ia, hia, archive, harchive, n, hn | hn, hneg, he⟩ := hlayer
  · exact ⟨ia, hia, n, hn, hneg, he⟩
  · exact ⟨archive, harchive, n, hn, hneg, he⟩

/-- The constructor succeeds exactly when no delay is negative: `Duration.days` refuses the
rest, since a negative delay is truthy and so never replaced by its default. -/
theorem new_isOk_iff (props : DataLakeStorageProps) :
    (∃ s, DataLakeStorage.new (some props) = .ok s) ↔ DelaysNonneg props := by
  constructor
  · rintro ⟨s, h⟩
    have hb := ruleDelays_nonneg (new_ruleDelays h .bronze)
    have hs := ruleDelays_nonneg (new_ruleDelays h .silver)
    have hg := ruleDelays_nonneg (new_ruleDelays h .gold)
    simp only [DataLakeStorageProps.infrequentAccessDelay, DataLakeStorageProps.archiveDelay,
      Option.mem_def, Option.some.injEq, forall_eq'] at hb hs hg
    simp only [DelaysNonneg, DataLakeStorageProps.delays, List.mem_cons, List.mem_singleton,
      List.not_mem_nil, or_false, forall_eq_or_imp, forall_eq]
    exact ⟨nonneg_of_jsOr_nonneg hb.1, nonneg_of_jsOr_nonneg hb.2,
      nonneg_of_jsOr_nonneg hs.1, nonneg_of_jsTruthy_nonneg hs.2,
      nonneg_of_jsOr_nonneg hg.1, nonneg_of_jsTruthy_nonneg hg.2⟩
  · intro h
    simp only [DelaysNonneg, DataLakeStorageProps.delays, List.mem_cons, List.mem_singleton,
      List.not_mem_nil, or_false, forall_eq_or_imp, forall_eq] at h
    obtain ⟨hbi, hba, hsi, hsa, hgi, hga⟩ := h
    obtain ⟨b, hb⟩ := bronzeTransitions_isOk hbi hba
    obtain ⟨si, hs⟩ := layerTransitions_isOk hsi hsa
    obtain ⟨g, hg⟩ := layerTransitions_isOk hgi hga
    exact ⟨_, by simp only [DataLakeStorage.new, Option.getD_some, hb, silverTransitions, hs,
      goldTransitions, hg]; rfl⟩

/-! ## The order of the transitions -/

/-- Where both delays of a layer are supplied, the archive delay is the later one. -/
def SuppliedDelaysOrdered (props : DataLakeStorageProps) : Prop :=
  (∀ ia ∈ props.bronzeBucketInfrequentAccessDelay, ∀ a ∈ props.bronzeBucketArchiveDelay, ia < a) ∧
  (∀ ia ∈ props.silverBucketInfrequentAccessDelay, ∀ a ∈ props.silverBucketArchiveDelay, ia < a) ∧
  (∀ ia ∈ props.goldBucketInfrequentAccessDelay, ∀ a ∈ props.goldBucketArchiveDelay, ia < a)

instance : DecidablePred SuppliedDelaysOrdered := fun _ => inferInstanceAs (Decidable (_ ∧ _ ∧ _))

/-- With only `silverBucketArchiveDelay` supplied, 50 days, the defaulted infrequent-access
delay comes after archiving: the code's default is 180 days, and the 90 days the props document
would be too. -/
theorem silverArchiveDelay_before_default :
    SuppliedDelaysOrdered { silverBucketArchiveDelay := some 50 } ∧
      ¬ ∃ s, DataLakeStorage.new (some { silverBucketArchiveDelay := some 50 }) = .ok s ∧
        ∀ b ∈ s.buckets, LifecycleOrdered b := by
  refine ⟨by decide, fun ⟨s, hs, h⟩ => ?_⟩
  have ho := (lifecycleOrdered_iff (new_ruleDelays hs .silver)).mp
    (h s.silverBucket (by simp [DataLakeStorage.buckets]))
  exact absurd (ho 50 rfl) (by decide)

/-- For non-negative delays the constructor gives every layer one lifecycle rule: infrequent
access first, then Glacier when the layer has an archive delay; the Glacier transition is the
later exactly when the layer's archive delay exceeds its infrequent-access delay, both taken
after `||` has filled in the defaults. -/
theorem new_lifecycleRules (props : DataLakeStorageProps) (h : DelaysNonneg props) :
    ∃ s, DataLakeStorage.new (some props) = .ok s ∧ ∀ layer : Layer,
      RuleDelays (s.bucket layer) (props.infrequentAccessDelay layer) (props.archiveDelay layer) ∧
      (LifecycleOrdered (s.bucket layer) ↔
        ∀ a ∈ props.archiveDelay layer, props.infrequentAccessDelay layer < a) := by
  obtain ⟨s, hs⟩ := (new_isOk_iff props).mpr h
  exact ⟨s, hs, fun layer => ⟨new_ruleDelays hs layer, lifecycleOrdered_iff (new_ruleDelays hs layer)⟩⟩

/-- The delays of the construct's usage example. -/
def usageExample : DataLakeStorageProps where
  bronzeBucketInfrequentAccessDelay := some 90
  bronzeBucketArchiveDelay := some 180
  silverBucketInfrequentAccessDelay := some 180
  silverBucketArchiveDelay := some 360
  goldBucketInfrequentAccessDelay := some 180
  goldBucketArchiveDelay := some 360

theorem new_lifecycleRules_usageExample :
    DelaysNonneg usageExample ∧ ∃ s, DataLakeStorage.new (some usageExample) = .ok s ∧
      ∀ layer : Layer, RuleDelays (s.bucket layer) (usageExample.infrequentAccessDelay layer)
        (usageExample.archiveDelay layer) ∧
      (LifecycleOrdered (s.bucket layer) ↔
        ∀ a ∈ usageExample.archiveDelay layer, usageExample.infrequentAccessDelay layer < a) :=
  ⟨by decide, new_lifecycleRules usageExample (by decide)⟩

end DataSolutions.DataLake
