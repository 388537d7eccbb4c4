import Snf.Lib.Ranking

/-! # Reported percentiles

`Distribution` of the runtime and `LatencyHistogram` of a Worker count samples in the same
buckets, exact ones below 16 and eight to every power of two above, and report percentiles from
the counts. The two compute the rank of a percentile in different ways, and the histogram counts
its samples itself.

A bucket is reported as its last value. The buckets keep the order of the samples, so the bucket
that the scan stops in is the one of the exact percentile.
-/

namespace Snf.Runtime

open Snf.Lib

/-! ## Buckets -/

def exactBucketBits : Nat := 4
def exactBucketCount : Nat := 2 ^ exactBucketBits
def scaledBucketCountPerScale : Nat := exactBucketCount / 2
def maxScale : Nat := 30
def bucketCount : Nat := exactBucketCount + maxScale * scaledBucketCountPerScale
def representableUpperBound : Nat := (2 * scaledBucketCountPerScale) <<< maxScale - 1

/-- `std::bit_width`. -/
def bitWidth (value : Nat) : Nat := if value = 0 then 0 else value.log2 + 1

def bucketOf (value : Nat) : Nat :=
  if value < exactBucketCount then value
  else
    let scale := bitWidth value - exactBucketBits
    if scale > maxScale then bucketCount - 1
    else
      let offset := value >>> scale - scaledBucketCountPerScale
      exactBucketCount + (scale - 1) * scaledBucketCountPerScale + offset

def lastValueOf (bucket : Nat) : Nat :=
  if bucket < exactBucketCount then bucket
  else
    let scaled := bucket - exactBucketCount
    let scale := scaled / scaledBucketCountPerScale + 1
    let offset := scaled % scaledBucketCountPerScale
    let firstValue := (scaledBucketCountPerScale + offset) <<< scale
    firstValue + 1 <<< scale - 1

/-- The loop over the buckets, from `bucket` on. Counters are 64-bit words. -/
def scanBuckets (rank : Nat) : Nat → Nat → List Nat → Nat
  | _, _, [] => lastValueOf (bucketCount - 1)
  | bucket, cumulative, count :: counts =>
    let cumulative := (cumulative + count) % 2 ^ 64
    if cumulative ≥ rank then lastValueOf bucket
    else scanBuckets rank (bucket + 1) cumulative counts

/-- One more sample in its bucket. -/
def countSample (buckets : List Nat) (value : Nat) : List Nat :=
  buckets.modify (bucketOf value) fun count => (count + 1) % 2 ^ 64

/-! ## The two classes -/

structure DistributionSnapshot where
  sampleCount : Nat := 0
  p50 : Nat := 0
  p95 : Nat := 0
  p99 : Nat := 0
  max : Nat := 0
deriving DecidableEq, Repr

structure Distribution where
  buckets : List Nat := List.replicate bucketCount 0
  max : Nat := 0
deriving DecidableEq, Repr

namespace Distribution

/-- The loop of compare and exchange ends when the stored maximum is not below the value. -/
def record (d : Distribution) (value : Nat) : Distribution where
  max := if d.max < value then value else d.max
  buckets := countSample d.buckets value

def percentileOf (counts : List Nat) (sampleCount percentile : Nat) : Nat :=
  let rank := (sampleCount * percentile + 99) % 2 ^ 64 / 100
  scanBuckets rank 0 0 counts

def snapshot (d : Distribution) : DistributionSnapshot :=
  let sampleCount := d.buckets.foldl (fun sum count => (sum + count) % 2 ^ 64) 0
  if sampleCount = 0 then { sampleCount := sampleCount, max := d.max }
  else
    { sampleCount := sampleCount
      max := d.max
      p50 := min (percentileOf d.buckets sampleCount 50) d.max
      p95 := min (percentileOf d.buckets sampleCount 95) d.max
      p99 := min (percentileOf d.buckets sampleCount 99) d.max }

end Distribution

structure LatencyHistogramSnapshot where
  count : Nat := 0
  sum : Nat := 0
  max : Nat := 0
  p50 : Nat := 0
  p95 : Nat := 0
  p99 : Nat := 0
deriving DecidableEq, Repr

structure LatencyHistogram where
  buckets : List Nat := List.replicate bucketCount 0
  count : Nat := 0
  sum : Nat := 0
  max : Nat := 0
deriving DecidableEq, Repr

namespace LatencyHistogram

def record (h : LatencyHistogram) (value : Nat) : LatencyHistogram where
  count := (h.count + 1) % 2 ^ 64
  sum := (h.sum + value) % 2 ^ 64
  max := Nat.max h.max value
  buckets := countSample h.buckets value

def percentileOf (h : LatencyHistogram) (percentile : Nat) : Nat :=
  let rank := h.count / 100 * percentile + (h.count % 100 * percentile + 99) / 100
  scanBuckets rank 0 0 h.buckets

def snapshot (h : LatencyHistogram) : LatencyHistogramSnapshot :=
  if h.count = 0 then { count := h.count, sum := h.sum, max := h.max }
  else
    { count := h.count
      sum := h.sum
      max := h.max
      p50 := min (h.percentileOf 50) h.max
      p95 := min (h.percentileOf 95) h.max
      p99 := min (h.percentileOf 99) h.max }

end LatencyHistogram

/-! ## The mapping of values to buckets -/

theorem quotient_lt {value scale : Nat} (h : value < 16 * 2 ^ scale) : value / 2 ^ scale < 16 :=
  (Nat.div_lt_iff_lt_mul (Nat.two_pow_pos scale)).2 h

theorem le_quotient {value scale : Nat} (h : 8 * 2 ^ scale ≤ value) : 8 ≤ value / 2 ^ scale :=
  (Nat.le_div_iff_mul_le (Nat.two_pow_pos scale)).2 h

/-- A value above 15 and the power of two that the values of its bucket span. -/
theorem bucketOf_scaled {value : Nat} (h : 16 ≤ value) :
    ∃ scale, 1 ≤ scale ∧ 8 * 2 ^ scale ≤ value ∧ value < 16 * 2 ^ scale ∧
      bucketOf value = if scale > 30 then 255 else 8 * scale + value / 2 ^ scale := by
  have hne : value ≠ 0 := by omega
  have hlog : 4 ≤ value.log2 := by
    rw [Nat.le_log2 hne]
    exact h
  obtain ⟨scale, hscale⟩ : ∃ scale, value.log2 = scale + 3 :=
    ⟨value.log2 - 3, (Nat.sub_add_cancel (by omega)).symm⟩
  have hlow : 8 * 2 ^ scale ≤ value := by
    have hself := Nat.log2_self_le hne
    rw [hscale, Nat.pow_add] at hself
    omega
  have hhigh : value < 16 * 2 ^ scale := by
    have hself := @Nat.lt_log2_self value
    rw [hscale, Nat.add_assoc, Nat.pow_add] at hself
    omega
  have hquotient := le_quotient hlow
  refine ⟨scale, by omega, hlow, hhigh, ?_⟩
  have hwidth : bitWidth value - exactBucketBits = scale := by
    rw [bitWidth, if_neg hne, hscale]
    rfl
  rw [bucketOf, if_neg (show ¬ value < exactBucketCount from Nat.not_lt.2 h)]
  simp only [hwidth, Nat.shiftRight_eq_div_pow]
  show (if scale > 30 then 255 else 16 + (scale - 1) * 8 + (value / 2 ^ scale - 8)) = _
  congr 1
  omega

theorem bucketOf_exact {value : Nat} (h : value < 16) : bucketOf value = value := if_pos h

theorem bucketOf_lt (value : Nat) : bucketOf value < 256 := by
  rcases Nat.lt_or_ge value 16 with h | h
  · rw [bucketOf_exact h]
    omega
  · obtain ⟨scale, -, -, hhigh, heq⟩ := bucketOf_scaled h
    have hquotient := quotient_lt hhigh
    rw [heq]
    split <;> omega

/-- The buckets keep the order of the values. -/
theorem bucketOf_mono : Monotone bucketOf := by
  intro v w hvw
  rcases Nat.lt_or_ge v 16 with hv | hv
  · rw [bucketOf_exact hv]
    rcases Nat.lt_or_ge w 16 with hw | hw
    · rwa [bucketOf_exact hw]
    · obtain ⟨scale, hscale, hlow, -, heq⟩ := bucketOf_scaled hw
      have hquotient := le_quotient hlow
      rw [heq]
      split <;> omega
  obtain ⟨s, hs, hslow, hshigh, hv'⟩ := bucketOf_scaled hv
  obtain ⟨t, -, htlow, hthigh, hw'⟩ := bucketOf_scaled (hv.trans hvw)
  have hst : s ≤ t := by
    have hlt : 2 ^ s < 2 ^ (t + 1) := by
      rw [Nat.pow_succ]
      omega
    exact Nat.lt_succ_iff.1 ((Nat.pow_lt_pow_iff_right (by decide)).1 hlt)
  have hquotient := quotient_lt hshigh
  have hlow := le_quotient htlow
  rw [hv', hw']
  rcases hst.eq_or_lt with rfl | hlt
  · have hle : v / 2 ^ s ≤ w / 2 ^ s := Nat.div_le_div_right hvw
    split <;> omega
  · split <;> split <;> omega

/-- The last value of the bucket with the quotient `q` at a scale. -/
theorem lastValueOf_scaled {scale q : Nat} (hscale : 1 ≤ scale) (hlow : 8 ≤ q) (hhigh : q < 16) :
    lastValueOf (8 * scale + q) = q * 2 ^ scale + 2 ^ scale - 1 := by
  have hsplit : 8 * scale + q - 16 = 8 * (scale - 1) + (q - 8) := by omega
  rw [lastValueOf, if_neg (Nat.not_lt.2 (by show 16 ≤ _; omega))]
  show (8 + (8 * scale + q - 16) % 8) <<< ((8 * scale + q - 16) / 8 + 1) +
    1 <<< ((8 * scale + q - 16) / 8 + 1) - 1 = _
  have hdiv : (8 * scale + q - 16) / 8 + 1 = scale := by omega
  have hmod : 8 + (8 * scale + q - 16) % 8 = q := by omega
  rw [hdiv, hmod, Nat.shiftLeft_eq, Nat.shiftLeft_eq, Nat.one_mul]

theorem lastValueOf_exact {bucket : Nat} (h : bucket < 16) : lastValueOf bucket = bucket := if_pos h

theorem lastValueOf_mono : Monotone lastValueOf := by
  refine monotone_nat_of_le_succ fun bucket => ?_
  rcases Nat.lt_or_ge bucket 15 with h | h
  · rw [lastValueOf_exact (by omega), lastValueOf_exact (by omega)]
    omega
  rcases h.eq_or_lt with rfl | h
  · decide
  -- a bucket and the next one are at the same scale, or around a power of two
  obtain ⟨scale, q, hscale, hlow, hhigh, rfl⟩ : ∃ scale q, 1 ≤ scale ∧ 8 ≤ q ∧ q < 16 ∧
      bucket = 8 * scale + q :=
    ⟨(bucket - 16) / 8 + 1, (bucket - 16) % 8 + 8, by omega, by omega, by omega, by omega⟩
  have hpos := Nat.two_pow_pos scale
  rw [lastValueOf_scaled hscale hlow hhigh]
  rcases Nat.lt_or_ge (q + 1) 16 with hnext | hnext
  · rw [Nat.add_assoc, lastValueOf_scaled hscale (by omega) hnext, Nat.succ_mul]
    omega
  · have hq : q = 15 := by omega
    have hcorner : 8 * scale + q + 1 = 8 * (scale + 1) + 8 := by omega
    rw [hcorner, lastValueOf_scaled (by omega) (by omega) (by omega), Nat.pow_succ, hq]
    omega

/-! ## Rounding up to the end of a bucket -/

/-- What is reported for a value. -/
structure RoundsUp (value reported : Nat) : Prop where
  atLeast : value ≤ reported
  close : 0 < value → 8 * reported < 9 * value
  exact : value < 16 → reported = value

theorem roundsUp_lastValueOf {value : Nat} (h : value ≤ representableUpperBound) :
    RoundsUp value (lastValueOf (bucketOf value)) := by
  rcases Nat.lt_or_ge value 16 with hsmall | hlarge
  · rw [bucketOf_exact hsmall, lastValueOf_exact hsmall]
    exact ⟨le_rfl, by omega, fun _ => rfl⟩
  obtain ⟨scale, hscale, hlow, hhigh, heq⟩ := bucketOf_scaled hlarge
  have hbelow : scale ≤ 30 := by
    have hbound : value < 16 * 2 ^ 30 := Nat.lt_of_le_of_lt h (by decide)
    have hlt : 2 ^ scale < 2 ^ 31 := by omega
    exact Nat.lt_succ_iff.1 ((Nat.pow_lt_pow_iff_right (by decide)).1 hlt)
  have hquotient := le_quotient hlow
  rw [heq, if_neg (by omega), lastValueOf_scaled hscale hquotient (quotient_lt hhigh)]
  have hpos := Nat.two_pow_pos scale
  have hdown : value / 2 ^ scale * 2 ^ scale ≤ value := Nat.div_mul_le_self _ _
  have hup : value < value / 2 ^ scale * 2 ^ scale + 2 ^ scale := Nat.lt_div_mul_add hpos
  exact ⟨by omega, by omega, by omega⟩

/-- A maximum that is not below the value cuts nothing off it. -/
theorem RoundsUp.min {value reported bound : Nat} (h : RoundsUp value reported)
    (hbound : value ≤ bound) : RoundsUp value (Nat.min reported bound) where
  atLeast := Nat.le_min.2 ⟨h.atLeast, hbound⟩
  close hpos := by
    have hclose := h.close hpos
    have hle := Nat.min_le_left reported bound
    show 8 * Min.min reported bound < _
    omega
  exact hsmall := by
    have hexact := h.exact hsmall
    show Min.min reported bound = _
    omega

/-! ## Counting -/

/-- The counts of the buckets from `bucket` on. -/
def tallyFrom (l : List Nat) (bucket n : Nat) : List Nat :=
  (List.range' bucket n).map fun b => l.countP (· = b)

theorem countP_lt_succ (l : List Nat) (bucket : Nat) :
    l.countP (· < bucket) + l.countP (· = bucket) = l.countP (· < bucket + 1) := by
  induction l with
  | nil => rfl
  | cons a l ih =>
    simp only [List.countP_cons, decide_eq_true_eq]
    rw [← ih]
    split <;> split <;> split <;> omega

theorem tallyFrom_succ (l : List Nat) (bucket n : Nat) :
    tallyFrom l bucket (n + 1) = l.countP (· = bucket) :: tallyFrom l (bucket + 1) n := by
  rw [tallyFrom, List.range'_succ, List.map_cons]
  rfl

/-- The scan stops in the bucket of its rank. -/
theorem scanBuckets_tallyFrom {l : List Nat} {k x : Nat} (hx : ranked l k = some x)
    (hlength : l.length < 2 ^ 64) {bucket n : Nat} (hlow : bucket ≤ x) (hhigh : x < bucket + n) :
    scanBuckets (k + 1) bucket (l.countP (· < bucket)) (tallyFrom l bucket n) = lastValueOf x := by
  have hrank (b : Nat) : k < l.countP (· < b + 1) ↔ x < b + 1 := by
    rw [lt_countP_iff (by simp only [decide_eq_true_eq]; omega) hx, decide_eq_true_eq]
  induction n generalizing bucket with
  | zero => omega
  | succ n ih =>
    have hle : l.countP (· < bucket + 1) ≤ l.length := List.countP_le_length
    rw [tallyFrom_succ, scanBuckets, countP_lt_succ, Nat.mod_eq_of_lt (by omega)]
    rcases hlow.eq_or_lt with rfl | hlt
    · rw [if_pos (Nat.succ_le_of_lt ((hrank _).2 (by omega)))]
    · have hbefore := (hrank bucket).not.2 (by omega)
      rw [if_neg (mt Nat.lt_of_succ_le hbefore)]
      exact ih hlt (by omega)

theorem sum_tallyFrom {l : List Nat} (hlength : l.length < 2 ^ 64) (bucket n : Nat) :
    (tallyFrom l bucket n).foldl (fun sum count => (sum + count) % 2 ^ 64)
      (l.countP (· < bucket)) = l.countP (· < bucket + n) := by
  induction n generalizing bucket with
  | zero => rfl
  | succ n ih =>
    have hle : l.countP (· < bucket + 1) ≤ l.length := List.countP_le_length
    rw [tallyFrom_succ, List.foldl_cons, countP_lt_succ, Nat.mod_eq_of_lt (by omega), ih]
    congr 2
    funext b
    rw [Nat.add_assoc, Nat.add_comm 1]

/-- The counts of all buckets. -/
def tally (samples : List Nat) : List Nat := tallyFrom (samples.map bucketOf) 0 bucketCount

theorem countSample_tally {samples : List Nat} (h : samples.length < 2 ^ 64 - 1) (value : Nat) :
    countSample (tally samples) value = tally (samples ++ [value]) := by
  refine List.ext_getElem? fun bucket => ?_
  rw [countSample, List.getElem?_modify]
  simp only [tally, tallyFrom, List.getElem?_map, List.map_append, List.countP_append,
    List.map_singleton, List.countP_singleton, Option.map_eq_map, Option.map_map]
  cases hbucket : (List.range' 0 bucketCount)[bucket]? with
  | none => rfl
  | some b =>
    have hb : b = bucket := by
      obtain ⟨hlt, hget⟩ := List.getElem?_eq_some_iff.1 hbucket
      rw [List.getElem_range'] at hget
      omega
    have hle : (samples.map bucketOf).countP (· = b) ≤ samples.length := by
      rw [← List.length_map (f := bucketOf)]
      exact List.countP_le_length
    subst hb
    simp only [Option.map_some, Function.comp_apply, decide_eq_true_eq]
    split
    · rw [Nat.mod_eq_of_lt (by omega)]
    · rfl

theorem tally_nil : tally [] = List.replicate bucketCount 0 := by decide +kernel

/-- The largest sample. -/
def largest (samples : List Nat) : Nat := samples.foldl Nat.max 0

theorem largest_concat (samples : List Nat) (last : Nat) :
    largest (samples ++ [last]) = max (largest samples) last := by
  rw [largest, List.foldl_append]
  rfl

theorem histogram_eq {samples : List Nat} (h : samples.length < 2 ^ 64) :
    samples.foldl LatencyHistogram.record {} =
      { buckets := tally samples, count := samples.length, sum := samples.sum % 2 ^ 64
        max := largest samples } := by
  induction samples using List.reverseRecOn with
  | nil => rw [tally_nil]; rfl
  | append_singleton samples value ih =>
    rw [List.length_append, List.length_singleton] at h
    rw [List.foldl_append, ih (by omega), List.foldl_cons, List.foldl_nil, LatencyHistogram.record,
      countSample_tally (by omega)]
    simp only [LatencyHistogram.mk.injEq, true_and]
    refine ⟨?_, ?_, ?_⟩
    · rw [List.length_append, List.length_singleton, Nat.mod_eq_of_lt h]
    · rw [List.sum_append, List.sum_singleton, Nat.mod_add_mod]
    · exact (largest_concat samples value).symm

theorem distribution_eq {samples : List Nat} (h : samples.length < 2 ^ 64) :
    samples.foldl Distribution.record {} = { buckets := tally samples, max := largest samples } := by
  induction samples using List.reverseRecOn with
  | nil => rw [tally_nil]; rfl
  | append_singleton samples value ih =>
    rw [List.length_append, List.length_singleton] at h
    rw [List.foldl_append, ih (by omega), List.foldl_cons, List.foldl_nil, Distribution.record,
      countSample_tally (by omega)]
    simp only [Distribution.mk.injEq, true_and]
    rw [largest_concat]
    split <;> omega

/-! ## Percentiles -/

/-- The place of a percentile among `n` samples in increasing order, counted from one: that part
of their number, rounded up. -/
def nearestRank (n percentile : Nat) : Nat := (n * percentile + 99) / 100

/-- The exact percentile of some samples. -/
def exactPercentile (samples : List Nat) (percentile : Nat) : Nat :=
  (ranked samples (nearestRank samples.length percentile - 1)).getD 0

theorem histogram_rank (n percentile : Nat) :
    n / 100 * percentile + (n % 100 * percentile + 99) / 100 = nearestRank n percentile := by
  unfold nearestRank
  conv_rhs => rw [← Nat.div_add_mod n 100, Nat.add_mul, Nat.mul_assoc, Nat.add_assoc]
  rw [Nat.mul_add_div (by decide)]

theorem distribution_rank {n percentile : Nat} (hn : n < 2 ^ 57) (hp : percentile ≤ 100) :
    (n * percentile + 99) % 2 ^ 64 / 100 = nearestRank n percentile := by
  have hle : n * percentile ≤ (2 ^ 57 - 1) * 100 := Nat.mul_le_mul (by omega) hp
  rw [Nat.mod_eq_of_lt (by omega)]
  rfl

section Samples

variable {samples : List Nat} {percentile : Nat}

theorem nearestRank_pos (hne : samples ≠ []) (hp : 1 ≤ percentile) :
    1 ≤ nearestRank samples.length percentile := by
  have hpos : 1 * 1 ≤ samples.length * percentile :=
    Nat.mul_le_mul (List.length_pos_iff.2 hne) hp
  unfold nearestRank
  omega

theorem ranked_exactPercentile (hne : samples ≠ []) (hlow : 1 ≤ percentile)
    (hhigh : percentile ≤ 100) :
    ranked samples (nearestRank samples.length percentile - 1) =
      some (exactPercentile samples percentile) := by
  have hpos := nearestRank_pos hne hlow
  have hle : samples.length * percentile ≤ samples.length * 100 := Nat.mul_le_mul_left _ hhigh
  obtain ⟨x, hx⟩ : ∃ x, ranked samples (nearestRank samples.length percentile - 1) = some x := by
    refine exists_ranked ?_
    unfold nearestRank at *
    omega
  rw [exactPercentile, hx]
  rfl

theorem scanBuckets_tally (hne : samples ≠ []) (hcount : samples.length < 2 ^ 64)
    (hlow : 1 ≤ percentile) (hhigh : percentile ≤ 100) :
    scanBuckets (nearestRank samples.length percentile) 0 0 (tally samples) =
      lastValueOf (bucketOf (exactPercentile samples percentile)) := by
  have hranked : ranked (samples.map bucketOf) (nearestRank samples.length percentile - 1) =
      some (bucketOf (exactPercentile samples percentile)) := by
    rw [ranked_map bucketOf_mono, ranked_exactPercentile hne hlow hhigh, Option.map_some]
  have hscan := scanBuckets_tallyFrom hranked (by rwa [List.length_map]) (Nat.zero_le _)
    (n := bucketCount) (by rw [Nat.zero_add]; exact bucketOf_lt _)
  rw [Nat.sub_add_cancel (nearestRank_pos hne hlow)] at hscan
  rw [← hscan, List.countP_eq_zero.2 (by simp)]
  rfl

theorem le_largest {value : Nat} (h : value ∈ samples) : value ≤ largest samples := by
  induction samples using List.reverseRecOn with
  | nil => cases h
  | append_singleton samples last ih =>
    rw [largest_concat]
    rcases List.mem_append.1 h with hmem | hlast
    · exact le_max_of_le_left (ih hmem)
    · exact le_max_of_le_right (List.mem_singleton.1 hlast).le

theorem largest_mem (hne : samples ≠ []) : largest samples ∈ samples := by
  induction samples using List.reverseRecOn with
  | nil => exact absurd rfl hne
  | append_singleton samples last ih =>
    rw [largest_concat]
    rcases samples.eq_nil_or_concat with rfl | ⟨_, _, rfl⟩
    · exact List.mem_singleton.2 (Nat.zero_max last)
    rcases max_choice (largest _) last with hmax | hmax
    · rw [hmax]
      exact List.mem_append_left _ (ih (by simp))
    · rw [hmax]
      exact List.mem_append_right _ (List.mem_singleton_self last)

theorem largest_perm {samples' : List Nat} (hne : samples ≠ []) (h : samples'.Perm samples) :
    largest samples' = largest samples := by
  have hne' : samples' ≠ [] := by
    rintro rfl
    exact hne h.nil_eq.symm
  exact le_antisymm (le_largest (h.subset (largest_mem hne')))
    (le_largest (h.symm.subset (largest_mem hne)))

theorem exactPercentile_mem (hne : samples ≠ []) (hlow : 1 ≤ percentile)
    (hhigh : percentile ≤ 100) : exactPercentile samples percentile ∈ samples :=
  ranked_mem (ranked_exactPercentile hne hlow hhigh)

theorem exactPercentile_mono (hne : samples ≠ []) {p q : Nat} (hlow : 1 ≤ p) (hpq : p ≤ q)
    (hhigh : q ≤ 100) : exactPercentile samples p ≤ exactPercentile samples q := by
  refine ranked_le (Nat.sub_le_sub_right ?_ 1) (ranked_exactPercentile hne hlow (hpq.trans hhigh))
    (ranked_exactPercentile hne (hlow.trans hpq) hhigh)
  exact Nat.div_le_div_right (Nat.add_le_add_right (Nat.mul_le_mul_left _ hpq) 99)

/-- What is reported for a percentile. -/
def reported (samples : List Nat) (percentile : Nat) : Nat :=
  min (lastValueOf (bucketOf (exactPercentile samples percentile))) (largest samples)

theorem histogram_snapshot (hne : samples ≠ []) (hcount : samples.length < 2 ^ 57) :
    (samples.foldl LatencyHistogram.record {}).snapshot =
      { count := samples.length, sum := samples.sum % 2 ^ 64, max := largest samples
        p50 := reported samples 50, p95 := reported samples 95, p99 := reported samples 99 } := by
  have hpos : samples.length ≠ 0 := fun h => hne (List.length_eq_zero_iff.1 h)
  have hscan {p : Nat} (hlow : 1 ≤ p) (hhigh : p ≤ 100) :=
    scanBuckets_tally hne (by omega) hlow hhigh
  rw [histogram_eq (by omega), LatencyHistogram.snapshot, if_neg hpos]
  simp only [LatencyHistogram.percentileOf, histogram_rank]
  rw [hscan (by decide) (by decide), hscan (by decide) (by decide), hscan (by decide) (by decide)]
  rfl

theorem distribution_snapshot (hne : samples ≠ []) (hcount : samples.length < 2 ^ 57) :
    (samples.foldl Distribution.record {}).snapshot =
      { sampleCount := samples.length, max := largest samples
        p50 := reported samples 50, p95 := reported samples 95, p99 := reported samples 99 } := by
  have hpos : samples.length ≠ 0 := fun h => hne (List.length_eq_zero_iff.1 h)
  have hscan {p : Nat} (hlow : 1 ≤ p) (hhigh : p ≤ 100) :=
    scanBuckets_tally hne (by omega) hlow hhigh
  have hsum : (tally samples).foldl (fun sum count => (sum + count) % 2 ^ 64) 0 =
      samples.length := by
    have hall : ∀ bucket ∈ samples.map bucketOf, decide (bucket < 0 + bucketCount) = true := by
      intro bucket hbucket
      obtain ⟨value, -, rfl⟩ := List.mem_map.1 hbucket
      exact decide_eq_true (bucketOf_lt value)
    have htotal := sum_tallyFrom (l := samples.map bucketOf) (by rw [List.length_map]; omega) 0
      bucketCount
    rw [List.countP_eq_length.2 hall, List.countP_eq_zero.2 (by simp), List.length_map] at htotal
    exact htotal
  rw [distribution_eq (by omega), Distribution.snapshot]
  simp only [hsum, if_neg hpos, Distribution.percentileOf]
  rw [distribution_rank hcount (by decide), distribution_rank hcount (by decide),
    distribution_rank hcount (by decide), hscan (by decide) (by decide),
    hscan (by decide) (by decide), hscan (by decide) (by decide)]
  rfl

theorem reported_perm {samples' : List Nat} (hne : samples ≠ []) (h : samples'.Perm samples)
    (percentile : Nat) : reported samples' percentile = reported samples percentile := by
  rw [reported, reported, exactPercentile, exactPercentile, h.length_eq, ranked_perm h,
    largest_perm hne h]

theorem reported_roundsUp (hne : samples ≠ [])
    (hbound : ∀ value ∈ samples, value ≤ representableUpperBound) (hlow : 1 ≤ percentile)
    (hhigh : percentile ≤ 100) :
    RoundsUp (exactPercentile samples percentile) (reported samples percentile) := by
  have hmem := exactPercentile_mem hne hlow hhigh
  exact (roundsUp_lastValueOf (hbound _ hmem)).min (le_largest hmem)

theorem reported_mono (hne : samples ≠ []) {p q : Nat} (hlow : 1 ≤ p) (hpq : p ≤ q)
    (hhigh : q ≤ 100) : reported samples p ≤ reported samples q :=
  min_le_min_right _
    (lastValueOf_mono (bucketOf_mono (exactPercentile_mono hne hlow hpq hhigh)))

end Samples

/-- What a snapshot says of the samples it was taken of. -/
structure Reports (samples : List Nat) (p50 p95 p99 max : Nat) : Prop where
  median : RoundsUp (exactPercentile samples 50) p50
  high : RoundsUp (exactPercentile samples 95) p95
  higher : RoundsUp (exactPercentile samples 99) p99
  ordered : p50 ≤ p95 ∧ p95 ≤ p99 ∧ p99 ≤ max
  largest : max ∈ samples ∧ ∀ value ∈ samples, value ≤ max

/-- **Reported percentiles are sound**, and both classes report the same. -/
theorem percentiles_sound {samples samples' : List Nat} (hne : samples ≠ [])
    (hbound : ∀ value ∈ samples, value ≤ representableUpperBound)
    (hcount : samples.length < 2 ^ 57) (hperm : samples'.Perm samples) :
    let histogram := (samples.foldl LatencyHistogram.record {}).snapshot
    let distribution := (samples'.foldl Distribution.record {}).snapshot
    Reports samples histogram.p50 histogram.p95 histogram.p99 histogram.max ∧
      distribution =
        { sampleCount := histogram.count, p50 := histogram.p50, p95 := histogram.p95
          p99 := histogram.p99, max := histogram.max } := by
  have hne' : samples' ≠ [] := by
    rintro rfl
    exact hne hperm.nil_eq.symm
  have hcount' : samples'.length < 2 ^ 57 := by rwa [hperm.length_eq]
  intro histogram distribution
  have hhistogram : histogram = _ := histogram_snapshot hne hcount
  have hdistribution : distribution = _ := distribution_snapshot hne' hcount'
  rw [hdistribution, hhistogram, hperm.length_eq, largest_perm hne hperm]
  simp only [reported_perm hne hperm, and_true]
  exact
    { median := reported_roundsUp hne hbound (by decide) (by decide)
      high := reported_roundsUp hne hbound (by decide) (by decide)
      higher := reported_roundsUp hne hbound (by decide) (by decide)
      ordered := ⟨reported_mono hne (by decide) (by decide) (by decide),
        reported_mono hne (by decide) (by decide) (by decide), min_le_right _ _⟩
      largest := ⟨largest_mem hne, fun _ => le_largest⟩ }

/-- Three samples, of which the second is reported as the end of its bucket. -/
theorem percentiles_sound_three :
    exactPercentile [1000, 3, 70000] 50 = 1000 ∧
    ([1000, 3, 70000].foldl LatencyHistogram.record {}).snapshot.p50 = 1023 ∧
    Reports [1000, 3, 70000]
      ([1000, 3, 70000].foldl LatencyHistogram.record {}).snapshot.p50
      ([1000, 3, 70000].foldl LatencyHistogram.record {}).snapshot.p95
      ([1000, 3, 70000].foldl LatencyHistogram.record {}).snapshot.p99
      ([1000, 3, 70000].foldl LatencyHistogram.record {}).snapshot.max :=
  ⟨by decide +kernel, by decide +kernel,
    (percentiles_sound (by decide) (by decide) (by decide)
      (List.Perm.swap 1000 3 [70000])).1⟩

end Snf.Runtime
