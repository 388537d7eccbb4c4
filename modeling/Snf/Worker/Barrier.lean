import Mathlib

/-! # The quiescence barrier word

`WorkerQuiescenceBarrier` packs the quiescent bits of at most 32 workers, a 30-bit
publication epoch and two flags into one atomic 64-bit word. Its operations are
loops over `compare_exchange_weak`, each of which takes effect in one atomic step:
the exchange that succeeds, or the load after which it returns. The model is the
function from the old word to the new one.

The second half reads the operations off the word: `quiescent`, `epoch`, `armed`
and `aborted`, and what each operation does to them.
-/

namespace Snf.Worker

abbrev BarrierWord := BitVec 64

namespace BarrierWord

def maskBits : BarrierWord := 0xFFFFFFFF#64
def maxEpoch : BarrierWord := 0x3FFFFFFF#64
def epochShift : Nat := 32
def epochMask : BarrierWord := maxEpoch <<< epochShift
def armedBit : BarrierWord := BitVec.twoPow 64 62
def abortedBit : BarrierWord := BitVec.twoPow 64 63

/-- The mask with the bits of all workers. -/
def fullMask (workerCount : Nat) : BarrierWord :=
  if workerCount = 32 then 0xFFFFFFFF#64 else BitVec.twoPow 64 workerCount - 1#64

/-- The epoch bits of the word. -/
def epochBits (w : BarrierWord) : BarrierWord := (w >>> epochShift) &&& maxEpoch

def arm (curr : BarrierWord) : BarrierWord := (curr &&& (epochMask ||| abortedBit)) ||| armedBit

/-- The early return of the operations: the barrier is not armed, or aborted. -/
def idle (curr : BarrierWord) : Bool := curr &&& armedBit == 0 || curr &&& abortedBit != 0

def notePublished (curr : BarrierWord) (target : Nat) : BarrierWord :=
  if curr.idle then curr
  else if curr.epochBits ≥ maxEpoch then curr ||| abortedBit
  else
    ((curr &&& maskBits) &&& ~~~(BitVec.twoPow 64 target)) |||
      ((curr.epochBits + 1) <<< epochShift) ||| (curr &&& (armedBit ||| abortedBit))

def markActive (curr : BarrierWord) (me : Nat) : BarrierWord :=
  if curr.idle then curr
  else if curr &&& BitVec.twoPow 64 me == 0 then curr
  else curr &&& ~~~(BitVec.twoPow 64 me)

/-- The new word, or `none` where the source returns `false`. -/
def tryMarkQuiescent (curr : BarrierWord) (me : Nat) (observedEpoch : BarrierWord) :
    Option BarrierWord :=
  if curr.idle then none
  else if curr.epochBits ≠ observedEpoch then none
  else some (curr ||| BitVec.twoPow 64 me)

structure Snapshot where
  armed : Bool
  allQuiescent : Bool
  aborted : Bool
  epoch : BarrierWord
deriving DecidableEq, Repr

def snapshot (curr : BarrierWord) (workerCount : Nat) : Snapshot where
  armed := curr &&& armedBit != 0
  allQuiescent := curr &&& armedBit != 0 && !(curr &&& abortedBit != 0) &&
    curr &&& maskBits == fullMask workerCount
  aborted := curr &&& abortedBit != 0
  epoch := curr.epochBits

def abort (curr : BarrierWord) : BarrierWord := curr ||| abortedBit

/-! ## Reading the word -/

def quiescent (w : BarrierWord) (i : Nat) : Bool := w.getLsbD i
def armed (w : BarrierWord) : Bool := w.getLsbD 62
def aborted (w : BarrierWord) : Bool := w.getLsbD 63
def epoch (w : BarrierWord) : Nat := w.epochBits.toNat

theorem and_twoPow_eq_zero (w : BarrierWord) {k : Nat} (hk : k < 64) :
    w &&& BitVec.twoPow 64 k = 0 ↔ w.getLsbD k = false := by
  rw [BitVec.and_twoPow]
  constructor
  · intro h
    by_contra hne
    rw [if_pos (by simpa using hne)] at h
    have := congrArg (·.getLsbD k) h
    simp [hk] at this
  · intro h
    simp [h]

theorem idle_eq (w : BarrierWord) : w.idle = (!w.armed || w.aborted) := by
  unfold idle armed aborted armedBit abortedBit
  have h1 := and_twoPow_eq_zero w (k := 62) (by decide)
  have h2 := and_twoPow_eq_zero w (k := 63) (by decide)
  cases ha : w.getLsbD 62 <;> cases hb : w.getLsbD 63 <;> simp_all

theorem getLsbD_maskBits (k : Nat) : maskBits.getLsbD k = decide (k < 32) := by
  have h : maskBits = BitVec.ofNat 64 (2 ^ 32 - 1) := rfl
  rw [h, BitVec.getLsbD_ofNat, Nat.testBit_two_pow_sub_one]
  by_cases hk : k < 32
  · simp [hk]; omega
  · simp [hk]

theorem getLsbD_maxEpoch (k : Nat) : maxEpoch.getLsbD k = decide (k < 30) := by
  have h : maxEpoch = BitVec.ofNat 64 (2 ^ 30 - 1) := rfl
  rw [h, BitVec.getLsbD_ofNat, Nat.testBit_two_pow_sub_one]
  by_cases hk : k < 30
  · simp [hk]; omega
  · simp [hk]

theorem getLsbD_epochBits (w : BarrierWord) (k : Nat) :
    w.epochBits.getLsbD k = (decide (k < 30) && w.getLsbD (32 + k)) := by
  simp only [epochBits, epochShift, BitVec.getLsbD_and, BitVec.getLsbD_ushiftRight,
    getLsbD_maxEpoch]
  exact Bool.and_comm _ _

/-- Words that agree on the epoch bits have the same epoch. -/
theorem epochBits_congr {v w : BarrierWord}
    (h : ∀ k, k < 30 → v.getLsbD (32 + k) = w.getLsbD (32 + k)) : v.epochBits = w.epochBits := by
  refine BitVec.eq_of_getLsbD_eq fun k _ => ?_
  rw [getLsbD_epochBits, getLsbD_epochBits]
  by_cases hk : k < 30
  · simp [hk, h k hk]
  · simp [hk]

theorem epoch_le (w : BarrierWord) : w.epoch ≤ 2 ^ 30 - 1 := by
  have h : w.epochBits ≤ maxEpoch := by
    unfold epochBits
    exact BitVec.le_def.2 (by rw [BitVec.toNat_and]; exact Nat.and_le_right)
  simpa [epoch, maxEpoch, BitVec.le_def] using h

/-! ## The operations on the readings -/

/-- The barrier takes part: armed and not aborted. -/
structure Live (w : BarrierWord) : Prop where
  armed : w.armed = true
  aborted : w.aborted = false

theorem Live.idle_eq_false {w : BarrierWord} (h : w.Live) : w.idle = false := by
  rw [idle_eq, h.armed, h.aborted]
  rfl

theorem live_iff {w : BarrierWord} : w.Live ↔ w.idle = false := by
  rw [idle_eq]
  constructor
  · exact fun h => by rw [h.armed, h.aborted]; rfl
  · intro h
    simp only [Bool.or_eq_false_iff, Bool.not_eq_false'] at h
    exact ⟨h.1, h.2⟩

theorem notePublished_of_not_live {w : BarrierWord} (h : ¬ w.Live) (target : Nat) :
    w.notePublished target = w := by
  rw [live_iff, Bool.not_eq_false] at h
  simp [notePublished, h]

/-- An exhausted epoch aborts the barrier. -/
theorem notePublished_exhausted {w : BarrierWord} (h : w.Live) (he : w.epoch = 2 ^ 30 - 1)
    (target : Nat) : w.notePublished target = w.abort := by
  have hge : w.epochBits ≥ maxEpoch := by
    rw [ge_iff_le, BitVec.le_def]
    exact he.ge
  simp [notePublished, h.idle_eq_false, hge, abort]

section NotePublished

variable {w : BarrierWord} (h : w.Live) (he : w.epoch < 2 ^ 30 - 1)
include h he

theorem notePublished_eq (target : Nat) :
    w.notePublished target = ((w &&& maskBits) &&& ~~~(BitVec.twoPow 64 target)) |||
      ((w.epochBits + 1) <<< epochShift) ||| (w &&& (armedBit ||| abortedBit)) := by
  have hlt : ¬ w.epochBits ≥ maxEpoch := by
    rw [ge_iff_le, BitVec.le_def, not_le]
    exact he
  simp [notePublished, h.idle_eq_false, hlt]

omit h in
theorem toNat_epochBits_succ : (w.epochBits + 1).toNat = w.epoch + 1 := by
  rw [BitVec.toNat_add, show (1 : BarrierWord).toNat = 1 from rfl]
  exact Nat.mod_eq_of_lt (by unfold epoch at *; omega)

omit h in
/-- The epoch that goes into the word fits its 30 bits. -/
theorem getLsbD_epochBits_succ {k : Nat} (hk : 30 ≤ k) :
    (w.epochBits + 1).getLsbD k = false := by
  rw [← BitVec.testBit_toNat, toNat_epochBits_succ he]
  refine Nat.testBit_lt_two_pow ?_
  calc w.epoch + 1 < 2 ^ 30 := by omega
    _ ≤ 2 ^ k := Nat.pow_le_pow_right (by decide) hk

theorem getLsbD_notePublished (target k : Nat) (hk : k < 64) :
    (w.notePublished target).getLsbD k =
      (w.getLsbD k && decide (k < 32) && !decide (target = k) ||
        !decide (k < 32) && (w.epochBits + 1).getLsbD (k - 32) ||
        w.getLsbD k && (decide (k = 62) || decide (k = 63))) := by
  rw [notePublished_eq h he]
  simp only [epochShift, armedBit, abortedBit, BitVec.getLsbD_or, BitVec.getLsbD_and,
    BitVec.getLsbD_not, BitVec.getLsbD_shiftLeft, BitVec.getLsbD_twoPow, getLsbD_maskBits, hk,
    decide_true, Bool.true_and]
  have h62 : decide (62 = k) = decide (k = 62) := by simp [eq_comm]
  have h63 : decide (63 = k) = decide (k = 63) := by simp [eq_comm]
  rw [h62, h63]
  by_cases ht : target = k
  · subst ht; simp [hk]
  · simp [ht]

theorem quiescent_notePublished (target : Nat) {i : Nat} (hi : i < 32) :
    (w.notePublished target).quiescent i = (w.quiescent i && !decide (target = i)) := by
  have h1 : i ≠ 62 := by omega
  have h2 : i ≠ 63 := by omega
  rw [quiescent, getLsbD_notePublished h he target i (by omega)]
  simp [hi, h1, h2, quiescent]

theorem live_notePublished (target : Nat) : (w.notePublished target).Live := by
  have h62 := getLsbD_epochBits_succ he (k := 30) le_rfl
  have h63 := getLsbD_epochBits_succ he (k := 31) (by decide)
  have ha := h.armed
  have hb := h.aborted
  unfold armed at ha
  unfold aborted at hb
  constructor
  · rw [armed, getLsbD_notePublished h he target 62 (by decide), ha, h62]
    simp
  · rw [aborted, getLsbD_notePublished h he target 63 (by decide), hb, h63]
    simp

theorem epoch_notePublished (target : Nat) : (w.notePublished target).epoch = w.epoch + 1 := by
  have hbits : (w.notePublished target).epochBits = w.epochBits + 1 := by
    refine BitVec.eq_of_getLsbD_eq fun k _ => ?_
    rw [getLsbD_epochBits]
    by_cases hk : k < 30
    · have h0 : ¬ 32 + k < 32 := by omega
      have h1 : 32 + k ≠ 62 := by omega
      have h2 : 32 + k ≠ 63 := by omega
      rw [getLsbD_notePublished h he target (32 + k) (by omega), Nat.add_sub_cancel_left]
      simp [hk, h0, h1, h2]
    · rw [getLsbD_epochBits_succ he (Nat.le_of_not_lt hk)]
      simp [hk]
  rw [epoch, hbits, toNat_epochBits_succ he]

end NotePublished

/-! `markActive` -/

theorem markActive_of_not_live {w : BarrierWord} (h : ¬ w.Live) (me : Nat) :
    w.markActive me = w := by
  rw [live_iff, Bool.not_eq_false] at h
  simp [markActive, h]

theorem getLsbD_markActive {w : BarrierWord} (h : w.Live) {me : Nat} (hme : me < 64) (k : Nat) :
    (w.markActive me).getLsbD k = (w.getLsbD k && !decide (me = k)) := by
  unfold markActive
  rw [if_neg (by simp [h.idle_eq_false])]
  split
  · next hc =>
    have hbit := (and_twoPow_eq_zero w hme).1 (by simpa using hc)
    by_cases hk : me = k
    · subst hk; simp [hbit]
    · simp [hk]
  · by_cases hk : k < 64
    · rw [BitVec.getLsbD_and, BitVec.getLsbD_not, BitVec.getLsbD_twoPow]
      simp only [hk, hme, decide_true, Bool.true_and]
    · simp [BitVec.getLsbD_of_ge w k (Nat.le_of_not_lt hk)]

theorem epoch_markActive (w : BarrierWord) {me : Nat} (hme : me < 32) :
    (w.markActive me).epoch = w.epoch := by
  by_cases h : w.Live
  · rw [epoch, epochBits_congr (w := w) fun k hk => ?_, epoch]
    rw [getLsbD_markActive h (by omega)]
    have : me ≠ 32 + k := by omega
    simp [this]
  · rw [markActive_of_not_live h]

theorem armed_markActive (w : BarrierWord) {me : Nat} (hme : me < 32) :
    (w.markActive me).armed = w.armed := by
  by_cases h : w.Live
  · have hne : me ≠ 62 := by omega
    rw [armed, getLsbD_markActive h (by omega), armed]
    simp [hne]
  · rw [markActive_of_not_live h]

theorem live_markActive {w : BarrierWord} {me : Nat} (hme : me < 32) :
    (w.markActive me).Live ↔ w.Live := by
  by_cases h : w.Live
  · have ha := h.armed
    have hb := h.aborted
    unfold armed at ha
    unfold aborted at hb
    have h62 : me ≠ 62 := by omega
    refine ⟨fun _ => h, fun _ => ⟨?_, ?_⟩⟩
    · rw [armed, getLsbD_markActive h (by omega), ha]
      simp [h62]
    · rw [aborted, getLsbD_markActive h (by omega), hb]
      rfl
  · rw [markActive_of_not_live h]

/-! `tryMarkQuiescent` -/

theorem tryMarkQuiescent_eq_some {v w : BarrierWord} {me : Nat} {observed : BarrierWord}
    (hs : w.tryMarkQuiescent me observed = some v) :
    w.Live ∧ w.epochBits = observed ∧ v = w ||| BitVec.twoPow 64 me := by
  unfold tryMarkQuiescent at hs
  split at hs
  · cases hs
  · next hi =>
    split at hs
    · cases hs
    · next he =>
      simp only [Option.some.injEq] at hs
      exact ⟨live_iff.2 (by simpa using hi), by simpa using he, hs.symm⟩

theorem quiescent_or_twoPow (w : BarrierWord) {me i : Nat} (hi : i < 32) :
    (w ||| BitVec.twoPow 64 me).quiescent i = (w.quiescent i || decide (me = i)) := by
  have h64 : i < 64 := by omega
  by_cases hm : me = i
  · subst hm; simp [quiescent, h64]
  · simp [quiescent, hm]

theorem epoch_or_twoPow (w : BarrierWord) {me : Nat} (hme : me < 32) :
    (w ||| BitVec.twoPow 64 me).epoch = w.epoch := by
  rw [epoch, epochBits_congr (w := w) fun k hk => ?_, epoch]
  have : me ≠ 32 + k := by omega
  simp [this]

theorem live_or_twoPow {w : BarrierWord} (h : w.Live) {me : Nat} (hme : me < 32) :
    (w ||| BitVec.twoPow 64 me).Live := by
  have h63 : me ≠ 63 := by omega
  have ha := h.armed
  have hb := h.aborted
  unfold armed at ha
  unfold aborted at hb
  constructor
  · rw [armed, BitVec.getLsbD_or, ha]
    rfl
  · rw [aborted, BitVec.getLsbD_or, hb, BitVec.getLsbD_twoPow]
    simp [h63]

/-! `snapshot`, `abort` and `arm` -/

theorem aborted_snapshot (w : BarrierWord) (n : Nat) : (w.snapshot n).aborted = w.aborted := by
  have h := and_twoPow_eq_zero w (k := 63) (by decide)
  unfold aborted
  cases hb : w.getLsbD 63 <;> simp_all [snapshot, abortedBit]

theorem getLsbD_fullMask {n : Nat} (hn : n ≤ 32) (i : Nat) :
    (fullMask n).getLsbD i = decide (i < n) := by
  unfold fullMask
  split
  · next he =>
    have := getLsbD_maskBits i
    rw [maskBits] at this
    rw [this, he]
  · have h1 : BitVec.twoPow 64 n - 1#64 = BitVec.ofNat 64 (2 ^ n - 1) := by
      have hp : 1 ≤ 2 ^ n := Nat.one_le_two_pow
      have hlt : 2 ^ n < 2 ^ 64 := Nat.pow_lt_pow_right (by decide) (by omega)
      apply BitVec.eq_of_toNat_eq
      rw [BitVec.toNat_sub, BitVec.toNat_twoPow, BitVec.toNat_ofNat, BitVec.toNat_ofNat,
        Nat.mod_eq_of_lt hlt]
      omega
    rw [h1, BitVec.getLsbD_ofNat, Nat.testBit_two_pow_sub_one]
    by_cases hi : i < n
    · have h64 : i < 64 := by omega
      simp [hi, h64]
    · simp [hi]

/-- What a snapshot says of all workers: the barrier is live, and the bits that are set are
those of the workers. -/
theorem allQuiescent_iff {w : BarrierWord} {n : Nat} (hn : n ≤ 32) :
    (w.snapshot n).allQuiescent = true ↔
      w.Live ∧ ∀ i < 32, w.quiescent i = decide (i < n) := by
  have harmed : w &&& armedBit ≠ 0 ↔ w.armed = true := by
    rw [ne_eq, armedBit, and_twoPow_eq_zero w (by decide), Bool.not_eq_false]
    rfl
  have haborted : w &&& abortedBit = 0 ↔ w.aborted = false := by
    rw [abortedBit, and_twoPow_eq_zero w (by decide)]
    rfl
  have hmask : w &&& maskBits = fullMask n ↔ ∀ i < 32, w.quiescent i = decide (i < n) := by
    constructor
    · intro h i hi
      have hbit := congrArg (·.getLsbD i) h
      simpa [getLsbD_maskBits, getLsbD_fullMask hn, hi, quiescent] using hbit
    · intro h
      refine BitVec.eq_of_getLsbD_eq fun i _ => ?_
      rw [BitVec.getLsbD_and, getLsbD_maskBits, getLsbD_fullMask hn]
      by_cases hi : i < 32
      · simpa [hi, quiescent] using h i hi
      · have hin : ¬ i < n := by omega
        simp [hi, hin]
  simp only [snapshot, Bool.and_eq_true, bne_iff_ne, Bool.not_eq_true', bne_eq_false_iff_eq,
    beq_iff_eq, harmed, haborted, hmask]
  exact ⟨fun ⟨⟨h₁, h₂⟩, h₃⟩ => ⟨⟨h₁, h₂⟩, h₃⟩, fun ⟨⟨h₁, h₂⟩, h₃⟩ => ⟨⟨h₁, h₂⟩, h₃⟩⟩

/-- A snapshot that says so is right: the barrier is live and every worker has its bit. -/
theorem allQuiescent_snapshot {w : BarrierWord} {n : Nat} (hn : n ≤ 32)
    (h : (w.snapshot n).allQuiescent = true) : w.Live ∧ ∀ i < n, w.quiescent i = true := by
  obtain ⟨hl, hbits⟩ := (allQuiescent_iff hn).1 h
  refine ⟨hl, fun i hi => ?_⟩
  rw [hbits i (by omega), decide_eq_true_eq]
  exact hi

theorem armed_arm (w : BarrierWord) : w.arm.armed = true := by
  rw [armed, arm, BitVec.getLsbD_or]
  simp [armedBit]

theorem getLsbD_arm (w : BarrierWord) {k : Nat} (hk : k < 64) (h62 : k ≠ 62) :
    w.arm.getLsbD k = (w.getLsbD k && decide (32 ≤ k)) := by
  have h62' : 62 ≠ k := fun h => h62 h.symm
  simp only [arm, epochMask, epochShift, armedBit, abortedBit, BitVec.getLsbD_or,
    BitVec.getLsbD_and, BitVec.getLsbD_shiftLeft, getLsbD_maxEpoch, BitVec.getLsbD_twoPow, hk,
    decide_true, Bool.true_and]
  by_cases h32 : 32 ≤ k
  · have h32' : ¬ k < 32 := by omega
    by_cases h63 : 63 = k
    · subst h63; simp
    · have h30 : k - 32 < 30 := by omega
      simp [h32, h32', h30, h62']
  · have h32' : k < 32 := by omega
    have h63 : 63 ≠ k := by omega
    simp [h32, h32', h62', h63]

theorem quiescent_arm (w : BarrierWord) {i : Nat} (hi : i < 32) : w.arm.quiescent i = false := by
  rw [quiescent, getLsbD_arm w (by omega) (by omega)]
  simp [hi]

theorem aborted_arm (w : BarrierWord) : w.arm.aborted = w.aborted := by
  rw [aborted, getLsbD_arm w (by decide) (by decide), aborted]
  simp

theorem epoch_arm (w : BarrierWord) : w.arm.epoch = w.epoch := by
  rw [epoch, epochBits_congr (w := w) fun k hk => ?_, epoch]
  rw [getLsbD_arm w (by omega) (by omega)]
  simp

theorem epoch_abort (w : BarrierWord) : w.abort.epoch = w.epoch := by
  rw [epoch, epochBits_congr (w := w) fun k hk => ?_, epoch]
  have : 63 ≠ 32 + k := by omega
  rw [abort, abortedBit, BitVec.getLsbD_or, BitVec.getLsbD_twoPow]
  simp [this]

theorem armed_abort (w : BarrierWord) : w.abort.armed = w.armed := by
  rw [armed, abort, abortedBit, BitVec.getLsbD_or, BitVec.getLsbD_twoPow, armed]
  simp

theorem aborted_abort (w : BarrierWord) : w.abort.aborted = true := by
  simp [abort, aborted, abortedBit]

/-- Either no bit counts after a publication, or the epoch can move on. -/
theorem notePublished_cases (b : BarrierWord) (target : Nat) :
    (¬ (b.notePublished target).Live ∧ (b.notePublished target).epoch = b.epoch ∧
      (b.notePublished target).armed = b.armed ∧
      (b.idle || (b.notePublished target).aborted) = true) ∨
    (b.Live ∧ b.epoch < 2 ^ 30 - 1 ∧ (b.notePublished target).Live) := by
  by_cases hl : b.Live
  · by_cases he : b.epoch < 2 ^ 30 - 1
    · exact .inr ⟨hl, he, live_notePublished hl he target⟩
    · have hmax : b.epoch = 2 ^ 30 - 1 := le_antisymm b.epoch_le (not_lt.1 he)
      rw [notePublished_exhausted hl hmax]
      refine .inl ⟨fun hn => ?_, epoch_abort b, armed_abort b, by rw [aborted_abort, Bool.or_true]⟩
      have hab := hn.aborted
      rw [aborted_abort] at hab
      cases hab
  · rw [notePublished_of_not_live hl]
    refine .inl ⟨hl, rfl, rfl, ?_⟩
    rw [live_iff, Bool.not_eq_false] at hl
    rw [hl, Bool.true_or]

end BarrierWord

end Snf.Worker
