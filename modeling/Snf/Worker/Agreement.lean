import Snf.Worker.Quiescence

/-! # The group agrees on quiescence

A worker that has left phase B through a verified `all_quiescent` does not mark
itself again, so its bit has to stay: a worker that comes later sees
`all_quiescent` only if every bit is set.

Nothing that is left to do can take the bit away, because nothing is left to do.
`requestStop` can: `arm` clears every bit, and the owner, `join` and the destructor
may all call it. A worker whose deadline passes while its own bit is clear, because
poll events have just made it active, does not set it again either. In the runs
without these two the bits of those who have left stay, and the workers that still
wait can leave by steps of their own.
-/

namespace Snf.Worker

open Snf.Lib

/-- Runs without abort in which `requestStop` does not come after the first worker has
left, and from then on no deadline passes for a worker whose bit is clear. -/
def agrees {n : Nat} (s : GroupState n) : GroupAction n → Prop
  | .arm => ∀ i, (s.worker i).phase ≠ .left
  | .abort => False
  | .publish _ | .latePublish _ => s.barrier.epoch < 2 ^ 30 - 1
  | .expire i => (∀ k, (s.worker k).phase ≠ .left) ∨ s.barrier.quiescent i = true
  | _ => True

instance {n : Nat} (s : GroupState n) : DecidablePred (agrees s)
  | .arm => inferInstanceAs (Decidable (∀ i, (s.worker i).phase ≠ .left))
  | .abort => .isFalse id
  | .publish _ | .latePublish _ => inferInstanceAs (Decidable (s.barrier.epoch < 2 ^ 30 - 1))
  | .expire i => inferInstanceAs
      (Decidable ((∀ k, (s.worker k).phase ≠ .left) ∨ s.barrier.quiescent i = true))
  | .begin _ | .drain _ | .push _ _ _ | .finish _ _ | .enterPhaseB _ | .settle _ | .pollEvents _
  | .snapshot _ | .scan _ | .reactivate _ | .mark _ | .snapAfter _ | .snapVerify _
  | .lateDrain _ _ | .latePush _ _ =>
    .isTrue trivial

namespace GroupState

variable {n : Nat} {s t : GroupState n} {i : Fin n}

structure Agreed (s : GroupState n) : Prop where
  inv : s.Inv
  aborted : s.barrier.aborted = false
  /-- the bits above those of the workers are never set -/
  mask : ∀ i, n ≤ i → i < 32 → s.barrier.quiescent i = false
  kept : (∃ i, (s.worker i).phase = .left) → ∀ k, (s.worker k).phase.departed = true →
    s.barrier.quiescent k = true

/-- The step leaves the barrier alone and takes nobody out of phase B. -/
structure Stays (s t : GroupState n) : Prop where
  barrier : t.barrier = s.barrier
  phase : ∀ k, (t.worker k).phase.departed = true → (t.worker k).phase = (s.worker k).phase

theorem Stays.ofUpdate {w : WorkerProgress n} (hb : t.barrier = s.barrier)
    (hw : t.worker = Function.update s.worker i w)
    (hp : w.phase.departed = true → w.phase = (s.worker i).phase) : Stays s t where
  barrier := hb
  phase k hk := by
    rw [hw, Function.update_apply] at hk ⊢
    split at hk
    · next he =>
      rw [if_pos he, he]
      exact hp hk
    · next hne => rw [if_neg hne]

theorem Agreed.stays (h : s.Agreed) (ht : t.Inv) (hs : Stays s t) : t.Agreed where
  inv := ht
  aborted := hs.barrier ▸ h.aborted
  mask := hs.barrier ▸ h.mask
  kept := by
    rintro ⟨i, hi⟩ k hk
    rw [hs.barrier]
    have hsi : (s.worker i).phase = .left := by
      rw [← hs.phase i (by rw [hi]; rfl), hi]
    exact h.kept ⟨i, hsi⟩ k (hs.phase k hk ▸ hk)

/-- Worker `i`, which is in phase B, moves on and sets or clears no bit but its own. -/
theorem Agreed.moves (h : s.Agreed) {p : Phase} {b : BarrierWord}
    (ht : Inv { s.setPhase i p with barrier := b })
    (hstay : (s.worker i).phase.departed = false)
    (hab : b.aborted = false) (hbits : ∀ k < 32, k ≠ i.val → b.quiescent k = s.barrier.quiescent k)
    (hp : p.departed = true → b.quiescent i = true ∧
      (p = .left → ∀ k : Fin n, s.barrier.quiescent k = true)) (hn : n ≤ 32) :
    Agreed { s.setPhase i p with barrier := b } where
  inv := ht
  aborted := hab
  mask k hk hlt := by
    have hki : k ≠ i.val := by
      have := i.isLt
      omega
    rw [hbits k hlt hki]
    exact h.mask k hk hlt
  kept := by
    rintro ⟨j, hj⟩ k hk
    by_cases hki : k = i
    · subst hki
      exact (hp (by simpa using hk)).1
    · have hval : k.val ≠ i.val := fun he => hki (Fin.ext he)
      refine (hbits k (by omega) hval).trans ?_
      have hks : (s.worker k).phase.departed = true := by simpa [hki] using hk
      by_cases hji : j = i
      · have hleft : p = .left := by simpa [hji] using hj
        exact (hp (by rw [hleft]; rfl)).2 hleft k
      · exact h.kept ⟨j, by simpa [hji] using hj⟩ k hks

theorem Agreed.ofNobody (ht : t.Inv) (hab : t.barrier.aborted = false)
    (hmask : ∀ i, n ≤ i → i < 32 → t.barrier.quiescent i = false)
    (hnobody : ∀ i, (t.worker i).phase ≠ .left) : t.Agreed :=
  ⟨ht, hab, hmask, fun ⟨i, hi⟩ => absurd hi (hnobody i)⟩

theorem stays_setPhase {p : Phase} (hp : p.departed = false) : Stays s (s.setPhase i p) :=
  .ofUpdate rfl rfl fun h => by rw [show p.departed = true from h] at hp; cases hp

/-! ## Steps -/

theorem stays_begin (ht : s.begin i = some t) : Stays s t := by
  simp only [GroupState.begin] at ht
  split at ht
  · cases ht
  · split at ht
    · obtain rfl := Option.some.inj ht
      exact .ofUpdate rfl rfl fun _ => rfl
    · split at ht
      · cases ht
      · obtain rfl := Option.some.inj ht
        exact .ofUpdate rfl rfl fun _ => rfl
    · cases ht

theorem stays_drain (ht : s.drain i = some t) : Stays s t := by
  simp only [GroupState.drain] at ht
  split at ht
  · cases ht
  · split at ht
    · cases ht
    · obtain rfl := Option.some.inj ht
      exact .ofUpdate rfl rfl fun _ => rfl

theorem stays_push {target : Fin n} {kind : EventKind} (ht : s.push i target kind = some t) :
    Stays s t := by
  simp only [GroupState.push] at ht
  split at ht
  · obtain rfl := Option.some.inj ht
    exact .ofUpdate rfl rfl fun _ => rfl
  · cases ht

theorem stays_finish {work : Work} (ht : s.finish i work = some t) : Stays s t := by
  simp only [GroupState.finish] at ht
  split at ht
  · obtain rfl := Option.some.inj ht
    exact .ofUpdate rfl rfl fun _ => rfl
  · cases ht

theorem stays_enterPhaseB (ht : s.enterPhaseB i = some t) : Stays s t := by
  simp only [GroupState.enterPhaseB] at ht
  split at ht
  · obtain rfl := Option.some.inj ht
    exact .ofUpdate rfl rfl (fun h => by cases h)
  · cases ht

theorem stays_settle (ht : s.settle i = some t) : Stays s t := by
  simp only [GroupState.settle] at ht
  split at ht
  · obtain rfl := Option.some.inj ht
    exact stays_setPhase rfl
  · cases ht

theorem stays_snapshot (hab : s.barrier.aborted = false) (ht : s.snapshot i = some t) :
    Stays s t := by
  unfold GroupState.snapshot at ht
  split at ht
  · obtain rfl := Option.some.inj ht
    rw [BarrierWord.aborted_snapshot, hab, if_neg (by decide)]
    exact stays_setPhase rfl
  · cases ht

theorem stays_scan (ht : s.scan i = some t) : Stays s t := by
  unfold GroupState.scan at ht
  split at ht
  · obtain rfl := Option.some.inj ht
    split
    · exact stays_setPhase rfl
    · exact stays_setPhase rfl
  · cases ht

theorem stays_snapAfter (hab : s.barrier.aborted = false) (ht : s.snapAfter i = some t) :
    Stays s t := by
  unfold GroupState.snapAfter at ht
  split at ht
  · obtain rfl := Option.some.inj ht
    rw [BarrierWord.aborted_snapshot, hab, if_neg (by decide)]
    split
    · exact stays_setPhase rfl
    · exact stays_setPhase rfl
  · cases ht

theorem stays_lateDrain {owner : Fin n} (ht : s.lateDrain i owner = some t) : Stays s t := by
  simp only [GroupState.lateDrain] at ht
  split at ht
  · split at ht
    · cases ht
    · obtain rfl := Option.some.inj ht
      exact .ofUpdate rfl rfl fun _ => rfl
  · cases ht

theorem stays_latePush {accepted : Bool} (ht : s.latePush i accepted = some t) : Stays s t := by
  simp only [GroupState.latePush] at ht
  split at ht
  · split at ht
    · obtain rfl := Option.some.inj ht
      exact .ofUpdate rfl rfl fun _ => rfl
    · obtain rfl := Option.some.inj ht
      exact .ofUpdate rfl rfl fun _ => rfl
  · cases ht

/-- Poll events and a scan that finds work clear the bit of a worker that has not left. -/
theorem Agreed.markActive (h : s.Agreed) (hn : n ≤ 32)
    (hrest : (s.worker i).phase.atRest = true) (hstay : (s.worker i).phase.departed = false) :
    Agreed { s.setPhase i .active with barrier := s.barrier.markActive i } := by
  have hi : (i : Nat) < 32 := by omega
  by_cases hl : s.barrier.Live
  · refine h.moves (h.inv.markActive hn hrest hstay) hstay
      ((BarrierWord.live_markActive hi).2 hl).aborted ?_ nofun hn
    intro k _ hki
    rw [BarrierWord.quiescent, BarrierWord.getLsbD_markActive hl (by omega)]
    simp [BarrierWord.quiescent, hki.symm]
  · have hsame := BarrierWord.markActive_of_not_live hl i.val
    refine h.moves (h.inv.markActive hn hrest hstay) hstay
      (by rw [hsame]; exact h.aborted) ?_ nofun hn
    intro k _ _
    rw [hsame]

theorem Agreed.mark (h : s.Agreed) (hn : n ≤ 32) (ht : s.mark i = some t) : t.Agreed := by
  have hinv := h.inv.mark hn ht
  unfold GroupState.mark at ht
  split at ht
  · next epoch hw =>
    have hi : (i : Nat) < 32 := by omega
    split at ht
    · obtain rfl := Option.some.inj ht
      exact h.stays hinv (stays_setPhase rfl)
    · next next hm =>
      obtain rfl := Option.some.inj ht
      obtain ⟨hl, -, rfl⟩ := BarrierWord.tryMarkQuiescent_eq_some hm
      refine h.moves hinv (by rw [hw]; rfl) (BarrierWord.live_or_twoPow hl hi).aborted ?_ nofun hn
      intro k hk hki
      rw [BarrierWord.quiescent_or_twoPow _ hk]
      simp [hki.symm]
  · cases ht

/-- The worker that verifies `all_quiescent` leaves every bit behind. -/
theorem Agreed.snapVerify (h : s.Agreed) (hn : n ≤ 32) (ht : s.snapVerify i = some t) :
    t.Agreed := by
  have hinv := h.inv.snapVerify hn ht
  unfold GroupState.snapVerify at ht
  split at ht
  · next epoch hw =>
    obtain rfl := Option.some.inj ht
    split at hinv
    · next hall =>
      rw [if_pos hall]
      simp only [Bool.and_eq_true] at hall
      obtain ⟨-, hq⟩ := BarrierWord.allQuiescent_snapshot hn hall.1.1
      exact h.moves hinv (by rw [hw]; rfl) h.aborted (fun _ _ _ => rfl)
        (fun _ => ⟨hq i i.isLt, fun _ k => hq k k.isLt⟩) hn
    · next hall =>
      rw [if_neg hall]
      exact h.stays hinv (stays_setPhase rfl)
  · cases ht

theorem Agreed.expire (h : s.Agreed) (hn : n ≤ 32) (hg : agrees s (.expire i))
    (ht : s.expire i = some t) : t.Agreed := by
  have hinv := h.inv.expire ht
  simp only [GroupState.expire] at ht
  split at ht
  · next hc =>
    obtain rfl := Option.some.inj ht
    rcases hg with hnobody | hbit
    · refine .ofNobody hinv h.aborted h.mask fun k => ?_
      rw [setPhase_phase]
      split
      · intro h
        cases h
      · exact hnobody k
    · exact h.moves hinv (by rcases hc.2 with hp | hp <;> (rw [hp]; rfl)) h.aborted
        (fun _ _ _ => rfl) (fun _ => ⟨hbit, (fun h => by cases h)⟩) hn
  · cases ht

/-- A publication comes before anybody has left. -/
theorem Agreed.notePublished (h : s.Agreed) (ht : t.Inv) {target : Fin n}
    (he : s.barrier.epoch < 2 ^ 30 - 1) (hb : t.barrier = s.barrier.notePublished target)
    (hp : ∀ k, (t.worker k).phase = (s.worker k).phase)
    (hnobody : ∀ k, (s.worker k).phase ≠ .left) : t.Agreed := by
  by_cases hl : s.barrier.Live
  · refine .ofNobody ht (hb ▸ (BarrierWord.live_notePublished hl he target).aborted) ?_
      fun k => (hp k).symm ▸ hnobody k
    intro k hk hlt
    rw [hb, BarrierWord.quiescent_notePublished hl he target hlt, h.mask k hk hlt]
    rfl
  · have hsame := BarrierWord.notePublished_of_not_live hl target.val
    exact .ofNobody ht (by rw [hb, hsame]; exact h.aborted)
      (by rw [hb, hsame]; exact h.mask) fun k => (hp k).symm ▸ hnobody k

theorem Agreed.publish (h : s.Agreed) (hn : n ≤ 32) (he : s.barrier.epoch < 2 ^ 30 - 1)
    (ht : s.publish i = some t) : t.Agreed := by
  have hinv := h.inv.publish hn ht
  simp only [GroupState.publish] at ht
  split at ht
  · cases ht
  · next target kind hpub =>
    obtain rfl := Option.some.inj ht
    refine h.notePublished hinv he rfl (fun k => ?_) fun k hk => ?_
    · simp only [GroupState.setWorker, Function.update_apply]
      split
      · next hki => rw [hki]
      · rfl
    · rw [(h.inv.left k hk).1.publishing i] at hpub
      cases hpub

theorem Agreed.latePublish (h : s.Agreed) (hn : n ≤ 32) (he : s.barrier.epoch < 2 ^ 30 - 1)
    (ht : s.latePublish i = some t) : t.Agreed := by
  have hinv := h.inv.latePublish hn ht
  simp only [GroupState.latePublish] at ht
  split at ht
  · next owner hpushed =>
    obtain rfl := Option.some.inj ht
    refine h.notePublished hinv he rfl (phase_of_late rfl) fun k hk => ?_
    rw [(h.inv.left k hk).2 i] at hpushed
    cases hpushed
  · cases ht

theorem Agreed.arm (h : s.Agreed) (hn : n ≤ 32) (hg : agrees s .arm) :
    Agreed { s with barrier := s.barrier.arm } :=
  .ofNobody (h.inv.arm hn) ((BarrierWord.aborted_arm _).trans h.aborted)
    (fun _ _ hlt => BarrierWord.quiescent_arm _ hlt) hg

theorem Agreed.step (h : s.Agreed) (hn : n ≤ 32) {a : GroupAction n} (hg : agrees s a)
    (ht : s.step a = some t) : t.Agreed := by
  have hinv := h.inv.step hn ht
  cases a with
  | arm => obtain rfl := Option.some.inj ht; exact h.arm hn hg
  | abort => exact hg.elim
  | begin i => exact h.stays hinv (stays_begin ht)
  | drain i => exact h.stays hinv (stays_drain ht)
  | push i target kind => exact h.stays hinv (stays_push ht)
  | publish i => exact h.publish hn hg ht
  | finish i work => exact h.stays hinv (stays_finish ht)
  | enterPhaseB i => exact h.stays hinv (stays_enterPhaseB ht)
  | settle i => exact h.stays hinv (stays_settle ht)
  | pollEvents i =>
    simp only [GroupState.step, GroupState.pollEvents] at ht
    split at ht
    · next hw =>
      obtain rfl := Option.some.inj ht
      exact h.markActive hn (by rw [hw]; rfl) (by rw [hw]; rfl)
    · cases ht
  | snapshot i => exact h.stays hinv (stays_snapshot h.aborted ht)
  | scan i => exact h.stays hinv (stays_scan ht)
  | reactivate i =>
    simp only [GroupState.step, GroupState.reactivate] at ht
    split at ht
    · next hw =>
      obtain rfl := Option.some.inj ht
      exact h.markActive hn (by rw [hw]; rfl) (by rw [hw]; rfl)
    · cases ht
  | mark i => exact h.mark hn ht
  | snapAfter i => exact h.stays hinv (stays_snapAfter h.aborted ht)
  | snapVerify i => exact h.snapVerify hn ht
  | expire i => exact h.expire hn hg ht
  | lateDrain i owner => exact h.stays hinv (stays_lateDrain ht)
  | latePush i accepted => exact h.stays hinv (stays_latePush ht)
  | latePublish i => exact h.latePublish hn hg ht

theorem agreed_of_reach (hn : n ≤ 32) (h : (groupMachine n).Reach agrees s) : s.Agreed := by
  refine h.invariant (P := Agreed) ?_ fun _ _ _ _ hs hg hst => hs.step hn hg hst
  rintro _ rfl
  exact .ofNobody inv_init (show BarrierWord.aborted 0 = false by decide) (by simp [BarrierWord.quiescent]) nofun

end GroupState

/-- The steps of the loop of phase B other than handling work: nothing comes from outside. -/
def GroupAction.waiting {n : Nat} : GroupAction n → Bool
  | .settle _ | .snapshot _ | .scan _ | .reactivate _ | .mark _ | .snapAfter _ | .snapVerify _ =>
    true
  | _ => false

namespace GroupState

variable {n : Nat} {s t u : GroupState n} {i : Fin n}

/-- One such step. -/
def Waits (s t : GroupState n) : Prop := ∃ a : GroupAction n, a.waiting = true ∧ s.step a = some t

/-- Nothing is left to do, and the bits of those who are past phase B count. -/
structure Ending (s : GroupState n) : Prop where
  quiet : s.Quiet
  live : s.barrier.Live
  mask : ∀ i, n ≤ i → i < 32 → s.barrier.quiescent i = false
  departed : ∀ k, (s.worker k).phase.departed = true → s.barrier.quiescent k = true

/-- `t` comes from `s` by waiting steps of worker `i`, which takes no other bit away. -/
structure Alone (i : Fin n) (s t : GroupState n) : Prop where
  waits : Relation.ReflTransGen Waits s t
  ending : t.Ending
  others : ∀ k, k ≠ i → (t.worker k).phase = (s.worker k).phase
  bits : ∀ k, k ≠ i.val → s.barrier.quiescent k = true → t.barrier.quiescent k = true
  gone : (t.worker i).phase = .gone → (s.worker i).phase = .gone

theorem Alone.refl (h : s.Ending) : Alone i s s :=
  ⟨.refl, h, fun _ _ => rfl, fun _ _ => id, id⟩

theorem Alone.trans (h : Alone i s t) (h' : Alone i t u) : Alone i s u :=
  ⟨h.waits.trans h'.waits, h'.ending, fun k hk => (h'.others k hk).trans (h.others k hk),
    fun k hki hk => h'.bits k hki (h.bits k hki hk), fun hg => h.gone (h'.gone hg)⟩

theorem Quiet.setPhase {p : Phase} {b : BarrierWord} (h : s.Quiet) (hp : p ≠ .running) :
    Quiet { s.setPhase i p with barrier := b } := by
  refine ⟨h.inbox, by simpa using h.publishing, by simpa using h.work, by simpa using h.busy,
    fun k => ?_⟩
  by_cases hki : k = i
  · simpa [hki] using hp
  · simpa [hki] using h.phase k

/-- One waiting step of worker `i`, with the bits as they are. -/
theorem Ending.alone (h : s.Ending) {a : GroupAction n} {p : Phase} (ha : a.waiting = true)
    (hs : s.step a = some (s.setPhase i p)) (hrun : p ≠ .running) (hgone : p ≠ .gone)
    (hp : p.departed = true → s.barrier.quiescent i = true) : Alone i s (s.setPhase i p) where
  waits := .single ⟨a, ha, hs⟩
  ending := by
    refine ⟨h.quiet.setPhase hrun, h.live, h.mask, fun k hk => ?_⟩
    by_cases hki : k = i
    · rw [hki] at hk ⊢
      exact hp (by simpa using hk)
    · exact h.departed k (by simpa [hki] using hk)
  others k hk := by simp [hk]
  bits _ _ hk := hk
  gone hg := absurd (by simpa using hg) hgone

/-- The worker waits at the head of its loop with its bit set, or is past phase B. -/
structure Settled (s : GroupState n) (i : Fin n) : Prop where
  phase : (s.worker i).phase = .waiting ∨ (s.worker i).phase.departed = true
  bit : s.barrier.quiescent i = true

section Loop

variable (h : s.Ending)
include h

theorem Ending.snapVerify {e : BarrierWord} (hw : (s.worker i).phase = .verifying e)
    (hn : n ≤ 32) :
    ∃ t, Alone i s t ∧ ((t.worker i).phase = .waiting ∨ (t.worker i).phase.departed = true) ∧
      t.barrier = s.barrier ∧
      ((s.barrier.snapshot n).allQuiescent = true → e = s.barrier.epochBits →
        (t.worker i).phase = .left) := by
  have hstep : s.step (.snapVerify i) = some (s.setPhase i
      (if (s.barrier.snapshot n).allQuiescent && (s.barrier.snapshot n).epoch == e &&
        !(s.barrier.snapshot n).aborted then .left else .waiting)) := by
    simp only [GroupState.step, GroupState.snapVerify, hw]
  split at hstep
  · next hc =>
    simp only [Bool.and_eq_true] at hc
    obtain ⟨-, hbits⟩ := BarrierWord.allQuiescent_snapshot hn hc.1.1
    exact ⟨_, h.alone rfl hstep nofun nofun fun _ => hbits i i.isLt, .inr (by simp; rfl),
      rfl, fun _ _ => by simp⟩
  · next hc =>
    refine ⟨_, h.alone rfl hstep nofun nofun nofun, .inl (by simp), rfl, fun hall he => ?_⟩
    refine absurd ?_ hc
    rw [BarrierWord.aborted_snapshot, h.live.aborted, hall, he]
    simp [BarrierWord.snapshot]

theorem Ending.snapAfter (hw : (s.worker i).phase = .marked) (hn : n ≤ 32) :
    ∃ t, Alone i s t ∧ ((t.worker i).phase = .waiting ∨ (t.worker i).phase.departed = true) ∧
      t.barrier = s.barrier ∧
      ((s.barrier.snapshot n).allQuiescent = true → (t.worker i).phase = .left) := by
  have hstep : s.step (.snapAfter i) = some (s.setPhase i
      (if (s.barrier.snapshot n).allQuiescent then .verifying (s.barrier.snapshot n).epoch
        else .waiting)) := by
    simp only [GroupState.step, GroupState.snapAfter, hw, if_true, BarrierWord.aborted_snapshot,
      h.live.aborted, Bool.false_eq_true, if_false]
  split at hstep
  · next hall =>
    have hone := h.alone rfl hstep nofun nofun nofun
    obtain ⟨t, ht, hp, hb, hleft⟩ :=
      hone.ending.snapVerify (i := i) (e := (s.barrier.snapshot n).epoch) (by simp) hn
    exact ⟨t, hone.trans ht, hp, hb, fun _ => hleft hall rfl⟩
  · next hall =>
    exact ⟨_, h.alone rfl hstep nofun nofun nofun, .inl (by simp), rfl,
      fun hc => absurd hc hall⟩

theorem Ending.mark {e : BarrierWord} (hw : (s.worker i).phase = .marking e) (hn : n ≤ 32) :
    ∃ t, Alone i s t ∧ ((t.worker i).phase = .waiting ∨ (t.worker i).phase.departed = true) ∧
      (e = s.barrier.epochBits → t.barrier.quiescent i = true ∧
        ((∀ k, k ≠ i → s.barrier.quiescent k = true) → (t.worker i).phase = .left)) := by
  have hi : (i : Nat) < 32 := by omega
  by_cases he : e = s.barrier.epochBits
  · have hmark : s.barrier.tryMarkQuiescent i e = some (s.barrier ||| BitVec.twoPow 64 i) := by
      rw [BarrierWord.tryMarkQuiescent, h.live.idle_eq_false, he]
      simp
    have hstep : s.step (.mark i) = some { s.setPhase i .marked with
        barrier := s.barrier ||| BitVec.twoPow 64 i } := by
      simp only [GroupState.step, GroupState.mark, hw, hmark]
    have hbits : ∀ k < 32, (s.barrier ||| BitVec.twoPow 64 i).quiescent k =
        (s.barrier.quiescent k || decide (i.val = k)) := fun k hk =>
      BarrierWord.quiescent_or_twoPow _ hk
    have hone : Alone i s { s.setPhase i .marked with
        barrier := s.barrier ||| BitVec.twoPow 64 i } := by
      refine ⟨.single ⟨_, rfl, hstep⟩, ⟨h.quiet.setPhase (fun h => by cases h), ?_, ?_, ?_⟩, ?_, ?_, ?_⟩
      · exact BarrierWord.live_or_twoPow h.live hi
      · intro k hk hlt
        have hki : i.val ≠ k := by
          have := i.isLt
          omega
        rw [hbits k hlt, h.mask k hk hlt]
        simp [hki]
      · intro k hk
        by_cases hki : k = i
        · rw [hki] at hk
          simp [Phase.departed] at hk
        · rw [hbits k (by omega), h.departed k (by simpa [hki] using hk)]
          rfl
      · intro k hk
        simp [hk]
      · intro k _ hk
        by_cases hlt : k < 32
        · rw [hbits k hlt, hk]
          rfl
        · simp only [BarrierWord.quiescent, BitVec.getLsbD_or] at hk ⊢
          rw [hk]
          rfl
      · simp
    obtain ⟨t, ht, hp, hb, hleft⟩ := hone.ending.snapAfter (i := i) (by simp) hn
    refine ⟨t, hone.trans ht, hp, fun _ => ⟨?_, fun hall => hleft ?_⟩⟩
    · rw [hb]
      exact (hbits i hi).trans (by simp)
    · refine (BarrierWord.allQuiescent_iff hn).2 ⟨hone.ending.live, fun k hk => ?_⟩
      by_cases hkn : k < n
      · rw [hbits k hk]
        by_cases hki : i.val = k
        · simp [hki, hkn]
        · have := hall ⟨k, hkn⟩ fun he => hki (congrArg Fin.val he).symm
          simp only at this
          simp [this, hkn]
      · rw [hone.ending.mask k (by omega) hk]
        simp [hkn]
  · have hmark : s.barrier.tryMarkQuiescent i e = none := by
      rw [BarrierWord.tryMarkQuiescent, h.live.idle_eq_false]
      simp [Ne.symm he]
    have hstep : s.step (.mark i) = some (s.setPhase i .waiting) := by
      simp only [GroupState.step, GroupState.mark, hw, hmark]
    exact ⟨_, h.alone rfl hstep (fun h => by cases h) (fun h => by cases h) (fun h => by cases h), .inl (by simp), fun hc => absurd hc he⟩

theorem Ending.scan {e : BarrierWord} (hw : (s.worker i).phase = .scanning e) (hn : n ≤ 32) :
    ∃ t, Alone i s t ∧ ((t.worker i).phase = .waiting ∨ (t.worker i).phase.departed = true) ∧
      (e = s.barrier.epochBits → t.barrier.quiescent i = true ∧
        ((∀ k, k ≠ i → s.barrier.quiescent k = true) → (t.worker i).phase = .left)) := by
  have hstep : s.step (.scan i) = some (s.setPhase i (.marking e)) := by
    simp only [GroupState.step, GroupState.scan, hw, h.quiet.inbox i, h.quiet.work i]
    simp
  have hone := h.alone rfl hstep nofun nofun nofun
  obtain ⟨t, ht, hp, hbit⟩ := hone.ending.mark (i := i) (e := e) (by simp) hn
  exact ⟨t, hone.trans ht, hp, hbit⟩

/-- One round of the loop from its head. -/
theorem Ending.round (hw : (s.worker i).phase = .waiting) (hn : n ≤ 32) :
    ∃ t, Alone i s t ∧ t.Settled i ∧
      ((∀ k, k ≠ i → s.barrier.quiescent k = true) → (t.worker i).phase = .left) := by
  have hstep : s.step (.snapshot i) = some (s.setPhase i (.scanning s.barrier.epochBits)) := by
    simp only [GroupState.step, GroupState.snapshot, hw, if_true, BarrierWord.aborted_snapshot,
      h.live.aborted, Bool.false_eq_true, if_false]
    rfl
  have hone := h.alone rfl hstep nofun nofun nofun
  obtain ⟨t, ht, hp, hbit⟩ := hone.ending.scan (i := i) (e := s.barrier.epochBits) (by simp) hn
  exact ⟨t, hone.trans ht, ⟨hp, (hbit rfl).1⟩, fun hall => (hbit rfl).2 hall⟩

theorem Ending.settle (hw : (s.worker i).phase = .active) :
    ∃ t, Alone i s t ∧ (t.worker i).phase = .waiting := by
  have hwork := h.quiet.work i
  simp only [Work.isEmpty, Bool.and_eq_true, beq_iff_eq] at hwork
  have hstep : s.step (.settle i) = some (s.setPhase i .waiting) := by
    simp only [GroupState.step, GroupState.settle, hw, h.quiet.busy i, h.quiet.inbox i, hwork]
    simp
  exact ⟨_, h.alone rfl hstep (fun h => by cases h) (fun h => by cases h) (fun h => by cases h), by simp⟩

theorem Ending.reactivate (hw : (s.worker i).phase = .reactivating) (hn : n ≤ 32) :
    ∃ t, Alone i s t ∧ (t.worker i).phase = .waiting := by
  have hi : (i : Nat) < 32 := by omega
  have hstep : s.step (.reactivate i) =
      some { s.setPhase i .active with barrier := s.barrier.markActive i } := by
    simp only [GroupState.step, GroupState.reactivate, hw, if_true]
  have hbits : ∀ k, (s.barrier.markActive i).quiescent k =
      (s.barrier.quiescent k && !decide (i.val = k)) :=
    BarrierWord.getLsbD_markActive h.live (by omega)
  have hone : Alone i s { s.setPhase i .active with barrier := s.barrier.markActive i } := by
    refine ⟨.single ⟨_, rfl, hstep⟩, ⟨h.quiet.setPhase nofun, ?_, ?_, ?_⟩, ?_, ?_, ?_⟩
    · exact (BarrierWord.live_markActive hi).2 h.live
    · intro k hk hlt
      rw [hbits k, h.mask k hk hlt]
      rfl
    · intro k hk
      have hki : k ≠ i := by
        rintro rfl
        simp [Phase.departed] at hk
      have hval : i.val ≠ k.val := fun he => hki (Fin.ext he.symm)
      rw [hbits k, h.departed k (by simpa [hki] using hk)]
      simp [hval]
    · intro k hk
      simp [hk]
    · intro k hki hk
      rw [hbits k, hk]
      simp [hki.symm]
    · simp
  obtain ⟨t, ht, hp⟩ := hone.ending.settle (i := i) (by simp)
  exact ⟨t, hone.trans ht, hp⟩

/-- Whatever it is at, the worker comes back to the head of its loop, or leaves. -/
theorem Ending.toHead (hn : n ≤ 32) :
    ∃ t, Alone i s t ∧ ((t.worker i).phase = .waiting ∨ (t.worker i).phase.departed = true) := by
  cases hw : (s.worker i).phase with
  | running => exact absurd hw (h.quiet.phase i)
  | active =>
    obtain ⟨t, ht, hp⟩ := h.settle hw
    exact ⟨t, ht, .inl hp⟩
  | waiting => exact ⟨s, .refl h, .inl hw⟩
  | scanning e =>
    obtain ⟨t, ht, hp, -⟩ := h.scan hw hn
    exact ⟨t, ht, hp⟩
  | reactivating =>
    obtain ⟨t, ht, hp⟩ := h.reactivate hw hn
    exact ⟨t, ht, .inl hp⟩
  | marking e =>
    obtain ⟨t, ht, hp, -⟩ := h.mark hw hn
    exact ⟨t, ht, hp⟩
  | marked =>
    obtain ⟨t, ht, hp, -⟩ := h.snapAfter hw hn
    exact ⟨t, ht, hp⟩
  | verifying e =>
    obtain ⟨t, ht, hp, -⟩ := h.snapVerify hw hn
    exact ⟨t, ht, hp⟩
  | left => exact ⟨s, .refl h, .inr (by rw [hw]; rfl)⟩
  | gone => exact ⟨s, .refl h, .inr (by rw [hw]; rfl)⟩

theorem Ending.settles (hn : n ≤ 32) : ∃ t, Alone i s t ∧ t.Settled i := by
  obtain ⟨t, ht, hp | hp⟩ := h.toHead (i := i) hn
  · obtain ⟨u, hu, hset, -⟩ := ht.ending.round hp hn
    exact ⟨u, ht.trans hu, hset⟩
  · exact ⟨t, ht, .inr hp, ht.ending.departed i hp⟩

end Loop

theorem Settled.alone {k : Fin n} (hk : s.Settled k) (hki : k ≠ i) (h : Alone i s t) :
    t.Settled k :=
  ⟨(h.others k hki).symm ▸ hk.phase, h.bits k (fun he => hki (Fin.ext he)) hk.bit⟩

/-- Every worker in turn sets its bit again. -/
theorem Ending.allSettle (h : s.Ending) (hn : n ≤ 32) (l : List (Fin n)) :
    ∃ t, Relation.ReflTransGen Waits s t ∧ t.Ending ∧ (∀ k ∈ l, t.Settled k) ∧
      ∀ k, (t.worker k).phase = .gone → (s.worker k).phase = .gone := by
  induction l with
  | nil => exact ⟨s, .refl, h, by simp, fun _ => id⟩
  | cons i l ih =>
    obtain ⟨t, ht, hend, hset, hgone⟩ := ih
    obtain ⟨u, hu, hi⟩ := hend.settles (i := i) hn
    refine ⟨u, ht.trans hu.waits, hu.ending, fun k hk => ?_, fun k hk => hgone k ?_⟩
    · by_cases hki : k = i
      · exact hki ▸ hi
      · exact (hset k ((List.mem_cons.1 hk).resolve_left hki)).alone hki hu
    · by_cases hki : k = i
      · rw [hki] at hk ⊢
        exact hu.gone hk
      · rwa [hu.others k hki] at hk

/-- Once all of them have, every worker in turn leaves. -/
theorem Ending.allLeave (h : s.Ending) (hn : n ≤ 32) (hall : ∀ k, s.Settled k)
    (l : List (Fin n)) :
    ∃ t, Relation.ReflTransGen Waits s t ∧ t.Ending ∧ (∀ k, t.Settled k) ∧
      (∀ k ∈ l, (t.worker k).phase.departed = true) ∧
      ∀ k, (t.worker k).phase = .gone → (s.worker k).phase = .gone := by
  induction l with
  | nil => exact ⟨s, .refl, h, hall, by simp, fun _ => id⟩
  | cons i l ih =>
    obtain ⟨t, ht, hend, hset, hdep, hgone⟩ := ih
    rcases (hset i).phase with hp | hp
    · obtain ⟨u, hu, hi, hleft⟩ := hend.round hp hn
      have hleft := hleft fun k _ => (hset k).bit
      refine ⟨u, ht.trans hu.waits, hu.ending, fun k => ?_, fun k hk => ?_, fun k hk => hgone k ?_⟩
      · by_cases hki : k = i
        · exact hki ▸ hi
        · exact (hset k).alone hki hu
      · by_cases hki : k = i
        · rw [hki, hleft]
          rfl
        · rw [hu.others k hki]
          exact hdep k ((List.mem_cons.1 hk).resolve_left hki)
      · by_cases hki : k = i
        · rw [hki] at hk ⊢
          exact hu.gone hk
        · rwa [hu.others k hki] at hk
    · refine ⟨t, ht, hend, hset, fun k hk => ?_, hgone⟩
      rcases List.mem_cons.1 hk with rfl | hk
      · exact hp
      · exact hdep k hk

theorem Agreed.ending (h : s.Agreed) (hi : (s.worker i).phase = .left) : s.Ending where
  quiet := (h.inv.left i hi).1
  live := ⟨h.inv.armed i (by simp [hi]), h.aborted⟩
  mask := h.mask
  departed := h.kept ⟨i, hi⟩

end GroupState

/-- **The group agrees on quiescence.** In every run without abort in which `requestStop`
does not come after the first exit and no deadline passes then for a worker whose bit is
clear: the bit of a worker that has left stays set, and the workers that still wait can
leave through a verified `all_quiescent` by steps of their own, none of them by its
deadline. -/
theorem quiescence_agreed {n : Nat} (hn : n ≤ 32) {s : GroupState n}
    (h : (groupMachine n).Reach agrees s) {i : Fin n} (hi : (s.worker i).phase = .left) :
    s.barrier.quiescent i = true ∧
    ∃ t, Relation.ReflTransGen GroupState.Waits s t ∧
      ∀ k, (t.worker k).phase = .left ∨ (s.worker k).phase = .gone := by
  have hagreed := GroupState.agreed_of_reach hn h
  have hend := hagreed.ending hi
  refine ⟨hend.departed i (by rw [hi]; rfl), ?_⟩
  obtain ⟨t, ht, htend, hset, hgone⟩ := hend.allSettle hn (List.finRange n)
  obtain ⟨u, hu, -, -, hdep, hgone'⟩ :=
    htend.allLeave hn (fun k => hset k (List.mem_finRange k)) (List.finRange n)
  refine ⟨u, ht.trans hu, fun k => ?_⟩
  have hk := hdep k (List.mem_finRange k)
  cases hp : (u.worker k).phase with
  | left => exact .inl rfl
  | gone => exact .inr (hgone k (hgone' k hp))
  | running | active | waiting | scanning | reactivating | marking | marked | verifying =>
    rw [hp] at hk
    cases hk

/-- Three workers: two have settled, the third leaves, and the first follows it. -/
theorem quiescence_agreed_three : ∃ s : GroupState 3, (groupMachine 3).Reach agrees s ∧
    (s.worker 2).phase = .left ∧ (s.worker 0).phase = .waiting ∧
    s.barrier.quiescent 2 = true ∧ ∃ t, Relation.ReflTransGen GroupState.Waits s t ∧
      ∀ k, (t.worker k).phase = .left ∨ (s.worker k).phase = .gone := by
  obtain ⟨s, hs, htest⟩ := (groupMachine 3).exists_reach_of_replay agrees (s := {}) rfl
    [.arm, .enterPhaseB 0, .enterPhaseB 1, .enterPhaseB 2, .arm,
      .settle 0, .snapshot 0, .scan 0, .mark 0, .snapAfter 0,
      .settle 1, .snapshot 1, .scan 1, .mark 1, .snapAfter 1,
      .settle 2, .snapshot 2, .scan 2, .mark 2, .snapAfter 2, .snapVerify 2]
    (fun s => (s.worker 2).phase = .left && (s.worker 0).phase = .waiting) (by decide)
  simp only [Bool.and_eq_true, decide_eq_true_eq] at htest
  exact ⟨s, hs, htest.1, htest.2, quiescence_agreed (by decide) hs htest.1⟩

namespace GroupState

variable {n : Nat} {s t : GroupState n} {i : Fin n}

/-- Worker `i` has left and has lost its bit. -/
structure Disarmed (s : GroupState n) (i : Fin n) : Prop where
  left : (s.worker i).phase = .left
  bit : s.barrier.quiescent i = false

theorem Disarmed.setPhase {k : Fin n} {p : Phase} {b : BarrierWord} (h : s.Disarmed i)
    (hk : (s.worker k).phase ≠ .left) (hp : p ≠ .left) (hb : b.quiescent i = false) :
    Disarmed { s.setPhase k p with barrier := b } i ∧
      ∀ j, ((s.setPhase k p).worker j).phase = .left → (s.worker j).phase = .left := by
  have hik : i ≠ k := by
    rintro rfl
    exact hk h.left
  refine ⟨⟨by simpa [hik] using h.left, hb⟩, fun j hj => ?_⟩
  rw [setPhase_phase] at hj
  split at hj
  · exact absurd hj hp
  · exact hj

/-- Without that bit no waiting step takes anybody out of phase B. -/
theorem Disarmed.waits (h : s.Disarmed i) (hn : n ≤ 32) (hw : Waits s t) :
    t.Disarmed i ∧ ∀ j, (t.worker j).phase = .left → (s.worker j).phase = .left := by
  obtain ⟨a, ha, ht⟩ := hw
  have hactive : ∀ {k : Fin n} {b}, (s.worker k).phase ≠ .left → b = s.barrier.markActive k →
      b.quiescent i = false := by
    rintro k _ - rfl
    by_cases hl : s.barrier.Live
    · rw [BarrierWord.quiescent, BarrierWord.getLsbD_markActive hl (by omega)]
      rw [show s.barrier.getLsbD i = false from h.bit]
      rfl
    · rw [BarrierWord.markActive_of_not_live hl]
      exact h.bit
  cases a with
  | settle k =>
    simp only [GroupState.step, GroupState.settle] at ht
    split at ht
    · next hc =>
      obtain rfl := Option.some.inj ht
      exact h.setPhase (by rw [hc.1]; simp) (fun h => by cases h) h.bit
    · cases ht
  | snapshot k =>
    simp only [GroupState.step, GroupState.snapshot] at ht
    split at ht
    · next hc =>
      obtain rfl := Option.some.inj ht
      exact h.setPhase (by rw [hc]; simp) (by split <;> simp) h.bit
    · cases ht
  | scan k =>
    simp only [GroupState.step, GroupState.scan] at ht
    split at ht
    · next hc =>
      obtain rfl := Option.some.inj ht
      exact h.setPhase (by rw [hc]; simp) (by split <;> simp) h.bit
    · cases ht
  | reactivate k =>
    simp only [GroupState.step, GroupState.reactivate] at ht
    split at ht
    · next hc =>
      obtain rfl := Option.some.inj ht
      have hk : (s.worker k).phase ≠ .left := by
        rw [hc]
        intro h
        cases h
      exact h.setPhase hk (fun h => by cases h) (hactive hk rfl)
    · cases ht
  | mark k =>
    simp only [GroupState.step, GroupState.mark] at ht
    split at ht
    · next hc =>
      have hk : (s.worker k).phase ≠ .left := by
        rw [hc]
        intro h
        cases h
      split at ht
      · obtain rfl := Option.some.inj ht
        exact h.setPhase hk (fun h => by cases h) h.bit
      · next next hm =>
        obtain rfl := Option.some.inj ht
        obtain ⟨-, -, rfl⟩ := BarrierWord.tryMarkQuiescent_eq_some hm
        refine h.setPhase hk (fun h => by cases h) ?_
        have hki : k.val ≠ i.val := fun he => hk ((Fin.ext he : k = i) ▸ h.left)
        rw [BarrierWord.quiescent_or_twoPow _ (by omega), h.bit]
        simp [hki]
    · cases ht
  | snapAfter k =>
    simp only [GroupState.step, GroupState.snapAfter] at ht
    split at ht
    · next hc =>
      obtain rfl := Option.some.inj ht
      refine h.setPhase (by rw [hc]; simp) ?_ h.bit
      split
      · intro h
        cases h
      · split <;> simp
    · cases ht
  | snapVerify k =>
    simp only [GroupState.step, GroupState.snapVerify] at ht
    split at ht
    · next hc =>
      obtain rfl := Option.some.inj ht
      refine h.setPhase (by rw [hc]; simp) ?_ h.bit
      split
      · next hall =>
        simp only [Bool.and_eq_true] at hall
        obtain ⟨-, hq⟩ := BarrierWord.allQuiescent_snapshot hn hall.1.1
        have hset := hq i i.isLt
        rw [h.bit] at hset
        cases hset
      · intro h
        cases h
    · cases ht
  | _ => cases ha

theorem Disarmed.stuck (h : s.Disarmed i) (hn : n ≤ 32) (hw : Relation.ReflTransGen Waits s t) :
    t.Disarmed i ∧ ∀ j, (t.worker j).phase = .left → (s.worker j).phase = .left := by
  induction hw with
  | refl => exact ⟨h, fun _ => id⟩
  | tail _ hstep ih =>
    obtain ⟨hdis, hleft⟩ := ih
    obtain ⟨hdis', hleft'⟩ := hdis.waits hn hstep
    exact ⟨hdis', fun j hj => hleft j (hleft' j hj)⟩

end GroupState

/-- `requestStop` once more, after the second worker has left: its bit is gone, and the
first worker, which has nothing to do, never sees `all_quiescent` again. -/
theorem quiescence_disarmed : ∃ s : GroupState 2, (groupMachine 2).Reach stays s ∧
    (s.worker 1).phase = .left ∧ s.Quiet ∧ s.barrier.aborted = false ∧
    s.barrier.quiescent 1 = false ∧ (s.worker 0).phase = .waiting ∧
    ∀ t, Relation.ReflTransGen GroupState.Waits s t → (t.worker 0).phase ≠ .left := by
  obtain ⟨s, hs, htest⟩ := (groupMachine 2).exists_reach_of_replay stays (s := {}) rfl
    [.arm, .enterPhaseB 0, .enterPhaseB 1,
      .settle 0, .snapshot 0, .scan 0, .mark 0, .snapAfter 0,
      .settle 1, .snapshot 1, .scan 1, .mark 1, .snapAfter 1, .snapVerify 1, .arm]
    (fun s => (s.worker 1).phase = .left && !s.barrier.aborted && !s.barrier.quiescent 1 &&
      (s.worker 0).phase = .waiting) (by decide)
  simp only [Bool.and_eq_true, Bool.not_eq_true', decide_eq_true_eq] at htest
  obtain ⟨⟨⟨hleft, hab⟩, hbit⟩, hwait⟩ := htest
  refine ⟨s, hs, hleft, ((GroupState.inv_of_reach (by decide) hs).left 1 hleft).1, hab, hbit,
    hwait, fun t ht hp => ?_⟩
  have hdis : s.Disarmed 1 := ⟨hleft, hbit⟩
  have := (hdis.stuck (by decide) ht).2 0 hp
  rw [hwait] at this
  cases this

end Snf.Worker
