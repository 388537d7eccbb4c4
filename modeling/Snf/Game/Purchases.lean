import Snf.Game.PlayerRuns

/-! # Purchases

Each purchase of an activation is decided once for its key: a later one with the same key is
answered from the evidence or is a conflict. What the Player owns is what it was restored with
and what the purchases that went through have changed.
-/

namespace Snf.Game

open Snf.Lib

/-! ## Products -/

namespace ProductReward

def items : ProductReward → Nat
  | .addPurchasedItemCount count => count.toNat
  | .addOwnedSkill _ => 0

def skills : ProductReward → List SkillId
  | .addPurchasedItemCount _ => []
  | .addOwnedSkill skill => [skill]

end ProductReward

def priceOf (product : ProductId) : Nat :=
  ((findProduct product).map (·.price.toNat)).getD 0

def itemsOf (product : ProductId) : Nat := ((findProduct product).map (·.reward.items)).getD 0

def skillsOf (product : ProductId) : List SkillId :=
  ((findProduct product).map (·.reward.skills)).getD []

/-! ## One purchase -/

namespace SkillLoadout

theorem mem_addOwnedSkillId {l l' : SkillLoadout} {skill : SkillId}
    (h : l.addOwnedSkillId skill = (.added, l')) (k : SkillId) :
    k ∈ l'.owned ↔ k ∈ l.owned ∨ k = skill := by
  unfold addOwnedSkillId at h
  split at h
  · split at h
    · cases h
    · cases h
      rw [List.mem_orderedInsert, or_comm]
  · cases h

theorem owned_equipSkillId (l : SkillLoadout) (skill : SkillId) :
    (l.equipSkillId skill).2.owned = l.owned := by
  unfold equipSkillId
  repeat' split
  all_goals rfl

end SkillLoadout

namespace Player

/-- The price was paid and the reward was given. -/
structure Bought (definition : ProductDefinition) (before : PlayerState) (balance items : UInt64)
    (loadout : SkillLoadout) : Prop where
  balance : balance.toNat + definition.price.toNat = before.currencyBalance.toNat
  items : items.toNat = before.purchasedItemCount.toNat + definition.reward.items
  skills : ∀ skill, skill ∈ loadout.owned ↔
    skill ∈ before.skillLoadout.owned ∨ skill ∈ definition.reward.skills

theorem toNat_sub_add {balance price : UInt64} (h : ¬ balance < price) :
    (balance - price).toNat + price.toNat = balance.toNat := by
  have hle : price ≤ balance := UInt64.not_lt.1 h
  rw [UInt64.toNat_sub_of_le _ _ hle]
  exact Nat.sub_add_cancel (UInt64.le_iff_toNat_le.1 hle)

theorem toNat_add_of_room {items count : UInt64} (h : ¬ items > maxUInt64 - count) :
    (items + count).toNat = items.toNat + count.toNat := by
  have hmax : maxUInt64.toNat = 2 ^ 64 - 1 := rfl
  have hcount : count ≤ maxUInt64 := by
    rw [UInt64.le_iff_toNat_le, hmax]
    have := count.toNat_lt
    omega
  have hroom := UInt64.le_iff_toNat_le.1 (UInt64.not_lt.1 h)
  rw [UInt64.toNat_sub_of_le _ _ hcount, hmax] at hroom
  have := UInt64.le_iff_toNat_le.1 hcount
  rw [UInt64.toNat_add, Nat.mod_eq_of_lt]
  omega

theorem bought_of_applyReward {definition : ProductDefinition} {before : PlayerState}
    {balance items : UInt64} {loadout : SkillLoadout} {changed : Bool}
    (h : applyReward definition before.currencyBalance before.purchasedItemCount
      before.skillLoadout = (.committed, balance, items, loadout, changed)) :
    Bought definition before balance items
      (if changed then loadout else before.skillLoadout) := by
  unfold applyReward at h
  split at h
  · next count hreward =>
    split at h
    · cases h
    · next hfunds =>
      split at h
      · cases h
      · next hroom =>
        cases h
        refine ⟨toNat_sub_add hfunds, ?_, ?_⟩
        · rw [hreward]
          exact toNat_add_of_room hroom
        · simp [hreward, ProductReward.skills]
  · next skill hreward =>
    split at h
    · cases h
    · cases h
    · next next hadded =>
      split at h
      · cases h
      · next hfunds =>
        cases h
        refine ⟨toNat_sub_add hfunds, ?_, ?_⟩
        · rw [hreward]
          rfl
        · intro k
          rw [if_pos rfl, SkillLoadout.mem_addOwnedSkillId hadded, hreward]
          simp [ProductReward.skills]

/-- **What a purchase does.** It is answered from the evidence, or it is refused, or its result
becomes the evidence of its key. -/
inductive Purchased (p : Player) (key : PurchaseIdempotencyKey) (product : ProductId) :
    PurchaseTransactionResult → Player → Prop where
  | replayed {e : PurchaseEvidence} {result : PurchaseTransactionResult} :
      p.purchaseEvidence.lookup key = some e → e.product = product →
      result.status = e.result.status → result.replayed = true → Purchased p key product result p
  | conflict {e : PurchaseEvidence} {result : PurchaseTransactionResult} :
      p.purchaseEvidence.lookup key = some e → e.product ≠ product →
      result.status = .idempotencyConflict → Purchased p key product result p
  | refused {result : PurchaseTransactionResult} :
      p.purchaseEvidence.lookup key = none → result.status ≠ .committed →
      Purchased p key product result p
  | declined {result : PurchaseTransactionResult} :
      p.purchaseEvidence.lookup key = none →
      p.purchaseEvidence.entries.length < p.maxPurchaseIdempotencyRecords →
      result.idempotencyKey = key → result.product = product → result.replayed = false →
      result.status ≠ .committed →
      Purchased p key product result
        { p with purchaseEvidence := p.purchaseEvidence.insert key ⟨product, result⟩ }
  | bought {definition : ProductDefinition} {result : PurchaseTransactionResult}
      {balance items : UInt64} {loadout : SkillLoadout} {changed : Bool} :
      p.purchaseEvidence.lookup key = none →
      p.purchaseEvidence.entries.length < p.maxPurchaseIdempotencyRecords →
      result.idempotencyKey = key → result.product = product → result.replayed = false →
      result.status = .committed → findProduct product = some definition →
      Bought definition p.state balance items
        (if changed then loadout else p.state.skillLoadout) →
      Purchased p key product result
        { p with
          purchaseEvidence := p.purchaseEvidence.insert key ⟨product, result⟩
          state := { p.state with
            currencyBalance := balance
            purchasedItemCount := items
            skillLoadout := if changed then loadout else p.state.skillLoadout
            dirtyComponents := p.state.dirtyComponents.union
              { economy := true, skills := changed } } }

theorem purchased (p : Player) (player : PlayerId) (key : PurchaseIdempotencyKey)
    (product : ProductId) :
    Purchased p key product (p.handlePurchase player key product).1
      (p.handlePurchase player key product).2 := by
  unfold handlePurchase
  split
  · next e he =>
    split
    · next hproduct => exact .conflict he hproduct rfl
    · next hproduct => exact .replayed he (not_not.1 hproduct) rfl rfl
  · next hnone =>
    split
    · exact .refused hnone nofun
    · next definition hdefinition =>
      split
      · exact .refused hnone nofun
      · next hroom =>
        rcases hreward : applyReward definition p.state.currencyBalance
          p.state.purchasedItemCount p.state.skillLoadout with
          ⟨status, balance, items, loadout, changed⟩
        dsimp only
        split
        · next hstatus =>
          subst hstatus
          exact .bought hnone (Nat.not_le.1 hroom) rfl rfl rfl rfl hdefinition
            (bought_of_applyReward hreward)
        · next hstatus => exact .declined hnone (Nat.not_le.1 hroom) rfl rfl rfl hstatus

end Player

/-! ## Activations -/

/-- The purchase went through, and not before. -/
def PurchaseTransactionResult.settled (result : PurchaseTransactionResult) : Bool :=
  result.status = .committed && !result.replayed

/-- The purchases that went through. -/
def PlayerRun.settled (s : PlayerRun) : List PurchaseTransactionResult :=
  s.purchases.filter (·.settled)

def PlayerAction.isRestore : PlayerAction → Bool
  | .restore _ => true
  | _ => false

/-- The Player is restored once, at the start of the activation. -/
def sameActivation (_ : PlayerRun) (action : PlayerAction) : Prop := action.isRestore = false

instance (s : PlayerRun) (action : PlayerAction) : Decidable (sameActivation s action) :=
  inferInstanceAs (Decidable (_ = false))

/-- **The books of an activation.** -/
structure Balanced (record : PlayerRecord) (capacity : Nat) (s : PlayerRun) : Prop where
  limit : s.player.maxPurchaseIdempotencyRecords = capacity
  bounded : s.player.purchaseEvidence.entries.length ≤ capacity
  evidence : ∀ key e, s.player.purchaseEvidence.lookup key = some e →
    e.result ∈ s.purchases ∧ e.result.idempotencyKey = key ∧ e.result.product = e.product ∧
      e.result.replayed = false
  kept : ∀ r ∈ s.settled, s.player.purchaseEvidence.lookup r.idempotencyKey = some ⟨r.product, r⟩
  once : (s.settled.map (·.idempotencyKey)).Nodup
  balance : s.player.state.currencyBalance.toNat + (s.settled.map (priceOf ·.product)).sum =
    record.currencyBalance.toNat
  items : s.player.state.purchasedItemCount.toNat =
    record.purchasedItemCount.toNat + (s.settled.map (itemsOf ·.product)).sum
  skills : ∀ skill, skill ∈ s.player.state.skillLoadout.owned ↔
    skill ∈ record.skillLoadout.owned ∨ ∃ r ∈ s.settled, skill ∈ skillsOf r.product

namespace Balanced

variable {record : PlayerRecord} {capacity : Nat} {s s' : PlayerRun} {p : Player}
  {key : PurchaseIdempotencyKey} {product : ProductId} {result : PurchaseTransactionResult}

/-- Nothing that the books speak of has changed. -/
theorem congr (h : Balanced record capacity s)
    (hmax : s'.player.maxPurchaseIdempotencyRecords = s.player.maxPurchaseIdempotencyRecords)
    (hevidence : s'.player.purchaseEvidence = s.player.purchaseEvidence)
    (hbalance : s'.player.state.currencyBalance = s.player.state.currencyBalance)
    (hitems : s'.player.state.purchasedItemCount = s.player.state.purchasedItemCount)
    (howned : s'.player.state.skillLoadout.owned = s.player.state.skillLoadout.owned)
    (hpurchases : s'.purchases = s.purchases) : Balanced record capacity s' := by
  have hsettled : s'.settled = s.settled := congrArg (List.filter _) hpurchases
  refine ⟨hmax.trans h.limit, ?_, ?_, ?_, ?_, ?_, ?_, ?_⟩
  · exact hevidence ▸ h.bounded
  · exact hevidence ▸ hpurchases ▸ h.evidence
  · exact hevidence ▸ hsettled ▸ h.kept
  · exact hsettled ▸ h.once
  · exact hbalance ▸ hsettled ▸ h.balance
  · exact hitems ▸ hsettled ▸ h.items
  · exact howned ▸ hsettled ▸ h.skills

/-- A purchase that did not go through now is noted. -/
theorem note (h : Balanced record capacity s) (hunsettled : result.settled = false) :
    Balanced record capacity { s with purchases := result :: s.purchases } := by
  have hsame : PlayerRun.settled { s with purchases := result :: s.purchases } = s.settled :=
    List.filter_cons_of_neg (by simp [hunsettled])
  refine ⟨h.limit, h.bounded, ?_, ?_, ?_, ?_, ?_, ?_⟩
  · intro key e he
    obtain ⟨hmem, hrest⟩ := h.evidence key e he
    exact ⟨List.mem_cons_of_mem _ hmem, hrest⟩
  all_goals rw [hsame]
  · exact h.kept
  · exact h.once
  · exact h.balance
  · exact h.items
  · exact h.skills

/-- The result of a purchase becomes the evidence of a new key. -/
theorem record_evidence (h : Balanced record capacity s)
    (hnone : s.player.purchaseEvidence.lookup key = none)
    (hroom : s.player.purchaseEvidence.entries.length < s.player.maxPurchaseIdempotencyRecords)
    (hkey : result.idempotencyKey = key) (hproduct : result.product = product)
    (hfirst : result.replayed = false)
    (hevidence : p.purchaseEvidence =
      s.player.purchaseEvidence.insert key ⟨product, result⟩) :
    p.purchaseEvidence.entries.length ≤ capacity ∧
    (∀ k e, p.purchaseEvidence.lookup k = some e →
      e.result ∈ result :: s.purchases ∧ e.result.idempotencyKey = k ∧
        e.result.product = e.product ∧ e.result.replayed = false) ∧
    (∀ r ∈ s.settled, p.purchaseEvidence.lookup r.idempotencyKey = some ⟨r.product, r⟩ ∧
      r.idempotencyKey ≠ key) := by
  rw [hevidence]
  refine ⟨?_, ?_, ?_⟩
  · rw [length_insert_of_none hnone, ← h.limit]
    exact hroom
  · intro k e he
    rw [lookup_insert_ite] at he
    split at he
    · next heq =>
      obtain rfl := Option.some.inj he
      exact ⟨List.mem_cons_self, hkey.trans heq.symm, hproduct, hfirst⟩
    · obtain ⟨hmem, hrest⟩ := h.evidence k e he
      exact ⟨List.mem_cons_of_mem _ hmem, hrest⟩
  · intro r hr
    have hold := h.kept r hr
    have hne : r.idempotencyKey ≠ key := by
      intro heq
      rw [heq, hnone] at hold
      cases hold
    rw [lookup_insert_ite, if_neg hne]
    exact ⟨hold, hne⟩

theorem purchase (h : Balanced record capacity s)
    (hp : Player.Purchased s.player key product result p) :
    Balanced record capacity { s with player := p, purchases := result :: s.purchases } := by
  cases hp with
  | replayed _ _ _ hreplayed =>
    exact h.note (by simp [PurchaseTransactionResult.settled, hreplayed])
  | conflict _ _ hstatus => exact h.note (by simp [PurchaseTransactionResult.settled, hstatus])
  | refused _ hstatus => exact h.note (by simp [PurchaseTransactionResult.settled, hstatus])
  | declined hnone hroom hkey hproduct hfirst hstatus =>
    have hunsettled : result.settled = false := by
      simp [PurchaseTransactionResult.settled, hstatus]
    have hnoted := h.note hunsettled
    obtain ⟨hbounded, hevidence, hkept⟩ := h.record_evidence
      (p := { s.player with
        purchaseEvidence := s.player.purchaseEvidence.insert key ⟨product, result⟩ })
      hnone hroom hkey hproduct hfirst rfl
    have hsame : PlayerRun.settled { s with purchases := result :: s.purchases } = s.settled :=
      List.filter_cons_of_neg (Bool.eq_false_iff.1 hunsettled)
    exact ⟨h.limit, hbounded, hevidence, fun r hr => (hkept r (hsame ▸ hr)).1, hnoted.once,
      hnoted.balance, hnoted.items, hnoted.skills⟩
  | @bought definition _ balance items loadout changed hnone hroom hkey hproduct hfirst hstatus
      hdefinition hbought =>
    obtain ⟨hbounded, hevidence, hkept⟩ := h.record_evidence
      (p := { s.player with
        purchaseEvidence := s.player.purchaseEvidence.insert key ⟨product, result⟩ })
      hnone hroom hkey hproduct hfirst rfl
    have hcons (p : Player) :
        PlayerRun.settled { s with player := p, purchases := result :: s.purchases } =
          result :: s.settled :=
      List.filter_cons_of_pos (by simp [PurchaseTransactionResult.settled, hstatus, hfirst])
    have hprice : priceOf result.product = definition.price.toNat := by
      rw [hproduct, priceOf, hdefinition]
      rfl
    have hgain : itemsOf result.product = definition.reward.items := by
      rw [hproduct, itemsOf, hdefinition]
      rfl
    have hlearnt : skillsOf result.product = definition.reward.skills := by
      rw [hproduct, skillsOf, hdefinition]
      rfl
    refine ⟨h.limit, hbounded, hevidence, ?_, ?_, ?_, ?_, ?_⟩
    all_goals rw [hcons]
    · intro r hr
      rcases List.mem_cons.1 hr with rfl | hr
      · rw [hkey, lookup_insert_ite, if_pos rfl, hproduct]
      · exact (hkept r hr).1
    · rw [List.map_cons, List.nodup_cons]
      refine ⟨?_, h.once⟩
      intro hmem
      obtain ⟨r, hr, heq⟩ := List.mem_map.1 hmem
      exact (hkept r hr).2 (heq.trans hkey)
    · have hsum := h.balance
      have hpaid := hbought.balance
      rw [List.map_cons, List.sum_cons, hprice]
      show balance.toNat + _ = _
      omega
    · have hsum := h.items
      have hgained := hbought.items
      rw [List.map_cons, List.sum_cons, hgain]
      show items.toNat = _
      omega
    · intro skill
      show skill ∈ (if changed then loadout else s.player.state.skillLoadout).owned ↔ _
      rw [hbought.skills, h.skills, List.exists_mem_cons_iff, hlearnt, or_assoc]
      exact or_congr_right or_comm

theorem step (h : Balanced record capacity s) (action : PlayerAction)
    (hsame : action.isRestore = false) : Balanced record capacity (s.step action) := by
  cases action with
  | restore => cases hsame
  | setLastLocation => exact h.congr rfl rfl rfl rfl rfl rfl
  | grantStreetExperience => exact h.congr rfl rfl rfl rfl rfl rfl
  | restoreDirtyComponents => exact h.congr rfl rfl rfl rfl rfl rfl
  | takeDirtySnapshot =>
    simp only [PlayerRun.step]
    split
    · exact h
    · next htake =>
      rcases Player.takeDirtySnapshot_eq htake with ⟨-, rfl⟩ | ⟨_, _, -, -, rfl⟩
      · exact h.congr rfl rfl rfl rfl rfl rfl
      · exact h.congr rfl rfl rfl rfl rfl rfl
    · next htake =>
      rcases Player.takeDirtySnapshot_eq htake with ⟨-, rfl⟩ | ⟨_, _, -, -, rfl⟩
      · exact h.congr rfl rfl rfl rfl rfl rfl
      · exact h.congr rfl rfl rfl rfl rfl rfl
  | handle command =>
    simp only [PlayerRun.step]
    split
    · exact h
    · next result p hhandle =>
      cases Player.handled hhandle with
      | @purchased player key product =>
        exact (h.purchase (Player.purchased s.player player key product)).congr rfl rfl rfl rfl
          rfl rfl
      | equipped hquiet heq =>
        rw [hquiet, heq]
        exact h.congr rfl rfl rfl rfl (SkillLoadout.owned_equipSkillId _ _) rfl
      | other _ hquiet =>
        rw [hquiet]
        exact h.congr rfl rfl rfl rfl rfl rfl

end Balanced

section Runs

variable {record : PlayerRecord} {capacity : Nat} {fresh start : Player} {s : PlayerRun}

theorem balanced_of_reach (hcreate : Player.create (some record.player) capacity = .ok fresh)
    (hrestore : fresh.restore record = .ok start)
    (h : (playerMachine start).Reach sameActivation s) : Balanced record capacity s := by
  refine h.invariant (P := Balanced record capacity) ?_ ?_
  · rintro s rfl
    unfold Player.create at hcreate
    split at hcreate
    · cases hcreate
    · cases hcreate
      unfold Player.restore at hrestore
      split at hrestore
      · cases hrestore
      · cases hrestore
        exact ⟨rfl, Nat.zero_le _, nofun, nofun, .nil, rfl, rfl, by simp [PlayerRun.settled]⟩
  · rintro s action _ - hbalanced hsame ⟨⟩
    exact hbalanced.step action hsame

/-- An action of the activation keeps the evidence of every key. -/
theorem lookup_step (s : PlayerRun) (action : PlayerAction) (hsame : action.isRestore = false)
    {key : PurchaseIdempotencyKey} {e : PurchaseEvidence}
    (he : s.player.purchaseEvidence.lookup key = some e) :
    (s.step action).player.purchaseEvidence.lookup key = some e := by
  cases action with
  | restore => cases hsame
  | setLastLocation => exact he
  | grantStreetExperience => exact he
  | restoreDirtyComponents => exact he
  | takeDirtySnapshot =>
    simp only [PlayerRun.step]
    split
    · exact he
    all_goals
      next htake =>
        rcases Player.takeDirtySnapshot_eq htake with ⟨-, rfl⟩ | ⟨_, _, -, -, rfl⟩
        all_goals exact he
  | handle command =>
    simp only [PlayerRun.step]
    split
    · exact he
    · next hhandle =>
      cases Player.handled hhandle with
      | equipped _ heq => exact heq ▸ he
      | other => exact he
      | @purchased player key' product =>
        have hother : s.player.purchaseEvidence.lookup key' = none → key ≠ key' := by
          rintro hnone rfl
          rw [hnone] at he
          cases he
        have hp := Player.purchased s.player player key' product
        show (s.player.handlePurchase player key' product).2.purchaseEvidence.lookup key = some e
        generalize (s.player.handlePurchase player key' product).1 = result at hp
        generalize (s.player.handlePurchase player key' product).2 = p' at hp ⊢
        cases hp with
        | replayed => exact he
        | conflict => exact he
        | refused => exact he
        | declined hnone => rwa [lookup_insert_ite, if_neg (hother hnone)]
        | bought hnone => rwa [lookup_insert_ite, if_neg (hother hnone)]

/-- **Purchases are decided once, and the books balance.** In every state of an activation, from
any record and with any capacity of evidence: no key has two purchases that went through. The
evidence stays within its capacity and keeps each key with the result that was given first. The
balance is that of the record less the prices paid, the items and the skills are those of the
record and those bought. A purchase with a known key changes nothing but the number of commands:
it gets the first status again, as a replay, or a conflict if it is for another product. And a
purchase that is not Committed leaves balance, items and skills as they are. -/
theorem purchases_decided_once
    (hcreate : Player.create (some record.player) capacity = .ok fresh)
    (hrestore : fresh.restore record = .ok start)
    (h : (playerMachine start).Reach sameActivation s) :
    (∀ key, (s.purchases.countP fun r => r.idempotencyKey = key && r.settled) ≤ 1) ∧
    s.player.purchaseEvidence.entries.length ≤ capacity ∧
    (∀ key e, s.player.purchaseEvidence.lookup key = some e →
      (e.result ∈ s.purchases ∧ e.result.idempotencyKey = key ∧ e.result.product = e.product ∧
        e.result.replayed = false) ∧
      ∀ action, action.isRestore = false →
        (s.step action).player.purchaseEvidence.lookup key = some e) ∧
    s.player.state.currencyBalance.toNat + (s.settled.map (priceOf ·.product)).sum =
      record.currencyBalance.toNat ∧
    s.player.state.purchasedItemCount.toNat =
      record.purchasedItemCount.toNat + (s.settled.map (itemsOf ·.product)).sum ∧
    (∀ skill, skill ∈ s.player.state.skillLoadout.owned ↔
      skill ∈ record.skillLoadout.owned ∨ ∃ r ∈ s.settled, skill ∈ skillsOf r.product) ∧
    ∀ key product result p', s.player.handle (.purchase key product) = .ok (result, p') →
      ∃ answer, result.purchases = [answer] ∧
        (∀ e, s.player.purchaseEvidence.lookup key = some e → p' = s.player.counted ∧
          (e.product = product → answer.status = e.result.status ∧ answer.replayed = true) ∧
          (e.product ≠ product → answer.status = .idempotencyConflict)) ∧
        (answer.status ≠ .committed →
          p'.state.currencyBalance = s.player.state.currencyBalance ∧
          p'.state.purchasedItemCount = s.player.state.purchasedItemCount ∧
          p'.state.skillLoadout = s.player.state.skillLoadout) := by
  have hbooks := balanced_of_reach hcreate hrestore h
  refine ⟨?_, hbooks.bounded, ?_, hbooks.balance, hbooks.items, hbooks.skills, ?_⟩
  · intro key
    have hcount := List.nodup_iff_count_le_one.1 hbooks.once key
    rw [List.count_eq_countP, List.countP_map, PlayerRun.settled, List.countP_filter] at hcount
    simpa only [Function.comp_def, beq_eq_decide] using hcount
  · intro key e he
    exact ⟨hbooks.evidence key e he, fun action hsame => lookup_step s action hsame he⟩
  · intro key product result p' hhandle
    cases Player.handled hhandle with
    | other hnot => exact absurd rfl (hnot key product)
    | @purchased player =>
      have hp := Player.purchased s.player player key product
      generalize (s.player.handlePurchase player key product).1 = answer at hp
      generalize (s.player.handlePurchase player key product).2 = p' at hp
      refine ⟨answer, rfl, ?_, ?_⟩
      · intro e he
        cases hp with
        | replayed he' hproduct hstatus hreplayed =>
          obtain rfl := Option.some.inj (he.symm.trans he')
          exact ⟨rfl, fun _ => ⟨hstatus, hreplayed⟩, fun hne => absurd hproduct hne⟩
        | conflict he' hproduct hstatus =>
          obtain rfl := Option.some.inj (he.symm.trans he')
          exact ⟨rfl, fun heq => absurd heq hproduct, fun _ => hstatus⟩
        | refused hnone => cases hnone.symm.trans he
        | declined hnone => cases hnone.symm.trans he
        | bought hnone => cases hnone.symm.trans he
      · intro hstatus
        cases hp with
        | replayed => exact ⟨rfl, rfl, rfl⟩
        | conflict => exact ⟨rfl, rfl, rfl⟩
        | refused => exact ⟨rfl, rfl, rfl⟩
        | declined => exact ⟨rfl, rfl, rfl⟩
        | bought _ _ _ _ _ hcommitted => exact absurd hcommitted hstatus

end Runs

/-- A purchase, its replay, a conflict and a skill: six hundred have been spent. -/
theorem purchases_decided_once_example :
    ∃ start s, (playerMachine start).Reach sameActivation s ∧
      s.purchases.map (·.status) = [.committed, .idempotencyConflict, .committed, .committed] ∧
      s.player.state.currencyBalance.toNat + 600 = 1000 := by
  let fresh : Player := { state := { identity := some 7 }, maxPurchaseIdempotencyRecords := 2 }
  have hcreate : Player.create (some 7) 2 = .ok fresh := rfl
  have hrestore : fresh.restore { player := 7 } = .ok fresh := rfl
  obtain ⟨s, hs, ht⟩ := (playerMachine fresh).exists_reach_of_replay sameActivation
    (s := { player := fresh }) rfl
    [.handle (.purchase 1 basicProduct), .handle (.purchase 1 basicProduct),
      .handle (.purchase 1 arcaneBoltProduct), .handle (.purchase 2 arcaneBoltProduct)]
    (fun s => s.purchases.map (·.status) =
        [.committed, .idempotencyConflict, .committed, .committed] &&
      (s.settled.map (priceOf ·.product)).sum = 600) (by decide +kernel)
  simp only [Bool.and_eq_true, decide_eq_true_eq] at ht
  have hbooks := purchases_decided_once hcreate hrestore hs
  refine ⟨_, s, hs, ht.1, ?_⟩
  have hbalance := hbooks.2.2.2.1
  rw [ht.2] at hbalance
  exact hbalance

end Snf.Game
