import Mathlib

/-! # Accounts in a history

A history is a list of events. A property holds throughout it if it holds of every event together
with what came before. Events may post to an account: a credit opens it, debits are taken from
it. If no account is opened twice and no debit exceeds the balance, then at every moment the
balance and all debits add up to the credit.
-/

namespace Snf.Lib

universe u

variable {ε : Type u}

/-! ## Histories -/

/-- Each event of the history fits what came before it. -/
def Throughout (Q : List ε → ε → Prop) (H : List ε) : Prop :=
  ∀ past e future, H = past ++ e :: future → Q past e

theorem throughout_nil (Q : List ε → ε → Prop) : Throughout Q [] := by
  intro past e future heq
  cases past <;> cases heq

theorem Throughout.of_append {Q : List ε → ε → Prop} {H new : List ε}
    (h : Throughout Q (H ++ new)) : Throughout Q H := by
  intro past e future heq
  refine h past e (future ++ new) ?_
  rw [heq, List.append_assoc, List.cons_append]

theorem Throughout.concat {Q : List ε → ε → Prop} {H : List ε} {e : ε} (h : Throughout Q H)
    (he : Q H e) : Throughout Q (H ++ [e]) := by
  intro past e' future heq
  rcases List.eq_nil_or_concat' future with rfl | ⟨rest, last, rfl⟩
  · obtain ⟨rfl, hlast⟩ := List.append_inj' heq rfl
    cases hlast
    exact he
  · refine h past e' rest ?_
    rw [← List.cons_append, ← List.append_assoc] at heq
    exact (List.append_inj' heq rfl).1

/-- Events that fit anywhere. -/
theorem Throughout.append {Q : List ε → ε → Prop} {H new : List ε} (h : Throughout Q H)
    (hnew : ∀ e ∈ new, ∀ past, Q past e) : Throughout Q (H ++ new) := by
  induction new using List.reverseRecOn with
  | nil => rwa [List.append_nil]
  | append_singleton new e ih =>
    rw [← List.append_assoc]
    exact (ih fun e he => hnew e (by simp [he])).concat (hnew e (by simp) _)

theorem Throughout.last {Q : List ε → ε → Prop} {H : List ε} {e : ε}
    (h : Throughout Q (H ++ [e])) : Q H e := h H e [] rfl

theorem Throughout.mono {Q Q' : List ε → ε → Prop} {H : List ε} (h : Throughout Q H)
    (hq : ∀ past e, Q past e → Q' past e) : Throughout Q' H :=
  fun past e future heq => hq past e (h past e future heq)

/-! ## Accounts -/

inductive Posting where
  | credit (amount : Nat)
  | debit (amount : Nat)
deriving DecidableEq, Repr

/-- What a posting makes of a balance. -/
def Posting.apply (balance : Option Nat) : Option Posting → Option Nat
  | none => balance
  | some (.credit amount) => some amount
  | some (.debit amount) => balance.map (· - amount)

def Posting.debited : Option Posting → Nat
  | some (.debit amount) => amount
  | _ => 0

variable (posting : ε → Option Posting)

/-- The balance of the account after a history. -/
def balance (H : List ε) : Option Nat := H.foldl (fun b e => Posting.apply b (posting e)) none

/-- All that has been taken from the account. -/
def debits (H : List ε) : Nat := (H.map fun e => Posting.debited (posting e)).sum

theorem balance_concat (H : List ε) (e : ε) :
    balance posting (H ++ [e]) = Posting.apply (balance posting H) (posting e) := by
  simp only [balance, List.foldl_append, List.foldl_cons, List.foldl_nil]

theorem debits_concat (H : List ε) (e : ε) :
    debits posting (H ++ [e]) = debits posting H + Posting.debited (posting e) := by
  simp only [debits, List.map_append, List.map_cons, List.map_nil, List.sum_append, List.sum_cons,
    List.sum_nil, Nat.add_zero]

variable {posting} {H : List ε} {e : ε}

theorem balance_concat_none (h : posting e = none) :
    balance posting (H ++ [e]) = balance posting H := by
  rw [balance_concat, h]
  rfl

/-- An account is opened once, and no debit exceeds its balance. -/
def Covered (posting : ε → Option Posting) (past : List ε) (e : ε) : Prop :=
  match posting e with
  | none => True
  | some (.credit _) => balance posting past = none
  | some (.debit amount) => ∃ b, balance posting past = some b ∧ amount ≤ b

/-- An account without a balance has never been posted to. -/
theorem Throughout.posting_eq_none (h : Throughout (Covered posting) H)
    (hnone : balance posting H = none) : ∀ e ∈ H, posting e = none := by
  induction H using List.reverseRecOn with
  | nil => exact nofun
  | append_singleton H e ih =>
    have hcovered := h.last
    rw [balance_concat] at hnone
    unfold Covered at hcovered
    intro x hx
    cases hposting : posting e with
    | none =>
      rw [hposting] at hnone
      rcases List.mem_append.1 hx with hold | hnew
      · exact ih h.of_append hnone x hold
      · rwa [List.mem_singleton.1 hnew]
    | some posted =>
      rw [hposting] at hnone hcovered
      cases posted with
      | credit amount => cases hnone
      | debit amount =>
        obtain ⟨b, hb, -⟩ := hcovered
        rw [hb] at hnone
        cases hnone

/-- **The balance and the debits add up to the credit.** -/
theorem Throughout.balance_add_debits (h : Throughout (Covered posting) H) {x : ε} (hx : x ∈ H)
    {amount : Nat} (hcredit : posting x = some (.credit amount)) :
    ∃ left, balance posting H = some left ∧ left + debits posting H = amount := by
  induction H using List.reverseRecOn generalizing x amount with
  | nil => cases hx
  | append_singleton H e ih =>
    have hcovered := h.last
    rw [balance_concat, debits_concat]
    unfold Covered at hcovered
    -- before the credit nothing was posted
    have hfresh (hnone : balance posting H = none) : debits posting H = 0 := by
      have hall := h.of_append.posting_eq_none hnone
      unfold debits
      rw [List.map_congr_left (g := fun _ => 0) fun e he => by rw [hall e he]; rfl]
      simp
    rcases List.mem_append.1 hx with hold | hnew
    · obtain ⟨left, hleft, hsum⟩ := ih h.of_append hold hcredit
      cases hposting : posting e with
      | none => exact ⟨left, hleft, hsum⟩
      | some posted =>
        rw [hposting] at hcovered
        cases posted with
        | credit other =>
          have hnone : balance posting H = none := hcovered
          rw [hleft] at hnone
          cases hnone
        | debit taken =>
          obtain ⟨b, hb, hle⟩ := hcovered
          obtain rfl := Option.some.inj (hleft.symm.trans hb)
          refine ⟨left - taken, by rw [hleft]; rfl, ?_⟩
          show left - taken + (debits posting H + taken) = amount
          omega
    · obtain rfl := List.mem_singleton.1 hnew
      rw [hcredit] at hcovered ⊢
      refine ⟨amount, rfl, ?_⟩
      show amount + (debits posting H + 0) = amount
      rw [hfresh hcovered]
      rfl

theorem exists_credit_of_balance {left : Nat} (h : balance posting H = some left) :
    ∃ x ∈ H, ∃ amount, posting x = some (.credit amount) := by
  induction H using List.reverseRecOn generalizing left with
  | nil => cases h
  | append_singleton H e ih =>
    rw [balance_concat] at h
    cases hposting : posting e with
    | none =>
      rw [hposting] at h
      obtain ⟨x, hx, hcredit⟩ := ih h
      exact ⟨x, List.mem_append_left _ hx, hcredit⟩
    | some posted =>
      rw [hposting] at h
      cases posted with
      | credit amount => exact ⟨e, by simp, amount, hposting⟩
      | debit taken =>
        obtain ⟨b, hb, -⟩ := Option.map_eq_some_iff.1 h
        obtain ⟨x, hx, hcredit⟩ := ih hb
        exact ⟨x, List.mem_append_left _ hx, hcredit⟩

end Snf.Lib
