import GatewayF411.Lib.Runs

set_option autoImplicit false

namespace GatewayF411
open Runs

inductive KeySem where
  | k0
  | k0Long
  | k1
  | k1Long
  | k0K1Long
  deriving DecidableEq, Repr

/-- The counters stop at 7. -/
structure Keys where
  k0LongSemCounter : Nat
  k1LongSemCounter : Nat
  k0OnceFlag : Bool
  k1OnceFlag : Bool
  k0K1OnceFlag : Bool
  deriving DecidableEq, Repr

def k0LongSemRelease (s : Keys) : List KeySem × Keys :=
  if s.k0OnceFlag = false then
    if 6 < s.k0LongSemCounter then
      if s.k1LongSemCounter = 0 then ([.k0Long],{ s with k0OnceFlag := true })
      else ([],s)
    else ([],{ s with k0LongSemCounter := s.k0LongSemCounter+1 })
  else ([],s)

def k1LongSemRelease (s : Keys) : List KeySem × Keys :=
  if s.k1OnceFlag = false then
    if 6 < s.k1LongSemCounter then
      if 5 < s.k0LongSemCounter then ([.k0K1Long],{ s with k1OnceFlag := true })
      else ([.k1Long],{ s with k1OnceFlag := true })
    else ([],{ s with k1LongSemCounter := s.k1LongSemCounter+1 })
  else ([],s)

def k0LongFreeRelease (s : Keys) : List KeySem × Keys :=
  ([],{ s with k0OnceFlag := false, k0K1OnceFlag := false, k0LongSemCounter := 0 })

def k1LongFreeRelease (s : Keys) : List KeySem × Keys :=
  ([],{ s with k1OnceFlag := false, k1LongSemCounter := 0 })

inductive KeyCall where
  | k0LongSem
  | k1LongSem
  | k0LongFree
  | k1LongFree
  deriving DecidableEq, Repr

def keyCall (s : Keys) : KeyCall → List KeySem × Keys
  | .k0LongSem => k0LongSemRelease s
  | .k1LongSem => k1LongSemRelease s
  | .k0LongFree => k0LongFreeRelease s
  | .k1LongFree => k1LongFreeRelease s

/-- The variables, with what has happened since each key was last let go, or since power on. -/
structure HoldView where
  keys : Keys
  /-- Units of `K0_Long_Sem` and `K0_K1_Long_Sem` since K0 was let go. -/
  k0Units : Nat
  /-- Units of `K1_Long_Sem` and `K0_K1_Long_Sem` since K1 was let go. -/
  k1Units : Nat
  k0Ticks : Nat
  k1Ticks : Nat
  /-- K1 has been let go since K0 was. -/
  k1Freed : Bool
  deriving DecidableEq, Repr

def holdStep (v : HoldView) (c : KeyCall) : HoldView where
  keys := (keyCall v.keys c).2
  k0Units := if c = .k0LongFree then 0
    else v.k0Units+(keyCall v.keys c).1.countP (fun k => k = .k0Long ∨ k = .k0K1Long)
  k1Units := if c = .k1LongFree then 0
    else v.k1Units+(keyCall v.keys c).1.countP (fun k => k = .k1Long ∨ k = .k0K1Long)
  k0Ticks := if c = .k0LongFree then 0 else if c = .k0LongSem then v.k0Ticks+1 else v.k0Ticks
  k1Ticks := if c = .k1LongFree then 0 else if c = .k1LongSem then v.k1Ticks+1 else v.k1Ticks
  k1Freed := if c = .k0LongFree then false else if c = .k1LongFree then true else v.k1Freed

def HoldView.start : HoldView := ⟨⟨0,0,false,false,false⟩,0,0,0,0,false⟩

/-- One hold has given one action. -/
structure OneAction (v : HoldView) : Prop where
  k0 : v.k1Freed = false → v.k0Units ≤ 1
  k1 : v.k1Units ≤ 1

def BothHeld (v : HoldView) (c : KeyCall) : Prop :=
  .k0K1Long ∈ (keyCall v.keys c).1 → 6 ≤ v.k0Ticks ∧ 6 ≤ v.k1Ticks

/-- K1 does not complete a long press in a hold of K0 that has released `K0_Long_Sem`, unless
K1 has been let go in it. -/
def K0Unspent (v : HoldView) (c : KeyCall) : Prop :=
  c = .k1LongSem → v.keys.k1OnceFlag = false → 6 < v.keys.k1LongSemCounter →
    v.keys.k0OnceFlag = true → v.k1Freed = true

structure HoldInv (v : HoldView) : Prop where
  k0Count : v.keys.k0LongSemCounter ≤ 7 ∧ v.keys.k0LongSemCounter ≤ v.k0Ticks
  k1Count : v.keys.k1LongSemCounter ≤ 7 ∧ v.keys.k1LongSemCounter ≤ v.k1Ticks
  k0Once : v.keys.k0OnceFlag = true → 6 < v.keys.k0LongSemCounter ∧ 1 ≤ v.k0Units
  k1Once : v.keys.k1OnceFlag = true → 6 < v.keys.k1LongSemCounter
  k0Units : v.k1Freed = false → v.k0Units ≤ v.keys.k0OnceFlag.toNat+v.keys.k1OnceFlag.toNat
  k1Units : v.k1Units = v.keys.k1OnceFlag.toNat

theorem holdStep_k0LongSem (v : HoldView) :
    (6 < v.keys.k0LongSemCounter ∧ v.keys.k0OnceFlag = false ∧ v.keys.k1LongSemCounter = 0 ∧
      holdStep v .k0LongSem = { v with
        keys := { v.keys with k0OnceFlag := true },
        k0Units := v.k0Units+1, k0Ticks := v.k0Ticks+1 }) ∨
    (v.keys.k0LongSemCounter ≤ 6 ∧ v.keys.k0OnceFlag = false ∧
      holdStep v .k0LongSem = { v with
        keys := { v.keys with k0LongSemCounter := v.keys.k0LongSemCounter+1 },
        k0Ticks := v.k0Ticks+1 }) ∨
    holdStep v .k0LongSem = { v with k0Ticks := v.k0Ticks+1 } := by
  have hcall : keyCall v.keys .k0LongSem = k0LongSemRelease v.keys := rfl
  unfold holdStep
  rw [hcall,k0LongSemRelease]
  by_cases honce : v.keys.k0OnceFlag = false
  · by_cases hlong : 6 < v.keys.k0LongSemCounter
    · by_cases hother : v.keys.k1LongSemCounter = 0
      · exact .inl ⟨hlong,honce,hother,by simp [honce,hlong,hother]⟩
      · exact .inr (.inr (by simp [honce,hlong,hother]))
    · exact .inr (.inl ⟨Nat.le_of_not_lt hlong,honce,by simp [honce,hlong]⟩)
  · exact .inr (.inr (by simp [honce]))

theorem holdStep_k1LongSem (v : HoldView) :
    (6 < v.keys.k1LongSemCounter ∧ v.keys.k1OnceFlag = false ∧ 5 < v.keys.k0LongSemCounter ∧
      holdStep v .k1LongSem = { v with
        keys := { v.keys with k1OnceFlag := true },
        k0Units := v.k0Units+1, k1Units := v.k1Units+1, k1Ticks := v.k1Ticks+1 }) ∨
    (6 < v.keys.k1LongSemCounter ∧ v.keys.k1OnceFlag = false ∧ v.keys.k0LongSemCounter ≤ 5 ∧
      holdStep v .k1LongSem = { v with
        keys := { v.keys with k1OnceFlag := true },
        k1Units := v.k1Units+1, k1Ticks := v.k1Ticks+1 }) ∨
    (v.keys.k1LongSemCounter ≤ 6 ∧ v.keys.k1OnceFlag = false ∧
      holdStep v .k1LongSem = { v with
        keys := { v.keys with k1LongSemCounter := v.keys.k1LongSemCounter+1 },
        k1Ticks := v.k1Ticks+1 }) ∨
    (v.keys.k1OnceFlag = true ∧ holdStep v .k1LongSem = { v with k1Ticks := v.k1Ticks+1 }) := by
  have hcall : keyCall v.keys .k1LongSem = k1LongSemRelease v.keys := rfl
  unfold holdStep
  rw [hcall,k1LongSemRelease]
  by_cases honce : v.keys.k1OnceFlag = false
  · by_cases hlong : 6 < v.keys.k1LongSemCounter
    · by_cases hother : 5 < v.keys.k0LongSemCounter
      · exact .inl ⟨hlong,honce,hother,by simp [honce,hlong,hother]⟩
      · exact .inr (.inl ⟨hlong,honce,Nat.le_of_not_lt hother,by simp [honce,hlong,hother]⟩)
    · exact .inr (.inr (.inl ⟨Nat.le_of_not_lt hlong,honce,by simp [honce,hlong]⟩))
  · exact .inr (.inr (.inr ⟨by simpa using honce,by simp [honce]⟩))

theorem HoldInv.start : HoldInv .start where
  k0Count := by decide
  k1Count := by decide
  k0Once := by decide
  k1Once := by decide
  k0Units := by decide
  k1Units := by decide

theorem HoldInv.step {v : HoldView} (h : HoldInv v) (c : KeyCall) : HoldInv (holdStep v c) := by
  obtain ⟨⟨hk0,hk0t⟩,⟨hk1,hk1t⟩,ho0,ho1,hu0,hu1⟩ := h
  cases c with
  | k0LongSem =>
    rcases holdStep_k0LongSem v with ⟨hlong,honce,_,heq⟩ | ⟨hshort,honce,heq⟩ | heq
    · rw [honce] at hu0
      have hunits : v.k1Freed = false → v.k0Units+1 ≤ 1+v.keys.k1OnceFlag.toNat := fun hf => by
        have hle : v.k0Units ≤ 0+v.keys.k1OnceFlag.toNat := hu0 hf
        omega
      rw [heq]
      exact ⟨⟨hk0,Nat.le_succ_of_le hk0t⟩,⟨hk1,hk1t⟩,fun _ => ⟨hlong,Nat.succ_pos _⟩,ho1,hunits,hu1⟩
    · have hoff : v.keys.k0OnceFlag ≠ true := Bool.eq_false_iff.mp honce
      rw [heq]
      exact ⟨⟨Nat.succ_le_succ hshort,Nat.succ_le_succ hk0t⟩,⟨hk1,hk1t⟩,fun hk => absurd hk hoff,ho1,
        hu0,hu1⟩
    · rw [heq]
      exact ⟨⟨hk0,Nat.le_succ_of_le hk0t⟩,⟨hk1,hk1t⟩,ho0,ho1,hu0,hu1⟩
  | k1LongSem =>
    rcases holdStep_k1LongSem v with ⟨hlong,honce,_,heq⟩ | ⟨hlong,honce,_,heq⟩ | ⟨hshort,honce,heq⟩ |
      ⟨_,heq⟩
    · rw [honce] at hu0 hu1
      rw [heq]
      exact ⟨⟨hk0,hk0t⟩,⟨hk1,Nat.le_succ_of_le hk1t⟩,
        fun hk => ⟨(ho0 hk).1,Nat.le_succ_of_le (ho0 hk).2⟩,fun _ => hlong,
        fun hf => Nat.succ_le_succ (hu0 hf),congrArg Nat.succ hu1⟩
    · rw [honce] at hu0 hu1
      rw [heq]
      exact ⟨⟨hk0,hk0t⟩,⟨hk1,Nat.le_succ_of_le hk1t⟩,ho0,fun _ => hlong,
        fun hf => Nat.le_succ_of_le (hu0 hf),congrArg Nat.succ hu1⟩
    · have hoff : v.keys.k1OnceFlag ≠ true := Bool.eq_false_iff.mp honce
      rw [heq]
      exact ⟨⟨hk0,hk0t⟩,⟨Nat.succ_le_succ hshort,Nat.succ_le_succ hk1t⟩,ho0,
        fun hk => absurd hk hoff,hu0,hu1⟩
    · rw [heq]
      exact ⟨⟨hk0,hk0t⟩,⟨hk1,Nat.le_succ_of_le hk1t⟩,ho0,ho1,hu0,hu1⟩
  | k0LongFree =>
    exact ⟨⟨Nat.zero_le _,Nat.zero_le _⟩,⟨hk1,hk1t⟩,by rintro ⟨⟩,ho1,fun _ => Nat.zero_le _,hu1⟩
  | k1LongFree =>
    exact ⟨⟨hk0,hk0t⟩,⟨Nat.zero_le _,Nat.zero_le _⟩,ho0,by rintro ⟨⟩,by rintro ⟨⟩,rfl⟩

theorem HoldInv.bothHeld {v : HoldView} (h : HoldInv v) (c : KeyCall) : BothHeld v c := by
  intro hmem
  cases c with
  | k0LongSem => grind [keyCall,k0LongSemRelease]
  | k1LongSem =>
    have hcounts : 5 < v.keys.k0LongSemCounter ∧ 6 < v.keys.k1LongSemCounter := by
      grind [keyCall,k1LongSemRelease]
    have hk0 := h.k0Count.2
    have hk1 := h.k1Count.2
    omega
  | k0LongFree => cases hmem
  | k1LongFree => cases hmem

theorem HoldInv.k1Units_le {v : HoldView} (h : HoldInv v) : v.k1Units ≤ 1 := by
  rw [h.k1Units]
  exact Bool.toNat_le _

theorem HoldInv.k0Units_k0LongSem {v : HoldView} (h : HoldInv v) (hone : OneAction v) :
    (holdStep v .k0LongSem).k1Freed = false → (holdStep v .k0LongSem).k0Units ≤ 1 := by
  rcases holdStep_k0LongSem v with ⟨_,honce,hother,heq⟩ | ⟨_,_,heq⟩ | heq
  · rw [heq]
    intro hfreed
    have hk1 : v.keys.k1OnceFlag = false := by
      rw [Bool.eq_false_iff]
      intro hk1
      have hcount := h.k1Once hk1
      omega
    have hnone := h.k0Units hfreed
    rw [honce,hk1] at hnone
    exact Nat.succ_le_succ hnone
  · rw [heq]
    exact hone.k0
  · rw [heq]
    exact hone.k0

theorem HoldInv.k0Units_k1LongSem_iff {v : HoldView} (h : HoldInv v) (hone : OneAction v) :
    ((holdStep v .k1LongSem).k1Freed = false → (holdStep v .k1LongSem).k0Units ≤ 1) ↔
      K0Unspent v .k1LongSem := by
  rcases holdStep_k1LongSem v with ⟨hlong,honce,_,heq⟩ | ⟨_,_,hother,heq⟩ | ⟨hshort,_,heq⟩ |
    ⟨honce,heq⟩
  · rw [heq]
    constructor
    · intro hle _ _ _ hk0
      rw [← Bool.not_eq_false]
      intro hfreed
      have hunits := (h.k0Once hk0).2
      have hnext : v.k0Units+1 ≤ 1 := hle hfreed
      omega
    · intro hunspent hfreed
      have hoff : v.keys.k0OnceFlag = false := by
        rw [Bool.eq_false_iff]
        intro hk0
        exact absurd (hunspent rfl honce hlong hk0) (Bool.eq_false_iff.mp hfreed)
      have hnone := h.k0Units hfreed
      rw [hoff,honce] at hnone
      exact Nat.succ_le_succ hnone
  · rw [heq]
    refine iff_of_true hone.k0 fun _ _ _ hk0 => ?_
    have hcount := (h.k0Once hk0).1
    omega
  · rw [heq]
    refine iff_of_true hone.k0 fun _ _ hlong => ?_
    omega
  · rw [heq]
    exact iff_of_true hone.k0 fun _ hoff => absurd honce (Bool.eq_false_iff.mp hoff)

/-- The only step that can give a second action is a long press of K1 completed in a hold of K0
that has had its own. -/
theorem oneAction_step_iff {v : HoldView} (h : HoldInv v) (hone : OneAction v) (c : KeyCall) :
    OneAction (holdStep v c) ↔ K0Unspent v c := by
  have hk0 : OneAction (holdStep v c) ↔
      ((holdStep v c).k1Freed = false → (holdStep v c).k0Units ≤ 1) :=
    ⟨fun hnext => hnext.k0,fun hnext => ⟨hnext,(h.step c).k1Units_le⟩⟩
  rw [hk0]
  cases c with
  | k0LongSem => exact iff_of_true (h.k0Units_k0LongSem hone) (by rintro ⟨⟩)
  | k1LongSem => exact h.k0Units_k1LongSem_iff hone
  | k0LongFree => exact iff_of_true (fun _ => Nat.zero_le 1) (by rintro ⟨⟩)
  | k1LongFree => exact iff_of_true (by rintro ⟨⟩) (by rintro ⟨⟩)

theorem OneAction.start : OneAction .start where
  k0 := by decide
  k1 := by decide

/-- In every sequence of the callbacks one hold gives one action, and a factory reset needs both
keys, exactly when no long press of K1 is completed in a hold of K0 that has had its action. -/
theorem key_hold_iff (calls : List KeyCall) :
    AllCuts holdStep OneAction .start calls ∧ Along holdStep BothHeld .start calls ↔
      Along holdStep K0Unspent .start calls := by
  have hboth : Along holdStep BothHeld .start calls :=
    along_of_inv HoldInv (fun v c h => h.step c) (fun v c h => h.bothHeld c) calls .start
  have hone : AllCuts holdStep OneAction .start calls ↔ Along holdStep K0Unspent .start calls :=
    allCuts_iff_along_within (fun v c h _ => h.step c) (fun v c h ho _ => oneAction_step_iff h ho c)
      .start .start (along_true HoldView.start calls)
  rw [hone]
  exact and_iff_left hboth

/-- K0 is held until the gateway starts to learn, then K1 as well. -/
def heldBoth : List KeyCall :=
  .k0LongFree :: (List.replicate 8 .k0LongSem ++ List.replicate 8 .k1LongSem ++ [.k0LongFree])

theorem key_hold_counterexample :
    ¬ ∀ calls : List KeyCall,
      AllCuts holdStep OneAction .start calls ∧ Along holdStep BothHeld .start calls := by
  intro hall
  have hcut : heldBoth.take 17 <+: heldBoth := List.take_prefix _ _
  have hunits := ((hall heldBoth).1 _ hcut).k0 (by decide)
  exact absurd hunits (by decide)

end GatewayF411
