import Mathlib.Logic.Function.Basic

/-!
Loops over the slots of a fixed array: the downward search
`while(num) { if(p(num)) break; num--; }`, the upward first-fit search, and the
downward loop that rewrites the state in every iteration.
-/

set_option autoImplicit false

namespace SlotScan

/-- The highest slot in `1..n` that satisfies `p`; slot 0 is never looked at. -/
def scanDown (p : Nat → Bool) : Nat → Option Nat
  | 0 => none
  | n+1 => if p (n+1) then some (n+1) else scanDown p n

theorem scanDown_sound {p : Nat → Bool} {n k : Nat} (h : scanDown p n = some k) :
    1 ≤ k ∧ k ≤ n ∧ p k = true := by
  induction n with
  | zero => simp [scanDown] at h
  | succ n ih =>
    by_cases hp : p (n+1) = true
    · simp only [scanDown,hp,if_true,Option.some.injEq] at h
      subst k
      exact ⟨by omega,Nat.le_refl _,hp⟩
    · have hk := ih (by simpa [scanDown,hp] using h)
      exact ⟨hk.1,by omega,hk.2.2⟩

theorem scanDown_eq_none {p : Nat → Bool} {n : Nat} :
    scanDown p n = none ↔ ∀ k, 1 ≤ k → k ≤ n → p k = false := by
  induction n with
  | zero =>
    simp only [scanDown,true_iff]
    intro k h1 h0
    omega
  | succ n ih =>
    by_cases hp : p (n+1) = true
    · simp only [scanDown,hp,if_true,reduceCtorEq,false_iff]
      intro h
      simp [h (n+1) (by omega) (by omega)] at hp
    · rw [scanDown,if_neg hp,ih]
      constructor
      · intro h k h1 hk
        rcases Nat.lt_or_eq_of_le hk with hlt | rfl
        · exact h k h1 (by omega)
        · simpa using hp
      · intro h k h1 hk
        exact h k h1 (by omega)

theorem scanDown_isSome {p : Nat → Bool} {n : Nat} :
    (scanDown p n).isSome = true ↔ ∃ k, 1 ≤ k ∧ k ≤ n ∧ p k = true := by
  constructor
  · intro h
    obtain ⟨k,hk⟩ := Option.isSome_iff_exists.mp h
    exact ⟨k,scanDown_sound hk⟩
  · rintro ⟨k,h1,hn,hp⟩
    by_contra hc
    have hnone := scanDown_eq_none.mp (by simpa using hc) k h1 hn
    simp [hnone] at hp

theorem scanDown_highest {p : Nat → Bool} {n k : Nat} (h : scanDown p n = some k) :
    ∀ j, k < j → j ≤ n → p j = false := by
  induction n with
  | zero => simp [scanDown] at h
  | succ n ih =>
    intro j hj hn
    by_cases hp : p (n+1) = true
    · simp only [scanDown,hp,if_true,Option.some.injEq] at h
      omega
    · rcases Nat.lt_or_eq_of_le hn with hlt | rfl
      · exact ih (by simpa [scanDown,hp] using h) j hj (by omega)
      · simpa using hp

/-- Where at most one slot matches, the search finds that slot. -/
theorem scanDown_eq_some {p : Nat → Bool} {n k : Nat} (h1 : 1 ≤ k) (hn : k ≤ n)
    (hp : p k = true) (hu : ∀ j, 1 ≤ j → j ≤ n → p j = true → j = k) :
    scanDown p n = some k := by
  have hs : (scanDown p n).isSome = true := scanDown_isSome.mpr ⟨k,h1,hn,hp⟩
  obtain ⟨j,hj⟩ := Option.isSome_iff_exists.mp hs
  have hs := scanDown_sound hj
  rw [hj,hu j hs.1 hs.2.1 hs.2.2]

/-- The first index from `i` on that satisfies `p`, looking at `fuel` of them. -/
def scanUp (p : Nat → Bool) : (fuel i : Nat) → Option Nat
  | 0, _ => none
  | fuel+1, i => if p i then some i else scanUp p fuel (i+1)

theorem scanUp_sound {p : Nat → Bool} {fuel i k : Nat} (h : scanUp p fuel i = some k) :
    i ≤ k ∧ k < i+fuel ∧ p k = true ∧ ∀ j, i ≤ j → j < k → p j = false := by
  induction fuel generalizing i with
  | zero => simp [scanUp] at h
  | succ fuel ih =>
    by_cases hp : p i = true
    · simp only [scanUp,hp,if_true,Option.some.injEq] at h
      subst k
      exact ⟨Nat.le_refl _,by omega,hp,fun j h1 h2 => by omega⟩
    · obtain ⟨h1,h2,h3,h4⟩ := ih (by simpa [scanUp,hp] using h)
      refine ⟨by omega,by omega,h3,fun j hj hk => ?_⟩
      rcases Nat.lt_or_eq_of_le hj with hlt | rfl
      · exact h4 j (by omega) hk
      · simpa using hp

theorem scanUp_eq_none {p : Nat → Bool} {fuel i : Nat} :
    scanUp p fuel i = none ↔ ∀ k, i ≤ k → k < i+fuel → p k = false := by
  induction fuel generalizing i with
  | zero =>
    simp only [scanUp,true_iff]
    intro k h1 h2
    omega
  | succ fuel ih =>
    by_cases hp : p i = true
    · simp only [scanUp,hp,if_true,reduceCtorEq,false_iff]
      intro h
      simp [h i (Nat.le_refl _) (by omega)] at hp
    · rw [scanUp,if_neg hp,ih]
      constructor
      · intro h k hk hf
        rcases Nat.lt_or_eq_of_le hk with hlt | rfl
        · exact h k (by omega) (by omega)
        · simpa using hp
      · intro h k hk hf
        exact h k (by omega) (by omega)

/-- The loop `while(num) { body(num); num--; }`. -/
def foldDown {σ : Type} (body : Nat → σ → σ) : Nat → σ → σ
  | 0, s => s
  | n+1, s => foldDown body n (body (n+1) s)

/-- Invariant rule: `P n s` speaks of the state in which slots `1..n` are still to do. -/
theorem foldDown_invariant {σ : Type} {body : Nat → σ → σ} (P : Nat → σ → Prop)
    (step : ∀ n s, P (n+1) s → P n (body (n+1) s)) {n : Nat} {s : σ} (h : P n s) :
    P 0 (foldDown body n s) := by
  induction n generalizing s with
  | zero => exact h
  | succ n ih => exact ih (step n s h)

/-- What every iteration keeps, the loop keeps. -/
theorem foldDown_keeps {σ : Type} {body : Nat → σ → σ} (P : σ → Prop)
    (step : ∀ n s, P s → P (body n s)) {n : Nat} {s : σ} (h : P s) :
    P (foldDown body n s) :=
  foldDown_invariant (fun _ => P) (fun n s hs => step (n+1) s hs) h

end SlotScan
