import Mathlib.Data.List.Basic

/-!
A list cut into pieces that are sent one after the other: where each piece starts, and
the orders in which the pieces can arrive when every piece may be repeated.
-/

set_option autoImplicit false

namespace Chunks

variable {α : Type} {chunks : List (List α)} {piece : List α} {j k n : Nat}

def offset (chunks : List (List α)) (k : Nat) : Nat := (chunks.take k).flatten.length

theorem offset_zero : offset chunks 0 = 0 := rfl

theorem offset_cons (piece : List α) :
    offset (piece :: chunks) (k+1) = piece.length+offset chunks k := by
  simp [offset]

theorem offset_length : offset chunks chunks.length = chunks.flatten.length := by
  simp [offset]

theorem offset_succ (hk : chunks[k]? = some piece) :
    offset chunks (k+1) = offset chunks k+piece.length := by
  simp [offset,List.take_add_one,hk]

theorem offset_mono (h : j ≤ k) : offset chunks j ≤ offset chunks k := by
  induction k with
  | zero =>
    have hj : j = 0 := by omega
    subst hj
    exact Nat.le_refl _
  | succ k ih =>
    by_cases hj : j = k+1
    · subst hj
      exact Nat.le_refl _
    · have hle := ih (by omega)
      cases hk : chunks[k]? with
      | none =>
        have hsame : offset chunks (k+1) = offset chunks k := by
          simp [offset,List.take_add_one,hk]
        omega
      | some piece =>
        have hsucc := offset_succ hk
        omega

theorem offset_lt (hpos : ∀ piece ∈ chunks, 0 < piece.length) (h : j < k) (hk : k ≤ chunks.length) :
    offset chunks j < offset chunks k := by
  have hj : chunks[j]? = some (chunks.get ⟨j,by omega⟩) := by simp
  have hsucc := offset_succ hj
  have hlen := hpos _ (List.mem_of_getElem? hj)
  have hle : offset chunks (j+1) ≤ offset chunks k := offset_mono h
  omega

theorem flatten_getElem? {i : Nat} (hk : chunks[k]? = some piece) (hi : i < piece.length) :
    chunks.flatten[offset chunks k+i]? = piece[i]? := by
  obtain ⟨hlt,hget⟩ := List.getElem?_eq_some_iff.mp hk
  have hsplit : chunks.flatten =
      (chunks.take k).flatten ++ (piece ++ (chunks.drop (k+1)).flatten) := by
    have hcut := List.take_append_drop k chunks
    rw [List.drop_eq_getElem_cons hlt,hget] at hcut
    have hflat := congrArg List.flatten hcut
    rw [List.flatten_append,List.flatten_cons] at hflat
    exact hflat.symm
  rw [hsplit,List.getElem?_append_right (by simp [offset])]
  have hsub : offset chunks k+i-(chunks.take k).flatten.length = i := by simp [offset]
  rw [hsub,List.getElem?_append_left hi]

/-- The ends of the pieces, the start included. -/
def boundaries (chunks : List (List α)) : List Nat :=
  (List.range (chunks.length+1)).map (offset chunks)

theorem mem_boundaries {a : Nat} :
    a ∈ boundaries chunks ↔ ∃ j, j ≤ chunks.length ∧ offset chunks j = a := by
  simp only [boundaries,List.mem_map,List.mem_range,Nat.lt_succ_iff]

/-- How far a receiver has got after `k` pieces, if it started at `c` and takes a piece
only where it stands. -/
def reached (chunks : List (List α)) (c k : Nat) : Nat :=
  if c ∈ boundaries chunks then max c (offset chunks k) else c

def skipped (chunks : List (List α)) (c : Nat) : Nat :=
  if c ∈ boundaries chunks then c else chunks.flatten.length

section Reached
variable {start : Nat}

theorem le_reached : start ≤ reached chunks start k := by
  unfold reached
  split <;> omega

theorem reached_zero : reached chunks start 0 = start := by
  simp [reached,offset_zero]

theorem reached_take (hk : k < chunks.length) (hpos : ∀ piece ∈ chunks, 0 < piece.length)
    (h : reached chunks start k = offset chunks k) :
    reached chunks start (k+1) = offset chunks (k+1) := by
  have hlt : offset chunks k < offset chunks (k+1) := offset_lt hpos (by omega) (by omega)
  unfold reached at h ⊢
  split
  · rename_i hb
    rw [if_pos hb] at h
    omega
  · rename_i hb
    rw [if_neg hb] at h
    exact absurd (mem_boundaries.mpr ⟨k,by omega,h.symm⟩) hb

theorem reached_miss (h : reached chunks start k ≠ offset chunks k) :
    reached chunks start (k+1) = reached chunks start k := by
  unfold reached at h ⊢
  split
  · rename_i hb
    rw [if_pos hb] at h
    obtain ⟨j,_,rfl⟩ := mem_boundaries.mp hb
    have hkj : k+1 ≤ j := by
      by_contra hjk
      have hle : offset chunks j ≤ offset chunks k := offset_mono (by omega)
      omega
    have hle : offset chunks (k+1) ≤ offset chunks j := offset_mono hkj
    omega
  · rfl

theorem reached_ne (hpos : ∀ piece ∈ chunks, 0 < piece.length) (hj : j < k) (hk : k ≤ chunks.length) :
    reached chunks start k ≠ offset chunks j := by
  have hlt : offset chunks j < offset chunks k := offset_lt hpos hj hk
  unfold reached
  split
  · omega
  · rename_i hb
    intro h
    exact hb (mem_boundaries.mpr ⟨j,by omega,h.symm⟩)

theorem skipped_le : skipped chunks start ≤ chunks.flatten.length := by
  unfold skipped
  split
  · rename_i hb
    obtain ⟨j,hj,rfl⟩ := mem_boundaries.mp hb
    rw [← offset_length]
    exact offset_mono hj
  · exact Nat.le_refl _

/-- At the end exactly the positions from `skipped` on have been taken. -/
theorem reached_length {a : Nat} (ha : a < chunks.flatten.length) :
    (start ≤ a ∧ a < reached chunks start chunks.length) ↔ ¬ a < skipped chunks start := by
  unfold reached skipped
  split
  · rename_i hb
    obtain ⟨j,hj,rfl⟩ := mem_boundaries.mp hb
    have hle : offset chunks j ≤ offset chunks chunks.length := offset_mono hj
    rw [offset_length] at hle ⊢
    omega
  · omega

end Reached

/-- The arrivals that are left when `k` of `n` pieces have been delivered: an item that
carries the next piece, or one that carries any earlier piece again. -/
inductive Delivery {ι : Type} (carries : ι → Nat → Prop) (n : Nat) : Nat → List ι → Prop where
  | done : Delivery carries n n []
  | next {k : Nat} {x : ι} {xs : List ι} :
      k < n → carries x k → Delivery carries n (k+1) xs → Delivery carries n k (x :: xs)
  | again {i k : Nat} {x : ι} {xs : List ι} :
      i < k → carries x i → Delivery carries n k xs → Delivery carries n k (x :: xs)

variable {ι σ : Type} {carries : ι → Nat → Prop} {xs : List ι}

theorem Delivery.le (h : Delivery carries n k xs) : k ≤ n := by
  induction h with
  | done => exact Nat.le_refl n
  | next hk _ _ _ => omega
  | again _ _ _ ih => exact ih

/-- What every arrival keeps for the pieces delivered so far holds at the end. -/
theorem Delivery.foldl {step : σ → ι → σ} {P : Nat → σ → Prop}
    (hnext : ∀ k s x, k < n → carries x k → P k s → P (k+1) (step s x))
    (hagain : ∀ i k s x, i < k → k ≤ n → carries x i → P k s → P k (step s x))
    (h : Delivery carries n k xs) {s : σ} (hs : P k s) : P n (xs.foldl step s) := by
  induction h generalizing s with
  | done => exact hs
  | next hk hx _ ih => exact ih (hnext _ s _ hk hx hs)
  | again hi hx hd ih => exact ih (hagain _ _ s _ hi hd.le hx hs)

end Chunks
