import GatewayF411.Lib.SlotScan
import Mathlib.Data.Set.Card
import Mathlib.Order.Interval.Finset.Nat

/-!
An array of keys as a finite map. A slot whose key is the mark `z` is free; the
other keys stand in at most one slot each, so that the columns beside the key
array are the values of a partial map. Slots are reused, hence may have holes.
-/

set_option autoImplicit false

namespace SlotMap
open SlotScan

variable {κ ν : Type} {z : κ} {top : Nat} {key : Nat → κ} {val : Nat → ν}

structure Keyed (z : κ) (top : Nat) (key : Nat → κ) : Prop where
  bounded : ∀ n, key n ≠ z → 1 ≤ n ∧ n ≤ top
  distinct : ∀ n m, key n ≠ z → key n = key m → n = m

theorem keyed_free (z : κ) : Keyed z 0 (fun _ => z) := by
  constructor
  · intro n hn
    exact absurd rfl hn
  · intro n m hn
    exact absurd rfl hn

theorem Keyed.insert {n top' : Nat} {k : κ} (h : Keyed z top key) (h1 : 1 ≤ n) (hn : n ≤ top') (htop : top ≤ top')
    (hfresh : ∀ j, key j ≠ k) : Keyed z top' (Function.update key n k) := by
  constructor
  · intro j hj
    by_cases hjn : j = n
    · subst hjn
      exact ⟨h1,hn⟩
    · rw [Function.update_of_ne hjn] at hj
      have hb := h.bounded j hj
      exact ⟨hb.1,by omega⟩
  · intro i j hi hij
    by_cases hin : i = n <;> by_cases hjn : j = n
    · rw [hin,hjn]
    · simp only [hin,Function.update_self,Function.update_of_ne hjn] at hij
      exact absurd hij.symm (hfresh j)
    · simp only [hjn,Function.update_self,Function.update_of_ne hin] at hij
      exact absurd hij (hfresh i)
    · rw [Function.update_of_ne hin] at hi hij
      rw [Function.update_of_ne hjn] at hij
      exact h.distinct i j hi hij

theorem Keyed.mask (sel : Nat → Prop) [DecidablePred sel] (h : Keyed z top key) :
    Keyed z top (fun n => if sel n then z else key n) := by
  constructor
  · intro n hn
    by_cases hs : sel n
    · simp [hs] at hn
    · exact h.bounded n (by simpa [hs] using hn)
  · intro n m hn hnm
    by_cases hs : sel n
    · simp [hs] at hn
    · by_cases hm : sel m
      · simp only [hs,hm,if_true,if_false] at hn hnm
        exact absurd hnm hn
      · simp only [hs,hm,if_false] at hn hnm
        exact h.distinct n m hn hnm

variable [DecidableEq κ]

/-- The map that the slots `1..top` stand for. -/
def toMap (z : κ) (top : Nat) (key : Nat → κ) (val : Nat → ν) (k : κ) : Option ν :=
  if k = z then none else (scanDown (fun n => key n == k) top).map val

theorem Keyed.scanDown_eq_some (h : Keyed z top key) {n : Nat} (hn : key n ≠ z) :
    scanDown (fun m => key m == key n) top = some n := by
  have hb := h.bounded n hn
  refine SlotScan.scanDown_eq_some hb.1 hb.2 (by simp) ?_
  intro j _ _ hj
  exact (h.distinct n j hn (by simpa using Eq.symm (by simpa using hj))).symm

theorem Keyed.toMap_key (h : Keyed z top key) {n : Nat} (hn : key n ≠ z) :
    toMap z top key val (key n) = some (val n) := by
  simp [toMap,hn,h.scanDown_eq_some hn]

theorem Keyed.toMap_eq_some (h : Keyed z top key) {k : κ} {v : ν} :
    toMap z top key val k = some v ↔ k ≠ z ∧ ∃ n, key n = k ∧ val n = v := by
  constructor
  · intro hm
    by_cases hk : k = z
    · simp [toMap,hk] at hm
    · simp only [toMap,hk,if_false,Option.map_eq_some_iff] at hm
      obtain ⟨n,hs,hv⟩ := hm
      have hn := scanDown_sound hs
      exact ⟨hk,n,by simpa using hn.2.2,hv⟩
  · rintro ⟨hk,n,rfl,rfl⟩
    exact h.toMap_key hk

theorem Keyed.toMap_eq_none (h : Keyed z top key) {k : κ} (hk : k ≠ z) :
    toMap z top key val k = none ↔ ∀ n, key n ≠ k := by
  rw [Option.eq_none_iff_forall_ne_some]
  constructor
  · intro hm n hn
    exact hm (val n) (h.toMap_eq_some.mpr ⟨hk,n,hn,rfl⟩)
  · intro hm v hv
    obtain ⟨_,n,hn,_⟩ := h.toMap_eq_some.mp hv
    exact hm n hn

/-- A fresh key in a free slot is a new entry of the map. -/
theorem Keyed.toMap_insert {n top' : Nat} {k : κ} {val' : Nat → ν} (h : Keyed z top key)
    (h1 : 1 ≤ n) (hn : n ≤ top')
    (htop : top ≤ top') (hk : k ≠ z) (hfree : key n = z) (hfresh : ∀ j, key j ≠ k)
    (hval : ∀ j, j ≠ n → val' j = val j) :
    toMap z top' (Function.update key n k) val' =
      Function.update (toMap z top key val) k (some (val' n)) := by
  have h' : Keyed z top' (Function.update key n k) := h.insert h1 hn htop hfresh
  funext a
  by_cases ha : a = k
  · subst ha
    have hself : Function.update key n a n ≠ z := by simpa using hk
    have hm : toMap z top' _ val' (Function.update key n a n) = some (val' n) := h'.toMap_key hself
    simpa using hm
  · rw [Function.update_of_ne ha]
    refine Option.ext fun v => ?_
    rw [h'.toMap_eq_some,h.toMap_eq_some]
    refine and_congr_right fun haz => exists_congr fun j => ?_
    by_cases hj : j = n
    · subst hj
      simp [hfree,Ne.symm ha,Ne.symm haz]
    · simp [Function.update_of_ne hj,hval j hj]

theorem Keyed.toMap_set {val' : Nat → ν} {n : Nat} (h : Keyed z top key) (hn : key n ≠ z)
    (hval : ∀ j, j ≠ n → val' j = val j) :
    toMap z top key val' = Function.update (toMap z top key val) (key n) (some (val' n)) := by
  funext a
  by_cases ha : a = key n
  · subst ha
    rw [h.toMap_key hn,Function.update_self]
  · rw [Function.update_of_ne ha]
    refine Option.ext fun v => ?_
    rw [h.toMap_eq_some,h.toMap_eq_some]
    refine and_congr_right fun _ => exists_congr fun j => ?_
    by_cases hj : j = n
    · subst hj
      simp [Ne.symm ha]
    · rw [hval j hj]

/-- Freeing the selected slots removes exactly their keys. -/
theorem Keyed.toMap_mask (sel : Nat → Prop) [DecidablePred sel] {val' : Nat → ν}
    (h : Keyed z top key)
    (hval : ∀ j, ¬ sel j → val' j = val j) (k : κ) (v : ν) :
    toMap z top (fun n => if sel n then z else key n) val' k = some v ↔
      toMap z top key val k = some v ∧ ∀ n, key n = k → ¬ sel n := by
  rw [(h.mask sel).toMap_eq_some,h.toMap_eq_some]
  constructor
  · rintro ⟨hk,n,hn,hv⟩
    by_cases hs : sel n
    · simp only [hs,if_true] at hn
      exact absurd hn.symm hk
    · simp only [hs,if_false] at hn
      refine ⟨⟨hk,n,hn,by rw [← hv,hval n hs]⟩,?_⟩
      intro m hm hsm
      have hnm : n = m := h.distinct n m (by rw [hn]; exact hk) (by rw [hn,hm])
      exact hs (hnm ▸ hsm)
  · rintro ⟨⟨hk,n,hn,hv⟩,hsel⟩
    have hs : ¬ sel n := hsel n hn
    exact ⟨hk,n,by simp [hs,hn],by rw [hval n hs,hv]⟩

/-- The map has fewer than `cap` keys exactly while one of `cap` slots is free. -/
theorem Keyed.ncard_lt_iff (h : Keyed z top key) {cap : Nat} (hcap : top ≤ cap) :
    Set.ncard {k | toMap z top key val k ≠ none} < cap ↔ ∃ n, 1 ≤ n ∧ n ≤ cap ∧ key n = z := by
  have hset : {k | toMap z top key val k ≠ none} =
      ↑(((Finset.Icc 1 cap).filter (fun n => key n ≠ z)).image key) := by
    ext k
    simp only [Set.mem_ofPred_eq,Finset.coe_image,Finset.coe_filter,Finset.mem_Icc,Set.mem_image]
    constructor
    · intro hm
      obtain ⟨v,hv⟩ := Option.ne_none_iff_exists'.mp hm
      obtain ⟨hk,n,rfl,_⟩ := h.toMap_eq_some.mp hv
      have hb := h.bounded n hk
      exact ⟨n,⟨⟨hb.1,by omega⟩,hk⟩,rfl⟩
    · rintro ⟨n,⟨_,hn⟩,rfl⟩
      simp [h.toMap_key hn]
  have hcard : (((Finset.Icc 1 cap).filter (fun n => key n ≠ z)).image key).card =
      ((Finset.Icc 1 cap).filter (fun n => key n ≠ z)).card := by
    refine Finset.card_image_of_injOn ?_
    intro i hi j hj hij
    simp only [Finset.coe_filter,Set.mem_ofPred_eq] at hi
    exact h.distinct i j hi.2 hij
  have hle := Finset.card_filter_le (Finset.Icc 1 cap) (fun n => key n ≠ z)
  have heq := Finset.card_filter_eq_iff (s := Finset.Icc 1 cap) (p := fun n => key n ≠ z)
  rw [Nat.card_Icc,Nat.add_sub_cancel] at hle heq
  rw [hset,Set.ncard_coe_finset,hcard,Nat.lt_iff_le_and_ne,and_iff_right hle,Ne,heq]
  simp only [Finset.mem_Icc,not_forall,not_not]
  constructor
  · rintro ⟨n,hb,hn⟩
    exact ⟨n,hb.1,hb.2,hn⟩
  · rintro ⟨n,h1,hn,hz⟩
    exact ⟨n,⟨h1,hn⟩,hz⟩

end SlotMap
