import Mathlib.Logic.Function.Basic
import Mathlib.Data.List.Basic

set_option autoImplicit false

namespace Cells

variable {α : Type}

/-- The cells `a`, …, `b-1`. -/
def slice (buf : Nat → α) (a b : Nat) : List α := (List.range' a (b-a)).map buf

variable {buf buf' : Nat → α} {a b c : Nat}

theorem slice_empty (h : b ≤ a) : slice buf a b = [] := by
  have hz : b-a = 0 := by omega
  simp [slice,hz]

@[simp] theorem slice_length : (slice buf a b).length = b-a := by simp [slice]

theorem slice_congr (h : ∀ i, a ≤ i → i < b → buf' i = buf i) : slice buf' a b = slice buf a b := by
  refine List.map_congr_left fun i hi => ?_
  have hb := List.mem_range'_1.mp hi
  exact h i hb.1 (by omega)

theorem slice_update {n : Nat} {v : α} (h : n < a ∨ b ≤ n) :
    slice (Function.update buf n v) a b = slice buf a b := by
  refine slice_congr fun i ha hb => ?_
  rw [Function.update_of_ne (by omega)]

theorem slice_append (hab : a ≤ b) (hbc : b ≤ c) :
    slice buf a b ++ slice buf b c = slice buf a c := by
  have hlen : c-a = (b-a)+(c-b) := by omega
  have hb : b = a+1*(b-a) := by omega
  unfold slice
  rw [hlen,← List.range'_append,List.map_append,← hb]

theorem slice_cons (h : a < b) : slice buf a b = buf a :: slice buf (a+1) b := by
  have hlen : b-a = b-(a+1)+1 := by omega
  simp [slice,hlen,List.range'_succ]

theorem slice_snoc (h : a ≤ b) : slice buf a (b+1) = slice buf a b ++ [buf b] := by
  rw [← slice_append h (Nat.le_succ b),slice_cons (Nat.lt_succ_self b),
    slice_empty (Nat.le_refl _)]

theorem slice_shift (k : Nat) : slice (fun i => buf (k+i)) a b = slice buf (k+a) (k+b) := by
  have hlen : k+b-(k+a) = b-a := by omega
  simp only [slice,hlen,List.range'_eq_map_range,List.map_map]
  refine List.map_congr_left fun i _ => ?_
  simp only [Function.comp_apply]
  congr 1
  omega

theorem slice_getElem? {i : Nat} (h : i < b-a) : (slice buf a b)[i]? = some (buf (a+i)) := by
  simp [slice,h]

/-- The cells from `a` on hold the list. -/
def Holds (buf : Nat → α) (a : Nat) (l : List α) : Prop := ∀ i v, l[i]? = some v → buf (a+i) = v

theorem holds_cons {x : α} {l : List α} :
    Holds buf a (x :: l) ↔ buf a = x ∧ Holds buf (a+1) l := by
  constructor
  · intro h
    refine ⟨h 0 x rfl,fun i v hv => ?_⟩
    have hnext := h (i+1) v (by simpa using hv)
    rwa [show a+(i+1) = a+1+i by omega] at hnext
  · rintro ⟨hx,hl⟩ i v hv
    cases i with
    | zero =>
      simp only [List.getElem?_cons_zero,Option.some.injEq] at hv
      rw [Nat.add_zero,hx,hv]
    | succ i =>
      rw [show a+(i+1) = a+1+i by omega]
      exact hl i v (by simpa using hv)

theorem holds_append {l l' : List α} :
    Holds buf a (l ++ l') ↔ Holds buf a l ∧ Holds buf (a+l.length) l' := by
  induction l generalizing a with
  | nil => simp [Holds]
  | cons x l ih =>
    rw [List.cons_append,holds_cons,holds_cons,ih,and_assoc,List.length_cons,
      show a+1+l.length = a+(l.length+1) by omega]

theorem holds_getD (l : List α) (f : Nat → α) : Holds (fun i => l.getD i (f i)) 0 l := by
  intro i v hv
  rw [Nat.zero_add]
  simp [hv]

theorem Holds.getD {l : List α} (h : Holds buf a l) (i : Nat) (d : α) :
    (if i < l.length then buf (a+i) else d) = l.getD i d := by
  by_cases hi : i < l.length
  · rw [if_pos hi,h i _ (List.getElem?_eq_getElem hi)]
    simp [hi]
  · rw [if_neg hi]
    simp [Nat.le_of_not_lt hi]

theorem slice_of_holds {l : List α} (h : Holds buf a l) : slice buf a (a+l.length) = l := by
  refine List.ext_getElem? fun i => ?_
  by_cases hi : i < l.length
  · rw [slice_getElem? (by omega),h i _ (List.getElem?_eq_getElem hi),List.getElem?_eq_getElem hi]
  · rw [List.getElem?_eq_none (by simpa using hi),List.getElem?_eq_none (by simpa using hi)]

end Cells
