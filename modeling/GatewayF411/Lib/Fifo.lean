import GatewayF411.Lib.Runs

set_option autoImplicit false

namespace Fifo
open Runs

variable {σ ι μ : Type}

/-- A machine with the items each step accepts and delivers. -/
structure Channel (σ ι μ : Type) where
  step : σ → ι → σ
  accepted : σ → ι → List μ
  delivered : σ → ι → List μ

def collect (step : σ → ι → σ) (f : σ → ι → List μ) : σ → List ι → List μ
  | _, [] => []
  | s, i :: is => f s i ++ collect step f (step s i) is

def Channel.allAccepted (c : Channel σ ι μ) : σ → List ι → List μ := collect c.step c.accepted

def Channel.allDelivered (c : Channel σ ι μ) : σ → List ι → List μ := collect c.step c.delivered

/-- What is in flight before a step, then what the step accepts, is what it delivers and
then what is in flight after it. -/
def Channel.Flows (c : Channel σ ι μ) (pending : σ → List μ) (s : σ) (i : ι) : Prop :=
  pending s ++ c.accepted s i = c.delivered s i ++ pending (c.step s i)

variable {c : Channel σ ι μ} {pending : σ → List μ}

theorem conservation {s : σ} {is : List ι} (h : Along c.step (c.Flows pending) s is) :
    pending s ++ c.allAccepted s is = c.allDelivered s is ++ pending (is.foldl c.step s) := by
  induction is generalizing s with
  | nil => simp [Channel.allAccepted,Channel.allDelivered,collect]
  | cons i is ih =>
    have hrest := ih h.2
    have hflow : pending s ++ c.accepted s i = c.delivered s i ++ pending (c.step s i) := h.1
    simp only [Channel.allAccepted,Channel.allDelivered,collect,List.foldl_cons] at hrest ⊢
    rw [← List.append_assoc,hflow,List.append_assoc,hrest,List.append_assoc]

theorem collect_append (step : σ → ι → σ) (f : σ → ι → List μ) (s : σ) (is js : List ι) :
    collect step f s (is ++ js) = collect step f s is ++ collect step f (is.foldl step s) js := by
  induction is generalizing s with
  | nil => rfl
  | cons i is ih => simp [collect,ih]

/-- The law holds wherever a run is cut exactly when every step conserves. -/
theorem conservation_iff {s : σ} {is : List ι} :
    (∀ p, p <+: is → pending s ++ c.allAccepted s p =
      c.allDelivered s p ++ pending (p.foldl c.step s)) ↔
    Along c.step (c.Flows pending) s is := by
  constructor
  · intro hcuts
    refine along_iff_steps.mpr fun p i hp => ?_
    have hbefore := hcuts p ((List.prefix_append p [i]).trans hp)
    have hafter := hcuts (p ++ [i]) hp
    simp only [Channel.allAccepted,Channel.allDelivered,collect_append,collect,List.append_nil,
      List.foldl_append,List.foldl_cons,List.foldl_nil] at hbefore hafter
    rw [← List.append_assoc,hbefore,List.append_assoc,List.append_assoc] at hafter
    exact List.append_cancel_left hafter
  · intro halong p hp
    exact conservation (halong.of_prefix hp)

/-- Where every taking step delivers something as long as anything is in flight, as many
taking steps as there are items in flight deliver them all, whatever runs in between. -/
theorem drained (takes : ι → Bool) (Inv : σ → Prop) (hstep : ∀ s i, Inv s → Inv (c.step s i))
    (hflows : ∀ s i, Inv s → c.Flows pending s i)
    (htakes : ∀ s i, Inv s → takes i → pending s ≠ [] → c.delivered s i ≠ []) {s : σ} (hs : Inv s)
    {is : List ι} (hcount : (pending s).length ≤ is.countP takes) :
    pending s <+: c.allDelivered s is := by
  have henough : (pending s).length ≤ (c.allDelivered s is).length ∨
      is.countP takes ≤ (c.allDelivered s is).length := by
    clear hcount
    induction is generalizing s with
    | nil => exact .inr (Nat.zero_le _)
    | cons i is ih =>
      have hlen := congrArg List.length (hflows s i hs)
      simp only [List.length_append] at hlen
      have hall : (c.allDelivered s (i :: is)).length =
          (c.delivered s i).length+(c.allDelivered (c.step s i) is).length :=
        List.length_append
      rw [hall,List.countP_cons]
      rcases ih (hstep s i hs) with hrest | hrest
      · left
        omega
      · by_cases hi : takes i
        · rcases List.eq_nil_or_concat (pending s) with hnil | ⟨l,a,hcat⟩
          · simp [hnil]
          · right
            have hpos := List.length_pos_iff.mpr (htakes s i hs hi (by simp [hcat]))
            rw [if_pos hi]
            omega
        · right
          rw [if_neg hi]
          omega
  have hall := conservation (along_of_inv Inv hstep hflows is hs)
  have hdelivered : c.allDelivered s is <+: pending s ++ c.allAccepted s is :=
    hall ▸ List.prefix_append _ _
  refine List.prefix_of_prefix_length_le (List.prefix_append _ (c.allAccepted s is)) hdelivered ?_
  omega

end Fifo
