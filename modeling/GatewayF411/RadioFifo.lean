import Mathlib.Data.List.Basic
import GatewayF411.Lib.Fifo
import GatewayF411.RadioQueue

set_option autoImplicit false

namespace GatewayF411
open Runs Fifo

inductive QueueOp where
  | radioEnqueue (tagetId : UInt32) (counter command data : UInt8)
  | gatewayDataEnqueue (targetId deviceId : UInt32) (rssi control value : UInt8)
  | radioDequeue
  deriving DecidableEq, Repr

def queueStep (q : RadioQueue) : QueueOp → RadioQueue
  | .radioEnqueue t c m d => q.radioEnqueue t c m d
  | .gatewayDataEnqueue t i r m d => q.gatewayDataEnqueue t i r m d
  | .radioDequeue => q.radioDequeue.1

def QueueOp.message : QueueOp → List RadioSent
  | .radioEnqueue t c m d => [.radioSend t c m d]
  | .gatewayDataEnqueue t i r m d => [.gatewayDataSend t i r m d]
  | .radioDequeue => []

/-- The message is accepted unless the full branch is taken. -/
def queueAccepted (q : RadioQueue) (op : QueueOp) : List RadioSent :=
  if q.targetNum < 30 then op.message else []

def queueSent (q : RadioQueue) : QueueOp → List RadioSent
  | .radioDequeue => q.radioDequeue.2.toList
  | _ => []

def queueIndex (q : RadioQueue) : QueueOp → Option Nat
  | .radioDequeue =>
    if q.nowNum ≠ q.targetNum ∧ 0 < q.targetNum ∧ q.nowNum < q.targetNum then some (q.nowNum+1)
    else none
  | _ => if q.targetNum < 30 then some (q.targetNum+1) else none

def radioChannel : Channel RadioQueue QueueOp RadioSent := ⟨queueStep,queueAccepted,queueSent⟩

def RadioQueue.slotCall (q : RadioQueue) (n : Nat) : Option RadioSent :=
  match q.type n with
  | 0 => some (.radioSend (q.tagetId n) (q.counter n) (q.command n) (q.data n))
  | 1 => some (.gatewayDataSend (q.tagetId n) (q.deviceId n) (q.counter n) (q.command n)
      (q.data n))
  | _ => none

/-- The calls still to be made, for the slots above `NowNum` up to `TargetNum`. -/
def RadioQueue.pending (q : RadioQueue) : List RadioSent :=
  (List.range' (q.nowNum+1) (q.targetNum-q.nowNum)).filterMap q.slotCall

structure RadioQueue.Inv (q : RadioQueue) : Prop where
  now : q.nowNum ≤ q.targetNum
  target : q.targetNum ≤ 30

theorem RadioQueue.inv_zero : RadioQueue.zero.Inv := ⟨Nat.le_refl 0,Nat.zero_le 30⟩

theorem RadioQueue.pending_snoc {q q' : RadioQueue} {m : RadioSent} (h : q.Inv)
    (hnow : q'.nowNum = q.nowNum) (htarget : q'.targetNum = q.targetNum+1)
    (hslots : ∀ n, n ≤ q.targetNum → q'.slotCall n = q.slotCall n)
    (hm : q'.slotCall (q.targetNum+1) = some m) : q'.pending = q.pending ++ [m] := by
  have hle := h.now
  have hcount : q.targetNum+1-q.nowNum = q.targetNum-q.nowNum+1 := by omega
  have hlast : q.nowNum+1+1*(q.targetNum-q.nowNum) = q.targetNum+1 := by omega
  unfold pending
  rw [hnow,htarget,hcount,List.range'_concat,List.filterMap_append,hlast]
  congr 1
  · refine List.filterMap_congr fun n hn => hslots n ?_
    have hb := List.mem_range'_1.mp hn
    omega
  · simp [hm]

theorem RadioQueue.pending_cons {q : RadioQueue} (h : q.nowNum < q.targetNum) :
    q.pending = (q.slotCall (q.nowNum+1)).toList ++
      { q with nowNum := q.nowNum+1 }.pending := by
  have hcount : q.targetNum-q.nowNum = q.targetNum-(q.nowNum+1)+1 := by omega
  unfold pending
  rw [hcount,List.range'_succ,List.filterMap_cons]
  cases q.slotCall (q.nowNum+1) <;> rfl

theorem RadioQueue.radioDequeue_of_lt {q : RadioQueue} (h : q.nowNum < q.targetNum) :
    q.radioDequeue = ({ q with nowNum := q.nowNum+1 },q.slotCall (q.nowNum+1)) := by
  rw [RadioQueue.radioDequeue,if_neg (by omega),if_pos ⟨by omega,h⟩]
  rfl

theorem RadioQueue.slotCall_update {q q' : RadioQueue} {n : Nat} (htype : q'.type n = q.type n)
    (htaget : q'.tagetId n = q.tagetId n) (hdevice : q'.deviceId n = q.deviceId n)
    (hcounter : q'.counter n = q.counter n) (hcommand : q'.command n = q.command n)
    (hdata : q'.data n = q.data n) : q'.slotCall n = q.slotCall n := by
  simp only [slotCall,htype,htaget,hdevice,hcounter,hcommand,hdata]

theorem radioEnqueue_flows {q : RadioQueue} (h : q.Inv) (t : UInt32) (c m d : UInt8) :
    radioChannel.Flows RadioQueue.pending q (.radioEnqueue t c m d) := by
  simp only [Channel.Flows,radioChannel,queueStep,queueAccepted,queueSent,QueueOp.message,
    List.nil_append]
  by_cases hroom : q.targetNum < 30
  · rw [if_pos hroom,RadioQueue.radioEnqueue,if_pos hroom]
    symm
    refine RadioQueue.pending_snoc h rfl rfl (fun n hn => ?_) ?_
    · have hne : n ≠ q.targetNum+1 := by omega
      apply RadioQueue.slotCall_update <;> simp [hne]
    · simp [RadioQueue.slotCall]
  · rw [if_neg hroom,RadioQueue.radioEnqueue,if_neg hroom,List.append_nil]

theorem gatewayDataEnqueue_flows {q : RadioQueue} (h : q.Inv) (t i : UInt32) (r m d : UInt8) :
    radioChannel.Flows RadioQueue.pending q (.gatewayDataEnqueue t i r m d) := by
  simp only [Channel.Flows,radioChannel,queueStep,queueAccepted,queueSent,QueueOp.message,
    List.nil_append]
  by_cases hroom : q.targetNum < 30
  · rw [if_pos hroom,RadioQueue.gatewayDataEnqueue,if_pos hroom]
    symm
    refine RadioQueue.pending_snoc h rfl rfl (fun n hn => ?_) ?_
    · have hne : n ≠ q.targetNum+1 := by omega
      apply RadioQueue.slotCall_update <;> simp [hne]
    · simp [RadioQueue.slotCall]
  · rw [if_neg hroom,RadioQueue.gatewayDataEnqueue,if_neg hroom,List.append_nil]

theorem radioDequeue_flows {q : RadioQueue} (h : q.Inv) :
    radioChannel.Flows RadioQueue.pending q .radioDequeue := by
  have hnow := h.now
  simp only [Channel.Flows,radioChannel,queueStep,queueAccepted,queueSent,QueueOp.message,
    ite_self,List.append_nil]
  by_cases heq : q.nowNum = q.targetNum
  · simp [RadioQueue.radioDequeue,heq,RadioQueue.pending]
  · have hlt : q.nowNum < q.targetNum := by omega
    rw [RadioQueue.radioDequeue_of_lt hlt]
    exact RadioQueue.pending_cons hlt

theorem queueStep_inv {q : RadioQueue} (h : q.Inv) (op : QueueOp) : (queueStep q op).Inv := by
  have hnow := h.now
  have htarget := h.target
  cases op with
  | radioEnqueue t c m d =>
    by_cases hroom : q.targetNum < 30
    · simp only [queueStep,RadioQueue.radioEnqueue,hroom,if_true]
      constructor <;> simp only <;> omega
    · simpa only [queueStep,RadioQueue.radioEnqueue,hroom,if_false] using h
  | gatewayDataEnqueue t i r m d =>
    by_cases hroom : q.targetNum < 30
    · simp only [queueStep,RadioQueue.gatewayDataEnqueue,hroom,if_true]
      constructor <;> simp only <;> omega
    · simpa only [queueStep,RadioQueue.gatewayDataEnqueue,hroom,if_false] using h
  | radioDequeue =>
    simp only [queueStep,RadioQueue.radioDequeue]
    split
    · exact ⟨Nat.le_refl 0,Nat.zero_le 30⟩
    · split
      · constructor <;> simp only <;> omega
      · exact h

theorem queueStep_flows {q : RadioQueue} (h : q.Inv) (op : QueueOp) :
    radioChannel.Flows RadioQueue.pending q op := by
  cases op with
  | radioEnqueue t c m d => exact radioEnqueue_flows h t c m d
  | gatewayDataEnqueue t i r m d => exact gatewayDataEnqueue_flows h t i r m d
  | radioDequeue => exact radioDequeue_flows h

theorem queueIndex_lt {q : RadioQueue} (h : q.Inv) {op : QueueOp} {i : Nat}
    (hi : queueIndex q op = some i) : i < 50 := by
  have htarget := h.target
  cases op <;> simp only [queueIndex,Option.ite_none_right_eq_some,Option.some.injEq] at hi <;> omega

theorem queue_inv (ops : List QueueOp) : (ops.foldl queueStep .zero).Inv :=
  foldl_inv RadioQueue.Inv (fun _ op h => queueStep_inv h op) ops RadioQueue.inv_zero

theorem queue_conservation (ops : List QueueOp) : radioChannel.allAccepted .zero ops =
    radioChannel.allDelivered .zero ops ++ (ops.foldl queueStep .zero).pending := by
  have hflows : Along radioChannel.step (radioChannel.Flows RadioQueue.pending) .zero ops :=
    along_of_inv RadioQueue.Inv (fun _ op h => queueStep_inv h op)
      (fun _ op h => queueStep_flows h op) ops RadioQueue.inv_zero
  exact conservation hflows

/-- Every slot holds a message of one of the two types. -/
def RadioQueue.Typed (q : RadioQueue) : Prop := ∀ n, q.type n = 0 ∨ q.type n = 1

theorem queueStep_typed {q : RadioQueue} (h : q.Typed) (op : QueueOp) : (queueStep q op).Typed := by
  intro n
  cases op with
  | radioEnqueue t c m d =>
    simp only [queueStep,RadioQueue.radioEnqueue]
    split
    · by_cases hn : n = q.targetNum+1
      · simp [hn]
      · simpa [hn] using h n
    · exact h n
  | gatewayDataEnqueue t i r m d =>
    simp only [queueStep,RadioQueue.gatewayDataEnqueue]
    split
    · by_cases hn : n = q.targetNum+1
      · simp [hn]
      · simpa [hn] using h n
    · exact h n
  | radioDequeue =>
    simp only [queueStep,RadioQueue.radioDequeue]
    split
    · exact h n
    · split <;> exact h n

theorem queue_typed (ops : List QueueOp) : (ops.foldl queueStep .zero).Typed :=
  foldl_inv RadioQueue.Typed (fun _ op h => queueStep_typed h op) ops fun _ => .inl rfl

theorem RadioQueue.Typed.slotCall_isSome {q : RadioQueue} (h : q.Typed) (n : Nat) :
    ∃ m, q.slotCall n = some m := by
  unfold RadioQueue.slotCall
  rcases h n with ht | ht
  · rw [ht]
    exact ⟨_,rfl⟩
  · rw [ht]
    exact ⟨_,rfl⟩

theorem RadioQueue.Typed.pending_length {q : RadioQueue} (h : q.Typed) :
    q.pending.length = q.targetNum-q.nowNum := by
  choose m hm using h.slotCall_isSome
  have hfun : q.slotCall = some ∘ m := funext hm
  simp [RadioQueue.pending,hfun]

/-- While a message is pending, an iteration of the loop sends the oldest one. -/
theorem RadioQueue.Typed.radioDequeue_sends {q : RadioQueue} (h : q.Typed)
    (hlt : q.nowNum < q.targetNum) : ∃ m, q.radioDequeue.2 = some m ∧
      q.pending = m :: q.radioDequeue.1.pending := by
  obtain ⟨m,hm⟩ := h.slotCall_isSome (q.nowNum+1)
  rw [radioDequeue_of_lt hlt,RadioQueue.pending_cons hlt,hm]
  exact ⟨m,rfl,rfl⟩

theorem RadioQueue.Typed.queueSent_ne_nil {q : RadioQueue} (h : q.Typed) {op : QueueOp}
    (hop : op = .radioDequeue) (hp : q.pending ≠ []) : queueSent q op ≠ [] := by
  have hlt : q.nowNum < q.targetNum := by
    have hpos := List.length_pos_iff.mpr hp
    rw [h.pending_length] at hpos
    omega
  obtain ⟨m,hm,_⟩ := h.radioDequeue_sends hlt
  subst hop
  simp [queueSent,hm]

/-- In every state reached the indices are in order and in bounds, and what has been sent,
followed by what is pending, is what has been accepted. An iteration of the loop sends the
oldest pending message if there is one, and as many iterations as messages are pending, with
any calls in between, have sent everything that was accepted before. -/
theorem radio_queue_fifo (ops : List QueueOp) :
    (ops.foldl queueStep .zero).nowNum ≤ (ops.foldl queueStep .zero).targetNum ∧
    (ops.foldl queueStep .zero).targetNum ≤ 30 ∧
    (∀ op i, queueIndex (ops.foldl queueStep .zero) op = some i → i < 50) ∧
    radioChannel.allAccepted .zero ops =
      radioChannel.allDelivered .zero ops ++ (ops.foldl queueStep .zero).pending ∧
    radioChannel.allDelivered .zero ops <+: radioChannel.allAccepted .zero ops ∧
    ((ops.foldl queueStep .zero).nowNum < (ops.foldl queueStep .zero).targetNum →
      ∃ m, (ops.foldl queueStep .zero).radioDequeue.2 = some m ∧
        (ops.foldl queueStep .zero).pending =
          m :: (ops.foldl queueStep .zero).radioDequeue.1.pending) ∧
    ∀ later : List QueueOp,
      (ops.foldl queueStep .zero).targetNum-(ops.foldl queueStep .zero).nowNum ≤
        later.count .radioDequeue →
      radioChannel.allAccepted .zero ops <+: radioChannel.allDelivered .zero (ops ++ later) := by
  have hinv := queue_inv ops
  have htyped := queue_typed ops
  have hall := queue_conservation ops
  refine ⟨hinv.now,hinv.target,fun _ _ hi => queueIndex_lt hinv hi,hall,⟨_,hall.symm⟩,
    fun hlt => htyped.radioDequeue_sends hlt,fun later hcount => ?_⟩
  rw [← htyped.pending_length,List.count] at hcount
  have hdrain : (ops.foldl queueStep .zero).pending <+:
      radioChannel.allDelivered (ops.foldl queueStep .zero) later :=
    drained (· == QueueOp.radioDequeue) (fun q : RadioQueue => q.Inv ∧ q.Typed)
      (fun _ op h => ⟨queueStep_inv h.1 op,queueStep_typed h.2 op⟩)
      (fun _ op h => queueStep_flows h.1 op)
      (fun _ op h hop hp => h.2.queueSent_ne_nil (by simpa using hop) hp) ⟨hinv,htyped⟩ hcount
  rw [hall,Channel.allDelivered,collect_append]
  exact (List.prefix_append_right_inj _).mpr hdrain

/-- Two messages are accepted, one is sent, a third is accepted; two more iterations send what
is left of the three. -/
theorem radio_queue_fifo_three :
    ∃ ops later : List QueueOp, (radioChannel.allAccepted .zero ops).length = 3 ∧
      (radioChannel.allDelivered .zero ops).length = 1 ∧ later.length = 2 ∧
      radioChannel.allAccepted .zero ops <+: radioChannel.allDelivered .zero (ops ++ later) :=
  ⟨[.radioEnqueue 10000001 0 3 2,.gatewayDataEnqueue 10000001 0 0 4 0,.radioDequeue,
      .radioEnqueue 10000002 0 3 1],
    [.radioDequeue,.radioDequeue],by decide +kernel,by decide +kernel,rfl,
    (radio_queue_fifo _).2.2.2.2.2.2 _ (by decide +kernel)⟩

/-- The message is dropped when the full branch is taken. -/
def queueDropped (q : RadioQueue) (op : QueueOp) : List RadioSent :=
  if q.targetNum < 30 then [] else op.message

/-- A message is dropped only while 30 accepted messages have not been sent. -/
def DropsOnlyFull (ops : List QueueOp) : Prop :=
  ∀ p op, p ++ [op] <+: ops → queueDropped (p.foldl queueStep .zero) op ≠ [] →
    (radioChannel.allAccepted .zero p).length = (radioChannel.allDelivered .zero p).length+30

/-- No message arrives while `TargetNum` stands at its end and messages have been sent since
the indices were rewound. -/
def NotHeldBack (q : RadioQueue) (op : QueueOp) : Prop :=
  op.message ≠ [] → q.targetNum = 30 → q.nowNum = 0

/-- At a dropped message 30 messages wait to be sent, in every run, exactly when no message
arrives at a `TargetNum` of 30 that is not rewound yet. -/
theorem radio_queue_refuses_iff (ops : List QueueOp) :
    DropsOnlyFull ops ↔ Along queueStep NotHeldBack .zero ops := by
  rw [along_iff_steps]
  refine forall_congr' fun p => forall_congr' fun op => imp_congr_right fun _ => ?_
  obtain ⟨hnow,htarget⟩ := queue_inv p
  have htyped := queue_typed p
  have hlength : (radioChannel.allAccepted .zero p).length =
      (radioChannel.allDelivered .zero p).length+(p.foldl queueStep .zero).pending.length := by
    rw [queue_conservation p,List.length_append]
  rw [htyped.pending_length] at hlength
  unfold queueDropped NotHeldBack
  generalize p.foldl queueStep .zero = q at hnow htarget hlength
  constructor
  · intro h hm htop
    have hfull := h (by rwa [if_neg (by omega)])
    omega
  · intro h hdrop
    by_cases hroom : q.targetNum < 30
    · rw [if_pos hroom] at hdrop
      exact absurd rfl hdrop
    · rw [if_neg hroom] at hdrop
      have hzero := h hdrop (by omega)
      omega

/-- Thirty messages are accepted and one of them is sent. -/
def heldBackOps : List QueueOp :=
  List.replicate 30 (.radioEnqueue 10000001 0 3 2) ++ [.radioDequeue]

theorem radio_queue_refuses_counterexample : ¬ ∀ ops : List QueueOp, DropsOnlyFull ops := by
  intro hall
  have hfull := hall (heldBackOps ++ [.radioEnqueue 10000001 0 3 2]) heldBackOps _
    (List.prefix_refl _) (by decide +kernel)
  exact absurd hfull (by decide +kernel)

end GatewayF411
