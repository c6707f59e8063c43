import GatewayF411.Lib.Cells
import GatewayF411.Lib.Fifo

/-!
The receive ring of the WiFi UART. The two pointers of `mcu_api.c` are offsets into
`wifi_uart_rx_buf`; both may rest one past its end and are wrapped before the next use.
-/

set_option autoImplicit false

namespace GatewayF411
open Cells Runs Fifo

def protocolHead : Nat := 7
def wifiUartRecvBufLmt : Nat := 4096
def wifiDataProcessLmt : Nat := 4096

def rxBufSize : Nat := protocolHead+wifiUartRecvBufLmt

def processBufSize : Nat := protocolHead+wifiDataProcessLmt

structure UartRing where
  buf : Nat → UInt8
  queueIn : Nat
  queueOut : Nat

def UartRing.init (buf : Nat → UInt8) : UartRing := ⟨buf,0,0⟩

/-- The two tests of `uart_receive_input` that drop the byte. -/
def UartRing.full (r : UartRing) : Bool :=
  decide ((r.queueOut : Int)-r.queueIn = 1) ||
    (decide (r.queueOut < r.queueIn) && decide (processBufSize ≤ r.queueIn-r.queueOut))

def UartRing.receiveInput (value : UInt8) (r : UartRing) : UartRing :=
  if r.full then r
  else
    let queueIn := if rxBufSize ≤ r.queueIn then 0 else r.queueIn
    { r with buf := Function.update r.buf queueIn value, queueIn := queueIn+1 }

def UartRing.hasData (r : UartRing) : Bool := r.queueIn != r.queueOut

def UartRing.readByte (r : UartRing) : UInt8 × UartRing :=
  let queueOut := if rxBufSize ≤ r.queueOut then 0 else r.queueOut
  (r.buf queueOut,{ r with queueOut := queueOut+1 })

inductive RingOp where
  | receiveInput (value : UInt8)
  | read
  deriving DecidableEq, Repr

def ringStep (r : UartRing) : RingOp → UartRing
  | .receiveInput value => r.receiveInput value
  | .read => if r.hasData then r.readByte.2 else r

/-- A byte is refused only in the branch that reports a full queue. -/
def ringAccepted (r : UartRing) : RingOp → List UInt8
  | .receiveInput value => if r.full then [] else [value]
  | .read => []

def ringReturned (r : UartRing) : RingOp → List UInt8
  | .receiveInput _ => []
  | .read => if r.hasData then [r.readByte.1] else []

def ringChannel : Channel UartRing RingOp UInt8 := ⟨ringStep,ringAccepted,ringReturned⟩

/-- The bytes from the read pointer to the write pointer, around the end if need be. -/
def UartRing.unread (r : UartRing) : List UInt8 :=
  if r.queueOut ≤ r.queueIn then slice r.buf r.queueOut r.queueIn
  else slice r.buf r.queueOut rxBufSize ++ slice r.buf 0 r.queueIn

/-- No byte arrives while `queue_in` is one past the end and `queue_out` at the second cell. -/
def NotAtCorner (r : UartRing) : RingOp → Prop
  | .receiveInput _ => ¬ (r.queueIn = rxBufSize ∧ r.queueOut = 1)
  | .read => True

structure UartRing.Inv (r : UartRing) : Prop where
  inBound : r.queueIn ≤ rxBufSize
  outBound : r.queueOut ≤ rxBufSize
  fresh : r.queueIn = 0 → r.queueOut = 0

theorem UartRing.inv_init (buf : Nat → UInt8) : (UartRing.init buf).Inv :=
  ⟨Nat.zero_le _,Nat.zero_le _,fun _ => rfl⟩

theorem UartRing.full_iff {r : UartRing} : r.full = true ↔ r.queueOut = r.queueIn+1 ∨
    (r.queueOut < r.queueIn ∧ rxBufSize ≤ r.queueIn-r.queueOut) := by
  have hsize : processBufSize = rxBufSize := rfl
  simp only [full,hsize,Bool.or_eq_true,Bool.and_eq_true,decide_eq_true_eq]
  omega

section Cell
variable {r : UartRing}

theorem UartRing.receiveInput_full {v : UInt8} (h : r.full = true) : r.receiveInput v = r := by
  simp [receiveInput,h]

theorem UartRing.receiveInput_next {v : UInt8} (h : r.full = false) (hin : r.queueIn < rxBufSize) :
    r.receiveInput v = ⟨Function.update r.buf r.queueIn v,r.queueIn+1,r.queueOut⟩ := by
  have hle : ¬ rxBufSize ≤ r.queueIn := by omega
  simp [receiveInput,h,hle]

theorem UartRing.receiveInput_wrap {v : UInt8} (h : r.full = false) (hin : rxBufSize ≤ r.queueIn) :
    r.receiveInput v = ⟨Function.update r.buf 0 v,1,r.queueOut⟩ := by
  simp [receiveInput,h,hin]

theorem UartRing.readByte_next (hout : r.queueOut < rxBufSize) :
    r.readByte = (r.buf r.queueOut,⟨r.buf,r.queueIn,r.queueOut+1⟩) := by
  have hle : ¬ rxBufSize ≤ r.queueOut := by omega
  simp [readByte,hle]

theorem UartRing.readByte_wrap (hout : rxBufSize ≤ r.queueOut) :
    r.readByte = (r.buf 0,⟨r.buf,r.queueIn,1⟩) := by
  simp [readByte,hout]

theorem unread_next {v : UInt8} (hfull : r.full = false) (hin : r.queueIn < rxBufSize) :
    (r.receiveInput v).unread = r.unread ++ [v] := by
  have hroom : ¬ (r.queueOut = r.queueIn+1) := by
    intro heq
    rw [UartRing.full_iff.mpr (.inl heq)] at hfull
    cases hfull
  rw [UartRing.receiveInput_next hfull hin]
  unfold UartRing.unread
  dsimp only
  by_cases hle : r.queueOut ≤ r.queueIn
  · rw [if_pos hle,if_pos (by omega),slice_snoc hle,slice_update (by omega),Function.update_self]
  · rw [if_neg hle,if_neg (by omega),slice_snoc (Nat.zero_le _),slice_update (by omega),
      slice_update (by omega),Function.update_self,List.append_assoc]

theorem unread_corner {v : UInt8} (hin : r.queueIn = rxBufSize) (hout : r.queueOut = 1) :
    (r.receiveInput v).unread = [] ∧ r.full = false := by
  have hfull : r.full = false := by
    rw [← Bool.not_eq_true,UartRing.full_iff,hin,hout]
    decide
  refine ⟨?_,hfull⟩
  rw [UartRing.receiveInput_wrap hfull (by omega)]
  simp [UartRing.unread,hout,slice]

end Cell

section Flow
variable {r : UartRing} (h : r.Inv)
include h

theorem unread_wrap {v : UInt8} (hfull : r.full = false) (hin : rxBufSize ≤ r.queueIn)
    (hcorner : r.queueOut ≠ 1) : (r.receiveInput v).unread = r.unread ++ [v] := by
  have hbound := h.inBound
  have hout := h.outBound
  have hsize : 0 < rxBufSize := by decide
  have hpos : 0 < r.queueOut := by
    by_contra hz
    have hf := UartRing.full_iff.mpr (.inr ⟨show r.queueOut < r.queueIn by omega,by omega⟩)
    rw [hf] at hfull
    cases hfull
  have hend : r.queueIn = rxBufSize := by omega
  rw [UartRing.receiveInput_wrap hfull hin]
  unfold UartRing.unread
  dsimp only
  rw [if_neg (by omega),if_pos (by omega),slice_update (by omega),slice_cons Nat.zero_lt_one,
    Function.update_self,slice_empty (Nat.le_refl _),hend]

theorem unread_read (hdata : r.hasData = true) :
    r.unread = r.readByte.1 :: r.readByte.2.unread := by
  have hbound := h.inBound
  have hout := h.outBound
  have hfresh := h.fresh
  have hne : r.queueIn ≠ r.queueOut := by simpa [UartRing.hasData] using hdata
  by_cases hend : rxBufSize ≤ r.queueOut
  · have heq : r.queueOut = rxBufSize := by omega
    have hlow : ¬ rxBufSize ≤ r.queueIn := by omega
    have hpos : 1 ≤ r.queueIn := by
      by_contra hz
      have hzero := hfresh (by omega)
      have hsize : 0 < rxBufSize := by decide
      omega
    rw [UartRing.readByte_wrap hend]
    simp only [UartRing.unread,heq,hlow,hpos,if_false,if_true]
    rw [slice_empty (Nat.le_refl _),List.nil_append,slice_cons hpos]
  · rw [UartRing.readByte_next (by omega)]
    unfold UartRing.unread
    dsimp only
    by_cases hle : r.queueOut ≤ r.queueIn
    · rw [if_pos hle,if_pos (by omega),slice_cons (by omega)]
    · rw [if_neg hle,if_neg (by omega),slice_cons (by omega : r.queueOut < rxBufSize),
        List.cons_append]

end Flow

theorem ringStep_inv (r : UartRing) (op : RingOp) (h : r.Inv) : (ringStep r op).Inv := by
  have hbound := h.inBound
  have hout := h.outBound
  have hsize : 1 ≤ rxBufSize := by decide
  cases op with
  | receiveInput v =>
    cases hfull : r.full with
    | true => simpa only [ringStep,UartRing.receiveInput_full hfull] using h
    | false =>
      by_cases hin : rxBufSize ≤ r.queueIn
      · simp only [ringStep,UartRing.receiveInput_wrap hfull hin]
        exact ⟨hsize,hout,fun hz => by cases hz⟩
      · simp only [ringStep,UartRing.receiveInput_next hfull (by omega)]
        exact ⟨by simp only; omega,hout,fun hz => by cases hz⟩
  | read =>
    by_cases hdata : r.hasData = true
    · have hne : r.queueIn ≠ r.queueOut := by simpa [UartRing.hasData] using hdata
      have hpos : r.queueIn ≠ 0 := fun hz => hne (by rw [hz,h.fresh hz])
      simp only [ringStep,hdata,if_true]
      by_cases hend : rxBufSize ≤ r.queueOut
      · rw [UartRing.readByte_wrap hend]
        exact ⟨hbound,hsize,fun hz => absurd hz hpos⟩
      · rw [UartRing.readByte_next (by omega)]
        exact ⟨hbound,by simp only; omega,fun hz => absurd hz hpos⟩
    · simpa only [ringStep,hdata,Bool.false_eq_true,if_false] using h

/-- One step of the ring conserves the bytes exactly outside the corner. -/
theorem ringFlows_iff (r : UartRing) (op : RingOp) (h : r.Inv) :
    ringChannel.Flows UartRing.unread r op ↔ NotAtCorner r op := by
  cases op with
  | receiveInput v =>
    simp only [Channel.Flows,ringChannel,ringAccepted,ringReturned,ringStep,NotAtCorner,
      List.nil_append]
    by_cases hcorner : r.queueIn = rxBufSize ∧ r.queueOut = 1
    · obtain ⟨hunread,hfull⟩ := unread_corner (v := v) hcorner.1 hcorner.2
      simp [hunread,hfull,hcorner]
    · refine iff_of_true ?_ hcorner
      cases hfull : r.full with
      | true => simp [UartRing.receiveInput_full hfull]
      | false =>
        simp only [Bool.false_eq_true,if_false]
        by_cases hin : rxBufSize ≤ r.queueIn
        · have hbound := h.inBound
          exact (unread_wrap h hfull hin fun hout => hcorner ⟨by omega,hout⟩).symm
        · exact (unread_next hfull (by omega)).symm
  | read =>
    simp only [Channel.Flows,ringChannel,ringAccepted,ringReturned,ringStep,NotAtCorner,iff_true,
      List.append_nil]
    by_cases hdata : r.hasData = true
    · simpa [hdata] using unread_read h hdata
    · simp [hdata]

/-- The bytes returned are the accepted ones in order, none of those unread being lost at any
cut of the run, exactly when no byte arrives at the corner. -/
theorem uart_ring_lossless_iff (buf : Nat → UInt8) (ops : List RingOp) :
    (∀ p, p <+: ops → ringChannel.allAccepted (.init buf) p =
      ringChannel.allDelivered (.init buf) p ++ (p.foldl ringStep (.init buf)).unread) ↔
    Along ringStep NotAtCorner (.init buf) ops := by
  have hempty : (UartRing.init buf).unread = [] := by simp [UartRing.unread,UartRing.init,slice]
  have hlaw : (∀ p, p <+: ops → (UartRing.init buf).unread ++ ringChannel.allAccepted (.init buf) p =
      ringChannel.allDelivered (.init buf) p ++ (p.foldl ringChannel.step (.init buf)).unread) ↔
      Along ringChannel.step (ringChannel.Flows UartRing.unread) (.init buf) ops :=
    conservation_iff
  rw [hempty] at hlaw
  simp only [List.nil_append] at hlaw
  exact hlaw.trans (along_congr UartRing.Inv ringStep_inv ringFlows_iff (UartRing.inv_init buf))

theorem receiveInput_fill (buf : Nat → UInt8) (n : Nat) (hn : n ≤ rxBufSize) :
    ((List.replicate n (.receiveInput 0)).foldl ringStep (.init buf)).queueIn = n ∧
    ((List.replicate n (.receiveInput 0)).foldl ringStep (.init buf)).queueOut = 0 := by
  induction n with
  | zero => exact ⟨rfl,rfl⟩
  | succ n ih =>
    obtain ⟨hin,hout⟩ := ih (by omega)
    have hfull : ((List.replicate n (RingOp.receiveInput 0)).foldl ringStep (.init buf)).full =
        false := by
      rw [← Bool.not_eq_true,UartRing.full_iff,hin,hout]
      omega
    rw [List.replicate_succ',List.foldl_concat]
    simp only [ringStep]
    rw [UartRing.receiveInput_next hfull (by omega)]
    exact ⟨by simp only; omega,hout⟩

/-- The array is filled, then one byte is read. -/
def fillAndRead (n : Nat) : List RingOp := List.replicate n (.receiveInput 0) ++ [.read]

theorem fillAndRead_corner (buf : Nat → UInt8) {n : Nat} (hn : n = rxBufSize) :
    ((fillAndRead n).foldl ringStep (.init buf)).queueIn = rxBufSize ∧
    ((fillAndRead n).foldl ringStep (.init buf)).queueOut = 1 := by
  obtain ⟨hin,hout⟩ := receiveInput_fill buf n (by omega)
  have hpos : 0 < rxBufSize := by decide
  have hdata : ((List.replicate n (RingOp.receiveInput 0)).foldl ringStep
      (.init buf)).hasData = true := by
    simp only [UartRing.hasData,hin,hout,bne_iff_ne]
    omega
  rw [fillAndRead,List.foldl_concat]
  simp only [ringStep,hdata,if_true]
  rw [UartRing.readByte_next (by omega)]
  exact ⟨hin.trans hn,by simp only [hout]⟩

/-- After a run into the corner the law fails at once or with the next byte. -/
theorem corner_loses {buf : Nat → UInt8} {ops : List RingOp}
    (hin : (ops.foldl ringStep (.init buf)).queueIn = rxBufSize)
    (hout : (ops.foldl ringStep (.init buf)).queueOut = 1)
    (hbefore : ringChannel.allAccepted (.init buf) ops =
      ringChannel.allDelivered (.init buf) ops ++ (ops.foldl ringStep (.init buf)).unread) :
    ringChannel.allAccepted (.init buf) (ops ++ [RingOp.receiveInput 0]) ≠
      ringChannel.allDelivered (.init buf) (ops ++ [.receiveInput 0]) ++
        ((ops ++ [RingOp.receiveInput 0]).foldl ringStep (.init buf)).unread := by
  obtain ⟨hlost,hfull⟩ := unread_corner (v := 0) hin hout
  have haccepted : ringChannel.allAccepted (.init buf) (ops ++ [.receiveInput 0]) =
      ringChannel.allAccepted (.init buf) ops ++ [0] := by
    rw [Channel.allAccepted,collect_append]
    simpa [collect,ringChannel,ringAccepted] using hfull
  have hreturned : ringChannel.allDelivered (.init buf) (ops ++ [.receiveInput 0]) =
      ringChannel.allDelivered (.init buf) ops := by
    rw [Channel.allDelivered,collect_append]
    simp [collect,ringChannel,ringReturned]
  have hstep : ringStep (ops.foldl ringStep (.init buf)) (.receiveInput 0) =
      (ops.foldl ringStep (.init buf)).receiveInput 0 := rfl
  rw [List.foldl_concat,hstep,hlost,haccepted,hreturned,hbefore,List.append_assoc]
  simp

theorem uart_ring_counterexample :
    ¬ ∀ (buf : Nat → UInt8) (ops p : List RingOp), p <+: ops →
      ringChannel.allAccepted (.init buf) p =
        ringChannel.allDelivered (.init buf) p ++ (p.foldl ringStep (.init buf)).unread := by
  intro hall
  obtain ⟨n,hn⟩ : ∃ n, n = rxBufSize := ⟨_,rfl⟩
  obtain ⟨hin,hout⟩ := fillAndRead_corner (fun _ => 0) hn
  exact corner_loses hin hout (hall _ (fillAndRead n) _ (List.prefix_refl _))
    (hall _ (fillAndRead n ++ [.receiveInput 0]) _ (List.prefix_refl _))

end GatewayF411
