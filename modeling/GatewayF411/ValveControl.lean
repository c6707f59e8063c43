import GatewayF411.Frame

/-!
The valve command of the cloud. `dp_download_control_state_handle` queues the
open or close command for the radio and then confirms the new valve state,
whether or not the queue had room for the command.
-/

set_option autoImplicit false

namespace GatewayF411
open CText

/-- The message that `GatewayDataEnqueue` appends, read back from the last slot. -/
structure RadioQueue.Appended (q q' : RadioQueue) (targetId deviceId : UInt32)
    (rssi control value : UInt8) : Prop where
  targetNum : q'.targetNum = q.targetNum+1
  type : q'.type q'.targetNum = 1
  tagetId : q'.tagetId q'.targetNum = targetId
  deviceId : q'.deviceId q'.targetNum = deviceId
  counter : q'.counter q'.targetNum = rssi
  command : q'.command q'.targetNum = control
  data : q'.data q'.targetNum = value

theorem RadioQueue.gatewayDataEnqueue_appended_iff (targetId deviceId : UInt32)
    (rssi control value : UInt8) (q : RadioQueue) :
    q.Appended (q.gatewayDataEnqueue targetId deviceId rssi control value)
      targetId deviceId rssi control value ↔ q.targetNum < 30 := by
  by_cases h : q.targetNum < 30
  · simp only [gatewayDataEnqueue,h,if_true,iff_true]
    constructor <;> simp
  · simp only [gatewayDataEnqueue,h,if_false,iff_false]
    intro ha
    have hn := ha.targetNum
    omega

/-- The value sent over the radio: 0 closes the valve, 1 opens it. -/
def commandedValue (value : List UInt8) : UInt8 := if value.getD 0 0 = 0 then 0 else 1

def valveAccepted (value subId : List UInt8) (g : Gateway) : Prop :=
  g.queue433.Appended (dpDownloadControlStateHandle value subId g).2.queue433
    (u32 (atol (cString subId 0))) 0 0 2 (commandedValue value)

def valveConfirmed (value subId : List UInt8) (g : Gateway) : Prop :=
  ∃ (v : UInt8) (sub : Text), .dpBool dpidControlState v sub ∈
    (dpDownloadControlStateHandle value subId g).2.cloud.drop g.cloud.length

/-- A confirmation implies an accepted command, and a dropped command is neither
confirmed nor reported as a success. -/
def NoFalseConfirmation (value subId : List UInt8) (g : Gateway) : Prop :=
  (valveConfirmed value subId g → valveAccepted value subId g) ∧
  (¬ valveAccepted value subId g →
    ¬ valveConfirmed value subId g ∧ (dpDownloadControlStateHandle value subId g).1 ≠ success)

theorem mcuDpBoolUpdate_success (dpid value : UInt8) (subId : Text) (g : Gateway) :
    (mcuDpBoolUpdate dpid value subId g).1 = success := by
  unfold mcuDpBoolUpdate mcuDpUpdate
  split <;> rfl

theorem mcuDpBoolUpdate_queue433 (dpid value : UInt8) (subId : Text) (g : Gateway) :
    (mcuDpBoolUpdate dpid value subId g).2.queue433 = g.queue433 := by
  obtain ⟨fs,hfs⟩ := mcuDpUpdate_onlyEmits g (.dpBool dpid (if value = 0 then 0 else 1) subId)
  rw [mcuDpBoolUpdate,hfs]

/-- The handler knows no failure: the update it relies on always reports success. -/
theorem dpDownloadControlStateHandle_success (value subId : List UInt8) (g : Gateway) :
    (dpDownloadControlStateHandle value subId g).1 = success := by
  simp only [dpDownloadControlStateHandle,mcuDpBoolUpdate_success,if_true]

theorem dpDownloadControlStateHandle_queue433 (value subId : List UInt8) (g : Gateway) :
    (dpDownloadControlStateHandle value subId g).2.queue433 =
      g.queue433.gatewayDataEnqueue (u32 (atol (cString subId 0))) 0 0 2 (commandedValue value) := by
  simp only [dpDownloadControlStateHandle,mcuDpBoolUpdate_success,if_true,
    mcuDpBoolUpdate_queue433,commandedValue]
  by_cases h : value.getD 0 0 = 0
  · simp only [h,if_true,motoCloseRemote,GatewayF411.gatewayDataEnqueue]
  · simp only [h,if_false,motoOpenRemote,GatewayF411.gatewayDataEnqueue]

theorem valveAccepted_iff (value subId : List UInt8) (g : Gateway) :
    valveAccepted value subId g ↔ g.queue433.targetNum < 30 := by
  rw [valveAccepted,dpDownloadControlStateHandle_queue433,
    RadioQueue.gatewayDataEnqueue_appended_iff]

/-- The handler is free of false confirmations exactly while the queue has room. -/
theorem noFalseConfirmation_iff (value subId : List UInt8) (g : Gateway) :
    NoFalseConfirmation value subId g ↔ g.queue433.targetNum < 30 := by
  rw [NoFalseConfirmation,valveAccepted_iff]
  constructor
  · intro h
    by_contra hfull
    exact (h.2 hfull).2 (dpDownloadControlStateHandle_success value subId g)
  · intro hroom
    exact ⟨fun _ => hroom,fun hfull => absurd hroom hfull⟩

/-- Open commands for the main 10000001, sent before the radio thread takes one. -/
def openCommands (n : Nat) : List Event :=
  List.replicate n (.controlState [1] [49,48,48,48,48,48,48,49])

/-- The 31st command is dropped, confirmed and reported as a success. -/
theorem valve_confirmation_counterexample :
    ¬ ∀ g, Reachable g → ∀ value subId : List UInt8, NoFalseConfirmation value subId g := by
  intro h
  have hf := h (run (powerOn 40000000 []) (openCommands 30)) ⟨40000000,openCommands 30,rfl⟩ [1]
    [49,48,48,48,48,48,48,49]
  have hconf : valveConfirmed [1] [49,48,48,48,48,48,48,49]
      (run (powerOn 40000000 []) (openCommands 30)) :=
    ⟨1,['1','0','0','0','0','0','0','1'],by decide +kernel⟩
  have hacc := (hf.1 hconf).targetNum
  revert hacc
  decide +kernel

end GatewayF411
