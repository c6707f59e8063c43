import GatewayF411.Frame

set_option autoImplicit false

namespace GatewayF411
open CText

/-- What an unauthorised frame must leave alone. -/
def Unchanged (g g' : Gateway) : Prop :=
  g'.globalDevice = g.globalDevice ∧
  (∀ key, efGetEnvBlob key g'.env = efGetEnvBlob key g.env) ∧
  g'.queue433 = g.queue433 ∧ g'.cloud = g.cloud

theorem Unchanged.refl (g : Gateway) : Unchanged g g := ⟨rfl,fun _ => rfl,rfl,rfl⟩

theorem not_unchanged {g g' : Gateway} (h : g.cloud.length < g'.cloud.length) :
    ¬ Unchanged g g' := by
  intro hu
  rw [hu.2.2.2] at h
  omega

theorem Grows.length_le {g g' : Gateway} (h : Grows g g') : g.cloud.length ≤ g'.cloud.length :=
  h.cloud.length_le

/-- Every accepted frame is answered with a heartbeat report of its sender. -/
theorem heartUpload_length (id : UInt32) (v : UInt8) (g : Gateway) :
    g.cloud.length < (heartUpload id v g).cloud.length := by
  have h := (flashSetHeart_quiet (heartBeatReport (fmtLd id) 0 g) id v).toGrows.length_le
  simp only [heartBeatReport,Gateway.emit,List.length_append,List.length_singleton] at h
  simp only [heartUpload,heartBeatReport,Gateway.emit]
  omega

theorem syncCommand_length (m : Message) (g : Gateway) :
    g.cloud.length ≤ (syncCommand m g).cloud.length := by
  by_cases h : m.type = 3 ∨ m.type = 5
  · have hg := (syncCommand_data g m h).length_le
    rwa [syncRefresh_cloud] at hg
  · simp only [not_or] at h
    exact (syncCommand_grows g m h.1 h.2).length_le

theorem controlCommand_length (m : Message) (g : Gateway) :
    g.cloud.length ≤ (controlCommand m g).cloud.length := by
  by_cases h : m.command = 5
  · have hg := (controlCommand_five g m h).toGrows.length_le
    rwa [syncRefresh_cloud] at hg
  · exact (controlCommand_quiet g m h).toGrows.length_le

theorem ackFrame_cloud (m : Message) (g : Gateway) : (ackFrame m g).cloud = g.cloud := by
  unfold ackFrame
  split <;> rfl

theorem unchanged_ite_iff {g g' : Gateway} {p q : Prop} [Decidable p] [Decidable q]
    (h : g.cloud.length < g'.cloud.length) :
    Unchanged g (if p then (if q then g' else g) else g) ↔ ¬ (p ∧ q) := by
  by_cases hp : p <;> by_cases hq : q
  · simp [hp,hq,not_unchanged h]
  · simp [hp,hq,Unchanged.refl]
  · simp [hp,Unchanged.refl]
  · simp [hp,Unchanged.refl]

theorem gatewaySyncSolve_unchanged (junk : Message) (rssi : Int) (buffer : List UInt8)
    (rxLen : Nat) (g : Gateway) :
    Unchanged g (gatewaySyncSolve junk rssi buffer rxLen g) ↔
      ¬ (charAt buffer rxLen = 'A' ∧
        u32 (parseSync (gatewayFields buffer) junk).targetId = g.selfId ∧
        checkValid g.globalDevice (u32 (parseSync (gatewayFields buffer) junk).fromId) = .eok) := by
  generalize hm : parseSync (gatewayFields buffer) junk = m
  have ha := (mainRssiReport_onlyEmits (ackFrame m g) (u32 m.fromId) rssi).quiet.toGrows.length_le
  have hh := heartUpload_length (u32 m.fromId) 1 (mainRssiReport (u32 m.fromId) rssi (ackFrame m g))
  have hc := syncCommand_length m
    (heartUpload (u32 m.fromId) 1 (mainRssiReport (u32 m.fromId) rssi (ackFrame m g)))
  rw [ackFrame_cloud] at ha
  simp only [gatewaySyncSolve,hm]
  exact unchanged_ite_iff (by omega)

theorem gatewayWarningSolve_unchanged (junk : Message) (rssi : Int) (buffer : List UInt8)
    (rxLen : Nat) (g : Gateway) :
    Unchanged g (gatewayWarningSolve junk rssi buffer rxLen g) ↔
      ¬ (charAt buffer rxLen = 'B' ∧
        u32 (parseReport (gatewayFields buffer) junk).targetId = g.selfId ∧
        checkValid g.globalDevice
          (u32 (parseReport (gatewayFields buffer) junk).fromId) = .eok) := by
  generalize hm : parseReport (gatewayFields buffer) junk = m
  have hh := heartUpload_length (u32 m.fromId) 1 (ackFrame m g)
  have ha := (mainRssiReport_onlyEmits (heartUpload (u32 m.fromId) 1 (ackFrame m g))
    (u32 m.fromId) rssi).quiet.toGrows.length_le
  have hc := (warningCommand_quiet
    (mainRssiReport (u32 m.fromId) rssi (heartUpload (u32 m.fromId) 1 (ackFrame m g)))
    m).toGrows.length_le
  rw [ackFrame_cloud] at hh
  simp only [gatewayWarningSolve,hm]
  exact unchanged_ite_iff (by omega)

theorem gatewayControlSolve_unchanged (junk : Message) (rssi : Int) (buffer : List UInt8)
    (rxLen : Nat) (g : Gateway) :
    Unchanged g (gatewayControlSolve junk rssi buffer rxLen g) ↔
      ¬ (charAt buffer rxLen = 'C' ∧
        u32 (parseReport (gatewayFields buffer) junk).targetId = g.selfId ∧
        checkValid g.globalDevice
          (u32 (parseReport (gatewayFields buffer) junk).fromId) = .eok) := by
  generalize hm : parseReport (gatewayFields buffer) junk = m
  have ha := (mainRssiReport_onlyEmits (ackFrame m g) (u32 m.fromId) rssi).quiet.toGrows.length_le
  have hh := heartUpload_length (u32 m.fromId) 1 (mainRssiReport (u32 m.fromId) rssi (ackFrame m g))
  have hc := controlCommand_length m
    (heartUpload (u32 m.fromId) 1 (mainRssiReport (u32 m.fromId) rssi (ackFrame m g)))
  rw [ackFrame_cloud] at ha
  simp only [gatewayControlSolve,hm]
  exact unchanged_ite_iff (by omega)

def GatewayRouted (buffer : List UInt8) : Prop :=
  charAt buffer 1 = 'A' ∨ charAt buffer 1 = 'B' ∨ charAt buffer 1 = 'C'

def frameTarget (buffer : List UInt8) : UInt32 :=
  u32 ((gatewayFields buffer).getD (if charAt buffer 1 = 'A' then 2 else 1) 0)

def frameFrom (buffer : List UInt8) : UInt32 :=
  u32 ((gatewayFields buffer).getD (if charAt buffer 1 = 'A' then 3 else 2) 0)

theorem getD_parsed {vs : List Int} (h : vs.length = 7) {i : Nat} (hi : i < 7) (x : Int) :
    vs.getD i x = vs.getD i 0 := by
  have hl : i < vs.length := by omega
  simp [List.getD_eq_getElem?_getD,hl]

theorem rf433RxCallback_unchanged (junk : Message) (rssi : Int) (buffer : List UInt8) (len : Nat)
    (g : Gateway) (hroute : GatewayRouted buffer) (hparsed : (gatewayFields buffer).length = 7) :
    Unchanged g (rf433RxCallback junk rssi buffer len g) ↔
      ¬ (charAt buffer len = charAt buffer 1 ∧ frameTarget buffer = g.selfId ∧
        checkValid g.globalDevice (frameFrom buffer) = .eok) := by
  have h1 := getD_parsed hparsed (show 1 < 7 by omega)
  have h2 := getD_parsed hparsed (show 2 < 7 by omega)
  have h3 := getD_parsed hparsed (show 3 < 7 by omega)
  rcases hroute with h | h | h
  · simp only [rf433RxCallback,frameTarget,frameFrom,h,if_true,gatewaySyncSolve_unchanged,
      parseSync,h2 junk.targetId,h3 junk.fromId]
  · simp only [rf433RxCallback,frameTarget,frameFrom,h,Char.reduceEq,if_false,
      gatewayWarningSolve_unchanged,parseReport,h1 junk.targetId,h2 junk.fromId]
  · simp only [rf433RxCallback,frameTarget,frameFrom,h,Char.reduceEq,if_false,
      gatewayControlSolve_unchanged,parseReport,h1 junk.targetId,h2 junk.fromId]

/-- For an id that is not registered, the check can only succeed on a freed slot. -/
theorem checkValid_unregistered {d : DeviceInfo} {id : UInt32} (h : ¬ d.Registered id) :
    checkValid d id = .eok ↔ id = 0 ∧ ∃ n, 1 ≤ n ∧ n ≤ d.num ∧ d.id n = 0 := by
  rw [checkValid,flashGetKeyValid_eok]
  constructor
  · intro hv
    have hz : id = 0 := by
      by_contra hne
      exact h ⟨hne,hv⟩
    subst id
    exact ⟨rfl,hv⟩
  · rintro ⟨rfl,hv⟩
    exact hv

/-- A frame of an unregistered sender is without effect exactly when it is not the
case that it is addressed to this gateway, names the sender 0, and some slot in
`1..Num` is free. -/
theorem unregistered_sender_unchanged_iff (junk : Message) (rssi : Int) (buffer : List UInt8)
    (len : Nat) (g : Gateway) (hroute : GatewayRouted buffer)
    (hparsed : (gatewayFields buffer).length = 7)
    (hunreg : ¬ g.globalDevice.Registered (frameFrom buffer)) :
    Unchanged g (rf433RxCallback junk rssi buffer len g) ↔
      ¬ (charAt buffer len = charAt buffer 1 ∧ frameTarget buffer = g.selfId ∧
        frameFrom buffer = 0 ∧
        ∃ n, 1 ≤ n ∧ n ≤ g.globalDevice.num ∧ g.globalDevice.id n = 0) := by
  rw [rf433RxCallback_unchanged junk rssi buffer len g hroute hparsed,
    checkValid_unregistered hunreg]

/-- Two mains are learned and the first is deleted again, which frees slot 1. -/
def holeRun : List Event :=
  [radioText ['{','4','0','0','0','0','0','0','0',',','1','0','0','0','0','0','0','1',',',
      '1',',','3',',','2','}','0','0','\r','\n'],
    radioText ['{','4','0','0','0','0','0','0','0',',','1','0','0','0','0','0','0','2',',',
      '1',',','3',',','2','}','0','0','\r','\n'],
    .subdeviceDelete ['1','0','0','0','0','0','0','1']]

/-- A delete-all frame of the sender 0. -/
def zeroSenderText : Text :=
  ['A','{','0',',','4',',','4','0','0','0','0','0','0','0',',','0',',','0',',','0',',','0','}','A']

/-- The same frame of the main that has been deleted. -/
def deletedSenderText : Text :=
  ['A','{','0',',','4',',','4','0','0','0','0','0','0','0',',','1','0','0','0','0','0','0','1',',',
    '0',',','0',',','0','}','A']

theorem unregistered_sender_unchanged_witness :
    Unchanged (run (powerOn 40000000 []) holeRun)
        (rf433RxCallback .zero (-60) (radioBuffer deletedSenderText) 31
          (run (powerOn 40000000 []) holeRun)) ∧
      ¬ Unchanged (run (powerOn 40000000 []) holeRun)
        (rf433RxCallback .zero (-60) (radioBuffer zeroSenderText) 24
          (run (powerOn 40000000 []) holeRun)) := by
  refine ⟨(unregistered_sender_unchanged_iff .zero (-60) (radioBuffer deletedSenderText) 31
    (run (powerOn 40000000 []) holeRun) (.inl (by decide)) (by decide) ?_).mpr ?_,fun h => ?_⟩
  · exact fun h => absurd (flashGetKeyValid_eok.mpr h.2) (by decide)
  · rintro ⟨_,_,hzero,_⟩
    exact absurd hzero (by decide)
  · exact (unregistered_sender_unchanged_iff .zero (-60) (radioBuffer zeroSenderText) 24
      (run (powerOn 40000000 []) holeRun) (.inl (by decide)) (by decide)
      (fun h => h.1 (by decide))).mp h ⟨by decide,by decide,by decide,1,by decide,by decide,by decide⟩

/-- A stranger that calls itself 0 makes the gateway delete its second main. -/
theorem unregistered_sender_counterexample :
    ¬ ∀ g, Reachable g → ∀ (junk : Message) (rssi : Int) (buffer : List UInt8) (len : Nat),
      GatewayRouted buffer → (gatewayFields buffer).length = 7 →
      ¬ g.globalDevice.Registered (frameFrom buffer) →
      Unchanged g (rf433RxCallback junk rssi buffer len g) := by
  intro h
  have hu := h (run (powerOn 40000000 []) holeRun) ⟨40000000,holeRun,rfl⟩ .zero (-60)
    (radioBuffer zeroSenderText) 24 (.inl (by decide)) (by decide) (fun h => h.1 (by decide))
  have hid := congrFun (congrArg DeviceInfo.id hu.1) 2
  revert hid
  decide

end GatewayF411
