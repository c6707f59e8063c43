import GatewayF411.State

set_option autoImplicit false

namespace GatewayF411
open CText

def success : UInt8 := 1

def dpidDeviceState : UInt8 := 101
def dpidValve1CheckFail : UInt8 := 102
def dpidDeviceAlarm : UInt8 := 103
def dpidControlState : UInt8 := 104
def dpidSignState : UInt8 := 105
def dpidDelayState : UInt8 := 106
def dpidTempState : UInt8 := 107
def dpidDoorId : UInt8 := 108
def dpidLineState : UInt8 := 109
def dpidSelfId : UInt8 := 112
def dpidValve2CheckFail : UInt8 := 113
def dpidValve1CheckSuccess : UInt8 := 114
def dpidValve2CheckSuccess : UInt8 := 115

/-- The update functions report success also when updates are stopped. -/
def mcuDpUpdate (f : CloudFrame) (g : Gateway) : UInt8 × Gateway :=
  if g.stopUpdateFlag then (success,g) else (success,g.emit f)

def mcuDpBoolUpdate (dpid value : UInt8) (subId : Text) : Gateway → UInt8 × Gateway :=
  mcuDpUpdate (.dpBool dpid (if value = 0 then 0 else 1) subId)

def mcuDpValueUpdate (dpid : UInt8) (value : UInt32) (subId : Text) :
    Gateway → UInt8 × Gateway :=
  mcuDpUpdate (.dpValue dpid value subId)

def mcuDpEnumUpdate (dpid value : UInt8) (subId : Text) : Gateway → UInt8 × Gateway :=
  mcuDpUpdate (.dpEnum dpid value subId)

def reportBool (dpid value : UInt8) (id : UInt32) (g : Gateway) : Gateway :=
  (mcuDpBoolUpdate dpid value (fmtLd id) g).2

def reportValue (dpid : UInt8) (value id : UInt32) (g : Gateway) : Gateway :=
  (mcuDpValueUpdate dpid value (fmtLd id) g).2

def reportEnum (dpid value : UInt8) (id : UInt32) (g : Gateway) : Gateway :=
  (mcuDpEnumUpdate dpid value (fmtLd id) g).2

def heartBeatReport (subId : Text) (lowpower : UInt8) (g : Gateway) : Gateway :=
  g.emit (.heartBeat subId lowpower)

def wariningUpload (fromId deviceId : UInt32) (type value : UInt8) (g : Gateway) : Gateway :=
  if 0 < deviceId then
    match type with
    | 0 => reportBool 103 value deviceId g
    | 1 => reportEnum 1 value deviceId (if value = 0 then g else reportBool 104 0 deviceId g)
    | 2 => reportEnum 102 value deviceId g
    | 3 => reportBool 104 value deviceId g
    | _ => g
  else
    match type with
    | 0 =>
      match value with
      | 0 => reportBool dpidValve1CheckSuccess 1 fromId (reportBool dpidValve1CheckFail 0 fromId g)
      | 1 => reportBool dpidValve2CheckSuccess 1 fromId (reportBool dpidValve2CheckFail 0 fromId g)
      | 2 => reportBool dpidValve1CheckFail 1 fromId
          (reportBool dpidLineState 0 fromId (reportBool dpidTempState 0 fromId g))
      | 3 => reportBool dpidValve2CheckFail 1 fromId
          (reportBool dpidLineState 0 fromId (reportBool dpidTempState 0 fromId g))
      | _ => g
    | 1 => reportBool dpidDeviceAlarm value fromId (if value = 0 then g else
        reportBool dpidLineState 0 fromId (reportBool dpidTempState 0 fromId
          (reportBool dpidValve2CheckFail 0 fromId (reportBool dpidValve1CheckFail 0 fromId g))))
    | 2 => reportBool dpidLineState value fromId g
    | 3 => reportBool dpidTempState value fromId (if value = 0 then g else
        reportBool dpidLineState 0 fromId g)
    | _ => g

def closeWarnMain (deviceId : UInt32) (g : Gateway) : Gateway :=
  reportBool dpidDelayState 0 deviceId (reportBool dpidDeviceAlarm 0 deviceId g)

/-- The id passed as the value of the first report is narrowed to a byte. -/
def initWarnMain (deviceId : UInt32) (g : Gateway) : Gateway :=
  let g := reportBool dpidSelfId deviceId.toUInt8 deviceId g
  let g := reportBool dpidDeviceAlarm 0 deviceId g
  let g := reportBool dpidValve1CheckFail 0 deviceId g
  let g := reportBool dpidValve2CheckFail 0 deviceId g
  let g := reportBool dpidTempState 0 deviceId g
  reportBool dpidLineState 0 deviceId g

def closeWarnSlave (deviceId : UInt32) (g : Gateway) : Gateway := reportEnum 1 0 deviceId g

def doorUpload (deviceId : UInt32) (state : UInt8) (g : Gateway) : Gateway :=
  reportBool 104 state deviceId g

def remoteDelayWiFi (deviceId : UInt32) (state : UInt8) (g : Gateway) : Gateway :=
  reportBool 106 state deviceId g

def doorDelayWiFi (mainId deviceId : UInt32) (state : UInt8) (g : Gateway) : Gateway :=
  reportBool 106 state mainId (reportBool 105 state deviceId g)

def mainRssiReport (deviceId : UInt32) (rssi : Int) (g : Gateway) : Gateway :=
  if rssi < -94 then reportEnum dpidSignState 0 deviceId g
  else if rssi < -78 then reportEnum dpidSignState 1 deviceId g
  else reportEnum dpidSignState 2 deviceId g

def mainPid : Text := ['q','3','x','n','n','9','y','q','t','5','5','i','f','a','x','m']
def slavePid : Text := ['l','n','b','k','v','a','6','c','i','p','8','d','w','7','v','y']
def doorPid : Text := ['e','m','n','z','q','3','q','x','w','f','p','l','x','7','d','b']

/-- `Main_Add_WiFi`, `Slave_Add_WiFi` and `Door_Add_WiFi` differ in the product key. -/
def addWiFi (pid : Text) (deviceId : UInt32) (g : Gateway) : Gateway :=
  (g.emit (.addSubdevLimit 1 0 1)).emit (.subdeviceAdd ['1','.','0'] pid 0 (fmtLd deviceId) 10 0)

def mainAddWiFi : UInt32 → Gateway → Gateway := addWiFi mainPid
def slaveAddWiFi : UInt32 → Gateway → Gateway := addWiFi slavePid
def doorAddWiFi : UInt32 → Gateway → Gateway := addWiFi doorPid

def deviceUp (deviceId : UInt32) (g : Gateway) : Gateway :=
  (heartBeatReport (fmtLd deviceId) 0 g).emit (.onlineState 0 (fmtLd deviceId) 1 1)

def deviceDown (deviceId : UInt32) (g : Gateway) : Gateway :=
  g.emit (.onlineState 0 (fmtLd deviceId) 1 0)

/-- Data points and heartbeats: frames that neither add, delete nor move a sub-device. -/
def CloudFrame.isReport : CloudFrame → Bool
  | .dpBool _ _ _ => true
  | .dpValue _ _ _ => true
  | .dpEnum _ _ _ => true
  | .heartBeat _ _ => true
  | _ => false

def Reports (g g' : Gateway) : Prop :=
  ∃ fs, g' = { g with cloud := g.cloud ++ fs } ∧ ∀ f ∈ fs, f.isReport = true

theorem Reports.refl (g : Gateway) : Reports g g := ⟨[],by simp,by simp⟩

theorem Reports.trans {g g' g'' : Gateway} (h : Reports g g') (h' : Reports g' g'') :
    Reports g g'' := by
  obtain ⟨fs,rfl,hfs⟩ := h
  obtain ⟨fs',rfl,hfs'⟩ := h'
  refine ⟨fs ++ fs',by simp,fun f hf => ?_⟩
  rcases List.mem_append.mp hf with hf | hf
  · exact hfs f hf
  · exact hfs' f hf

theorem Reports.emit {f : CloudFrame} (hf : f.isReport = true) (g : Gateway) :
    Reports g (g.emit f) := ⟨[f],rfl,by simpa using hf⟩

theorem Reports.iteRight {g g' : Gateway} (b : Prop) [Decidable b] (h : Reports g g') :
    Reports g (if b then g else g') := by
  split
  · exact .refl g
  · exact h

theorem Reports.onlyEmits {g g' : Gateway} (h : Reports g g') : OnlyEmits g g' := by
  obtain ⟨fs,hfs,_⟩ := h
  exact ⟨fs,hfs⟩

section
variable (g : Gateway)

theorem mcuDpUpdate_reports {f : CloudFrame} (hf : f.isReport = true) :
    Reports g (mcuDpUpdate f g).2 := by
  unfold mcuDpUpdate
  split
  · exact .refl g
  · exact .emit hf g

theorem reportBool_reports (dpid value : UInt8) (id : UInt32) :
    Reports g (reportBool dpid value id g) := mcuDpUpdate_reports g rfl

theorem reportValue_reports (dpid : UInt8) (value id : UInt32) :
    Reports g (reportValue dpid value id g) := mcuDpUpdate_reports g rfl

theorem reportEnum_reports (dpid value : UInt8) (id : UInt32) :
    Reports g (reportEnum dpid value id g) := mcuDpUpdate_reports g rfl

theorem heartBeatReport_reports (subId : Text) (lowpower : UInt8) :
    Reports g (heartBeatReport subId lowpower g) := .emit rfl g

theorem wariningUpload_reports (fromId deviceId : UInt32) (type value : UInt8) :
    Reports g (wariningUpload fromId deviceId type value g) := by
  have two : ∀ (d v d' v' : UInt8) (i : UInt32),
      Reports g (reportBool d v i (reportBool d' v' i g)) := fun d v d' v' i =>
    (reportBool_reports g d' v' i).trans (reportBool_reports _ d v i)
  unfold wariningUpload
  split
  · split
    · exact reportBool_reports g _ _ _
    · exact (Reports.iteRight _ (reportBool_reports g _ _ _)).trans (reportEnum_reports _ _ _ _)
    · exact reportEnum_reports g _ _ _
    · exact reportBool_reports g _ _ _
    · exact .refl g
  · split
    · split
      · exact two _ _ _ _ _
      · exact two _ _ _ _ _
      · exact (two _ _ _ _ _).trans (reportBool_reports _ _ _ _)
      · exact (two _ _ _ _ _).trans (reportBool_reports _ _ _ _)
      · exact .refl g
    · refine (Reports.iteRight _ ?_).trans (reportBool_reports _ _ _ _)
      exact ((two _ _ _ _ _).trans (reportBool_reports _ _ _ _)).trans (reportBool_reports _ _ _ _)
    · exact reportBool_reports g _ _ _
    · exact (Reports.iteRight _ (reportBool_reports g _ _ _)).trans (reportBool_reports _ _ _ _)
    · exact .refl g

theorem closeWarnMain_reports (id : UInt32) : Reports g (closeWarnMain id g) :=
  (reportBool_reports g _ _ _).trans (reportBool_reports _ _ _ _)

theorem initWarnMain_reports (id : UInt32) : Reports g (initWarnMain id g) :=
  (reportBool_reports g _ _ _).trans <| (reportBool_reports _ _ _ _).trans <|
    (reportBool_reports _ _ _ _).trans <| (reportBool_reports _ _ _ _).trans <|
    (reportBool_reports _ _ _ _).trans (reportBool_reports _ _ _ _)

theorem closeWarnSlave_reports (id : UInt32) : Reports g (closeWarnSlave id g) :=
  reportEnum_reports g _ _ _

theorem doorDelayWiFi_reports (m id : UInt32) (state : UInt8) :
    Reports g (doorDelayWiFi m id state g) :=
  (reportBool_reports g _ _ _).trans (reportBool_reports _ _ _ _)

theorem mainRssiReport_reports (id : UInt32) (rssi : Int) :
    Reports g (mainRssiReport id rssi g) := by
  unfold mainRssiReport
  split
  · exact reportEnum_reports g _ _ _
  · split <;> exact reportEnum_reports g _ _ _

theorem mcuDpUpdate_onlyEmits (f : CloudFrame) : OnlyEmits g (mcuDpUpdate f g).2 := by
  unfold mcuDpUpdate
  split
  · exact .refl g
  · exact .emit f g

theorem reportBool_onlyEmits (dpid value : UInt8) (id : UInt32) :
    OnlyEmits g (reportBool dpid value id g) := (reportBool_reports g _ _ _).onlyEmits

theorem reportValue_onlyEmits (dpid : UInt8) (value id : UInt32) :
    OnlyEmits g (reportValue dpid value id g) := (reportValue_reports g _ _ _).onlyEmits

theorem reportEnum_onlyEmits (dpid value : UInt8) (id : UInt32) :
    OnlyEmits g (reportEnum dpid value id g) := (reportEnum_reports g _ _ _).onlyEmits

theorem wariningUpload_onlyEmits (fromId deviceId : UInt32) (type value : UInt8) :
    OnlyEmits g (wariningUpload fromId deviceId type value g) :=
  (wariningUpload_reports g _ _ _ _).onlyEmits

theorem closeWarnMain_onlyEmits (id : UInt32) : OnlyEmits g (closeWarnMain id g) :=
  (closeWarnMain_reports g id).onlyEmits

theorem initWarnMain_onlyEmits (id : UInt32) : OnlyEmits g (initWarnMain id g) :=
  (initWarnMain_reports g id).onlyEmits

theorem closeWarnSlave_onlyEmits (id : UInt32) : OnlyEmits g (closeWarnSlave id g) :=
  (closeWarnSlave_reports g id).onlyEmits

theorem doorDelayWiFi_onlyEmits (m id : UInt32) (state : UInt8) :
    OnlyEmits g (doorDelayWiFi m id state g) := (doorDelayWiFi_reports g m id state).onlyEmits

theorem mainRssiReport_onlyEmits (id : UInt32) (rssi : Int) :
    OnlyEmits g (mainRssiReport id rssi g) := (mainRssiReport_reports g id rssi).onlyEmits

theorem addWiFi_onlyEmits (pid : Text) (id : UInt32) : OnlyEmits g (addWiFi pid id g) :=
  (OnlyEmits.emit _ g).trans (.emit _ _)

theorem deviceUp_onlyEmits (id : UInt32) : OnlyEmits g (deviceUp id g) :=
  (OnlyEmits.emit _ g).trans (.emit _ _)

theorem deviceDown_onlyEmits (id : UInt32) : OnlyEmits g (deviceDown id g) := .emit _ g

end

end GatewayF411
