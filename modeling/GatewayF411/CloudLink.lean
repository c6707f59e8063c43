import GatewayF411.CJson
import GatewayF411.CloudMirror
import GatewayF411.DataIssued
import GatewayF411.FactoryReset
import GatewayF411.UartFrames

/-!
`data_handle` as a whole: what the frames of the WiFi module do, from the bytes of the frame on.
Commands whose handlers are empty, or only switch a light, are not listed and change nothing.
-/

set_option autoImplicit false

namespace GatewayF411
open CText Cells Cursor

inductive WifiCmd where
  | productInfo | workMode | wifiState | wifiReset | wifiMode | permitNetin | closeNetin
  | subdeviceDelete | heartCheck | dataIssued | informDevDel | qurSubdevList
  | updateStart | updateTrans | subdevStartUpgrade | subdevTrans | qurSubdevVer
  deriving DecidableEq, Repr

def WifiCmd.code : WifiCmd → UInt8
  | .productInfo => 0x01
  | .workMode => 0x02
  | .wifiState => 0x03
  | .wifiReset => 0x04
  | .wifiMode => 0x05
  | .permitNetin => 0x06
  | .closeNetin => 0x07
  | .subdeviceDelete => 0x09
  | .heartCheck => 0x0a
  | .dataIssued => dataIssuedCmd
  | .informDevDel => 0x18
  | .qurSubdevList => 0x1c
  | .updateStart => updateStartCmd
  | .updateTrans => updateTransCmd
  | .subdevStartUpgrade => subdevStartUpgradeCmd
  | .subdevTrans => subdevTransCmd
  | .qurSubdevVer => 0x21

def wifiCmds : List WifiCmd :=
  [.productInfo,.workMode,.wifiState,.wifiReset,.wifiMode,.permitNetin,.closeNetin,.subdeviceDelete,
    .heartCheck,.dataIssued,.informDevDel,.qurSubdevList,.updateStart,.updateTrans,
    .subdevStartUpgrade,.subdevTrans,.qurSubdevVer]

def WifiCmd.ofCode (code : UInt8) : Option WifiCmd := wifiCmds.find? fun cmd => cmd.code = code

theorem WifiCmd.ofCode_code (cmd : WifiCmd) : ofCode cmd.code = some cmd := by
  cases cmd <;> decide

section Json

def frameData (buf : Nat → UInt8) : List UInt8 :=
  slice buf dataStart (dataStart+(totalLen buf).toNat)

/-- `pstr`: the data of the frame, copied behind zeros. -/
def frameText (buf : Nat → UInt8) : Text := cString (frameData buf) 0

def CJson.valuestring : CJson → Option Text
  | .string s => some s
  | _ => none

/-- What a JSON command does with its text: it leaves through its error exit, it goes on with a
sub-device, or the parser leaves its buffers or the id is NULL. -/
inductive Named where
  | refused
  | subId (id : Text)
  | undefined
  deriving DecidableEq, Repr

def CJson.named (needed : List Text) (root : CJson) : Named :=
  match cJSONGetObjectItem root ['s','u','b','_','i','d'] with
  | none => .refused
  | some item =>
    if needed.all fun name => (cJSONGetObjectItem root name).isSome then
      match item.valuestring with
      | some id => .subId id
      | none => .undefined
    else .refused

def namedIn (needed : List Text) (text : Text) : Named :=
  match cJSONParse text with
  | .ok root => root.named needed
  | .error .malformed => .refused
  | .error _ => .undefined

/-- `subdevice_delete` and the reply, which is sent in any case. -/
def subdeviceDeleteText (text : Text) (g : Gateway) : Option Gateway :=
  match namedIn [['t','p']] text with
  | .subId id => some (subdeviceDelete id g)
  | .refused => some (g.emit .subdeviceDeleteAck)
  | .undefined => none

def heartBeatCheck (text : Text) (g : Gateway) : Option Gateway :=
  match namedIn [] text with
  | .subId id => some (heartRequest id g)
  | .refused => some g
  | .undefined => none

/-- `qur_subdev_ver_get` parses its text and does nothing with the id. -/
def qurSubdevVerGet (text : Text) : Option Unit :=
  match cJSONParse text with
  | .ok _ | .error .malformed => some ()
  | .error _ => none

end Json

def gwProductKey : Text := ['r','b','p','t','o','a','j','h','w','d','f','s','d','m','b','u']

def productInfo (fmtDouble : CNumber → Text) (pidFlag : UInt8) : Text :=
  cJSONPrintUnformatted fmtDouble (.object (
    [(['v'],.string ['2','.','1','.','2']),(['m'],.number (.ofInt 0)),
      (['c','a','p'],.number (.ofInt 4))] ++
    (if pidFlag = 1 then [(['p'],.string gwProductKey)] else []) ++
    (if pidFlag = 2 then [(['p'],.string mainPid)] else []) ++
    [(['n'],.number (.ofInt 1)),(['s'],.number (.ofInt 0))]))

/-- What lies outside the frame while it is handled. `stackHolds` tells for which data the 2048
bytes of stack of the thread hold `pstr` and the calls that the parser makes on it. -/
structure FrameIo where
  fal : FalIo
  mallocOk : Bool
  stackHolds : List UInt8 → Bool

/-- The firmware as `data_handle` sees it. `replies` are the frames written by the handlers that
are not among those of the gateway. -/
structure Mcu where
  station : Station
  wifi : WifiState
  ota : Ota
  wifiWorkState : UInt8
  resetWifiFlag : Bool
  setWifimodeFlag : Bool
  ifSubdevNetIn : Bool
  replies : List (UInt8 × List UInt8)

def Mcu.reset (env : EnvLog) (m : Mcu) : Mcu where
  station := ⟨powerOn m.station.gateway.selfId env,⟨1,.rest⟩⟩
  wifi := ⟨false,0xff,false⟩
  ota := .boot m.ota.flash
  wifiWorkState := 0
  resetWifiFlag := false
  setWifimodeFlag := false
  ifSubdevNetIn := false
  replies := m.replies

def Mcu.reply (cmd : WifiCmd) (data : List UInt8) (m : Mcu) : Mcu :=
  { m with replies := m.replies ++ [(cmd.code,data)] }

def Mcu.setGateway (m : Mcu) (g : Gateway) : Mcu := { m with station := ⟨g,m.station.heart⟩ }

/-- `WIFI_STATE_CMD`; on a new connection `qur_subdev_list` asks for the list of sub-devices. -/
def Mcu.wifiState (result : UInt8) (m : Mcu) : Mcu :=
  let r := wifiStatusChange result m.wifi m.station.gateway
  let asks := m.wifi.reconnects result
  let m := { m.reply .wifiState [] with wifiWorkState := result, wifi := r.1 }
  let m := if asks then m.reply .qurSubdevList [] else m
  m.setGateway r.2

inductive Running where
  | on (m : Mcu)
  | reset (m : Mcu)

/-- Why a frame leads nowhere: it makes the firmware use memory that is not meant for it, or
its records are handled for ever. -/
inductive Stop where
  | undefined
  | endless
  deriving DecidableEq, Repr

def OtaCall.frame? : OtaCall → Option (UInt8 × List UInt8)
  | .writeFrame cmd data => some (cmd,data)
  | _ => none

def updateFrame (io : FalIo) (buf : Nat → UInt8) (m : Mcu) : Running :=
  let r := dataHandle m.ota ⟨buf,io⟩
  let m := { m with ota := r.2, replies := m.replies ++ r.1.filterMap OtaCall.frame? }
  if .wifiOtaEnd ∈ r.1 then .reset (m.reset m.station.gateway.env) else .on m

/-- `inform_dev_del_status`: the answer to a local reset, and a reset by the cloud. -/
def informDevDelStatus (result : UInt8) (m : Mcu) : Running :=
  if result = 0 then .reset (m.reset m.station.gateway.env)
  else if result = 3 then .reset (m.reset (efEnvSetDefault m.station.gateway.env))
  else .on m

def handleText (io : FrameIo) (buf : Nat → UInt8) (m : Mcu) (r : Option Gateway) :
    Except Stop Running :=
  if io.stackHolds (frameData buf) then
    match r with
    | some g => .ok (.on (m.setGateway g))
    | none => .error .undefined
  else .error .undefined

/-- The lengths of the nodes, where the loop of `local_subdev_list` looks for them. -/
def nodeLens (packet : List UInt8) : (left offset : Nat) → List Nat
  | 0, _ => []
  | left+1, offset =>
    let len := (packet.getD offset 0).toNat
    len :: nodeLens packet left ((offset+len+1) % 256)

/-- The text of a node does not end in its record, or the ids run over the end of
`Remote_Device.ID[50]`. -/
def ListOverruns (packet : List UInt8) (r : RemoteInfo) : Prop :=
  maxSupport ≤ r.num+(packet.getD 1 0).toNat ∨
    ∃ len ∈ nodeLens packet (packet.getD 1 0).toNat 2, 32 ≤ len

instance (packet : List UInt8) (r : RemoteInfo) : Decidable (ListOverruns packet r) :=
  inferInstanceAs (Decidable (_ ∨ _))

/-- `buf` holds the frame from its head on, and `local_subdev_list` reads up to 511 bytes of data
whatever their length. An id that fills `sub_id_buf` is read on behind it. -/
def handleCmd (io : FrameIo) (buf : Nat → UInt8) (m : Mcu) : WifiCmd → Except Stop Running
  | .productInfo =>
    .ok (.on (m.reply .productInfo ((productInfo (fun _ => []) (buf protocolVersion)).map
      fun c => UInt8.ofNat c.toNat)))
  | .workMode => .ok (.on (m.reply .workMode []))
  | .wifiState => .ok (.on (m.wifiState (buf dataStart)))
  | .wifiReset => .ok (.on { m with resetWifiFlag := true })
  | .wifiMode => .ok (.on { m with setWifimodeFlag := true })
  | .permitNetin => .ok (.on { m.reply .permitNetin [] with ifSubdevNetIn := true })
  | .closeNetin => .ok (.on { m.reply .closeNetin [] with ifSubdevNetIn := false })
  | .subdeviceDelete => handleText io buf m (subdeviceDeleteText (frameText buf) m.station.gateway)
  | .heartCheck => handleText io buf m (heartBeatCheck (frameText buf) m.station.gateway)
  | .dataIssued =>
    if subIdLen buf = bufSize then .error .undefined
    else
      match dataIssued buf 65537 m.station.gateway with
      | .handled _ g => .ok (.on (m.setGateway g))
      | .overrun => .error .undefined
      | .running => .error .endless
  | .informDevDel => .ok (informDevDelStatus (buf dataStart) m)
  | .qurSubdevList =>
    let packet := slice buf dataStart (dataStart+511)
    if io.mallocOk = true ∧ ListOverruns packet m.station.gateway.remoteDevice then .error .undefined
    else .ok (.on (m.setGateway (localSubdevList io.mallocOk packet m.station.gateway)))
  | .updateStart | .updateTrans => .ok (updateFrame io.fal buf m)
  | .subdevStartUpgrade =>
    if subIdLen buf ≤ bufSize then .ok (updateFrame io.fal buf m) else .error .undefined
  | .subdevTrans =>
    if m.ota.firmUpdateFlag = subdevStartUpgradeCmd ∧ bufSize < subIdLen buf then .error .undefined
    else .ok (updateFrame io.fal buf m)
  | .qurSubdevVer =>
    handleText io buf m ((qurSubdevVerGet (frameText buf)).map fun _ => m.station.gateway)

def mcuDataHandle (io : FrameIo) (buf : Nat → UInt8) (m : Mcu) : Except Stop Running :=
  match WifiCmd.ofCode (buf frameType) with
  | some cmd => handleCmd io buf m cmd
  | none => .ok (.on m)

/-- The calls of `data_handle` in one call of `wifi_uart_service`. A reset ends them. -/
def handleCalls (ios : Nat → FrameIo) : List HandleCall → Mcu → Except Stop Running
  | [], m => .ok (.on m)
  | call :: calls, m =>
    match mcuDataHandle (ios calls.length) (fun i => call.buf (call.offset+i)) m with
    | .ok (.on m) => handleCalls ios calls m
    | r => r

/-- A head stands at `offset` whose length and seven more do not fit 16 bits. -/
def WrapsAt (buf : Nat → UInt8) (rxIn offset : Nat) : Prop :=
  protocolHead ≤ rxIn-offset ∧ buf (offset+headFirst) = frameFirst ∧
    buf (offset+headSecond) = frameSecond ∧ 65529 ≤ announcedLen (fun a => buf a.toNat) offset

instance (buf : Nat → UInt8) (rxIn offset : Nat) : Decidable (WrapsAt buf rxIn offset) :=
  inferInstanceAs (Decidable (_ ∧ _))

/-- The loop of `wifi_uart_service` comes to such a head, and reads outside its buffer for the
check sum. -/
def readsOutside (buf : Nat → UInt8) (rxIn : Nat) : (fuel offset : Nat) → Bool
  | 0, _ => false
  | fuel+1, offset =>
    WrapsAt buf rxIn offset ||
      match serviceLook (fun a => buf a.toNat) rxIn offset with
      | .stop => false
      | .skip next | .take next => readsOutside buf rxIn fuel next

/-- `wifi_uart_service` up to its calls of `data_handle`. -/
def linkService (s : UartPort) : Except Stop UartPort :=
  let read := readLoop (processBufSize-s.rxIn) s
  if readsOutside read.processBuf read.rxIn (read.rxIn+1) 0 then .error .undefined
  else
    match wifiUartService s with
    | some port => .ok port
    | none => .error .endless

structure Link where
  port : UartPort
  mcu : Mcu

inductive ThreadEvent where
  | radio (junk : Message) (rssi : Int) (buffer : List UInt8) (len : Nat)
  | syncThread
  | syncTimeout
  | radioDequeue
  | heartThread

def ThreadEvent.station : ThreadEvent → StationEvent
  | .radio junk rssi buffer len => .event (.radio junk rssi buffer len)
  | .syncThread => .event .syncThread
  | .syncTimeout => .event .syncTimeout
  | .radioDequeue => .event .radioDequeue
  | .heartThread => .heartThread

def Mcu.turn (m : Mcu) (e : ThreadEvent) : Mcu := { m with station := stationStep m.station e.station }

inductive LinkEvent where
  | receiveInput (value : UInt8)
  | service (ios : Nat → FrameIo)
  | thread (e : ThreadEvent)

def linkStep (l : Link) : LinkEvent → Except Stop Link
  | .receiveInput value => .ok { l with port := { l.port with ring := l.port.ring.receiveInput value } }
  | .service ios => do
    let port ← linkService l.port
    match ← handleCalls ios (port.handled.drop l.port.handled.length) l.mcu with
    | .on m => pure ⟨port,m⟩
    | .reset m => pure ⟨.init (fun _ => 0) (fun _ => 0),m⟩
  | .thread e => .ok { l with mcu := l.mcu.turn e }

def linkRun (l : Link) (es : List LinkEvent) : Except Stop Link := es.foldlM linkStep l

def linkOn (selfId : UInt32) (flash : Nat → UInt8) : Link where
  port := .init (fun _ => 0) (fun _ => 0)
  mcu := ⟨stationOn selfId,⟨false,0xff,false⟩,.boot flash,0,false,false,false,[]⟩

/-- The table is well formed, and flash holds what a reset needs to rebuild it. -/
structure RegistryKept (g : Gateway) : Prop extends WellKept g, SlotsStored g

section Kept
variable {g : Gateway}

theorem RegistryKept.station (h : RegistryKept g) (heart : HeartState) (e : StationEvent) :
    RegistryKept (stationStep ⟨g,heart⟩ e).gateway :=
  ⟨h.toWellKept.edits (stationStep_edits ⟨g,heart⟩ e),
    stationStep_slotsStored h.toWellKept h.toSlotsStored e⟩

theorem RegistryKept.flashKept {g' : Gateway} (h : RegistryKept g) (hs : SameRegistry g g')
    (hk : FlashKept g g') : RegistryKept g' := ⟨h.toWellKept.edits (.same hs),hk.slotsStored h.toSlotsStored⟩

theorem RegistryKept.envOk (h : RegistryKept g) : EnvOk g.env :=
  ⟨by rw [h.num]; exact h.inv.num_le,by rw [h.num,h.ids]; exact h.inv.keyed⟩

theorem powerOn_registryKept (selfId : UInt32) {env : EnvLog} (henv : EnvOk env)
    (hkinds : ∀ n, storedId env n ≠ 0 → inRange (storedId env n) = true) :
    RegistryKept (powerOn selfId env) := by
  have hid : (loadDevice2Memory env).id = storedId env := henv.load_id
  refine ⟨⟨henv.load_inv,fun n hn => ?_⟩,?_,hid.symm,fun n hn => ?_⟩
  · change inRange ((loadDevice2Memory env).id n) = true
    change (loadDevice2Memory env).id n ≠ 0 at hn
    rw [hid] at hn ⊢
    exact hkinds n hn
  · exact (loadDevice2Memory_num env).symm
  · change (loadDevice2Memory env).id n ≠ 0 at hn
    have hslot := henv.keyed.bounded n (by rw [← hid]; exact hn)
    have hbind := (loadDevice2Memory_slot env hslot).bindId
    rw [if_neg hn] at hbind
    exact hbind.symm

theorem RegistryKept.reset (h : RegistryKept g) (selfId : UInt32) :
    RegistryKept (powerOn selfId g.env) := by
  refine powerOn_registryKept selfId h.envOk fun n hn => ?_
  rw [h.ids] at hn ⊢
  exact h.kinds n hn

theorem factory_registryKept (selfId : UInt32) : RegistryKept (powerOn selfId defaultEnvSet) := by
  refine powerOn_registryKept selfId ⟨by decide,?_,?_⟩ fun n hn => absurd (storedId_defaultEnvSet n) hn
  · exact fun n hn => absurd (storedId_defaultEnvSet n) hn
  · exact fun n m hn => absurd (storedId_defaultEnvSet n) hn

theorem dataPointHandle_kept (h : RegistryKept g) (buf : Nat → UInt8) (subId : List UInt8) (i : Nat) :
    RegistryKept (dataPointHandle buf subId i g) := by
  unfold dataPointHandle
  dsimp only
  split
  · split
    · exact h
    · unfold dpDownloadHandle
      split
      · exact h.station ⟨1,.rest⟩ (.event (.controlState _ _))
      · exact h
  · exact h

theorem recordLoop_kept (buf : Nat → UInt8) (subId : List UInt8) (fuel i : Nat) {g : Gateway}
    {r : List Nat × Gateway} (h : RegistryKept g) (hr : recordLoop buf subId fuel i g = some r) :
    RegistryKept r.2 := by
  induction fuel generalizing i g r with
  | zero => cases hr
  | succ fuel ih =>
    rw [recordLoop] at hr
    split at hr
    · obtain ⟨r',hr',rfl⟩ := Option.map_eq_some_iff.mp hr
      exact ih (r := r') _ (dataPointHandle_kept h buf subId i) hr'
    · cases hr
      exact h

theorem dataIssued_kept {buf : Nat → UInt8} {fuel : Nat} {places : List Nat} {g' : Gateway}
    (h : RegistryKept g) (hr : dataIssued buf fuel g = .handled places g') : RegistryKept g' := by
  unfold dataIssued at hr
  split at hr
  · cases hr
  · split at hr
    · rename_i hloop
      cases hr
      exact recordLoop_kept _ _ _ _ h hloop
    · cases hr

end Kept

def Running.mcu : Running → Mcu
  | .on m => m
  | .reset m => m

def Mcu.Kept (m : Mcu) : Prop := RegistryKept m.station.gateway

theorem Mcu.Kept.reset {m : Mcu} (h : m.Kept) : (m.reset m.station.gateway.env).Kept :=
  RegistryKept.reset h m.station.gateway.selfId

theorem updateFrame_kept {m : Mcu} (h : m.Kept) (io : FalIo) (buf : Nat → UInt8) :
    (updateFrame io buf m).mcu.Kept := by
  unfold updateFrame
  dsimp only
  split
  · exact h.reset
  · exact h

theorem subdeviceDeleteText_kept {g g' : Gateway} {text : Text} (h : RegistryKept g)
    (hg : subdeviceDeleteText text g = some g') : RegistryKept g' := by
  unfold subdeviceDeleteText at hg
  split at hg
  · cases hg
    exact h.station ⟨1,.rest⟩ (.event (.subdeviceDelete _))
  · cases hg
    have hemit : OnlyEmits g (g.emit .subdeviceDeleteAck) := .emit _ g
    exact h.flashKept hemit.quiet.sameRegistry hemit.flashKept
  · cases hg

theorem heartBeatCheck_kept {g g' : Gateway} {text : Text} (h : RegistryKept g)
    (hg : heartBeatCheck text g = some g') : RegistryKept g' := by
  unfold heartBeatCheck at hg
  split at hg
  · cases hg
    exact h.station ⟨1,.rest⟩ (.heartRequest _)
  · cases hg
    exact h
  · cases hg

theorem handleText_kept {m : Mcu} {io : FrameIo} {buf : Nat → UInt8} {o : Option Gateway} {r : Running}
    (ho : ∀ g, o = some g → RegistryKept g) (hr : handleText io buf m o = .ok r) : r.mcu.Kept := by
  unfold handleText at hr
  split at hr
  · cases o with
    | some g =>
      cases hr
      exact ho g rfl
    | none => cases hr
  · cases hr

theorem handleCmd_kept {m : Mcu} (h : m.Kept) {io : FrameIo} {buf : Nat → UInt8} {cmd : WifiCmd}
    {r : Running} (hr : handleCmd io buf m cmd = .ok r) : r.mcu.Kept := by
  cases cmd with
  | productInfo => cases hr; exact h
  | workMode => cases hr; exact h
  | wifiState =>
    cases hr
    have hclear : RegistryKept (wifiStatusChange (buf dataStart) m.wifi m.station.gateway).2 := by
      unfold wifiStatusChange
      dsimp only
      split
      · exact RegistryKept.flashKept h (.of_table rfl) (.of_env (.of_table rfl) rfl)
      · exact h
    exact hclear
  | wifiReset => cases hr; exact h
  | wifiMode => cases hr; exact h
  | permitNetin => cases hr; exact h
  | closeNetin => cases hr; exact h
  | subdeviceDelete => exact handleText_kept (fun _ hg => subdeviceDeleteText_kept h hg) hr
  | heartCheck => exact handleText_kept (fun _ hg => heartBeatCheck_kept h hg) hr
  | dataIssued =>
    simp only [handleCmd] at hr
    split at hr
    · cases hr
    · split at hr
      · rename_i hdata
        cases hr
        exact dataIssued_kept h hdata
      · cases hr
      · cases hr
  | informDevDel =>
    cases hr
    unfold informDevDelStatus
    split
    · exact h.reset
    · split
      · exact factory_registryKept _
      · exact h
  | qurSubdevList =>
    simp only [handleCmd] at hr
    split at hr
    · cases hr
    · cases hr
      exact RegistryKept.station h ⟨1,.rest⟩ (.event (.subdevList _ _))
  | updateStart => cases hr; exact updateFrame_kept h _ _
  | updateTrans => cases hr; exact updateFrame_kept h _ _
  | subdevStartUpgrade =>
    simp only [handleCmd] at hr
    split at hr
    · cases hr
      exact updateFrame_kept h _ _
    · cases hr
  | subdevTrans =>
    simp only [handleCmd] at hr
    split at hr
    · cases hr
    · cases hr
      exact updateFrame_kept h _ _
  | qurSubdevVer =>
    refine handleText_kept (fun g hg => ?_) hr
    obtain ⟨_,_,rfl⟩ := Option.map_eq_some_iff.mp hg
    exact h

theorem mcuDataHandle_kept {m : Mcu} (h : m.Kept) {io : FrameIo} {buf : Nat → UInt8} {r : Running}
    (hr : mcuDataHandle io buf m = .ok r) : r.mcu.Kept := by
  unfold mcuDataHandle at hr
  split at hr
  · exact handleCmd_kept h hr
  · cases hr
    exact h

theorem handleCalls_kept (ios : Nat → FrameIo) (calls : List HandleCall) {m : Mcu} {r : Running}
    (h : m.Kept) (hr : handleCalls ios calls m = .ok r) : r.mcu.Kept := by
  induction calls generalizing m with
  | nil =>
    cases hr
    exact h
  | cons call calls ih =>
    rw [handleCalls] at hr
    cases hone : mcuDataHandle (ios calls.length) (fun i => call.buf (call.offset+i)) m with
    | error stop =>
      rw [hone] at hr
      cases hr
    | ok one =>
      have hm := mcuDataHandle_kept h hone
      rw [hone] at hr
      cases one with
      | on m' => exact ih hm hr
      | reset m' =>
        cases hr
        exact hm

theorem linkStep_kept {l l' : Link} (h : l.mcu.Kept) {e : LinkEvent} (hl : linkStep l e = .ok l') :
    l'.mcu.Kept := by
  cases e with
  | receiveInput value =>
    cases hl
    exact h
  | service ios =>
    simp only [linkStep,bind,Except.bind] at hl
    cases hport : linkService l.port with
    | error stop =>
      rw [hport] at hl
      cases hl
    | ok port =>
      simp only [hport] at hl
      cases hcalls : handleCalls ios (port.handled.drop l.port.handled.length) l.mcu with
      | error stop =>
        rw [hcalls] at hl
        cases hl
      | ok r =>
        have hm := handleCalls_kept ios _ h hcalls
        rw [hcalls] at hl
        cases r with
        | on m =>
          cases hl
          exact hm
        | reset m =>
          cases hl
          exact hm
  | thread e =>
    cases hl
    exact RegistryKept.station h l.mcu.station.heart e.station

/-- Whatever bytes arrive on the UART, in whatever order with the turns of the service thread and
of the other threads: in every state that is reached the table is well formed and flash holds
what a reset needs to rebuild it, resets and a factory reset by the cloud included. -/
theorem wifi_bytes_keep_registry (selfId : UInt32) (flash : Nat → UInt8) (es : List LinkEvent) (l : Link)
    (h : linkRun (linkOn selfId flash) es = .ok l) : RegistryKept l.mcu.station.gateway := by
  have hempty : RegistryKept (powerOn selfId []) := by
    refine powerOn_registryKept selfId envOk_nil fun n hn => ?_
    simp [storedId,flashGetKeyValue,readValue,efGetEnvBlob] at hn
  have hstart : (linkOn selfId flash).mcu.Kept := hempty
  exact Runs.foldlM_ok_inv (fun l : Link => l.mcu.Kept) (fun _ _ _ hk hl => linkStep_kept hk hl) es
    hstart h

def hearsText (text : Text) : ThreadEvent := .radio .zero (-60) (radioBuffer text) text.length

def mainLearnedText : Text :=
  ['{','4','0','0','0','0','0','0','0',',','1','0','0','0','0','0','0','1',',','1',',','3',',','2','}',
    '0','0','\r','\n']

/-- The cloud deletes the slave 20000001. -/
def slaveDeleteBytes : List UInt8 :=
  [0x55,0xaa,0,0x09,0,28] ++
    (['{','"','s','u','b','_','i','d','"',':','"','2','0','0','0','0','0','0','1','"',',','"','t',
      'p','"',':','0','}'] : Text).map (fun c => UInt8.ofNat c.toNat) ++ [0x95]

/-- A main and a slave are learned before the cloud deletes the slave. -/
def slaveDeletedEvents : List LinkEvent :=
  [.thread (hearsText mainLearnedText),.thread (hearsText slaveOnlineText)] ++
    slaveDeleteBytes.map .receiveInput ++ [.service fun _ => ⟨.allOk,true,fun data => data.length < 1024⟩,.thread .heartThread]

theorem wifi_bytes_keep_registry_deleted :
    ∃ l, linkRun (linkOn 40000000 fun _ => 0) slaveDeletedEvents = .ok l ∧
      l.mcu.station.gateway.globalDevice.num = 2 ∧ l.mcu.station.gateway.globalDevice.id 1 = 10000001 ∧
      l.mcu.station.gateway.globalDevice.id 2 = 0 ∧ RegistryKept l.mcu.station.gateway := by
  have hids : (linkRun (linkOn 40000000 fun _ => 0) slaveDeletedEvents).toOption.map (fun l =>
      let d := l.mcu.station.gateway.globalDevice
      (d.num,d.id 1,d.id 2)) = some (2,10000001,0) := by decide +kernel
  cases hrun : linkRun (linkOn 40000000 fun _ => 0) slaveDeletedEvents with
  | error stop => simp [hrun,Except.toOption] at hids
  | ok l =>
    simp only [hrun,Except.toOption,Option.map_some,Option.some.injEq,Prod.mk.injEq] at hids
    exact ⟨l,rfl,hids.1,hids.2.1,hids.2.2,
      wifi_bytes_keep_registry 40000000 (fun _ => 0) slaveDeletedEvents l hrun⟩

end GatewayF411
