import GatewayF411.MirrorRun

set_option autoImplicit false

namespace GatewayF411
open CText Runs

/-- The indices that an event gives to `Remote_Device_Add`, one after the other. They are the
values that `Remote_Device.Num` takes on the way. -/
def mirrorIndices (v : CloudView) : CloudEvent → List Nat
  | .event (.subdevList true packet) =>
    trace (fun g id => [(remoteDeviceAdd id g).remoteDevice.num]) (fun g id => remoteDeviceAdd id g)
      v.gateway (readIds packet)
  | _ => []

/-- The entries that `Remote_Get_Key_Valid` and `Remote_Device_Delete` look at lie in `ID[50]`. -/
def MirrorInside (v : CloudView) : Prop := v.gateway.remoteDevice.num < maxSupport

section Num
variable (g : Gateway)

theorem delDevice_remote_num (id : UInt32) :
    (delDevice id g).2.remoteDevice.num = g.remoteDevice.num := by
  rcases delDevice_mirror id g with ⟨_,hsame⟩ | ⟨_,_,n,_,_,_,hfreed⟩
  · rw [hsame]
  · rw [hfreed]

theorem deviceLearn_remote_num {m : Message} (hc : m.command = 3) :
    (deviceLearn m g).remoteDevice.num = g.remoteDevice.num := by
  rcases deviceLearn_cases g m hc with ⟨_,hs⟩ | ⟨_,heq⟩
  · rw [hs.remoteDevice]
  · rw [heq,deviceAdd2FlashWifi_remote,delDevice_remote_num]

theorem syncOnline_remote_num (m : Message) :
    (syncOnline m g).remoteDevice.num = g.remoteDevice.num := by
  rw [(syncOnline_heartCall g m).hush.remoteDevice,(deviceUp_hush _ _).remoteDevice,
    (flashSetHeart_hush _ _ _).remoteDevice,deviceAdd2FlashWifi_remote]

theorem syncCommand_remote_num (m : Message) :
    (syncCommand m g).remoteDevice.num = g.remoteDevice.num := by
  unfold syncCommand
  split
  · rw [(deviceSeen_heartCall g m).hush.remoteDevice]
  · obtain ⟨fs,hfs,_⟩ := localDelete_news (u32 m.deviceId) g
    rw [delDevice_remote_num,hfs]
  · rw [syncOnline_remote_num,(syncRefresh_still g).remoteDevice]
  · rw [(delMainBind_news _ g).1]
  · rw [(syncOffline_heartCall _ m).hush.remoteDevice,deviceAdd2FlashWifi_remote,
      (syncRefresh_still g).remoteDevice]
  · rw [syncOnline_remote_num]
  · rfl

theorem radio_remote_num (junk : Message) (rssi : Int) (buffer : List UInt8) (len : Nat) :
    (rf433RxCallback junk rssi buffer len g).remoteDevice.num = g.remoteDevice.num := by
  rcases rf433RxCallback_cases g junk rssi buffer len with ⟨_,heq⟩ | ⟨_,hc⟩ | ⟨_,g1,hc,heq⟩ |
    ⟨_,g1,hc,heq⟩ | ⟨_,g1,hc,heq⟩
  · rw [heq]
  · rw [hc.hush.remoteDevice]
    split
    · rename_i hcmd
      exact deviceLearn_remote_num g hcmd
    · rfl
  · rw [heq,syncCommand_remote_num,hc.hush.remoteDevice]
  · rw [heq,(warningCommand_hush _ g1).remoteDevice,hc.hush.remoteDevice]
  · rw [heq,(controlCommand_hush _ g1).remoteDevice,hc.hush.remoteDevice]

theorem subdeviceDelete_remote_num (subId : Text) :
    (subdeviceDelete subId g).remoteDevice.num = g.remoteDevice.num := by
  have hq := gatewayDataEnqueue_still g (getBindId g.globalDevice (u32 (atol subId)))
    (u32 (atol subId)) 0 6 0
  unfold subdeviceDelete remoteDelete
  dsimp only [Gateway.emit]
  split
  · rw [(reportValue_reports _ _ _ _).still.remoteDevice,delDevice_remote_num,hq.remoteDevice]
  · rw [delDevice_remote_num,hq.remoteDevice]

end Num

theorem adds_inside_iff {ids : List UInt32} {g : Gateway} (hg : g.remoteDevice.num < maxSupport) :
    (∀ n ∈ trace (fun g id => [(remoteDeviceAdd id g).remoteDevice.num])
        (fun g id => remoteDeviceAdd id g) g ids, n < maxSupport) ↔
      g.remoteDevice.num+ids.length < maxSupport := by
  induction ids generalizing g with
  | nil => exact iff_of_true (by simp [trace]) hg
  | cons id ids ih =>
    have hnum : (remoteDeviceAdd id g).remoteDevice.num = g.remoteDevice.num+1 := by
      simp only [maxSupport] at hg
      exact Nat.mod_eq_of_lt (by omega)
    simp only [trace,List.cons_append,List.nil_append,List.forall_mem_cons,List.length_cons,hnum]
    constructor
    · rintro ⟨hfirst,hrest⟩
      have hlen := (ih (hnum.trans_lt hfirst)).mp hrest
      omega
    · intro hlen
      have hfirst : g.remoteDevice.num+1 < maxSupport := by omega
      exact ⟨hfirst,(ih (hnum.trans_lt hfirst)).mpr (by omega)⟩

theorem remoteDeviceAdds_num {ids : List UInt32} {g : Gateway}
    (hfit : g.remoteDevice.num+ids.length < 256) :
    (ids.foldl (fun g id => remoteDeviceAdd id g) g).remoteDevice.num =
      g.remoteDevice.num+ids.length := by
  induction ids generalizing g with
  | nil => rfl
  | cons id ids ih =>
    simp only [List.length_cons] at hfit ⊢
    have hnum : (remoteDeviceAdd id g).remoteDevice.num = g.remoteDevice.num+1 :=
      Nat.mod_eq_of_lt (by omega)
    rw [List.foldl_cons,ih (by omega),hnum]
    omega

theorem mirrorIndices_inside_iff {v : CloudView} (hv : MirrorInside v) (e : CloudEvent) :
    (∀ n ∈ mirrorIndices v e, n < maxSupport) ↔ MirrorFits v e := by
  unfold mirrorIndices MirrorFits
  split
  · rw [adds_inside_iff hv,length_readIds]
  · simp

theorem cloudStep_inside {v : CloudView} (e : CloudEvent) (hv : MirrorInside v)
    (hfit : MirrorFits v e) : MirrorInside (cloudStep v e) := by
  unfold MirrorInside at hv ⊢
  cases e with
  | wifiStatus result =>
    unfold cloudStep wifiStatusChange
    dsimp only
    split
    · exact Nat.zero_lt_of_lt hv
    · exact hv
  | event e =>
    change (step v.gateway e).remoteDevice.num < maxSupport
    cases e with
    | radio junk rssi buffer len => rwa [step,radio_remote_num]
    | subdeviceDelete subId => rwa [step,subdeviceDelete_remote_num]
    | subdevList mallocOk packet =>
      rw [step,localSubdevList_remote]
      cases mallocOk with
      | false => exact hv
      | true =>
        have hroom : v.gateway.remoteDevice.num+(readIds packet).length < maxSupport := by
          rw [length_readIds]
          exact hfit
        have hlt : maxSupport < 256 := by decide
        rw [if_pos rfl,remoteDeviceAdds_num (Nat.lt_trans hroom hlt)]
        exact hroom
    | controlState value subId =>
      rwa [step,(dpDownloadControlStateHandle_still v.gateway value subId).remoteDevice]
    | syncThread =>
      rcases syncThread_still v.gateway with hs | ⟨_,hs⟩
      · rwa [step,hs.remoteDevice]
      · rwa [step,hs.remoteDevice,deviceAdd2FlashWifi_remote]
    | syncTimeout => rwa [step,(syncTimeout_still v.gateway).remoteDevice]
    | radioDequeue => exact hv

/-- In every state of a run the list ends inside `ID[50]`, and every id is added inside it,
exactly when every list packet finds room for its nodes. -/
theorem mirror_bound_iff (selfId : UInt32) (env : EnvLog) (wifi : WifiState) (es : List CloudEvent) :
    (AllCuts cloudStep MirrorInside ⟨powerOn selfId env,wifi,[],[]⟩ es ∧
      Along cloudStep (fun v e => ∀ n ∈ mirrorIndices v e, n < maxSupport)
        ⟨powerOn selfId env,wifi,[],[]⟩ es) ↔
      Along cloudStep MirrorFits ⟨powerOn selfId env,wifi,[],[]⟩ es :=
  allCuts_and_along_iff (P := MirrorInside) (fun _ e hv => mirrorIndices_inside_iff hv e)
    (fun _ e hv hfit => cloudStep_inside e hv hfit) (show 0 < maxSupport by decide)

def halfList : List UInt8 := [0,25] ++ (List.replicate 25 [1,49]).flatten

/-- The same list comes twice over one connection. -/
def listTwiceRun : List CloudEvent :=
  [.wifiStatus 4,.event (.subdevList true halfList),.event (.subdevList true halfList)]

theorem mirror_bound_counterexample :
    ¬ ∀ (selfId : UInt32) (env : EnvLog) (wifi : WifiState) (es : List CloudEvent),
      AllCuts cloudStep MirrorInside ⟨powerOn selfId env,wifi,[],[]⟩ es := by
  intro hall
  have hend := hall 40000000 [] ⟨false,0,false⟩ listTwiceRun listTwiceRun (List.prefix_refl _)
  have hnum : (listTwiceRun.foldl cloudStep
      ⟨powerOn 40000000 [],⟨false,0,false⟩,[],[]⟩).gateway.remoteDevice.num = 50 := by decide +kernel
  exact absurd (hnum ▸ hend : 50 < maxSupport) (by decide)

end GatewayF411
