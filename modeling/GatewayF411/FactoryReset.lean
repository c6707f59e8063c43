import GatewayF411.Rebind

/-!
The local factory reset. The keys K0 and K1 clear the environment at once, but the table in
memory stays until the WiFi module answers and the gateway reboots. Registrations in between
are stored next to a mark that is written only when the table in memory grows.
-/

set_option autoImplicit false

namespace GatewayF411
open CText SlotScan Runs

def defaultEnvSet : EnvLog := [(['b','o','o','t','_','t','i','m','e','s'],['0'])]

/-- EasyFlash erases its sectors and writes the default set. -/
def efEnvSetDefault (_ : EnvLog) : EnvLog := defaultEnvSet

def factorySetCmd : UInt8 := 0x17

/-- The K0+K1 branch of `Key_Reponse_Callback`: the command of the frame that
`reset_factory_setting` sends, which has no data, and the state. -/
def localReset (g : Gateway) : UInt8 × Gateway :=
  (factorySetCmd,{ g with env := efEnvSetDefault g.env })

instance (g : Gateway) (id : UInt32) : Decidable (Registers g id) :=
  decidable_of_iff (inRange id = true ∧ flashGetKeyValid g.globalDevice id = .error ∧
      (getLearnNumsValid g).1 ≠ 0) <| by
    refine and_congr_right fun _ => and_congr_right fun _ => ?_
    rcases getLearnNumsValid_cases g with ⟨hr,hfull⟩ | ⟨n,h1,hn,hz,_,hr⟩
    · rw [hr]
      refine iff_of_false (fun h => h rfl) ?_
      rintro ⟨n,h1,hn,hz⟩
      exact hfull n h1 hn hz
    · rw [hr]
      exact iff_of_true (Nat.one_le_iff_ne_zero.mp h1) ⟨n,h1,hn,hz⟩

def completed (s : Station) : StationEvent → List UInt32
  | .event e =>
    match registering s.gateway e with
    | some r => if Registers r.before r.id then [r.id] else []
    | none => []
  | _ => []

/-- A station after a reset, with the devices registered since. -/
structure ResetView where
  station : Station
  since : List UInt32

def resetStep (v : ResetView) (e : StationEvent) : ResetView :=
  ⟨stationStep v.station e,v.since ++ completed v.station e⟩

def afterReset (s : Station) : ResetView := ⟨⟨(localReset s.gateway).2,s.heart⟩,[]⟩

/-- What a reboot at this point gives: of the devices registered since the reset those that
are still in the table, and no others than these. -/
structure ResetSafe (v : ResetView) : Prop where
  kept : ∀ id ∈ v.since, v.station.gateway.globalDevice.Registered id →
    (loadDevice2Memory v.station.gateway.env).Registered id
  gone : ∀ id, (loadDevice2Memory v.station.gateway.env).Registered id → id ∈ v.since

/-- A registration takes a slot above the mark in memory, or one that the mark in flash
covers. -/
def MarkCovers (s : Station) : StationEvent → Prop
  | .event e => ∀ r n, registering s.gateway e = some r → r.Takes n →
      s.gateway.globalDevice.num < n ∨ n ≤ storedNum s.gateway.env
  | _ => True

/-- The environment holds the ids of exactly those slots that were taken since the reset. -/
structure SinceStored (g : Gateway) (since : List UInt32) : Prop extends WellKept g where
  mark : storedNum g.env ≤ g.globalDevice.num
  stored : ∀ n, storedId g.env n ≠ 0 →
    g.globalDevice.id n = storedId g.env n ∧ storedId g.env n ∈ since
  taken : ∀ n, g.globalDevice.id n ≠ 0 → g.globalDevice.id n ∈ since →
    storedId g.env n = g.globalDevice.id n

def Covered (e : EnvLog) : Prop := ∀ n, storedId e n ≠ 0 → n ≤ storedNum e

theorem load_registered {e : EnvLog} (hle : storedNum e ≤ 49) {id : UInt32} :
    (loadDevice2Memory e).Registered id ↔
      id ≠ 0 ∧ ∃ n, 1 ≤ n ∧ n ≤ storedNum e ∧ storedId e n = id := by
  refine and_congr_right fun _ => ?_
  rw [loadDevice2Memory_num]
  refine exists_congr fun n => and_congr_right fun h1 => and_congr_right fun hn => ?_
  rw [(loadDevice2Memory_slot e ⟨h1,hn⟩).id,storedId,if_pos ⟨h1,by omega⟩]

theorem SinceStored.safe_iff {v : ResetView} (h : SinceStored v.station.gateway v.since) :
    ResetSafe v ↔ Covered v.station.gateway.env := by
  have hle : storedNum v.station.gateway.env ≤ 49 := h.mark.trans h.inv.num_le
  constructor
  · intro hsafe n hn
    obtain ⟨hid,hmem⟩ := h.stored n hn
    have hb := h.inv.keyed.bounded n (by rw [hid]; exact hn)
    obtain ⟨_,k,_,hk,hidk⟩ := (load_registered hle).mp
      (hsafe.kept _ hmem ⟨hn,n,hb.1,hb.2,hid⟩)
    have hsame : v.station.gateway.globalDevice.id k = v.station.gateway.globalDevice.id n := by
      rw [(h.stored k (by rw [hidk]; exact hn)).1,hidk,hid]
    rw [h.inv.keyed.distinct n k (by rw [hid]; exact hn) hsame.symm]
    exact hk
  · intro hcov
    constructor
    · rintro id hmem ⟨hid,n,h1,_,hn⟩
      have hstored := h.taken n (by rw [hn]; exact hid) (by rw [hn]; exact hmem)
      rw [hn] at hstored
      exact (load_registered hle).mpr ⟨hid,n,h1,hcov n (by rw [hstored]; exact hid),hstored⟩
    · intro id hload
      obtain ⟨hid,n,_,_,hn⟩ := (load_registered hle).mp hload
      have hmem := (h.stored n (by rw [hn]; exact hid)).2
      rwa [hn] at hmem

theorem SinceStored.kept {g g' : Gateway} {since : List UInt32} (h : SinceStored g since)
    (hk : FlashKept g g') (hw : WellKept g') : SinceStored g' since := by
  refine ⟨hw,?_,?_,?_⟩
  · rw [hk.storedNum,hk.num]
    exact h.mark
  · rw [hk.storedId,hk.id]
    exact h.stored
  · rw [hk.storedId,hk.id]
    exact h.taken

theorem SinceStored.cleared {a : UInt32} {g g' : Gateway} {since : List UInt32}
    (h : SinceStored g since) (hc : Cleared a g g') (hw : WellKept g') :
    SinceStored g' since := by
  refine ⟨hw,?_,fun n hn => ?_,fun n hn => ?_⟩
  · rw [hc.storedNum,hc.num]
    exact h.mark
  · rcases hc.slots n with ⟨hid,_,hstored⟩ | ⟨_,_,hstored⟩
    · rw [hstored] at hn ⊢
      rw [hid]
      exact h.stored n hn
    · exact absurd hstored hn
  · rcases hc.slots n with ⟨hid,_,hstored⟩ | ⟨hid,_,_⟩
    · rw [hstored,hid]
      rw [hid] at hn
      exact h.taken n hn
    · exact absurd hid hn

theorem SinceStored.placed {x b : UInt32} {n : Nat} {g g' : Gateway} {since : List UInt32}
    (h : SinceStored g since) (hp : Placed x b n g g') (hw : WellKept g')
    (hfresh : ∀ j, g.globalDevice.id j ≠ x) : SinceStored g' (since ++ [x]) := by
  have hmark := h.mark
  refine ⟨hw,?_,fun j hj => ?_,fun j hj hmem => ?_⟩
  · rw [hp.storedNum,hp.num]
    split <;> omega
  · rw [hp.storedId] at hj ⊢
    rw [hp.id]
    by_cases hjn : j = n
    · rw [hjn,Function.update_self,Function.update_self]
      exact ⟨rfl,by simp⟩
    · rw [Function.update_of_ne hjn] at hj ⊢
      rw [Function.update_of_ne hjn]
      exact ⟨(h.stored j hj).1,List.mem_append_left _ (h.stored j hj).2⟩
  · rw [hp.id] at hj hmem ⊢
    rw [hp.storedId]
    by_cases hjn : j = n
    · rw [hjn,Function.update_self,Function.update_self]
    · rw [Function.update_of_ne hjn] at hj hmem ⊢
      rw [Function.update_of_ne hjn]
      rcases List.mem_append.mp hmem with hold | hnew
      · exact h.taken j hj hold
      · exact absurd (List.mem_singleton.mp hnew) (hfresh j)

theorem Cleared.covered {a : UInt32} {g g' : Gateway} (hc : Cleared a g g')
    (h : Covered g.env) : Covered g'.env := by
  intro n hn
  rw [hc.storedNum]
  rcases hc.slots n with ⟨_,_,hstored⟩ | ⟨_,_,hstored⟩
  · rw [hstored] at hn
    exact h n hn
  · exact absurd hstored hn

theorem covered_of_placed_iff {x b : UInt32} {n : Nat} {g g' : Gateway} (hp : Placed x b n g g')
    (hx : x ≠ 0) (hmark : storedNum g.env ≤ g.globalDevice.num) (h : Covered g.env) :
    Covered g'.env ↔ g.globalDevice.num < n ∨ n ≤ storedNum g.env := by
  constructor
  · intro hcov
    have hn := hcov n (by rw [hp.storedId,Function.update_self]; exact hx)
    rw [hp.storedNum] at hn
    split at hn
    · exact .inl ‹_›
    · exact .inr hn
  · intro hcase j hj
    rw [hp.storedNum]
    rw [hp.storedId] at hj
    by_cases hjn : j = n
    · subst hjn
      split <;> omega
    · rw [Function.update_of_ne hjn] at hj
      have hold := h j hj
      split <;> omega

section
variable {v : ResetView} (h : SinceStored v.station.gateway v.since)
include h

theorem resetStep_quiet {e : StationEvent} {a : UInt32} (hnone : completed v.station e = [])
    (hcover : MarkCovers v.station e) (hc : Cleared a v.station.gateway (stationStep v.station e).gateway) :
    SinceStored (resetStep v e).station.gateway (resetStep v e).since ∧
    (Covered v.station.gateway.env →
      (Covered (resetStep v e).station.gateway.env ↔ MarkCovers v.station e)) := by
  have hw := h.toWellKept.edits (stationStep_edits v.station e)
  simp only [resetStep,hnone,List.append_nil]
  exact ⟨h.cleared hc hw,fun hcov => iff_of_true (hc.covered hcov) hcover⟩

theorem resetStep_taken {e : Event} {a : UInt32} {r : Registration} {n : Nat}
    (hr : registering v.station.gateway e = some r) (ht : r.Takes n)
    (hc : Cleared a v.station.gateway r.before)
    (hp : Placed r.id (if isMain r.id then 0 else r.bind) n r.before (step v.station.gateway e)) :
    SinceStored (resetStep v (.event e)).station.gateway (resetStep v (.event e)).since ∧
    (Covered v.station.gateway.env →
      (Covered (resetStep v (.event e)).station.gateway.env ↔ MarkCovers v.station (.event e))) := by
  have hw := h.toWellKept.edits (stationStep_edits v.station (.event e))
  have hbefore := h.toWellKept.edits (registering_edits hr)
  have hdone : completed v.station (.event e) = [r.id] := by
    simp only [completed,hr,ht.registers,if_true]
  have hstored := h.cleared hc hbefore
  have hmark := hstored.mark
  simp only [resetStep,hdone]
  refine ⟨hstored.placed hp hw (ht.fresh hbefore.inv),fun hcov => ?_⟩
  rw [show (stationStep v.station (.event e)).gateway = step v.station.gateway e from rfl,
    covered_of_placed_iff hp (inRange_ne_zero ht.registers.1) hmark (hc.covered hcov),hc.num,
    hc.storedNum]
  constructor
  · intro hcase r' n' hr' ht'
    rw [hr] at hr'
    cases hr'
    rw [ht'.slot.unique ht.slot]
    exact hcase
  · intro hcover
    exact hcover r n hr ht

theorem resetStep_effect (e : StationEvent) :
    SinceStored (resetStep v e).station.gateway (resetStep v e).since ∧
    (Covered v.station.gateway.env →
      (Covered (resetStep v e).station.gateway.env ↔ MarkCovers v.station e)) := by
  have he := stationStep_effect h.inv e
  cases e with
  | event e =>
    cases he with
    | freed a hno hc =>
      refine resetStep_quiet h ?_ (fun r n hr ht => absurd ht (hno r n hr)) hc
      cases hr : registering v.station.gateway e with
      | none => simp only [completed,hr]
      | some r =>
        simp only [completed,hr]
        refine if_neg fun hreg => ?_
        obtain ⟨n,hn⟩ := hreg.firstFree
        exact hno r n hr ⟨hreg,hn⟩
    | taken a r n hr ht hc hp => exact resetStep_taken h hr ht hc hp
  | heartRequest idBuf => exact resetStep_quiet h rfl trivial (FlashKept.cleared he)
  | heartThread => exact resetStep_quiet h rfl trivial (FlashKept.cleared he)

end

theorem storedId_defaultEnvSet (n : Nat) : storedId defaultEnvSet n = 0 := by
  have hkey : ∀ k, (envKey .id k == ['b','o','o','t','_','t','i','m','e','s']) = false := by
    intro k
    rw [beq_eq_false_iff_ne]
    exact fmtLd_ne_letter k 'b' _ (by decide) (by decide)
  unfold storedId
  split
  · simp [flashGetKeyValue,readValue,efGetEnvBlob,defaultEnvSet,hkey]
  · rfl

theorem afterReset_sinceStored {s : Station} (h : WellKept s.gateway) :
    SinceStored (afterReset s).station.gateway (afterReset s).since := by
  have hnum : storedNum defaultEnvSet = 0 := by decide
  refine ⟨⟨h.inv,h.kinds⟩,?_,fun n hn => ?_,fun n _ hmem => ?_⟩
  · exact hnum.trans_le (Nat.zero_le _)
  · exact absurd (storedId_defaultEnvSet n) hn
  · exact absurd hmem (List.not_mem_nil)

/-- After a local reset of any station, a reboot gives back the devices registered since and
no others, at every moment, exactly when every registration takes a slot that the mark in
flash covers or is written for. -/
theorem factory_reset_iff (selfId : UInt32) (es after : List StationEvent) :
    AllCuts resetStep ResetSafe (afterReset (es.foldl stationStep (stationOn selfId))) after ↔
      Along resetStep (fun v e => MarkCovers v.station e)
        (afterReset (es.foldl stationStep (stationOn selfId))) after := by
  have hstart := afterReset_sinceStored (station_wellKept selfId es)
  have hsafe : ResetSafe (afterReset (es.foldl stationStep (stationOn selfId))) := by
    rw [hstart.safe_iff]
    intro n hn
    exact absurd (storedId_defaultEnvSet n) hn
  refine allCuts_iff_along_within (I := fun v => SinceStored v.station.gateway v.since)
    (fun v e h _ => (resetStep_effect h e).1) (fun v e h hv _ => ?_) hstart hsafe
    (along_true _ after)
  have heffect := resetStep_effect h e
  rw [heffect.1.safe_iff]
  exact heffect.2 (h.safe_iff.mp hv)

/-- Main 10000001 is learned, the keys reset the gateway, and the main is learned again: it
stands in slot 1, for which no mark is written. -/
theorem factory_reset_counterexample :
    ¬ ∀ (selfId : UInt32) (es after : List StationEvent),
      AllCuts resetStep ResetSafe (afterReset (es.foldl stationStep (stationOn selfId))) after := by
  intro hall
  have hsafe := hall 40000000 [.event (learnMain '1')] [.event (learnMain '1')]
    [.event (learnMain '1')] (List.prefix_refl _)
  have hload := hsafe.kept 10000001 (by decide +kernel)
    ⟨by decide,1,by decide,by decide +kernel,by decide +kernel⟩
  rw [registered_of_valid (by decide)] at hload
  revert hload
  decide +kernel

end GatewayF411
