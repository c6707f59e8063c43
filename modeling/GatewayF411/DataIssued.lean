import GatewayF411.Lib.Cursor
import GatewayF411.System
import GatewayF411.UartService

/-!
`DATA_ISSUED_CMD` of `data_handle`: the records of data points that the cloud sends for one
sub-device. `buf` holds the frame from its head on, and whatever follows it in memory.
-/

set_option autoImplicit false

namespace GatewayF411
open Cursor

def dataIssuedCmd : UInt8 := 0x0c

def dpTypeBool : UInt8 := 1
def dpTypeValue : UInt8 := 2
def dpTypeEnum : UInt8 := 4

def downloadCmd : List (UInt8 × UInt8) :=
  [(101,dpTypeBool),(102,dpTypeBool),(103,dpTypeBool),(dpidControlState,dpTypeBool),
    (105,dpTypeEnum),(106,dpTypeBool),(107,dpTypeBool),(108,dpTypeValue),(109,dpTypeBool),
    (110,dpTypeEnum),(111,dpTypeBool),(112,dpTypeValue),(113,dpTypeBool),(114,dpTypeBool),
    (115,dpTypeBool)]

def bufSize : Nat := 50

section Frame
variable (buf : Nat → UInt8)

def subIdLen : Nat := (buf dataStart).toNat

/-- The id of the sub-device in `sub_id_buf[BUF_SIZE]`, unless its copy runs over the end. -/
def subIdBuf : Option (List UInt8) :=
  if subIdLen buf ≤ bufSize then some ((List.range (subIdLen buf)).map fun j => buf (dataStart+1+j))
  else none

def dpLen (i : Nat) : Nat := (buf (dataStart+i+2)).toNat*256+(buf (dataStart+i+3)).toNat

/-- Of the data only the first byte is used, and only by one data point. -/
def dpDownloadHandle (dpId : UInt8) (subId : List UInt8) (i : Nat) (g : Gateway) : Gateway :=
  if dpId = dpidControlState then
    (dpDownloadControlStateHandle [buf (dataStart+i+4)] subId g).2
  else g

/-- A data point that is not in the table is compared with what lies behind the table, and has
no handler. -/
def dataPointHandle (subId : List UInt8) (i : Nat) (g : Gateway) : Gateway :=
  let dpId := buf (dataStart+i)
  let dpType := buf (dataStart+i+1)
  match downloadCmd.find? fun cmd => cmd.1 == dpId with
  | some cmd => if dpType ≠ cmd.2 then g else dpDownloadHandle buf dpId subId i g
  | none => g

/-- The loop over the records, with the places of the records handled. `i` is an `unsigned
short`. Each record uses up fuel; `none` means that it ran out. -/
def recordLoop (subId : List UInt8) : (fuel i : Nat) → Gateway → Option (List Nat × Gateway)
  | 0, _, _ => none
  | fuel+1, i, g =>
    if i < (totalLen buf).toNat then
      (recordLoop subId fuel ((i+(dpLen buf i+4)) % 65536) (dataPointHandle buf subId i g)).map
        fun r => (i :: r.1,r.2)
    else some ([],g)

/-- How the handling of the records ends: with the places handled, in memory behind `sub_id_buf`,
or not within the fuel. -/
inductive Issued where
  | handled (places : List Nat) (g : Gateway)
  | overrun
  | running

def dataIssued (fuel : Nat) (g : Gateway) : Issued :=
  match subIdBuf buf with
  | none => .overrun
  | some subId =>
    match recordLoop buf subId fuel (1+subIdLen buf) g with
    | some r => .handled r.1 r.2
    | none => .running

/-- From `i` on the payload consists of whole records. -/
inductive WholeRecords : Nat → Prop where
  | done {i : Nat} : (totalLen buf).toNat ≤ i → WholeRecords i
  | record {i : Nat} : i < (totalLen buf).toNat → i+(dpLen buf i+4) ≤ (totalLen buf).toNat →
      WholeRecords (i+(dpLen buf i+4)) → WholeRecords i

/-- The id has its place, the loop ends, and it has handled records of the payload that do not
overlap, each once. -/
def HandlesOnce (g : Gateway) : Prop :=
  ∃ subId places g', subIdBuf buf = some subId ∧
    (∀ fuel, (totalLen buf).toNat < fuel → dataIssued buf fuel g = .handled places g') ∧
    (∀ i ∈ places, i+(dpLen buf i+4) ≤ (totalLen buf).toNat) ∧
    (places.Pairwise fun i j => i+(dpLen buf i+4) ≤ j) ∧
    g' = places.foldl (fun g i => dataPointHandle buf subId i g) g

def recordLook (i : Nat) : Look :=
  if i < (totalLen buf).toNat then .take ((i+(dpLen buf i+4)) % 65536) else .stop

theorem recordLoop_eq_scan (subId : List UInt8) (fuel i : Nat) (g : Gateway) :
    recordLoop buf subId fuel i g = (scan (recordLook buf) fuel i).map fun r =>
      (r.1,r.1.foldl (fun g i => dataPointHandle buf subId i g) g) := by
  induction fuel generalizing i g with
  | zero => rfl
  | succ fuel ih =>
    rw [recordLoop,scan,recordLook]
    by_cases hmore : i < (totalLen buf).toNat
    · rw [if_pos hmore,if_pos hmore,ih]
      simp only [Option.map_map]
      rfl
    · rw [if_neg hmore,if_neg hmore]
      rfl

end Frame

section Records
variable {buf : Nat → UInt8}

theorem recordLook_take_iff {i q : Nat} :
    recordLook buf i = .take q ↔ i < (totalLen buf).toNat ∧ q = (i+(dpLen buf i+4)) % 65536 := by
  unfold recordLook
  split
  · rename_i hmore
    simp [hmore,eq_comm]
  · rename_i hmore
    simp [hmore]

theorem recordLook_ne_skip {i q : Nat} : recordLook buf i ≠ .skip q := by
  unfold recordLook
  split <;> simp

theorem recordLook_moves {i q : Nat} (h : Moves (recordLook buf) i q) :
    i < (totalLen buf).toNat ∧ q = (i+(dpLen buf i+4)) % 65536 := by
  rcases h with h | h
  · exact absurd h recordLook_ne_skip
  · exact recordLook_take_iff.mp h

theorem recordLook_inside {i q : Nat} (h : recordLook buf i = .take q)
    (hin : i+(dpLen buf i+4) ≤ (totalLen buf).toNat) : q = i+(dpLen buf i+4) := by
  have hlt := (totalLen buf).toNat_lt
  rw [(recordLook_take_iff.mp h).2,Nat.mod_eq_of_lt (by omega)]

/-- Every record that the loop comes to lies in the payload exactly when the payload consists
of whole records. -/
theorem visits_inside_iff (start : Nat) :
    (∀ i q, Visits (recordLook buf) start i → recordLook buf i = .take q →
      i+(dpLen buf i+4) ≤ (totalLen buf).toNat) ↔ WholeRecords buf start := by
  constructor
  · intro hall
    induction hn : (totalLen buf).toNat-start using Nat.strongRecOn generalizing start with
    | ind n ih =>
      by_cases hmore : start < (totalLen buf).toNat
      · have hlook := recordLook_take_iff.mpr ⟨hmore,rfl⟩
        have hin := hall start _ .refl hlook
        have hnext := recordLook_inside hlook hin
        refine .record hmore hin (ih _ (by omega) _ (fun i q hv => hall i q ?_) rfl)
        exact .head (.inr (hnext ▸ hlook)) hv
      · exact .done (Nat.le_of_not_lt hmore)
  · intro hwhole
    induction hwhole with
    | done hend =>
      intro i q hv hq
      rcases hv.cases_head with rfl | ⟨_,hmove,_⟩
      · exact absurd (recordLook_take_iff.mp hq).1 (Nat.not_lt.mpr hend)
      · exact absurd (recordLook_moves hmove).1 (Nat.not_lt.mpr hend)
    | record _ hin _ ih =>
      intro i q hv hq
      rcases hv.cases_head with rfl | ⟨j,hmove,hv⟩
      · exact hin
      · have hlook := recordLook_take_iff.mpr (recordLook_moves hmove)
        rw [recordLook_inside hlook hin] at hv
        exact ih i q hv hq

/-- A loop that has not ended within 65537 records has come to a place twice, and never ends. -/
theorem dataIssued_endless {g : Gateway} (h : dataIssued buf 65537 g = .running) (fuel : Nat) :
    dataIssued buf fuel g = .running := by
  have hmoves : ∀ p q, Moves (recordLook buf) p q → q < 65537 := by
    intro p q hmove
    rw [(recordLook_moves hmove).2]
    exact Nat.lt_of_lt_of_le (Nat.mod_lt _ (by decide)) (by decide)
  have hstart : 1+subIdLen buf < 65537 := by
    have hlen := (buf dataStart).toNat_lt
    unfold subIdLen
    omega
  unfold dataIssued at h ⊢
  cases hid : subIdBuf buf with
  | none =>
    rw [hid] at h
    cases h
  | some subId =>
    rw [hid] at h
    simp only [recordLoop_eq_scan] at h ⊢
    cases hscan : scan (recordLook buf) 65537 (1+subIdLen buf) with
    | some r =>
      rw [hscan] at h
      cases h
    | none =>
      rw [scan_endless hmoves hstart hscan fuel]
      rfl

end Records

/-- Every record is handled once, inside the payload, exactly when the id of the sub-device fits
its buffer and the payload consists of whole records behind it. -/
theorem data_issued_iff (buf : Nat → UInt8) (g : Gateway) :
    HandlesOnce buf g ↔ subIdLen buf ≤ bufSize ∧ WholeRecords buf (1+subIdLen buf) := by
  rw [← visits_inside_iff]
  constructor
  · rintro ⟨subId,places,g',hid,hr,hin,_,_⟩
    have hfits : subIdLen buf ≤ bufSize := by
      by_contra hlong
      rw [subIdBuf,if_neg hlong] at hid
      cases hid
    refine ⟨hfits,fun i q hv hq => ?_⟩
    have hrun := hr _ (Nat.lt_succ_self _)
    simp only [dataIssued,hid,recordLoop_eq_scan] at hrun
    cases hs : scan (recordLook buf) ((totalLen buf).toNat+1) (1+subIdLen buf) with
    | none =>
      rw [hs] at hrun
      cases hrun
    | some r =>
      rw [hs] at hrun
      cases hrun
      exact hin i (taken_of_visits hv hq hs)
  · rintro ⟨hfits,hin⟩
    have htake : ∀ p q, recordLook buf p = .take q → p+(dpLen buf p+4) ≤ (totalLen buf).toNat →
        p < q ∧ q ≤ (totalLen buf).toNat ∧ p+(dpLen buf p+4) = q := by
      intro p q hlook hp
      have hq := recordLook_inside hlook hp
      omega
    obtain ⟨r,hr,hall,hpair⟩ := scan_forward (fun p q h => absurd h recordLook_ne_skip) htake hin
    refine ⟨_,r.1,_,if_pos hfits,fun fuel hfuel => ?_,fun i hi => (hall i hi).2,hpair,rfl⟩
    simp only [dataIssued,subIdBuf,if_pos hfits,recordLoop_eq_scan,hr fuel (by omega)]
    rfl

/-- One valve command for the device 1, with 65532 as its length. -/
def issuedBytes (i : Nat) : UInt8 :=
  [0x55,0xaa,0x00,0x0c,0x00,0x06,0x01,0x31,0x68,0x01,0xff,0xfc,0xa7].getD i 0

theorem data_issued_counterexample :
    ¬ ∀ (buf : Nat → UInt8) (g : Gateway), buf frameType = dataIssuedCmd →
      getCheckSum buf ((totalLen buf).toNat+6) = buf ((totalLen buf).toNat+6) →
      HandlesOnce buf g := by
  intro hall
  obtain ⟨subId,places,g',_,hr,_⟩ := hall issuedBytes (powerOn 40000000 []) (by decide) (by decide)
  have hid : subIdBuf issuedBytes = some [0x31] := by decide
  have hloop : ∀ subId g, recordLoop issuedBytes subId 7 2 g = none := by
    intro subId g
    rw [recordLoop_eq_scan]
    rfl
  have hstart : 1+subIdLen issuedBytes = 2 := by decide
  have hrun : ∀ g, dataIssued issuedBytes 7 g = .running := by
    intro g
    simp only [dataIssued,hid,hstart,hloop]
  exact absurd ((hr 7 (by decide)).symm.trans (hrun _)) (by simp)

end GatewayF411
