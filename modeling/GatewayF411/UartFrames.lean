import GatewayF411.Lib.Cursor
import GatewayF411.UartService

/-!
The second loop of `wifi_uart_service` on any content of `wifi_data_process_buf`: when it comes
to an end, and when everything it gives to `data_handle` is a frame. The buffer lies in the
memory `mem` from address 0 on, because a length that wraps around makes the check sum read
outside the buffer.
-/

set_option autoImplicit false

namespace GatewayF411
open Cursor

section Memory
variable (mem : Int → UInt8) (rxIn offset : Nat)

def announcedLen : Nat :=
  (mem (offset+lengthHigh : Nat)).toNat*0x100+(mem (offset+lengthLow : Nat)).toNat

/-- One iteration. `rx_value_len` and the length given to `get_check_sum` are `unsigned short`. -/
def serviceLook : Look :=
  if rxIn-offset < protocolHead then .stop
  else if mem (offset+headFirst : Nat) ≠ frameFirst then .skip (offset+1)
  else if mem (offset+headSecond : Nat) ≠ frameSecond then .skip (offset+1)
  else
    let len := (announcedLen mem offset+protocolHead) % 65536
    if processBufSize < len then .skip (offset+3)
    else if rxIn-offset < len then .stop
    else if getCheckSum (fun i => mem (offset+i : Nat)) ((len+65535) % 65536) ≠
        mem ((offset+len : Nat)-1) then .skip (offset+3)
    else .take (offset+len)

/-- The bytes received hold a whole frame at `offset`, with the right check sum. -/
structure WholeFrame : Prop where
  first : mem (offset+headFirst : Nat) = frameFirst
  second : mem (offset+headSecond : Nat) = frameSecond
  inside : offset+(announcedLen mem offset+7) ≤ rxIn
  sum : mem (offset+(announcedLen mem offset+6) : Nat) =
    getCheckSum (fun i => mem (offset+i : Nat)) (announcedLen mem offset+6)

/-- A head whose length wraps around, followed by bytes that the check of the wrapped length
accepts. -/
structure FalseHead : Prop where
  first : mem (offset+headFirst : Nat) = frameFirst
  second : mem (offset+headSecond : Nat) = frameSecond
  wraps : 65529 ≤ announcedLen mem offset
  sum : getCheckSum (fun i => mem (offset+i : Nat)) ((announcedLen mem offset+6) % 65536) =
    mem ((offset+(announcedLen mem offset-65529) : Nat)-1)

end Memory

/-- The loop of `UartService` is this one, with the byte in front of the buffer equal to the
first byte in it. -/
theorem parseLoop_eq_scan (buf : Nat → UInt8) (rxIn fuel offset : Nat) :
    parseLoop buf rxIn fuel offset =
      (scan (serviceLook (fun a => buf a.toNat) rxIn) fuel offset).map fun r =>
        (r.1.map fun o => ⟨o,buf⟩,r.2) := by
  induction fuel generalizing offset with
  | zero => rfl
  | succ fuel ih =>
    have hlen : (announcedLen (fun a => buf a.toNat) offset+protocolHead) % 65536 =
        rxValueLen buf offset := by
      simp only [announcedLen,rxValueLen,Int.toNat_natCast,Nat.add_assoc]
    have hlast : ((offset+rxValueLen buf offset : Nat)-1 : Int).toNat =
        offset+rxValueLen buf offset-1 := by
      omega
    rw [parseLoop,scan,serviceLook]
    simp only [hlen,hlast,Int.toNat_natCast]
    by_cases hroom : rxIn-offset < protocolHead
    · rw [if_pos hroom,if_pos hroom]
      rfl
    rw [if_neg hroom,if_neg hroom]
    by_cases hfirst : buf (offset+headFirst) ≠ frameFirst
    · rw [if_pos hfirst,if_pos hfirst]
      exact ih _
    rw [if_neg hfirst,if_neg hfirst]
    by_cases hsecond : buf (offset+headSecond) ≠ frameSecond
    · rw [if_pos hsecond,if_pos hsecond]
      exact ih _
    rw [if_neg hsecond,if_neg hsecond]
    by_cases hlong : processBufSize < rxValueLen buf offset
    · rw [if_pos hlong,if_pos hlong]
      exact ih _
    rw [if_neg hlong,if_neg hlong]
    by_cases hpart : rxIn-offset < rxValueLen buf offset
    · rw [if_pos hpart,if_pos hpart]
      rfl
    rw [if_neg hpart,if_neg hpart]
    by_cases hsum : getCheckSum (fun i => buf (offset+i)) ((rxValueLen buf offset+65535) % 65536) ≠
        buf (offset+rxValueLen buf offset-1)
    · rw [if_pos hsum,if_pos hsum]
      exact ih _
    rw [if_neg hsum,if_neg hsum,ih]
    simp only [Option.map_map]
    rfl

section Look
variable {mem : Int → UInt8} {rxIn offset next : Nat}

theorem announcedLen_lt : announcedLen mem offset < 65536 := by
  have hhigh := (mem (offset+lengthHigh : Nat)).toNat_lt
  have hlow := (mem (offset+lengthLow : Nat)).toNat_lt
  unfold announcedLen
  omega

theorem serviceLook_skip (h : serviceLook mem rxIn offset = .skip next) :
    offset < next ∧ next ≤ rxIn := by
  unfold serviceLook at h
  split at h
  · cases h
  · rename_i hroom
    have hnext : next = offset+1 ∨ next = offset+3 := by
      split at h
      · exact .inl (Look.skip.inj h).symm
      · split at h
        · exact .inl (Look.skip.inj h).symm
        · dsimp only at h
          split at h
          · exact .inr (Look.skip.inj h).symm
          · split at h
            · cases h
            · split at h
              · exact .inr (Look.skip.inj h).symm
              · cases h
    unfold protocolHead at hroom
    omega

/-- What the service executes, and where it goes on. -/
theorem serviceLook_take_iff :
    serviceLook mem rxIn offset = .take next ↔
      7 ≤ rxIn-offset ∧ mem (offset+headFirst : Nat) = frameFirst ∧
      mem (offset+headSecond : Nat) = frameSecond ∧
      (announcedLen mem offset+7) % 65536 ≤ processBufSize ∧
      (announcedLen mem offset+7) % 65536 ≤ rxIn-offset ∧
      getCheckSum (fun i => mem (offset+i : Nat)) ((announcedLen mem offset+6) % 65536) =
        mem ((offset+(announcedLen mem offset+7) % 65536 : Nat)-1) ∧
      next = offset+(announcedLen mem offset+7) % 65536 := by
  have hsum : ((announcedLen mem offset+7) % 65536+65535) % 65536 =
      (announcedLen mem offset+6) % 65536 := by omega
  unfold serviceLook
  simp only [protocolHead,hsum]
  repeat' split
  all_goals simp_all
  all_goals omega

/-- What the service executes is a frame, or starts with a false head. -/
theorem wholeFrame_iff_of_take (hin : rxIn < 65536) (h : serviceLook mem rxIn offset = .take next) :
    WholeFrame mem rxIn offset ↔ ¬ FalseHead mem offset := by
  obtain ⟨hroom,hfirst,hsecond,_,hwhole,hsum,_⟩ := serviceLook_take_iff.mp h
  have hlt : announcedLen mem offset < 65536 := announcedLen_lt
  constructor
  · intro hframe hfalse
    have hinside := hframe.inside
    have hwraps := hfalse.wraps
    omega
  · intro hno
    have hshort : announcedLen mem offset < 65529 := by
      refine Nat.lt_of_not_le fun hwraps => hno ⟨hfirst,hsecond,hwraps,?_⟩
      have hlen : (announcedLen mem offset+7) % 65536 = announcedLen mem offset-65529 := by omega
      rw [hlen] at hsum
      exact hsum
    have hlen : (announcedLen mem offset+7) % 65536 = announcedLen mem offset+7 := by omega
    have hsix : (announcedLen mem offset+6) % 65536 = announcedLen mem offset+6 := by omega
    have hlast : ((offset+(announcedLen mem offset+7) : Nat)-1 : Int) =
        (offset+(announcedLen mem offset+6) : Nat) := by omega
    rw [hlen] at hwhole hsum
    rw [hsix,hlast] at hsum
    exact ⟨hfirst,hsecond,by omega,hsum.symm⟩

/-- The service executes every false head that it looks at. -/
theorem serviceLook_of_falseHead (hroom : 7 ≤ rxIn-offset) (h : FalseHead mem offset) :
    ∃ next, serviceLook mem rxIn offset = .take next := by
  have hlt : announcedLen mem offset < 65536 := announcedLen_lt
  have hwraps := h.wraps
  have hlen : (announcedLen mem offset+7) % 65536 = announcedLen mem offset-65529 := by omega
  have hbuf : 7 ≤ processBufSize := by decide
  refine ⟨_,serviceLook_take_iff.mpr ⟨hroom,h.first,h.second,by omega,by omega,?_,rfl⟩⟩
  rw [hlen]
  exact h.sum

end Look

/-- The service comes to an end, whatever the buffer holds, having executed only whole frames
with the right check sum that do not overlap, exactly when no false head stands where it looks
for a frame. -/
theorem uart_service_iff (mem : Int → UInt8) (rxIn : UInt16) :
    (∃ r, (∀ fuel, rxIn.toNat < fuel → scan (serviceLook mem rxIn.toNat) fuel 0 = some r) ∧
      (∀ o ∈ r.1, WholeFrame mem rxIn.toNat o) ∧
      r.1.Pairwise fun o o' => o+(announcedLen mem o+7) ≤ o') ↔
      ∀ o, Visits (serviceLook mem rxIn.toNat) 0 o → 7 ≤ rxIn.toNat-o → ¬ FalseHead mem o := by
  have hin : rxIn.toNat < 65536 := rxIn.toNat_lt
  have htake : ∀ p q, serviceLook mem rxIn.toNat p = .take q → WholeFrame mem rxIn.toNat p →
      p < q ∧ q ≤ rxIn.toNat ∧ p+(announcedLen mem p+7) = q := by
    intro p q hlook hframe
    obtain ⟨_,_,_,_,_,_,hq⟩ := serviceLook_take_iff.mp hlook
    have hinside := hframe.inside
    have hlen : (announcedLen mem p+7) % 65536 = announcedLen mem p+7 := by omega
    rw [hlen] at hq
    omega
  have hscan := scan_good_iff (p := 0) (fun p q => serviceLook_skip) htake
  rw [Nat.sub_zero] at hscan
  rw [hscan]
  constructor
  · intro hgood o hv hroom hfalse
    obtain ⟨q,hq⟩ := serviceLook_of_falseHead hroom hfalse
    exact (wholeFrame_iff_of_take hin hq).mp (hgood o q hv hq) hfalse
  · intro hno o q hv hq
    exact (wholeFrame_iff_of_take hin hq).mpr (hno o hv (serviceLook_take_iff.mp hq).1)

/-- A head that announces 65532 bytes; the sum of its first two bytes is the third. -/
def noiseBytes (a : Int) : UInt8 := [0x55,0xaa,0xff,0x00,0xff,0xfc,0x00].getD a.toNat 0

theorem uart_service_counterexample :
    ¬ ∀ (mem : Int → UInt8) (rxIn : UInt16),
      ∃ r, (∀ fuel, rxIn.toNat < fuel → scan (serviceLook mem rxIn.toNat) fuel 0 = some r) ∧
        (∀ o ∈ r.1, WholeFrame mem rxIn.toNat o) ∧
        r.1.Pairwise fun o o' => o+(announcedLen mem o+7) ≤ o' := by
  intro hall
  obtain ⟨r,hr,hwhole,_⟩ := hall noiseBytes 7
  have hrun : scan (serviceLook noiseBytes 7) 8 0 = some ([0],3) := by decide
  have hsame := (hr 8 (by decide)).symm.trans hrun
  have hmem : 0 ∈ r.1 := by
    rw [Option.some.inj hsame]
    exact List.mem_cons_self
  exact absurd (hwhole 0 hmem).inside (by decide)

end GatewayF411
