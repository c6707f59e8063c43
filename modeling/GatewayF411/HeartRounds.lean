import GatewayF411.Lib.Bytes
import GatewayF411.HeartCounters

set_option autoImplicit false

namespace GatewayF411
open SlotScan Runs Bytes

/-- What the heart thread does to a device: it asks, it looks at the receive flag when the
wait is over, and it calls `Flash_Set_Heart(id,0)`. -/
inductive HeartNote where
  | probe (id : UInt32)
  | answered (id : UInt32)
  | missed (id : UInt32)
  | offline (id : UInt32)
  | roundEnd
  deriving DecidableEq, Repr

def HeartNote.about (id : UInt32) : HeartNote → Bool
  | .probe i | .answered i | .missed i | .offline i => i == id
  | .roundEnd => true

def heartLookNotes (num : Nat) (s : Station) : List HeartNote :=
  let d := s.gateway.globalDevice
  match scanUp (fun n => d.id n != 0 && d.bindId n == 0) (d.num+1-num) num with
  | some n => [.probe (d.id n)]
  | none => [.roundEnd]

def heartOutcomeNotes (n : Nat) (g : Gateway) : List HeartNote :=
  let d := g.globalDevice
  if d.heartRecv n ≠ 0 then [.answered (d.id n)]
  else if d.heartRetry n < 6 then [.missed (d.id n)]
  else if d.heartCount n < 5 then [.missed (d.id n)]
  else [.missed (d.id n),.offline (d.id n)]

def heartNotes (s : Station) : StationEvent → List HeartNote
  | .heartThread =>
    match s.heart.pc with
    | .rest => heartLookNotes 1 s
    | .look => heartLookNotes s.heart.num s
    | .asked => heartOutcomeNotes s.heart.num s.gateway
  | .event _ | .heartRequest _ => []

/-- The notes of a run on the device `id`, and the ends of the rounds. -/
def heartTrace (id : UInt32) : Station → List StationEvent → List HeartNote :=
  trace (fun s e => (heartNotes s e).filter (HeartNote.about id)) stationStep

/-- What a step of the thread does where it puts these notes down. A question is one call of
`GatewayDataEnqueue`, which counts as sent also where the queue is full and drops it. -/
inductive HeartActs (s : Station) : List HeartNote → Prop where
  | probe (n : Nat) :
      heartThread s = ⟨gatewayDataEnqueue (s.gateway.globalDevice.id n) 0 0 3 0
        (s.gateway.setTable { s.gateway.globalDevice with
          heartRecv := Function.update s.gateway.globalDevice.heartRecv n 0 }),⟨n,.asked⟩⟩ →
      HeartActs s [.probe (s.gateway.globalDevice.id n)]
  | answered (n : Nat) : s.heart = ⟨n,.asked⟩ → s.gateway.globalDevice.heartRecv n ≠ 0 →
      (heartThread s).gateway =
        heartUpload (s.gateway.globalDevice.id n) 1 (setHeartCounts n 0 0 s.gateway) →
      HeartActs s [.answered (s.gateway.globalDevice.id n)]
  | missed (n : Nat) (retry count : UInt8) : s.heart = ⟨n,.asked⟩ →
      s.gateway.globalDevice.heartRecv n = 0 →
      (heartThread s).gateway = setHeartCounts n retry count s.gateway →
      HeartActs s [.missed (s.gateway.globalDevice.id n)]
  | offline (n : Nat) : s.heart = ⟨n,.asked⟩ → s.gateway.globalDevice.heartRecv n = 0 →
      (heartThread s).gateway =
        setHeartCounts n 0 0 (flashSetHeart (s.gateway.globalDevice.id n) 0 s.gateway).2 →
      HeartActs s [.missed (s.gateway.globalDevice.id n),.offline (s.gateway.globalDevice.id n)]
  | roundEnd : (heartThread s).gateway = s.gateway → HeartActs s [.roundEnd]

def misses (id : UInt32) (k : Nat) : List HeartNote :=
  (List.replicate k [HeartNote.probe id,.missed id]).flatten

/-- A round of the main `id`, with the rounds in a row that were missed before it and after
it: the first answer ends it, and so does the seventh miss. -/
inductive HeartRound (id : UInt32) : Nat → List HeartNote → Nat → Prop where
  | answered {m k : Nat} : k ≤ 6 → HeartRound id m (misses id k ++ [.probe id,.answered id]) 0
  | missed {m : Nat} : m < 5 → HeartRound id m (misses id 7) (m+1)
  | offline : HeartRound id 5 (misses id 7 ++ [.offline id]) 0

inductive HeartRounds (id : UInt32) : List HeartNote → Nat → Prop where
  | nil : HeartRounds id [] 0
  | snoc {t r : List HeartNote} {m m' : Nat} : HeartRounds id t m → HeartRound id m r m' →
      HeartRounds id (t ++ (r ++ [.roundEnd])) m'

/-- The notes are those of whole rounds, cut off at some point. -/
def HeartExact (id : UInt32) (t : List HeartNote) : Prop :=
  ∃ t' m, HeartRounds id t' m ∧ t <+: t'

def SlotKept (n : Nat) (id : UInt32) (s : Station) : Prop :=
  s.gateway.globalDevice.id n = id ∧ s.gateway.globalDevice.bindId n = 0

section Rounds
variable {id : UInt32}

theorem misses_succ (id : UInt32) (k : Nat) :
    misses id (k+1) = misses id k ++ [.probe id,.missed id] := by
  simp [misses,List.replicate_succ']

theorem misses_next (id : UInt32) (k : Nat) :
    misses id k ++ [.probe id] ++ [.missed id] = misses id (k+1) := by
  rw [misses_succ,List.append_assoc]
  rfl

theorem HeartRound.le {m m' : Nat} {r : List HeartNote} (h : HeartRound id m r m') : m' ≤ 5 := by
  cases h with
  | answered hk => exact Nat.zero_le 5
  | missed hm => exact hm
  | offline => exact Nat.zero_le 5

theorem HeartRounds.le {t : List HeartNote} {m : Nat} (h : HeartRounds id t m) : m ≤ 5 := by
  cases h with
  | nil => exact Nat.zero_le 5
  | snoc _ hr => exact hr.le

theorem HeartRounds.exact {t r r' : List HeartNote} {m m' : Nat} (h : HeartRounds id t m)
    (hr : HeartRound id m r' m') (hp : r <+: r') : HeartExact id (t ++ r) :=
  ⟨_,_,h.snoc hr,(List.prefix_append_right_inj t).mpr (hp.trans (List.prefix_append _ _))⟩

/-- A round that has not been answered can still be. -/
theorem HeartRounds.exact_open {t : List HeartNote} {m k : Nat} (h : HeartRounds id t m)
    (hk : k ≤ 6) : HeartExact id (t ++ (misses id k ++ [.probe id])) := by
  refine h.exact (.answered hk) ?_
  rw [List.prefix_append_right_inj]
  exact List.prefix_append [HeartNote.probe id] [.answered id]

end Rounds

def HeartState.start (h : HeartState) : Nat :=
  match h.pc with
  | .rest => 1
  | .look | .asked => h.num

def HeartSlot (d : DeviceInfo) (n : Nat) : Prop := d.id n ≠ 0 ∧ d.bindId n = 0

/-- A look asks the next main, or there is none and the round is over. -/
theorem heartThread_looks {s : Station} (hpc : s.heart.pc ≠ .asked) :
    (∃ k, s.heart.start ≤ k ∧ k ≤ s.gateway.globalDevice.num ∧
      (∀ j, s.heart.start ≤ j → j < k → ¬ HeartSlot s.gateway.globalDevice j) ∧
      heartThread s = ⟨heartAsk k s.gateway,⟨k,.asked⟩⟩ ∧
      heartNotes s .heartThread = [.probe (s.gateway.globalDevice.id k)]) ∨
    ((∀ j, s.heart.start ≤ j → j ≤ s.gateway.globalDevice.num →
        ¬ HeartSlot s.gateway.globalDevice j) ∧
      heartThread s = ⟨s.gateway,⟨s.gateway.globalDevice.num+1,.rest⟩⟩ ∧
      heartNotes s .heartThread = [.roundEnd]) := by
  have hthread : heartThread s = heartLook s.heart.start s ∧
      heartNotes s .heartThread = heartLookNotes s.heart.start s := by
    cases h : s.heart.pc with
    | rest => simp only [heartThread,heartNotes,HeartState.start,h,and_self]
    | look => simp only [heartThread,heartNotes,HeartState.start,h,and_self]
    | asked => exact absurd h hpc
  have hslot : ∀ j, (s.gateway.globalDevice.id j != 0 && s.gateway.globalDevice.bindId j == 0) = false
      → ¬ HeartSlot s.gateway.globalDevice j := by
    rintro j hj ⟨hid,hb⟩
    simp [hid,hb] at hj
  rw [hthread.1,hthread.2]
  unfold heartLook heartLookNotes
  dsimp only
  cases hs : scanUp (fun n => s.gateway.globalDevice.id n != 0 && s.gateway.globalDevice.bindId n == 0)
      (s.gateway.globalDevice.num+1-s.heart.start) s.heart.start with
  | some k =>
    obtain ⟨hle,hlt,_,hbelow⟩ := scanUp_sound hs
    exact .inl ⟨k,hle,by omega,fun j h1 h2 => hslot j (hbelow j h1 h2),rfl,rfl⟩
  | none =>
    have hnone := scanUp_eq_none.mp hs
    exact .inr ⟨fun j h1 h2 => hslot j (hnone j h1 (by omega)),rfl,rfl⟩

/-- At the end of a wait the receive flag and the two counters decide. -/
theorem heartThread_judges {s : Station} {k : Nat} (h : s.heart = ⟨k,.asked⟩) :
    (s.gateway.globalDevice.heartRecv k ≠ 0 ∧
      heartThread s = ⟨heartUpload (s.gateway.globalDevice.id k) 1 (setHeartCounts k 0 0 s.gateway),
        ⟨k+1,.look⟩⟩ ∧
      heartNotes s .heartThread = [.answered (s.gateway.globalDevice.id k)]) ∨
    s.gateway.globalDevice.heartRecv k = 0 ∧ (
    (s.gateway.globalDevice.heartRetry k < 6 ∧
      heartThread s = ⟨setHeartCounts k (s.gateway.globalDevice.heartRetry k+1)
        (s.gateway.globalDevice.heartCount k) s.gateway,⟨k,.look⟩⟩ ∧
      heartNotes s .heartThread = [.missed (s.gateway.globalDevice.id k)]) ∨
    (¬ s.gateway.globalDevice.heartRetry k < 6 ∧ s.gateway.globalDevice.heartCount k < 5 ∧
      heartThread s = ⟨setHeartCounts k 0 (s.gateway.globalDevice.heartCount k+1) s.gateway,
        ⟨k+1,.look⟩⟩ ∧
      heartNotes s .heartThread = [.missed (s.gateway.globalDevice.id k)]) ∨
    (¬ s.gateway.globalDevice.heartRetry k < 6 ∧ ¬ s.gateway.globalDevice.heartCount k < 5 ∧
      heartThread s = ⟨setHeartCounts k 0 0
        (flashSetHeart (s.gateway.globalDevice.id k) 0 s.gateway).2,⟨k+1,.look⟩⟩ ∧
      heartNotes s .heartThread =
        [.missed (s.gateway.globalDevice.id k),.offline (s.gateway.globalDevice.id k)])) := by
  simp only [heartThread,heartNotes,heartOutcome,heartOutcomeNotes,h]
  by_cases hrecv : s.gateway.globalDevice.heartRecv k = 0
  · refine .inr ⟨hrecv,?_⟩
    by_cases hretry : s.gateway.globalDevice.heartRetry k < 6
    · exact .inl (by simp only [hrecv,hretry,ne_eq,not_true_eq_false,if_true,if_false,and_self])
    · by_cases hcount : s.gateway.globalDevice.heartCount k < 5
      · exact .inr (.inl (by simp only [hrecv,hretry,hcount,ne_eq,not_true_eq_false,if_true,if_false,
          and_self,not_false_eq_true]))
      · exact .inr (.inr (by simp only [hrecv,hretry,hcount,ne_eq,not_true_eq_false,if_false,and_self,
          not_false_eq_true]))
  · exact .inl (by simp only [hrecv,if_true,and_self,ne_eq,not_false_eq_true])

/-- Every step of the heart thread does what its notes say, and makes no other call. -/
theorem heartThread_acts (s : Station) : HeartActs s (heartNotes s .heartThread) := by
  by_cases hpc : s.heart.pc = .asked
  · have hat : s.heart = ⟨s.heart.num,.asked⟩ := by rw [← hpc]
    rcases heartThread_judges hat with
      ⟨hrecv,hs,hn⟩ | ⟨hrecv,⟨_,hs,hn⟩ | ⟨_,_,hs,hn⟩ | ⟨_,_,hs,hn⟩⟩
    · rw [hn]
      exact .answered _ hat hrecv (by rw [hs])
    · rw [hn]
      exact .missed _ _ _ hat hrecv (by rw [hs])
    · rw [hn]
      exact .missed _ _ _ hat hrecv (by rw [hs])
    · rw [hn]
      exact .offline _ hat hrecv (by rw [hs])
  · rcases heartThread_looks hpc with ⟨k,_,_,_,hs,hn⟩ | ⟨_,hs,hn⟩
    · rw [hn]
      exact .probe k hs
    · rw [hn]
      exact .roundEnd (by rw [hs])

structure HeartCounts (n r m : Nat) (g : Gateway) : Prop where
  retry : (g.globalDevice.heartRetry n).toNat = r
  count : (g.globalDevice.heartCount n).toNat = m

theorem HeartCounts.kept {n r m : Nat} {g g' : Gateway} (h : HeartCounts n r m g)
    (hk : CountersKept g g') : HeartCounts n r m g' :=
  ⟨by rw [hk.heartRetry]; exact h.retry,by rw [hk.heartCount]; exact h.count⟩

theorem heartCounts_set (n : Nat) (retry count : UInt8) (g : Gateway) :
    HeartCounts n retry.toNat count.toNat (setHeartCounts n retry count g) := by
  constructor <;> simp [setHeartCounts,Gateway.setTable]

theorem HeartCounts.set_other {n r m k : Nat} {g : Gateway} (h : HeartCounts n r m g) (hk : n ≠ k)
    (retry count : UInt8) : HeartCounts n r m (setHeartCounts k retry count g) := by
  constructor
  · simpa [setHeartCounts,Gateway.setTable,Function.update_of_ne hk] using h.retry
  · simpa [setHeartCounts,Gateway.setTable,Function.update_of_ne hk] using h.count

/-- Where the thread stands in a round of the main in slot `n`, with the notes of this round
so far: on its way to the slot, waiting for another main, waiting for the answer, or past
the slot. -/
inductive HeartPhase (id : UInt32) (n m : Nat) : List HeartNote → Station → Prop where
  | coming {s : Station} (r : Nat) : s.heart.pc ≠ .asked → s.heart.start ≤ n →
      (s.heart.start < n → r = 0) → r ≤ 6 → HeartCounts n r m s.gateway →
      HeartPhase id n m (misses id r) s
  | elsewhere {s : Station} (k : Nat) : s.heart = ⟨k,.asked⟩ → k < n → HeartCounts n 0 m s.gateway →
      HeartPhase id n m [] s
  | waiting {s : Station} (r : Nat) : s.heart = ⟨n,.asked⟩ → r ≤ 6 → HeartCounts n r m s.gateway →
      HeartPhase id n m (misses id r ++ [.probe id]) s
  | past {s : Station} {cur : List HeartNote} {m' : Nat} : HeartRound id m cur m' →
      s.heart.pc ≠ .rest → n < s.heart.num → HeartCounts n 0 m' s.gateway → HeartPhase id n m cur s

theorem HeartPhase.kept {id : UInt32} {n m : Nat} {cur : List HeartNote} {s : Station} {g : Gateway}
    (h : HeartPhase id n m cur s) (hk : CountersKept s.gateway g) :
    HeartPhase id n m cur ⟨g,s.heart⟩ := by
  cases h with
  | coming r hpc hstart hr hle hc => exact .coming r hpc hstart hr hle (hc.kept hk)
  | elsewhere k hat hlt hc => exact .elsewhere k hat hlt (hc.kept hk)
  | waiting r hat hle hc => exact .waiting r hat hle (hc.kept hk)
  | past hr hpc hlt hc => exact .past hr hpc hlt (hc.kept hk)

/-- The notes on `id` are whole rounds and the notes of the present one. -/
structure HeartStands (id : UInt32) (n : Nat) (t : List HeartNote) (s : Station) : Prop where
  wellKept : WellKept s.gateway
  slot : SlotKept n id s
  phase : ∃ t' m cur, t = t' ++ cur ∧ HeartRounds id t' m ∧ HeartPhase id n m cur s

/-- The steps at other slots put down nothing on `id` and leave the counters of slot `n`. -/
theorem heartThread_elsewhere {s : Station} {n m k : Nat} {id : UInt32} (h : s.heart = ⟨k,.asked⟩)
    (hk : n ≠ k) (hid : s.gateway.globalDevice.id k ≠ id) (hc : HeartCounts n 0 m s.gateway) :
    (heartNotes s .heartThread).filter (HeartNote.about id) = [] ∧
    (heartThread s).heart.pc = .look ∧ k ≤ (heartThread s).heart.num ∧
    (heartThread s).heart.num ≤ k+1 ∧ HeartCounts n 0 m (heartThread s).gateway := by
  rcases heartThread_judges h with
    ⟨_,hs,hn⟩ | ⟨_,⟨_,hs,hn⟩ | ⟨_,_,hs,hn⟩ | ⟨_,_,hs,hn⟩⟩
  · rw [hs,hn]
    refine ⟨by simp [HeartNote.about,hid],rfl,Nat.le_succ k,Nat.le_refl _,?_⟩
    exact (hc.set_other hk 0 0).kept (heartUpload_countersKept _ _ _)
  · rw [hs,hn]
    exact ⟨by simp [HeartNote.about,hid],rfl,Nat.le_refl k,Nat.le_succ k,hc.set_other hk _ _⟩
  · rw [hs,hn]
    exact ⟨by simp [HeartNote.about,hid],rfl,Nat.le_succ k,Nat.le_refl _,hc.set_other hk _ _⟩
  · rw [hs,hn]
    refine ⟨by simp [HeartNote.about,hid],rfl,Nat.le_succ k,Nat.le_refl _,?_⟩
    exact (hc.kept (flashSetHeart_countersKept _ _ _)).set_other hk _ _

theorem heartAsk_countersKept (n : Nat) (g : Gateway) : CountersKept g (heartAsk n g) := ⟨rfl,rfl⟩

section Step
variable {id : UInt32} {n m : Nat} {s : Station} (hw : WellKept s.gateway) (hslot : SlotKept n id s)
  (hid : id ≠ 0)

include hslot hid in
theorem SlotKept.heartSlot : HeartSlot s.gateway.globalDevice n := ⟨by rw [hslot.1]; exact hid,hslot.2⟩

include hslot in
theorem heartThread_waiting {r : Nat} (hat : s.heart = ⟨n,.asked⟩) (hle : r ≤ 6) (hm : m ≤ 5)
    (hc : HeartCounts n r m s.gateway) :
    HeartPhase id n m (misses id r ++ [.probe id] ++
      (heartNotes s .heartThread).filter (HeartNote.about id)) (heartThread s) := by
  have hretry : s.gateway.globalDevice.heartRetry n < 6 ↔ r < 6 := by
    rw [UInt8.lt_iff_toNat_lt,hc.retry]
    rfl
  have hcount : s.gateway.globalDevice.heartCount n < 5 ↔ m < 5 := by
    rw [UInt8.lt_iff_toNat_lt,hc.count]
    rfl
  have habout : ∀ notes : List HeartNote, notes.all (HeartNote.about id) = true →
      notes.filter (HeartNote.about id) = notes := fun notes hall =>
    List.filter_eq_self.mpr (List.all_eq_true.mp hall)
  rcases heartThread_judges hat with
    ⟨_,hs,hn⟩ | ⟨_,⟨hlt,hs,hn⟩ | ⟨hge,hlt,hs,hn⟩ | ⟨hge,hge',hs,hn⟩⟩
  · rw [hs,hn,hslot.1,habout _ (by simp [HeartNote.about]),List.append_assoc]
    exact .past (.answered hle) (by simp) (Nat.lt_succ_self n)
      ((heartCounts_set n 0 0 s.gateway).kept (heartUpload_countersKept _ _ _))
  · have hr6 := hretry.mp hlt
    have hset := heartCounts_set n (s.gateway.globalDevice.heartRetry n+1)
      (s.gateway.globalDevice.heartCount n) s.gateway
    rw [toNat_succ (by rw [hc.retry]; omega),hc.retry,hc.count] at hset
    rw [hs,hn,hslot.1,habout _ (by simp [HeartNote.about]),misses_next]
    exact .coming (r+1) (by simp) (Nat.le_refl n) (fun h => absurd h (Nat.lt_irrefl n)) hr6 hset
  · have hr : r = 6 := Nat.le_antisymm hle (Nat.le_of_not_lt (mt hretry.mpr hge))
    have hm5 := hcount.mp hlt
    have hset := heartCounts_set n 0 (s.gateway.globalDevice.heartCount n+1) s.gateway
    rw [toNat_succ (by rw [hc.count]; omega),hc.count] at hset
    rw [hs,hn,hslot.1,habout _ (by simp [HeartNote.about]),misses_next,hr]
    exact .past (.missed hm5) (by simp) (Nat.lt_succ_self n) hset
  · have hr : r = 6 := Nat.le_antisymm hle (Nat.le_of_not_lt (mt hretry.mpr hge))
    have hm5 : m = 5 := Nat.le_antisymm hm (Nat.le_of_not_lt (mt hcount.mpr hge'))
    have hnotes : misses id 6 ++ [.probe id] ++ [.missed id,.offline id]
        = misses id 7 ++ [.offline id] := by
      rw [← misses_next id 6,List.append_assoc _ [HeartNote.missed id]]
      rfl
    rw [hs,hn,hslot.1,habout _ (by simp [HeartNote.about]),hr,hm5,hnotes]
    exact .past .offline (by simp) (Nat.lt_succ_self n) (heartCounts_set n 0 0 _)

include hw hslot hid

theorem SlotKept.le_num : 1 ≤ n ∧ n ≤ s.gateway.globalDevice.num :=
  hw.inv.keyed.bounded n (by rw [hslot.1]; exact hid)

theorem SlotKept.other {k : Nat} (hk : n ≠ k) : s.gateway.globalDevice.id k ≠ id := by
  intro heq
  refine hk (hw.inv.keyed.distinct n k ?_ ?_)
  · rw [hslot.1]
    exact hid
  · rw [hslot.1,heq]

theorem heartThread_coming {r : Nat} (hpc : s.heart.pc ≠ .asked) (hstart : s.heart.start ≤ n)
    (hr : s.heart.start < n → r = 0) (hle : r ≤ 6) (hc : HeartCounts n r m s.gateway) :
    HeartPhase id n m (misses id r ++ (heartNotes s .heartThread).filter (HeartNote.about id))
      (heartThread s) := by
  have hn := hslot.le_num hw hid
  rcases heartThread_looks hpc with ⟨k,hk,_,hbelow,hs,hnotes⟩ | ⟨hnone,_,_⟩
  · have hkn : k ≤ n := by
      by_contra hlt
      exact hbelow n hstart (by omega) (hslot.heartSlot hid)
    rw [hs,hnotes]
    by_cases heq : n = k
    · subst heq
      have habout : List.filter (HeartNote.about id) [.probe (s.gateway.globalDevice.id n)]
          = [.probe id] := by simp [HeartNote.about,hslot.1]
      rw [habout]
      exact .waiting r rfl hle (hc.kept (heartAsk_countersKept n _))
    · have hr0 : r = 0 := hr (by omega)
      subst hr0
      have habout : List.filter (HeartNote.about id) [.probe (s.gateway.globalDevice.id k)] = [] := by
        simp [HeartNote.about,hslot.other hw hid heq]
      rw [habout]
      exact .elsewhere k rfl (by omega) (hc.kept (heartAsk_countersKept k _))
  · exact absurd (hslot.heartSlot hid) (hnone n hstart hn.2)

theorem heartThread_before {k : Nat} (hat : s.heart = ⟨k,.asked⟩) (hk : k < n)
    (hc : HeartCounts n 0 m s.gateway) :
    HeartPhase id n m ([] ++ (heartNotes s .heartThread).filter (HeartNote.about id))
      (heartThread s) := by
  obtain ⟨hnotes,hpc,_,hle,hc'⟩ := heartThread_elsewhere hat (by omega)
    (hslot.other hw hid (by omega)) hc
  have hstart : (heartThread s).heart.start ≤ n := by
    simp only [HeartState.start,hpc]
    omega
  rw [hnotes]
  exact .coming 0 (by simp [hpc]) hstart (fun _ => rfl) (by decide) hc'

theorem heartThread_past {t cur : List HeartNote} {m' : Nat} (ht : HeartRounds id t m)
    (hround : HeartRound id m cur m') (hpc : s.heart.pc ≠ .rest) (hlt : n < s.heart.num)
    (hc : HeartCounts n 0 m' s.gateway) :
    ∃ t' k cur', t ++ cur ++ (heartNotes s .heartThread).filter (HeartNote.about id) = t' ++ cur' ∧
      HeartRounds id t' k ∧ HeartPhase id n k cur' (heartThread s) := by
  by_cases hasked : s.heart.pc = .asked
  · have hat : s.heart = ⟨s.heart.num,.asked⟩ := by rw [← hasked]
    obtain ⟨hnotes,hpc',hge,_,hc'⟩ := heartThread_elsewhere hat (by omega)
      (hslot.other hw hid (by omega)) hc
    refine ⟨t,m,cur,by rw [hnotes,List.append_nil],ht,?_⟩
    exact .past hround (by simp [hpc']) (by omega) hc'
  · have hstart : s.heart.start = s.heart.num := by
      cases hp : s.heart.pc with
      | rest => exact absurd hp hpc
      | look => simp only [HeartState.start,hp]
      | asked => exact absurd hp hasked
    rcases heartThread_looks hasked with ⟨k,hk,_,_,hs,hnotes⟩ | ⟨_,hs,hnotes⟩
    · have hne : s.gateway.globalDevice.id k ≠ id := hslot.other hw hid (by omega)
      rw [hs,hnotes]
      refine ⟨t,m,cur,by simp [HeartNote.about,hne],ht,?_⟩
      exact .past hround (by simp) (by simp only; omega) (hc.kept (heartAsk_countersKept k _))
    · rw [hs,hnotes]
      refine ⟨_,m',misses id 0,?_,ht.snoc hround,.coming 0 (by simp) ?_ (fun _ => rfl) (by decide) hc⟩
      · simp [HeartNote.about,misses]
      · exact (hslot.le_num hw hid).1

end Step

theorem HeartStands.step {id : UInt32} {n : Nat} {t : List HeartNote} {s : Station}
    (h : HeartStands id n t s) (hid : id ≠ 0) (e : StationEvent)
    (hslot' : SlotKept n id (stationStep s e)) :
    HeartStands id n (t ++ (heartNotes s e).filter (HeartNote.about id)) (stationStep s e) := by
  have hw := h.wellKept
  have hslot := h.slot
  obtain ⟨t',m,cur,rfl,hrounds,hphase⟩ := h.phase
  refine ⟨hw.edits (stationStep_edits s e),hslot',?_⟩
  cases e with
  | event e =>
    exact ⟨t',m,cur,by simp [heartNotes],hrounds,hphase.kept (step_countersKept s.gateway e)⟩
  | heartRequest idBuf =>
    exact ⟨t',m,cur,by simp [heartNotes],hrounds,
      hphase.kept (heartRequest_countersKept s.gateway idBuf)⟩
  | heartThread =>
    cases hphase with
    | coming r hpc hstart hr hle hc =>
      exact ⟨t',m,_,List.append_assoc _ _ _,hrounds,
        heartThread_coming hw hslot hid hpc hstart hr hle hc⟩
    | elsewhere k hat hlt hc =>
      exact ⟨t',m,_,List.append_assoc _ _ _,hrounds,heartThread_before hw hslot hid hat hlt hc⟩
    | waiting r hat hle hc =>
      exact ⟨t',m,_,List.append_assoc _ _ _,hrounds,
        heartThread_waiting hslot hat hle hrounds.le hc⟩
    | past hround hpc hlt hc => exact heartThread_past hw hslot hid hrounds hround hpc hlt hc

theorem HeartStands.exact {id : UInt32} {n : Nat} {t : List HeartNote} {s : Station}
    (h : HeartStands id n t s) : HeartExact id t := by
  obtain ⟨t',m,cur,rfl,hrounds,hphase⟩ := h.phase
  cases hphase with
  | coming r _ _ _ hle _ => exact hrounds.exact (.answered hle) (List.prefix_append _ _)
  | elsewhere k _ _ _ =>
    exact hrounds.exact (.answered (Nat.zero_le 6)) List.nil_prefix
  | waiting r _ hle _ => exact hrounds.exact_open hle
  | past hround _ _ _ => exact hrounds.exact hround (List.prefix_refl _)

/-- The steps that the thread still needs for the present round, at most. A slot takes two
for each question, and one that is left behind is not come back to. -/
def heartWork (s : Station) : Nat :=
  let left := 14*(49-s.heart.num)+14-2*min (s.gateway.globalDevice.heartRetry s.heart.num).toNat 6
  match s.heart.pc with
  | .rest => 701
  | .look => if s.heart.num ≤ 49 then left+1 else 1
  | .asked => left

theorem heartWork_pos (s : Station) : 1 ≤ heartWork s := by
  unfold heartWork
  dsimp only
  split
  · decide
  · split
    · omega
    · exact Nat.le_refl 1
  · omega

theorem heartWork_le (s : Station) : heartWork s ≤ 701 := by
  unfold heartWork
  dsimp only
  split
  · exact Nat.le_refl _
  · split
    · omega
    · decide
  · omega

theorem heartWork_kept {s : Station} {g : Gateway} (h : CountersKept s.gateway g) :
    heartWork ⟨g,s.heart⟩ = heartWork s := by
  simp only [heartWork,h.heartRetry]

/-- A step of the thread ends the round, or less work is left after it. -/
theorem heartThread_progress {s : Station} (hnum : s.gateway.globalDevice.num ≤ 49) :
    HeartNote.roundEnd ∈ heartNotes s .heartThread ∨ heartWork (heartThread s) < heartWork s := by
  by_cases hpc : s.heart.pc = .asked
  · refine .inr ?_
    have hat : s.heart = ⟨s.heart.num,.asked⟩ := by rw [← hpc]
    have hwork : heartWork s = 14*(49-s.heart.num)+14 -
        2*min (s.gateway.globalDevice.heartRetry s.heart.num).toNat 6 := by
      simp only [heartWork,hpc]
    have hmore : 14*(49-s.heart.num)+1 < heartWork s := by omega
    have hnext : ∀ g, heartWork ⟨g,⟨s.heart.num+1,.look⟩⟩ ≤ 14*(49-s.heart.num)+1 := by
      intro g
      simp only [heartWork]
      split <;> omega
    rcases heartThread_judges hat with ⟨_,hs,_⟩ | ⟨_,⟨hlt,hs,_⟩ | ⟨_,_,hs,_⟩ | ⟨_,_,hs,_⟩⟩
    · rw [hs]
      exact Nat.lt_of_le_of_lt (hnext _) hmore
    · have hr : (s.gateway.globalDevice.heartRetry s.heart.num).toNat < 6 := by
        simpa [UInt8.lt_iff_toNat_lt] using hlt
      have hset := (heartCounts_set s.heart.num (s.gateway.globalDevice.heartRetry s.heart.num+1)
        (s.gateway.globalDevice.heartCount s.heart.num) s.gateway).retry
      rw [toNat_succ (by omega)] at hset
      rw [hs,hwork]
      simp only [heartWork,hset]
      split <;> omega
    · rw [hs]
      exact Nat.lt_of_le_of_lt (hnext _) hmore
    · rw [hs]
      exact Nat.lt_of_le_of_lt (hnext _) hmore
  · rcases heartThread_looks hpc with ⟨k,hk,hle,_,hs,_⟩ | ⟨_,_,hn⟩
    · refine .inr ?_
      rw [hs]
      cases hp : s.heart.pc with
      | asked => exact absurd hp hpc
      | rest =>
        simp only [heartWork,hp]
        omega
      | look =>
        simp only [HeartState.start,hp] at hk
        have hkept := (heartAsk_countersKept k s.gateway).heartRetry
        simp only [heartWork,hp,hkept]
        rw [if_pos (by omega)]
        rcases Nat.lt_or_eq_of_le hk with hlt | heq
        · omega
        · rw [heq]
          exact Nat.lt_succ_self _
    · refine .inl ?_
      rw [hn]
      exact List.mem_singleton.mpr rfl

def StationEvent.isHeart : StationEvent → Bool
  | .heartThread => true
  | .event _ | .heartRequest _ => false

/-- A run in which no round ends gives the heart thread fewer steps than its work. -/
theorem heartTrace_ends (id : UInt32) {s : Station} (hw : WellKept s.gateway)
    (es : List StationEvent) :
    HeartNote.roundEnd ∈ heartTrace id s es ∨ es.countP StationEvent.isHeart < heartWork s := by
  induction es generalizing s with
  | nil => exact .inr (heartWork_pos s)
  | cons e es ih =>
    have hrest := ih (hw.edits (stationStep_edits s e))
    have hcons : heartTrace id s (e :: es) = (heartNotes s e).filter (HeartNote.about id) ++
        heartTrace id (stationStep s e) es := rfl
    rw [hcons,List.mem_append]
    rcases hrest with hend | hlt
    · exact .inl (.inr hend)
    · cases e with
      | event e =>
        refine .inr ?_
        rw [stationStep,heartWork_kept (step_countersKept s.gateway e)] at hlt
        rwa [List.countP_cons_of_neg (by simp [StationEvent.isHeart])]
      | heartRequest idBuf =>
        refine .inr ?_
        rw [stationStep,heartWork_kept (heartRequest_countersKept s.gateway idBuf)] at hlt
        rwa [List.countP_cons_of_neg (by simp [StationEvent.isHeart])]
      | heartThread =>
        rcases heartThread_progress hw.inv.num_le with hend | hless
        · exact .inl (.inl (List.mem_filter.mpr ⟨hend,rfl⟩))
        · refine .inr ?_
          rw [List.countP_cons_of_pos rfl]
          rw [stationStep] at hlt
          omega

/-- For every main that starts a round with clear counters and keeps its slot, the notes of a
run are those of exact rounds; 701 steps of the thread end a round, whatever the table and
the answers are; and each step of the thread does what its notes say. -/
theorem heart_rounds (s : Station) (hw : WellKept s.gateway) (es : List StationEvent) :
    (∀ n id, id ≠ 0 → s.heart.pc = .rest → s.gateway.globalDevice.heartRetry n = 0 →
      s.gateway.globalDevice.heartCount n = 0 → AllCuts stationStep (SlotKept n id) s es →
        HeartExact id (heartTrace id s es)) ∧
    (701 ≤ es.countP StationEvent.isHeart → ∀ id, HeartNote.roundEnd ∈ heartTrace id s es) ∧
    ∀ p, p ++ [.heartThread] <+: es →
      HeartActs (p.foldl stationStep s) (heartNotes (p.foldl stationStep s) .heartThread) := by
  refine ⟨?_,?_,fun p _ => heartThread_acts _⟩
  · intro n id hid hrest hretry hcount hkept
    have hslot : SlotKept n id s := hkept [] List.nil_prefix
    have hcounts : HeartCounts n 0 0 s.gateway :=
      ⟨by rw [hretry]; rfl,by rw [hcount]; rfl⟩
    have hstart : s.heart.start ≤ n := by
      rw [HeartState.start,hrest]
      exact (hslot.le_num hw hid).1
    have hstands : HeartStands id n [] s :=
      ⟨hw,hslot,[],0,[],rfl,.nil,.coming 0 (by simp [hrest]) hstart (fun _ => rfl) (by decide) hcounts⟩
    have hrun := trace_along (HeartStands id n) (fun t s e h hslot' => h.step hid e hslot') hstands
      hkept.along
    rw [List.nil_append] at hrun
    exact hrun.exact
  · intro hsteps id
    refine (heartTrace_ends id hw es).resolve_right fun hlt => ?_
    have := heartWork_le s
    omega

theorem SlotKept.heartThreads {n : Nat} {id : UInt32} {s : Station} (h : SlotKept n id s) (k : Nat) :
    SlotKept n id ((List.replicate k StationEvent.heartThread).foldl stationStep s) := by
  induction k generalizing s with
  | zero => exact h
  | succ k ih =>
    have hsame := heartThread_sameRegistry s
    refine ih ⟨?_,?_⟩
    · rw [stationStep,hsame.id]
      exact h.1
    · rw [stationStep,hsame.bindId]
      exact h.2

def silentMain : Station := ⟨deviceAdd2FlashWifi 10000001 0 (powerOn 40000000 []),⟨1,.rest⟩⟩

/-- Six rounds without an answer, of which only the last ends with the offline call. -/
theorem heart_rounds_silent :
    HeartExact 10000001 (heartTrace 10000001 silentMain (List.replicate 90 .heartThread)) ∧
    heartTrace 10000001 silentMain (List.replicate 90 .heartThread) =
      (List.replicate 5 (misses 10000001 7 ++ [.roundEnd])).flatten ++ misses 10000001 7 ++
        [.offline 10000001,.roundEnd] := by
  have hw : WellKept silentMain.gateway := (powerOn_wellKept 40000000).edits (.add 10000001 0 _)
  refine ⟨(heart_rounds silentMain hw (List.replicate 90 .heartThread)).1 1 10000001 (by decide) rfl
    (by decide +kernel) (by decide +kernel) fun p hp => ?_,by decide +kernel⟩
  rw [(List.prefix_replicate_iff.mp hp).2]
  exact SlotKept.heartThreads ⟨by decide +kernel,by decide +kernel⟩ _

end GatewayF411
