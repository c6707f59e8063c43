import GatewayF411.Lib.Bytes
import GatewayF411.SyncRound

set_option autoImplicit false

namespace GatewayF411
open CText SlotScan Bytes

/-- How the devices answer in one round: by slot, and by the failures counted so far. -/
abbrev Pattern := Nat → Nat → Answer

/-- One pass of a round: the slot in `Sync_Counter`, its `SyncRetry` before the pass, the
requests made, and the answer to them. -/
structure PassLog where
  slot : Nat
  retry : UInt8
  calls : List UInt32
  answer : Answer
  deriving DecidableEq, Repr

def patternPass (a : Pattern) (g : Gateway) : PassLog × Gateway :=
  let slot := g.sync.counter
  let retry := g.globalDevice.syncRetry slot
  let answer := a slot retry.toNat
  let r := syncPass answer g
  (⟨slot,retry,r.1,answer⟩,r.2)

/-- The passes of a round: the thread runs while its semaphore has a unit. -/
def patternRound (a : Pattern) : (fuel : Nat) → Gateway → List PassLog × Gateway
  | 0, g => ([],g)
  | fuel+1, g =>
    if g.sync.onceSem = 0 then ([],g)
    else
      let p := patternPass a g
      let rest := patternRound a fuel p.2
      (p.1 :: rest.1,rest.2)

/-- A run of rounds, each started by `Sync_Request` and given all the passes it can need. -/
def syncRounds : List Pattern → Gateway → List (List PassLog × Gateway)
  | [], _ => []
  | a :: as, g =>
    let r := patternRound a (4*g.globalDevice.num+4) (syncRequest g)
    r :: syncRounds as r.2

/-- The round of the second pair starts with the queue of the first and adds its own requests. -/
def Enqueues (r r' : List PassLog × Gateway) : Prop :=
  r'.2.queue433 = r.2.queue433.requestSync (r'.1.flatMap PassLog.calls)

def visits (n : Nat) (log : List PassLog) : List PassLog := log.filter (fun p => p.slot == n)

def outcomes (n : Nat) (log : List PassLog) : List Answer :=
  ((visits n log).filter (fun p => p.calls != [])).map PassLog.answer

/-- One to three requests, of which only the last can be answered, and fewer than three only
if it is. -/
def Spent (os : List Answer) : Prop :=
  os = List.replicate 3 .silent ∨ ∃ k b, k < 3 ∧ os = List.replicate k .silent ++ [.answered b]

/-- Every main that the round selects is selected with an unused budget, and can spend it. -/
def FullBudget (d : DeviceInfo) (log : List PassLog) : Prop :=
  ∀ n, MainSlot d n → visits n log ≠ [] →
    ((visits n log).head?.map PassLog.retry = some 0 ∧ Spent (outcomes n log))

/-- Of the requests that are left after `r` failures, one to slot `n` is answered. -/
def AnswersFrom (a : Pattern) (n r : Nat) : Prop := ∃ k, r ≤ k ∧ k < 3 ∧ a n k ≠ .silent

/-- The main in slot `n` is followed by another one, and a round comes to both. -/
def Followed (d : DeviceInfo) (n : Nat) : Prop :=
  n < d.num ∧ MainSlot d n ∧ ∃ j, j < n ∧ MainSlot d j

/-- Every main that another one follows answers one of its three requests. -/
def FollowedAnswer (d : DeviceInfo) (a : Pattern) : Prop :=
  ∀ n, Followed d n → AnswersFrom a n 0

/-- The answers to the requests to a slot that `r` failures are counted for. -/
def attempts (a : Nat → Answer) : (left r : Nat) → List Answer
  | 0, _ => []
  | left+1, r => a r :: if a r = .silent then attempts a left (r+1) else []

theorem attempts_spent (a : Nat → Answer) : Spent (attempts a 3 0) := by
  simp only [attempts]
  cases h0 : a 0 with
  | answered b => exact .inr ⟨0,b,by decide,by simp⟩
  | silent =>
    cases h1 : a 1 with
    | answered b => exact .inr ⟨1,b,by decide,by simp [List.replicate]⟩
    | silent =>
      cases h2 : a 2 with
      | answered b => exact .inr ⟨2,b,by decide,by simp [List.replicate]⟩
      | silent => exact .inl (by simp [List.replicate])

def Visited (d : DeviceInfo) (c n : Nat) : Prop := n ≤ c ∧ (MainSlot d n ∨ n = c)

/-- A round from slot `c` on: each slot is found with its counter and is asked until it answers
or the counter is 3; then the counter is 0 again, unless it is 3 and another main follows. -/
structure RoundSpec (d : DeviceInfo) (a : Pattern) (ρ : Nat → UInt8) (c : Nat)
    (log : List PassLog) (ρ' : Nat → UInt8) : Prop where
  slots : ∀ p ∈ log, Visited d c p.slot
  first : ∀ n, Visited d c n → (visits n log).head?.map PassLog.retry = some (ρ n)
  asked : ∀ n, Visited d c n → outcomes n log = attempts (a n) (3-(ρ n).toNat) (ρ n).toNat
  cleared : ∀ n, Visited d c n → NoMain d n ∨ AnswersFrom a n (ρ n).toNat → ρ' n = 0
  spent : ∀ n, Visited d c n → ¬ NoMain d n → ¬ AnswersFrom a n (ρ n).toNat → ρ' n = 3
  other : ∀ n, ¬ Visited d c n → ρ' n = ρ n

section Log
variable {p : PassLog} {log : List PassLog} {n : Nat}

theorem visits_self (h : p.slot = n) : visits n (p :: log) = p :: visits n log := by
  simp [visits,h]

theorem visits_other (h : p.slot ≠ n) : visits n (p :: log) = visits n log := by
  simp [visits,h]

theorem outcomes_other (h : p.slot ≠ n) : outcomes n (p :: log) = outcomes n log := by
  rw [outcomes,visits_other h,outcomes]

theorem outcomes_asked (h : p.slot = n) (hcalls : p.calls ≠ []) :
    outcomes n (p :: log) = p.answer :: outcomes n log := by
  rw [outcomes,visits_self h,List.filter_cons_of_pos (by simpa using hcalls),List.map_cons,outcomes]

theorem outcomes_unasked (h : p.slot = n) (hcalls : p.calls = []) :
    outcomes n (p :: log) = outcomes n log := by
  rw [outcomes,visits_self h,List.filter_cons_of_neg (by simpa using hcalls),outcomes]

theorem visits_absent (h : ∀ p ∈ log, p.slot ≠ n) : visits n log = [] := by
  rw [visits,List.filter_eq_nil_iff]
  intro p hp
  simpa using h p hp

end Log

section Spec
variable {d : DeviceInfo} {a : Pattern} {ρ ρ' : Nat → UInt8} {c : Nat} {p : PassLog}
  {log : List PassLog}

theorem RoundSpec.retry (h : RoundSpec d a (Function.update ρ c (ρ c+1)) c log ρ')
    (hslot : p.slot = c) (hretry : p.retry = ρ c) (hcalls : p.calls ≠ [])
    (hanswer : p.answer = a c (ρ c).toNat) (hsilent : a c (ρ c).toNat = .silent) (hr : ρ c < 3) :
    RoundSpec d a ρ c (p :: log) ρ' := by
  have hlt : (ρ c).toNat < 3 := by simpa [UInt8.lt_iff_toNat_lt] using hr
  have hsucc : (ρ c+1).toNat = (ρ c).toNat+1 := toNat_succ (by omega)
  have hself : Visited d c c := ⟨Nat.le_refl c,.inr rfl⟩
  have hat : ∀ n, n ≠ c → Function.update ρ c (ρ c+1) n = ρ n := fun n hn =>
    Function.update_of_ne hn _ _
  have hfrom : AnswersFrom a c (ρ c).toNat ↔ AnswersFrom a c ((ρ c).toNat+1) := by
    constructor
    · rintro ⟨k,hk,hk3,hne⟩
      rcases Nat.lt_or_eq_of_le hk with hlt' | heq
      · exact ⟨k,hlt',hk3,hne⟩
      · rw [← heq] at hne
        exact absurd hsilent hne
    · rintro ⟨k,hk,hk3,hne⟩
      exact ⟨k,by omega,hk3,hne⟩
  constructor
  · intro q hq
    rcases List.mem_cons.mp hq with rfl | hq
    · rw [hslot]
      exact hself
    · exact h.slots q hq
  · intro n hn
    by_cases hnc : n = c
    · rw [hnc,visits_self hslot,List.head?_cons,Option.map_some,hretry]
    · rw [visits_other (by rw [hslot]; exact Ne.symm hnc),h.first n hn,hat n hnc]
  · intro n hn
    by_cases hnc : n = c
    · have hrest := h.asked c hself
      rw [Function.update_self,hsucc] at hrest
      have hleft : 3-(ρ c).toNat = 3-((ρ c).toNat+1)+1 := by omega
      rw [hnc,outcomes_asked hslot hcalls,hrest,hanswer,hleft,attempts,if_pos hsilent]
    · rw [outcomes_other (by rw [hslot]; exact Ne.symm hnc),h.asked n hn,hat n hnc]
  · intro n hn hcase
    by_cases hnc : n = c
    · refine h.cleared n hn ?_
      rw [hnc] at hcase ⊢
      rw [Function.update_self,hsucc,← hfrom]
      exact hcase
    · refine h.cleared n hn ?_
      rw [hat n hnc]
      exact hcase
  · intro n hn hmain hno
    by_cases hnc : n = c
    · refine h.spent n hn hmain ?_
      rw [hnc] at hno ⊢
      rw [Function.update_self,hsucc,← hfrom]
      exact hno
    · refine h.spent n hn hmain ?_
      rw [hat n hnc]
      exact hno
  · intro n hn
    have hnc : n ≠ c := fun heq => hn (heq ▸ hself)
    rw [h.other n hn,hat n hnc]

/-- The pass that ends the visit to slot `c`, with the counters it leaves. -/
structure LastPass (a : Pattern) (ρ : Nat → UInt8) (c : Nat) (p : PassLog) (ρ1 : Nat → UInt8) :
    Prop where
  slot : p.slot = c
  retry : p.retry = ρ c
  asked : outcomes c [p] = attempts (a c) (3-(ρ c).toNat) (ρ c).toNat
  answered : AnswersFrom a c (ρ c).toNat → ρ1 c = 0
  keep : ∀ n, n ≠ c → ρ1 n = ρ n

theorem LastPass.of_answer {b : Bool} (hslot : p.slot = c) (hretry : p.retry = ρ c)
    (hcalls : p.calls ≠ []) (hanswer : p.answer = .answered b)
    (ha : a c (ρ c).toNat = .answered b) (hr : (ρ c).toNat < 3) :
    LastPass a ρ c p (Function.update ρ c 0) := by
  have hleft : 3-(ρ c).toNat = 3-((ρ c).toNat+1)+1 := by omega
  refine ⟨hslot,hretry,?_,fun _ => Function.update_self _ _ _,
    fun n hn => Function.update_of_ne hn _ _⟩
  rw [outcomes_asked hslot hcalls,hanswer,hleft,attempts,ha,if_neg (by simp)]
  rfl

theorem LastPass.of_exhausted {ρ1 : Nat → UInt8} (hslot : p.slot = c) (hretry : p.retry = ρ c)
    (hcalls : p.calls = []) (hr : (ρ c).toNat = 3) (hkeep : ∀ n, n ≠ c → ρ1 n = ρ n) :
    LastPass a ρ c p ρ1 := by
  refine ⟨hslot,hretry,?_,?_,hkeep⟩
  · rw [outcomes_unasked hslot hcalls,hr]
    rfl
  · rintro ⟨k,hk,hk3,_⟩
    omega

theorem LastPass.outcomes_cons {ρ1 : Nat → UInt8} (h : LastPass a ρ c p ρ1)
    (hlog : ∀ q ∈ log, q.slot ≠ c) : outcomes c (p :: log) = outcomes c [p] := by
  unfold outcomes
  rw [visits_self h.slot,visits_self h.slot,visits_absent hlog]
  rfl

theorem NextMain.visited {c' n : Nat} (h : NextMain d c c') (hn : Visited d c n) (hnc : n ≠ c) :
    Visited d c' n := by
  have hmain : MainSlot d n := hn.2.resolve_right hnc
  refine ⟨?_,.inl hmain⟩
  by_contra hlt
  exact h.gap n (by omega) (Nat.lt_of_le_of_ne hn.1 hnc) hmain

theorem RoundSpec.move {ρ1 : Nat → UInt8} {c' : Nat} (h : RoundSpec d a ρ1 c' log ρ')
    (hp : LastPass a ρ c p ρ1) (hnext : NextMain d c c')
    (hspent : ¬ AnswersFrom a c (ρ c).toNat → ρ1 c = 3) : RoundSpec d a ρ c (p :: log) ρ' := by
  have hself : Visited d c c := ⟨Nat.le_refl c,.inr rfl⟩
  have hbelow : ∀ n, Visited d c' n → n < c := fun n hn => Nat.lt_of_le_of_lt hn.1 hnext.lt
  have hup : ∀ n, Visited d c' n → Visited d c n := by
    intro n hn
    refine ⟨(hbelow n hn).le,.inl ?_⟩
    rcases hn.2 with hm | rfl
    · exact hm
    · exact hnext.main
  have hleft : ρ' c = ρ1 c := h.other c fun hv => Nat.lt_irrefl c (hbelow c hv)
  have hlog : ∀ q ∈ log, q.slot ≠ c := fun q hq => (hbelow _ (h.slots q hq)).ne
  have hne : ∀ {n}, n ≠ c → p.slot ≠ n := by
    intro n hn
    rw [hp.slot]
    exact Ne.symm hn
  constructor
  · intro q hq
    rcases List.mem_cons.mp hq with rfl | hq
    · rw [hp.slot]
      exact hself
    · exact hup _ (h.slots q hq)
  · intro n hn
    by_cases hnc : n = c
    · rw [hnc,visits_self hp.slot,List.head?_cons,Option.map_some,hp.retry]
    · rw [visits_other (hne hnc),h.first n (hnext.visited hn hnc),hp.keep n hnc]
  · intro n hn
    by_cases hnc : n = c
    · rw [hnc,hp.outcomes_cons hlog,hp.asked]
    · rw [outcomes_other (hne hnc),h.asked n (hnext.visited hn hnc),hp.keep n hnc]
  · intro n hn hcase
    by_cases hnc : n = c
    · rw [hnc] at hcase ⊢
      rw [hleft]
      exact hp.answered (hcase.resolve_left fun hno => hno c' hnext.lt hnext.main)
    · refine h.cleared n (hnext.visited hn hnc) ?_
      rw [hp.keep n hnc]
      exact hcase
  · intro n hn hmain hno
    by_cases hnc : n = c
    · rw [hnc] at hno ⊢
      rw [hleft]
      exact hspent hno
    · refine h.spent n (hnext.visited hn hnc) hmain ?_
      rw [hp.keep n hnc]
      exact hno
  · intro n hn
    have hnc : n ≠ c := fun heq => hn (heq ▸ hself)
    rw [h.other n fun hv => hn (hup n hv),hp.keep n hnc]

theorem RoundSpec.stop (hp : LastPass a ρ c p ρ') (hnone : NoMain d c) (hzero : ρ' c = 0) :
    RoundSpec d a ρ c [p] ρ' := by
  have hself : Visited d c c := ⟨Nat.le_refl c,.inr rfl⟩
  have honly : ∀ n, Visited d c n → n = c := by
    intro n hn
    by_contra hnc
    exact hnone n (Nat.lt_of_le_of_ne hn.1 hnc) (hn.2.resolve_right hnc)
  constructor
  · intro q hq
    rw [List.mem_singleton.mp hq,hp.slot]
    exact hself
  · intro n hn
    rw [honly n hn,visits_self hp.slot,List.head?_cons,Option.map_some,hp.retry]
  · intro n hn
    rw [honly n hn,hp.asked]
  · intro n hn _
    rw [honly n hn]
    exact hzero
  · intro n hn hmain
    rw [honly n hn] at hmain
    exact absurd hnone hmain
  · intro n hn
    exact hp.keep n fun heq => hn (heq ▸ hself)

end Spec

theorem SyncIdle.patternRound {g : Gateway} (h : SyncIdle g) (a : Pattern) (fuel : Nat) :
    patternRound a fuel g = ([],g) := by
  cases fuel with
  | zero => rfl
  | succ fuel => simp [GatewayF411.patternRound,h.onceSem]

section Round
variable {d : DeviceInfo} {a : Pattern} {ρ : Nat → UInt8} {c fuel : Nat} {g : Gateway}

/-- The rest of a round with at most `fuel` passes meets its specification. -/
def RoundMeets (d : DeviceInfo) (a : Pattern) (fuel : Nat) : Prop :=
  ∀ (c : Nat) (ρ : Nat → UInt8) (g : Gateway), Addressing d ρ c g → 1 ≤ c → c ≤ d.num →
    d.id c ≠ 0 → (∀ n, (ρ n).toNat ≤ 3) → 4*c+4-(ρ c).toNat ≤ fuel →
    ∃ ρ', RoundSpec d a ρ c (patternRound a fuel g).1 ρ' ∧ Resting d ρ' (patternRound a fuel g).2

theorem Addressing.patternPass (h : Addressing d ρ c g) (a : Pattern) :
    patternPass a g = (⟨c,ρ c,(syncPass (a c (ρ c).toNat) g).1,a c (ρ c).toNat⟩,
      (syncPass (a c (ρ c).toNat) g).2) := by
  simp only [GatewayF411.patternPass,h.counter,h.syncRetry]

theorem Addressing.patternRound (h : Addressing d ρ c g) (a : Pattern) (fuel : Nat) :
    patternRound a (fuel+1) g =
      (⟨c,ρ c,(syncPass (a c (ρ c).toNat) g).1,a c (ρ c).toNat⟩ ::
        (patternRound a fuel (syncPass (a c (ρ c).toNat) g).2).1,
      (patternRound a fuel (syncPass (a c (ρ c).toNat) g).2).2) := by
  have hsem : g.sync.onceSem ≠ 0 := by simp [h.onceSem]
  simp only [GatewayF411.patternRound,hsem,if_false,h.patternPass a]

theorem RoundMeets.next (hmeets : RoundMeets d a fuel) (hinv : d.Inv) {c' : Nat}
    (hnext : NextMain d c c') (hat : Addressing d ρ c' g)
    (hle : ∀ n, (ρ n).toNat ≤ 3) (hf : 4*c ≤ fuel) :
    ∃ ρ', RoundSpec d a ρ c' (patternRound a fuel g).1 ρ' ∧
      Resting d ρ' (patternRound a fuel g).2 := by
  have hne := mainSlot_ne_zero hnext.main
  have hb := hinv.keyed.bounded c' hne
  have hlt := hnext.lt
  exact hmeets c' ρ g hat hb.1 hb.2 hne hle (by omega)

theorem update_le {ρ : Nat → UInt8} {v : UInt8} (h : ∀ n, (ρ n).toNat ≤ 3) (hv : v.toNat ≤ 3)
    (c n : Nat) : (Function.update ρ c v n).toNat ≤ 3 := by
  by_cases hn : n = c
  · rw [hn,Function.update_self]
    exact hv
  · rw [Function.update_of_ne hn]
    exact h n

theorem roundMeets (hinv : d.Inv) (a : Pattern) (fuel : Nat) : RoundMeets d a fuel := by
  induction fuel with
  | zero =>
    intro c ρ g _ h1 _ _ hle hf
    have hc := hle c
    omega
  | succ fuel ih =>
    intro c ρ g h h1 hc hid hle hf
    have hlec := hle c
    rw [h.patternRound a fuel]
    by_cases hr : ρ c < 3
    · have hlt : (ρ c).toNat < 3 := by simpa [UInt8.lt_iff_toNat_lt] using hr
      cases hanswer : a c (ρ c).toNat with
      | silent =>
        obtain ⟨hcalls,hat⟩ := h.pass_silent h1 hc hid hr
        have hsucc : (ρ c+1).toNat = (ρ c).toNat+1 := toNat_succ (by omega)
        obtain ⟨ρ',hspec,hrest⟩ := ih c _ _ hat h1 hc hid (update_le hle (by omega) c)
          (by rw [Function.update_self,hsucc]; omega)
        exact ⟨ρ',hspec.retry rfl rfl (by simp [hcalls]) hanswer.symm hanswer hr,hrest⟩
      | answered b =>
        obtain ⟨hcalls,hmoved⟩ := h.pass_answered h1 hc hid hr b
        have hlast : LastPass a ρ c ⟨c,ρ c,(syncPass (.answered b) g).1,.answered b⟩
            (Function.update ρ c 0) :=
          .of_answer rfl rfl (by simp [hcalls]) rfl hanswer hlt
        rcases hmoved with ⟨c',hnext,hat⟩ | ⟨hnone,hrest⟩
        · obtain ⟨ρ',hspec,hrest⟩ := ih.next hinv hnext hat (update_le hle (by simp) c) (by omega)
          exact ⟨ρ',hspec.move hlast hnext fun hno => absurd ⟨_,Nat.le_refl _,hlt,by simp [hanswer]⟩
            hno,hrest⟩
        · rw [hrest.toSyncIdle.patternRound]
          exact ⟨_,.stop hlast hnone (Function.update_self _ _ _),hrest⟩
    · have hthree : (ρ c).toNat = 3 := by
        have hge : ¬ (ρ c).toNat < 3 := by simpa [UInt8.lt_iff_toNat_lt] using hr
        omega
      obtain ⟨hcalls,hmoved⟩ := h.pass_exhausted h1 hc hid hr (a c (ρ c).toNat)
      rcases hmoved with ⟨c',hnext,hat⟩ | ⟨hnone,hrest⟩
      · obtain ⟨ρ',hspec,hrest⟩ := ih.next hinv hnext hat hle (by omega)
        exact ⟨ρ',hspec.move (.of_exhausted rfl rfl hcalls hthree fun _ _ => rfl) hnext
          fun _ => UInt8.toNat_inj.mp hthree,hrest⟩
      · rw [hrest.toSyncIdle.patternRound]
        exact ⟨_,.stop (.of_exhausted rfl rfl hcalls hthree fun n hn => Function.update_of_ne hn _ _)
          hnone (Function.update_self _ _ _),hrest⟩

end Round

structure WholeRound (d : DeviceInfo) (a : Pattern) (ρ : Nat → UInt8) (log : List PassLog)
    (ρ' : Nat → UInt8) : Prop where
  found : ∀ n, MainSlot d n → visits n log ≠ [] →
    (visits n log).head?.map PassLog.retry = some (ρ n) ∧
    outcomes n log = attempts (a n) (3-(ρ n).toNat) (ρ n).toNat
  selects : ∀ n, n < d.num → MainSlot d n → visits n log ≠ []
  cleared : ∀ n, ρ n = 0 → (Followed d n → AnswersFrom a n 0) → ρ' n = 0
  spent : ∀ n, Followed d n → ¬ AnswersFrom a n (ρ n).toNat → ρ' n = 3
  bound : (∀ n, (ρ n).toNat ≤ 3) → ∀ n, (ρ' n).toNat ≤ 3

def StartSlot (d : DeviceInfo) (c : Nat) : Prop :=
  NextMain d d.num c ∨ (c = d.num ∧ NoMain d d.num)

section Whole
variable {d : DeviceInfo} {a : Pattern} {ρ ρ' : Nat → UInt8} {c : Nat} {log : List PassLog}

theorem StartSlot.visited (hc : StartSlot d c) {n : Nat} (hn : n < d.num) (hm : MainSlot d n) :
    Visited d c n := by
  refine ⟨?_,.inl hm⟩
  rcases hc with hnext | ⟨_,hnone⟩
  · by_contra hlt
    exact hnext.gap n (by omega) hn hm
  · exact absurd hm (hnone n hn)

theorem StartSlot.followed (hc : StartSlot d c) {n : Nat} (hn : Visited d c n)
    (hmain : ¬ NoMain d n) : Followed d n := by
  have hbelow : ∃ j, j < n ∧ MainSlot d j := by
    by_contra hno
    exact hmain fun j hj hm => hno ⟨j,hj,hm⟩
  rcases hc with hnext | ⟨rfl,hnone⟩
  · refine ⟨Nat.lt_of_le_of_lt hn.1 hnext.lt,?_,hbelow⟩
    rcases hn.2 with hm | rfl
    · exact hm
    · exact hnext.main
  · obtain ⟨j,hj,hm⟩ := hbelow
    exact absurd hm (hnone j (Nat.lt_of_lt_of_le hj hn.1))

theorem RoundSpec.wholeRound (h : RoundSpec d a ρ c log ρ') (hc : StartSlot d c) :
    WholeRound d a ρ log ρ' := by
  have hnonempty : ∀ n, visits n log ≠ [] → Visited d c n := by
    intro n hne
    obtain ⟨p,hp⟩ := List.exists_mem_of_ne_nil _ hne
    have hp' := List.mem_filter.mp hp
    have hslot : p.slot = n := by simpa using hp'.2
    rw [← hslot]
    exact h.slots p hp'.1
  constructor
  · intro n _ hne
    exact ⟨h.first n (hnonempty n hne),h.asked n (hnonempty n hne)⟩
  · intro n hn hm hnil
    have hfirst := h.first n (hc.visited hn hm)
    rw [hnil] at hfirst
    cases hfirst
  · intro n hzero hanswers
    by_cases hn : Visited d c n
    · refine h.cleared n hn ?_
      by_cases hmain : NoMain d n
      · exact .inl hmain
      · rw [hzero]
        exact .inr (hanswers (hc.followed hn hmain))
    · rw [h.other n hn,hzero]
  · intro n hf hno
    obtain ⟨hlt,hm,j,hj,hmj⟩ := hf
    exact h.spent n (hc.visited hlt hm) (fun hnone => hnone j hj hmj) hno
  · intro hle n
    by_cases hn : Visited d c n
    · by_cases hcase : NoMain d n ∨ AnswersFrom a n (ρ n).toNat
      · rw [h.cleared n hn hcase]
        decide
      · rw [h.spent n hn (fun hno => hcase (.inl hno)) fun hyes => hcase (.inr hyes)]
        decide
    · rw [h.other n hn]
      exact hle n

theorem wholeRound_free {p : PassLog} (hslot : p.slot = d.num) (hfree : d.id d.num = 0)
    (hnone : NoMain d d.num) : WholeRound d a ρ [p] ρ := by
  have hnot : ¬ MainSlot d d.num := fun hm => mainSlot_ne_zero hm hfree
  constructor
  · intro n hm hne
    have hn : p.slot ≠ n := by
      rw [hslot]
      rintro rfl
      exact hnot hm
    rw [visits_other hn] at hne
    exact absurd rfl hne
  · intro n hn hm
    exact absurd hm (hnone n hn)
  · intro n hzero _
    exact hzero
  · intro n hf
    exact absurd hf.2.1 (hnone n hf.1)
  · intro hle
    exact hle

theorem patternRound_whole {g : Gateway} (hinv : d.Inv) (h : Counts d ρ g)
    (hsem : g.sync.onceSem = 0) (hpc : g.sync.pc = .take) (hle : ∀ n, (ρ n).toNat ≤ 3)
    (a : Pattern) :
    ∃ ρ', WholeRound d a ρ (patternRound a (4*g.globalDevice.num+4) (syncRequest g)).1 ρ' ∧
      Resting d ρ' (patternRound a (4*g.globalDevice.num+4) (syncRequest g)).2 := by
  rw [h.num]
  rcases syncRequest_addressing h hsem hpc with ⟨c,hnext,hat⟩ | ⟨hnone,hat⟩
  · have hne := mainSlot_ne_zero hnext.main
    have hb := hinv.keyed.bounded c hne
    obtain ⟨ρ',hspec,hrest⟩ := roundMeets hinv a (4*d.num+4) c ρ _ hat hb.1 hb.2 hne hle (by omega)
    exact ⟨ρ',hspec.wholeRound (.inl hnext),hrest⟩
  · by_cases hfree : d.id d.num = 0
    · obtain ⟨hcalls,hrest⟩ := hat.pass_free hfree (a d.num (ρ d.num).toNat)
      rw [hat.patternRound a,hrest.toSyncIdle.patternRound]
      exact ⟨ρ,wholeRound_free rfl hfree hnone,hrest⟩
    · have hb := hinv.keyed.bounded d.num hfree
      obtain ⟨ρ',hspec,hrest⟩ := roundMeets hinv a (4*d.num+4) d.num ρ _ hat hb.1 hb.2 hfree hle
        (by omega)
      exact ⟨ρ',hspec.wholeRound (.inr ⟨rfl,hnone⟩),hrest⟩

end Whole

theorem WholeRound.fullBudget {d : DeviceInfo} {a : Pattern} {log : List PassLog}
    {ρ' : Nat → UInt8} (h : WholeRound d a (fun _ => 0) log ρ') : FullBudget d log := by
  intro n hm hne
  obtain ⟨hfirst,hasked⟩ := h.found n hm hne
  refine ⟨hfirst,?_⟩
  rw [hasked]
  exact attempts_spent (a n)

section Rounds
variable {d : DeviceInfo} (hinv : d.Inv)
include hinv

theorem syncRounds_idle {ρ : Nat → UInt8} {g : Gateway} (h : Counts d ρ g)
    (hsem : g.sync.onceSem = 0) (hpc : g.sync.pc = .take) (hle : ∀ n, (ρ n).toNat ≤ 3)
    (as : List Pattern) : ∀ r ∈ syncRounds as g, SyncIdle r.2 := by
  induction as generalizing ρ g with
  | nil =>
    intro r hr
    cases hr
  | cons a as ih =>
    intro r hr
    obtain ⟨ρ',hround,hrest⟩ := patternRound_whole hinv h hsem hpc hle a
    rcases List.mem_cons.mp hr with rfl | hr
    · exact hrest.toSyncIdle
    · exact ih hrest.toCounts hrest.onceSem hrest.pc (hround.bound hle) r hr

/-- With unused budgets at its start, a run gives every main its full budget in every round
exactly when every main that another one follows answers in every round but the last. -/
theorem syncRounds_fullBudget_iff {g : Gateway} (h : Counts d (fun _ => 0) g)
    (hsem : g.sync.onceSem = 0) (hpc : g.sync.pc = .take) (as : List Pattern) :
    (∀ r ∈ syncRounds as g, FullBudget d r.1) ↔ ∀ a ∈ as.dropLast, FollowedAnswer d a := by
  induction as generalizing g with
  | nil => exact iff_of_true (fun r hr => by cases hr) fun a ha => by cases ha
  | cons a as ih =>
    obtain ⟨ρ',hround,hrest⟩ := patternRound_whole hinv h hsem hpc (fun _ => by decide) a
    rw [syncRounds,List.forall_mem_cons,and_iff_right hround.fullBudget]
    cases as with
    | nil => exact iff_of_true (fun r hr => by cases hr) fun a ha => by cases ha
    | cons b bs =>
      rw [List.dropLast_cons_cons,List.forall_mem_cons]
      by_cases hanswers : FollowedAnswer d a
      · have hzero : ρ' = fun _ => 0 := by
          funext n
          exact hround.cleared n rfl (hanswers n)
        rw [and_iff_right hanswers]
        exact ih (hzero ▸ hrest.toCounts) hrest.onceSem hrest.pc
      · refine iff_of_false (fun hall => ?_) fun hboth => hanswers hboth.1
        obtain ⟨n,hn⟩ := not_forall.mp hanswers
        obtain ⟨hfollowed,hno⟩ := Classical.not_imp.mp hn
        have hthree : ρ' n = 3 := hround.spent n hfollowed hno
        obtain ⟨ρ'',hnext,_⟩ := patternRound_whole hinv hrest.toCounts hrest.onceSem hrest.pc
          (hround.bound fun _ => by decide) b
        have hvisits := hnext.selects n hfollowed.1 hfollowed.2.1
        have hbudget := hall _ List.mem_cons_self n hfollowed.2.1 hvisits
        rw [(hnext.found n hfollowed.2.1 hvisits).1,hthree] at hbudget
        exact absurd hbudget.1 (by decide)

end Rounds

theorem patternRound_queue433 (a : Pattern) (fuel : Nat) {g : Gateway} (hpc : g.sync.pc = .take) :
    (patternRound a fuel g).2.queue433 =
        g.queue433.requestSync ((patternRound a fuel g).1.flatMap PassLog.calls) ∧
      (patternRound a fuel g).2.sync.pc = .take := by
  induction fuel generalizing g with
  | zero => exact ⟨rfl,hpc⟩
  | succ fuel ih =>
    by_cases hsem : g.sync.onceSem = 0
    · simp [patternRound,hsem,hpc]
    · have hpass := syncPass_queue433 hsem hpc
        (a g.sync.counter (g.globalDevice.syncRetry g.sync.counter).toNat)
      have hrest := ih hpass.2
      rw [hpass.1] at hrest
      simp only [patternRound,patternPass,hsem,if_false,List.flatMap_cons,RadioQueue.requestSync_append]
      exact hrest

/-- Each round puts its requests into the radio queue that the one before has left. -/
theorem syncRounds_enqueue (as : List Pattern) (before : List PassLog) {g : Gateway}
    (hpc : g.sync.pc = .take) : ((before,g) :: syncRounds as g).IsChain Enqueues := by
  induction as generalizing before g with
  | nil => exact .singleton _
  | cons a as ih =>
    have hrequest := syncRequest_queue433 g
    have hround := patternRound_queue433 a (4*g.globalDevice.num+4) (hrequest.2.trans hpc)
    refine List.isChain_cons_cons.mpr ⟨?_,ih _ hround.2⟩
    rw [Enqueues,← hrequest.1]
    exact hround.1

/-- In a run of rounds that starts with unused budgets every round ends, and enqueues
the requests it makes and nothing else. Every round selects its mains with their full budgets
exactly when, in every round but the last, every main that another one follows answers one of
its three requests. -/
theorem sync_budget_iff (g : Gateway) (hinv : g.globalDevice.Inv)
    (hretry : ∀ n, g.globalDevice.syncRetry n = 0) (hsem : g.sync.onceSem = 0)
    (hpc : g.sync.pc = .take) (as : List Pattern) :
    (∀ r ∈ syncRounds as g, SyncIdle r.2) ∧
    (([],g) :: syncRounds as g).IsChain Enqueues ∧
    ((∀ r ∈ syncRounds as g, FullBudget g.globalDevice r.1) ↔
      ∀ a ∈ as.dropLast, FollowedAnswer g.globalDevice a) := by
  have hcounts : Counts g.globalDevice (fun _ => 0) g := ⟨rfl,rfl,rfl,funext hretry⟩
  exact ⟨syncRounds_idle hinv hcounts hsem hpc (fun _ => by decide) as,syncRounds_enqueue as [] hpc,
    syncRounds_fullBudget_iff hinv hcounts hsem hpc as⟩

/-- Mains 10000001 to 10000003 in slots 1 to 3: a round asks slot 2 and then slot 1. -/
def threeMains : Gateway := deviceAdd2FlashWifi 10000003 0 twoMains

theorem threeMains_inv : threeMains.globalDevice.Inv :=
  (twoMains_wellKept.edits (.add 10000003 0 _)).inv

theorem threeMains_grows : Grows (powerOn 40000000 []) threeMains :=
  twoMains_grows.trans (deviceAdd2FlashWifi_grows _ _ _)

theorem threeMains_retry (n : Nat) : threeMains.globalDevice.syncRetry n = 0 := by
  rw [threeMains_grows.syncRetry]
  rfl

theorem sync_budget_answered :
    threeMains.globalDevice.Inv ∧
    ∀ r ∈ syncRounds [fun _ _ => .answered false,fun _ _ => .silent] threeMains,
      FullBudget threeMains.globalDevice r.1 := by
  refine ⟨threeMains_inv,(sync_budget_iff threeMains threeMains_inv threeMains_retry
    (by rw [threeMains_grows.sync]; rfl) (by rw [threeMains_grows.sync]; rfl) _).2.2.mpr ?_⟩
  intro a ha n _
  rw [List.mem_singleton.mp ha]
  exact ⟨0,Nat.le_refl 0,by decide,by simp⟩

/-- The main in slot 2 stays silent for a round; the next round asks it nothing. -/
theorem sync_budget_counterexample :
    ¬ ∀ g : Gateway, g.globalDevice.Inv → (∀ n, g.globalDevice.syncRetry n = 0) →
      g.sync.onceSem = 0 → g.sync.pc = .take → ∀ as : List Pattern,
      ∀ r ∈ syncRounds as g, FullBudget g.globalDevice r.1 := by
  intro hall
  have hmain : MainSlot threeMains.globalDevice 2 := by
    unfold MainSlot
    decide
  have hbudget := hall threeMains threeMains_inv threeMains_retry
    (by rw [threeMains_grows.sync]; rfl) (by rw [threeMains_grows.sync]; rfl)
    [fun _ _ => .silent,fun _ _ => .silent] _ (List.mem_cons_of_mem _ List.mem_cons_self) 2
    hmain (by decide +kernel)
  exact absurd hbudget.1 (by decide +kernel)

end GatewayF411
