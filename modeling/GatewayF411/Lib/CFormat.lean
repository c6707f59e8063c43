import GatewayF411.Lib.CText

set_option autoImplicit false

namespace CText

def padDigits (w n : Nat) : Text :=
  List.replicate (w-(Nat.toDigits 10 n).length) '0' ++ Nat.toDigits 10 n

/-- `%0<w>ld`, and `%ld` for a width of zero. The sign counts for the width. -/
def padLong (w : Nat) (x : Int) : Text :=
  if x < 0 then '-' :: padDigits (w-1) x.natAbs else padDigits w x.natAbs

inductive Conv where
  | lit : Char → Conv
  | int : Nat → Conv
  deriving DecidableEq, Repr

def sprintf : List Conv → List Int → Text
  | [], _ => []
  | .lit c :: fs, vs => c :: sprintf fs vs
  | .int _ :: _, [] => []
  | .int w :: fs, v :: vs => padLong w v ++ sprintf fs vs

/-- The directive that reads what the conversion writes. -/
def Conv.directive : Conv → Directive
  | .lit c => .lit c
  | .int _ => .int

def Conv.isInt : Conv → Bool
  | .int _ => true
  | _ => false

/-- Every number stands before a character that no number can contain. -/
def delimited : List Conv → Bool
  | [] => true
  | .lit _ :: fs => delimited fs
  | .int _ :: .lit c :: fs => !c.isDigit && delimited fs
  | .int _ :: _ => false

theorem padDigits_ne_nil (w n : Nat) : padDigits w n ≠ [] := by
  simp [padDigits,Nat.toDigits_ne_nil]

theorem padDigits_all_isDigit (w n : Nat) : ∀ c ∈ padDigits w n, c.isDigit = true := by
  intro c hc
  rcases List.mem_append.mp hc with hc | hc
  · rw [List.eq_of_mem_replicate hc]
    decide
  · exact toDigits_all_isDigit n c hc

theorem ofDigitChars_padDigits (w n : Nat) : Nat.ofDigitChars 10 (padDigits w n) 0 = n := by
  rw [padDigits,Nat.ofDigitChars_append,Nat.ofDigitChars_replicate_zero,Nat.mul_zero,
    Nat.ofDigitChars_ten_toDigits]

theorem scanLong_padLong (w : Nat) {x : Int} (hx : clampLong x = x) (rest : Text)
    (hr : ∀ c ∈ rest.head?, c.isDigit = false) :
    scanLong (padLong w x ++ rest) = some (x,rest) := by
  have hread : ∀ w, scanLong ((if x < 0 then '-' :: padDigits w x.natAbs else padDigits w x.natAbs) ++
      rest) = some (x,rest) := fun w =>
    scanLong_signed (padDigits_ne_nil w _) (padDigits_all_isDigit w _) (ofDigitChars_padDigits w _) hx
      rest hr
  unfold padLong
  by_cases hneg : x < 0
  · have h := hread (w-1)
    rwa [if_pos hneg] at h ⊢
  · have h := hread w
    rwa [if_neg hneg] at h ⊢

theorem length_padDigits {w k n : Nat} (hk : 0 < k) (hn : n < 10^k) (hw : w = k ∨ k = 1) :
    (padDigits w n).length = max w k := by
  have hle := (Nat.length_toDigits_le_iff (b := 10) (by decide) hk).mpr hn
  have hpos : 0 < (Nat.toDigits 10 n).length := Nat.length_toDigits_pos
  simp only [padDigits,List.length_append,List.length_replicate]
  omega

theorem length_padLong {w n : Nat} (hw : 0 < w) (hn : n < 10^w) : (padLong w n).length = w := by
  rw [padLong,if_neg (Int.not_lt.mpr (Int.natCast_nonneg n)),Int.natAbs_natCast,
    length_padDigits hw hn (.inl rfl),Nat.max_self]

theorem length_padLong_digit {n : Nat} (hn : n < 10) : (padLong 0 n).length = 1 := by
  rw [padLong,if_neg (Int.not_lt.mpr (Int.natCast_nonneg n)),Int.natAbs_natCast,
    length_padDigits Nat.one_pos hn (.inr rfl)]
  rfl

theorem delimited_int {w : Nat} {fs : List Conv} (h : delimited (.int w :: fs) = true)
    (vs : List Int) (rest : Text) :
    delimited fs = true ∧ ∀ c ∈ (sprintf fs vs ++ rest).head?, c.isDigit = false := by
  cases fs with
  | nil => exact absurd h (by simp [delimited])
  | cons f fs =>
    cases f with
    | int w => exact absurd h (by simp [delimited])
    | lit c =>
      rw [delimited,Bool.and_eq_true,Bool.not_eq_true'] at h
      refine ⟨h.2,fun d hd => ?_⟩
      simp only [sprintf,List.cons_append,List.head?_cons,Option.mem_some_iff] at hd
      rw [← hd]
      exact h.1

/-- What was written is read back, whatever follows it. -/
theorem sscanf_sprintf {fs : List Conv} {vs : List Int} (hfs : delimited fs = true)
    (hlen : fs.countP Conv.isInt = vs.length) (hvs : ∀ v ∈ vs, clampLong v = v) (rest : Text) :
    sscanf (fs.map Conv.directive) (sprintf fs vs ++ rest) = vs := by
  induction fs generalizing vs with
  | nil =>
    rw [List.length_eq_zero_iff.mp hlen.symm]
    rfl
  | cons f fs ih =>
    cases f with
    | lit c =>
      rw [List.countP_cons_of_neg (by simp [Conv.isInt])] at hlen
      simp only [List.map_cons,Conv.directive,sprintf,List.cons_append,sscanf,if_true]
      exact ih hfs hlen hvs
    | int w =>
      rw [List.countP_cons_of_pos rfl] at hlen
      cases vs with
      | nil => exact absurd hlen (by simp)
      | cons v vs =>
        obtain ⟨hrest,hhead⟩ := delimited_int hfs vs rest
        have hscan := scanLong_padLong w (hvs v (by simp)) _ hhead
        simp only [List.map_cons,Conv.directive,sprintf,List.append_assoc,sscanf,hscan,
          List.cons.injEq,true_and]
        exact ih hrest (Nat.succ.inj hlen) fun u hu => hvs u (List.mem_cons_of_mem v hu)

/-- A character of one byte other than the one that ends a C string. -/
def IsByte (c : Char) : Prop := 0 < c.toNat ∧ c.toNat < 128

instance (c : Char) : Decidable (IsByte c) := inferInstanceAs (Decidable (_ ∧ _))

def byteOf (c : Char) : UInt8 := UInt8.ofNat c.toNat

def Conv.oneByte : Conv → Bool
  | .lit c => decide (IsByte c)
  | .int _ => true

theorem isByte_of_isDigit {c : Char} (h : c.isDigit = true) : IsByte c := by
  have hr := Char.isDigit_iff_toNat.mp h
  change 48 ≤ c.toNat ∧ c.toNat ≤ 57 at hr
  exact ⟨by omega,by omega⟩

theorem padLong_isByte (w : Nat) (x : Int) : ∀ c ∈ padLong w x, IsByte c := by
  have hdigits : ∀ w n, ∀ c ∈ padDigits w n, IsByte c := fun w n c hc =>
    isByte_of_isDigit (padDigits_all_isDigit w n c hc)
  intro c hc
  unfold padLong at hc
  split at hc
  · rcases List.mem_cons.mp hc with rfl | hc
    · decide
    · exact hdigits _ _ c hc
  · exact hdigits _ _ c hc

theorem sprintf_isByte {fs : List Conv} {vs : List Int} (hfs : ∀ f ∈ fs, f.oneByte = true) :
    ∀ c ∈ sprintf fs vs, IsByte c := by
  induction fs generalizing vs with
  | nil => simp [sprintf]
  | cons f fs ih =>
    have hrest : ∀ g ∈ fs, g.oneByte = true := fun g hg => hfs g (List.mem_cons_of_mem f hg)
    intro c hc
    cases f with
    | lit d =>
      rcases List.mem_cons.mp hc with rfl | hc
      · simpa [Conv.oneByte] using hfs _ List.mem_cons_self
      · exact ih hrest c hc
    | int w =>
      cases vs with
      | nil => simp [sprintf] at hc
      | cons v vs =>
        rcases List.mem_append.mp hc with hc | hc
        · exact padLong_isByte w v c hc
        · exact ih hrest c hc

theorem byteOf_toNat {c : Char} (h : IsByte c) : (byteOf c).toNat = c.toNat :=
  UInt8.toNat_ofNat_of_lt' (Nat.lt_trans h.2 (by decide))

/-- The bytes of a text are a C string, up to what follows it. -/
theorem cstring_bytes {t : Text} (ht : ∀ c ∈ t, IsByte c) (rest : List UInt8) :
    ((t.map byteOf ++ rest).takeWhile (fun b => b != 0)).map (fun b => Char.ofNat b.toNat) =
      t ++ (rest.takeWhile (fun b => b != 0)).map (fun b => Char.ofNat b.toNat) := by
  have hne : ∀ b ∈ t.map byteOf, (b != 0) = true := by
    intro b hb
    obtain ⟨c,hc,rfl⟩ := List.mem_map.mp hb
    have hpos := (ht c hc).1
    rw [← byteOf_toNat (ht c hc)] at hpos
    refine bne_iff_ne.mpr fun hz => ?_
    rw [hz] at hpos
    exact absurd hpos (by decide)
  rw [List.takeWhile_append_of_pos hne,List.map_append,List.map_map]
  congr 1
  refine (List.map_congr_left fun c hc => ?_).trans (List.map_id t)
  rw [Function.comp_apply,byteOf_toNat (ht c hc),Char.ofNat_toNat]
  rfl

end CText
