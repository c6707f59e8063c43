import Mathlib.Data.List.Basic
import GatewayF411.CJson

set_option autoImplicit false

namespace GatewayF411
open CText

mutual

/-- The strings of an item and the names in it, in the order of the text. -/
def CJson.strings : CJson → List Text
  | .string s => [s]
  | .array xs => itemStrings xs
  | .object ms => memberStrings ms
  | _ => []

def itemStrings : List CJson → List Text
  | [] => []
  | x :: xs => x.strings ++ itemStrings xs

def memberStrings : List (Text × CJson) → List Text
  | [] => []
  | (k,x) :: ms => k :: x.strings ++ memberStrings ms

end

mutual

def CJson.numbers : CJson → List CNumber
  | .number n => [n]
  | .array xs => itemNumbers xs
  | .object ms => memberNumbers ms
  | _ => []

def itemNumbers : List CJson → List CNumber
  | [] => []
  | x :: xs => x.numbers ++ itemNumbers xs

def memberNumbers : List (Text × CJson) → List CNumber
  | [] => []
  | (_,x) :: ms => x.numbers ++ memberNumbers ms

end

def IsCString (s : Text) : Prop := '\x00' ∉ s

def IsInt (n : CNumber) : Prop := ∃ v : Int, -2^31 ≤ v ∧ v ≤ 2^31-1 ∧ n = .ofInt v

def Balanced (s : Text) : Prop := s.count '{' = s.count '}'

def nestSum : Text → Int
  | [] => 0
  | c :: s => nestOf c+nestSum s

theorem nestSum_eq (s : Text) : nestSum s = s.count '{' - s.count '}' := by
  induction s with
  | nil => rfl
  | cons c s ih =>
    rw [nestSum,ih,List.count_cons,List.count_cons,nestOf]
    by_cases ho : c = '{'
    · subst ho
      simp
      omega
    · by_cases hc : c = '}'
      · subst hc
        simp
        omega
      · simp [ho,hc]

theorem balanced_iff (s : Text) : Balanced s ↔ nestSum s = 0 := by
  rw [nestSum_eq,Balanced]
  omega

theorem prepend_append (s u : Text) (r : Except ParseError (Text × Text)) :
    prepend s (prepend u r) = prepend (s ++ u) r := by
  cases r with
  | ok r => simp [prepend]
  | error e => rfl

theorem unescape_plain {c : Char} (h : c ≠ '\\') (nest : Int) (t : Text) :
    unescape nest (c :: t) =
      if c = '"' ∧ nest = 0 then .ok ([],t) else prepend [c] (unescape (nest+nestOf c) t) := by
  rw [unescape.eq_def]
  split <;> simp_all

theorem unescape_simple {e : Char} (h : e ≠ 'u') (nest : Int) (t : Text) :
    unescape nest ('\\' :: e :: t) = prepend [unescapeChar e] (unescape nest t) := by
  rw [unescape.eq_def]
  split
  · simp_all
  · simp_all
  · simp_all
  · simp_all
  · simp_all
  · rename_i hother _ heq
    obtain ⟨rfl,rfl⟩ := List.cons.inj heq
    exact absurd rfl (hother e t rfl)

theorem hexValue_hexDigitLower : ∀ n < 16, hexValue (hexDigitLower n) = some n := by decide

theorem parseHex4_hex4 {n : Nat} (h : n < 32) (nest : Int) (t : Text) (hpos : 0 < n) :
    unescape nest ('\\' :: 'u' :: hex4 n ++ t) = prepend [Char.ofNat n] (unescape nest t) := by
  have hvalue : parseHex4 (hexDigitLower (n/4096%16)) (hexDigitLower (n/256%16))
      (hexDigitLower (n/16%16)) (hexDigitLower (n%16)) = n := by
    unfold parseHex4
    simp only [hexValue_hexDigitLower _ (Nat.mod_lt _ (by decide : 0 < 16))]
    omega
  have hlow : ¬ ((0xDC00 ≤ n ∧ n ≤ 0xDFFF) ∨ n = 0) := by omega
  have hhigh : ¬ (0xD800 ≤ n ∧ n ≤ 0xDBFF) := by omega
  have hutf : utf8 n = [Char.ofNat n] := by
    unfold utf8
    exact if_pos (by omega)
  simp only [hex4,List.cons_append,List.nil_append]
  rw [unescape.eq_def]
  simp only [hvalue,if_neg hlow,if_neg hhigh,hutf]

/-- What the printer writes for a character is read back as that character. -/
theorem unescape_escapeChar {c : Char} (h : c ≠ '\x00') (nest : Int) (t : Text) :
    unescape nest (escapeChar c ++ t) = prepend [c] (unescape (nest+nestOf c) t) := by
  unfold escapeChar
  split
  · rename_i hplain
    rw [List.singleton_append,unescape_plain hplain.2.2,if_neg fun hq => hplain.2.1 hq.1]
  · rename_i hspecial
    have hnest : nestOf c = 0 := by
      unfold nestOf
      have ho : c ≠ '{' := by
        rintro rfl
        exact hspecial (by decide)
      have hc : c ≠ '}' := by
        rintro rfl
        exact hspecial (by decide)
      rw [if_neg ho,if_neg hc]
    rw [hnest,Int.add_zero]
    iterate 7
      split
      · rename_i hc
        subst hc
        exact unescape_simple (by decide) nest t
    rename_i hbs hquote _ _ _ _ _
    have hsmall : c.toNat < 32 := by
      refine Nat.lt_of_not_le fun hge => hspecial ⟨hge,hquote,hbs⟩
    have hpos : 0 < c.toNat := by
      refine Nat.pos_of_ne_zero fun hz => h ?_
      rw [← Char.ofNat_toNat c,hz]
    rw [parseHex4_hex4 hsmall nest t hpos,Char.ofNat_toNat]

theorem unescape_flatMap {s : Text} (h : IsCString s) (nest : Int) (t : Text) :
    unescape nest (s.flatMap escapeChar ++ t) = prepend s (unescape (nest+nestSum s) t) := by
  induction s generalizing nest with
  | nil =>
    rw [List.flatMap_nil,List.nil_append,nestSum,Int.add_zero]
    cases unescape nest t <;> rfl
  | cons c s ih =>
    have hc : c ≠ '\x00' := fun heq => h (heq ▸ List.mem_cons_self)
    have hs : IsCString s := fun hmem => h (List.mem_cons_of_mem c hmem)
    rw [List.flatMap_cons,List.append_assoc,unescape_escapeChar hc,ih hs,prepend_append]
    rw [List.singleton_append,nestSum,Int.add_assoc]

theorem scanLen_plain {c : Char} (hq : c ≠ '"') (hb : c ≠ '\\') (t : Text) :
    scanLen (c :: t) = (scanLen t).map (·+1) := by
  rw [scanLen.eq_def]
  split <;> simp_all

theorem scanLen_escaped (e : Char) (t : Text) : scanLen ('\\' :: e :: t) = (scanLen t).map (·+1) := by
  rw [scanLen.eq_def]
  rfl

theorem hexDigitLower_plain : ∀ n < 16, hexDigitLower n ≠ '"' ∧ hexDigitLower n ≠ '\\' := by decide

theorem scanLen_hex4 (n : Nat) (t : Text) :
    scanLen ('\\' :: 'u' :: hex4 n ++ t) = (scanLen t).map (·+5) := by
  have hplain : ∀ m, hexDigitLower (m%16) ≠ '"' ∧ hexDigitLower (m%16) ≠ '\\' := fun m =>
    hexDigitLower_plain _ (Nat.mod_lt m (by decide))
  simp only [hex4,List.cons_append,List.nil_append]
  rw [scanLen_escaped,scanLen_plain (hplain _).1 (hplain _).2,scanLen_plain (hplain _).1 (hplain _).2,
    scanLen_plain (hplain _).1 (hplain _).2,scanLen_plain (hplain _).1 (hplain _).2]
  cases scanLen t <;> rfl

theorem scanLen_escapeChar (c : Char) {t : Text} {n : Nat} (h : scanLen t = .ok n) :
    ∃ k, n+1 ≤ k ∧ scanLen (escapeChar c ++ t) = .ok k := by
  unfold escapeChar
  split
  · rename_i hplain
    rw [List.singleton_append,scanLen_plain hplain.2.1 hplain.2.2,h]
    exact ⟨n+1,Nat.le_refl _,rfl⟩
  · iterate 7
      split
      · exact ⟨n+1,Nat.le_refl _,(scanLen_escaped _ t).trans (by rw [h]; rfl)⟩
    rw [scanLen_hex4,h]
    exact ⟨n+5,by omega,rfl⟩

theorem scanLen_flatMap (s : Text) (t : Text) :
    ∃ k, s.length ≤ k ∧ scanLen (s.flatMap escapeChar ++ '"' :: t) = .ok k := by
  induction s with
  | nil => exact ⟨0,Nat.le_refl _,rfl⟩
  | cons c s ih =>
    obtain ⟨n,hle,hscan⟩ := ih
    obtain ⟨k,hk,hcons⟩ := scanLen_escapeChar c hscan
    rw [List.flatMap_cons,List.append_assoc]
    exact ⟨k,by rw [List.length_cons]; omega,hcons⟩

theorem printStringPtr_eq (s : Text) : printStringPtr s = '"' :: s.flatMap escapeChar ++ ['"'] := by
  unfold printStringPtr
  split
  · rfl
  · rename_i hnone
    have hcopy : ∀ c ∈ s, escapeChar c = [c] := by
      intro c hc
      have hplain := List.any_eq_false.mp (Bool.eq_false_iff.mpr hnone) c hc
      simp at hplain
      exact if_pos ⟨by omega,hplain.1.2,hplain.2⟩
    rw [List.flatMap_congr hcopy,List.flatMap_singleton']

theorem parseString_print {s : Text} (hs : IsCString s) (h : Balanced s) (t : Text) :
    parseString (printStringPtr s ++ t) = .ok (s,t) := by
  obtain ⟨k,hk,hscan⟩ := scanLen_flatMap s t
  have hend : unescape 0 ('"' :: t) = .ok ([],t) := by
    rw [unescape_plain (by decide),if_pos ⟨rfl,rfl⟩]
  have hstored : unescape 0 (s.flatMap escapeChar ++ '"' :: t) = .ok (s,t) := by
    rw [unescape_flatMap hs,(balanced_iff s).mp h,Int.add_zero,hend]
    simp [prepend]
  rw [printStringPtr_eq,List.append_assoc,List.singleton_append,List.cons_append]
  simp only [parseString,hscan,hstored]
  rw [if_neg (Nat.not_lt.mpr hk)]

/-- A string with other braces is never read back. -/
theorem parseString_unbalanced {s u t t' : Text} (hs : IsCString s) (h : ¬ Balanced s)
    (hparse : parseString (printStringPtr s ++ t) = .ok (u,t')) : u ≠ s := by
  have hopen : 0+nestSum s ≠ 0 := by
    rw [Int.zero_add]
    exact fun hz => h ((balanced_iff s).mpr hz)
  have hstored : unescape 0 (s.flatMap escapeChar ++ '"' :: t) =
      prepend (s ++ ['"']) (unescape (0+nestSum s+nestOf '"') t) := by
    rw [unescape_flatMap hs,unescape_plain (by decide),if_neg fun hq => hopen hq.2,prepend_append]
  obtain ⟨k,hk,hscan⟩ := scanLen_flatMap s t
  rw [printStringPtr_eq,List.append_assoc,List.singleton_append,List.cons_append] at hparse
  simp only [parseString,hscan,hstored] at hparse
  cases hrest : unescape (0+nestSum s+nestOf '"') t with
  | error e =>
    rw [hrest] at hparse
    cases hparse
  | ok r =>
    rw [hrest,prepend] at hparse
    simp only at hparse
    split at hparse
    · cases hparse
    · have hlen : u.length = (s ++ ['"'] ++ r.1).length := by
        cases hparse
        rfl
      rintro rfl
      simp at hlen

def Follow (t : Text) : Prop := ∀ c ∈ t.head?, c = ',' ∨ c = ']' ∨ c = '}'

theorem Follow.noDigit {t : Text} (h : Follow t) : ∀ c ∈ t.head?, c.isDigit = false := by
  intro c hc
  rcases h c hc with rfl | rfl | rfl <;> decide

theorem Follow.run_nil {t : Text} (h : Follow t) : digitRun t = [] := by
  cases t with
  | nil => rfl
  | cons c t =>
    have hc := h.noDigit c rfl
    simp [digitRun,hc]

theorem Follow.fraction {t : Text} (h : Follow t) : parseFraction t = ([],t) := by
  unfold parseFraction
  split
  · rcases h '.' rfl with hc | hc | hc <;> cases hc
  · rfl

theorem Follow.exponent {t : Text} (h : Follow t) : parseExponent t = (0,t) := by
  cases t with
  | nil => rfl
  | cons c t =>
    have hc : ¬ (c = 'e' ∨ c = 'E') := by
      rcases h c rfl with rfl | rfl | rfl <;> decide
    rw [parseExponent,if_neg hc]

theorem Follow.digits {ds t : Text} (h : Follow t) (hd : ∀ c ∈ ds, c.isDigit = true) :
    digitRun (ds ++ t) = ds := by
  have hrun := h.run_nil
  unfold digitRun at *
  rw [List.takeWhile_append_of_pos hd,hrun,List.append_nil]

def parseMagnitude (neg : Bool) (num : Text) : CNumber × Text :=
  let num := if num.head? = some '0' then num.tail else num
  let digits := if num.head? = some '0' then [] else digitRun num
  let frac := parseFraction (num.drop digits.length)
  let exp := parseExponent frac.2
  (⟨neg,Nat.ofDigitChars 10 (digits ++ frac.1) 0,exp.1-(frac.1.length : Int)⟩,exp.2)

theorem parseNumber_neg (t : Text) : parseNumber ('-' :: t) = parseMagnitude true t := rfl

theorem parseNumber_pos {t : Text} (h : t.head? ≠ some '-') : parseNumber t = parseMagnitude false t := by
  unfold parseNumber parseMagnitude
  simp only [h,decide_false,if_false]

theorem toDigits_head {n : Nat} (hn : 0 < n) : (Nat.toDigits 10 n).head? ≠ some '0' := by
  induction n using Nat.strongRecOn with
  | ind n ih =>
    by_cases hlt : n < 10
    · have hdigit : ∀ m < 10, 0 < m → m.digitChar ≠ '0' := by decide
      rw [Nat.toDigits_of_lt_base hlt]
      intro hc
      exact hdigit n hlt hn (Option.some.inj hc)
    · rw [Nat.toDigits_of_base_le (by decide) (Nat.le_of_not_lt hlt),
        List.head?_append_of_ne_nil _ Nat.toDigits_ne_nil]
      exact ih (n/10) (by omega) (by omega)

theorem toDigits_append_head (n : Nat) (t : Text) :
    (Nat.toDigits 10 n ++ t).head? = (Nat.toDigits 10 n).head? :=
  List.head?_append_of_ne_nil _ Nat.toDigits_ne_nil

theorem parseMagnitude_digits {n : Nat} (hn : 0 < n) (neg : Bool) {t : Text} (h : Follow t) :
    parseMagnitude neg (Nat.toDigits 10 n ++ t) = (⟨neg,n,0⟩,t) := by
  have hdigits := toDigits_all_isDigit n
  have hhead : (Nat.toDigits 10 n ++ t).head? ≠ some '0' := by
    rw [toDigits_append_head]
    exact toDigits_head hn
  unfold parseMagnitude
  simp only [if_neg hhead,h.digits hdigits,List.drop_left,h.fraction,h.exponent,
    List.append_nil,Nat.ofDigitChars_ten_toDigits]
  rfl

theorem parseMagnitude_zero {t : Text} (h : Follow t) :
    parseMagnitude false ('0' :: t) = (⟨false,0,0⟩,t) := by
  have hhead : t.head? ≠ some '0' := by
    intro hc
    exact absurd (h.noDigit '0' hc) (by decide)
  unfold parseMagnitude
  simp only [List.head?_cons,if_true,List.tail_cons,if_neg hhead,h.run_nil,List.length_nil,
    List.drop_zero,h.fraction,h.exponent]
  rfl

theorem intValue_ofInt {v : Int} (hlow : -2^31 ≤ v) (hhigh : v ≤ 2^31-1) :
    (CNumber.ofInt v).intValue = some v := by
  unfold CNumber.ofInt CNumber.intValue
  by_cases hzero : v = 0
  · subst hzero
    rfl
  · have habs : v.natAbs ≠ 0 := by omega
    have hvalue : (if decide (v < 0) = true then -((v.natAbs*10^(0 : Int).toNat : Nat) : Int)
        else ((v.natAbs*10^(0 : Int).toNat : Nat) : Int)) = v := by
      rw [Int.toNat_zero,Nat.pow_zero,Nat.mul_one]
      by_cases hneg : v < 0
      · rw [decide_eq_true hneg,if_pos rfl]
        omega
      · rw [decide_eq_false hneg,if_neg Bool.false_ne_true]
        omega
    simp only [if_neg habs,if_neg (Int.lt_irrefl 0),hvalue]
    exact if_pos ⟨hlow,hhigh⟩

theorem parseNumber_print (fmtDouble : CNumber → Text) {n : CNumber} (hn : IsInt n) {t : Text}
    (h : Follow t) : parseNumber (printNumber fmtDouble n ++ t) = (n,t) := by
  obtain ⟨v,hlow,hhigh,rfl⟩ := hn
  unfold printNumber
  rw [intValue_ofInt hlow hhigh]
  simp only
  by_cases hzero : v = 0
  · subst hzero
    rw [if_pos rfl]
    exact (parseNumber_pos (by simp)).trans (parseMagnitude_zero h)
  · have hpos : 0 < v.natAbs := by omega
    rw [if_neg hzero,printLong]
    by_cases hneg : v < 0
    · rw [if_pos hneg,List.cons_append,parseNumber_neg,parseMagnitude_digits hpos true h,CNumber.ofInt,
        decide_eq_true hneg]
    · have hhead : (Nat.toDigits 10 v.natAbs ++ t).head? ≠ some '-' := by
        rw [toDigits_append_head]
        intro hc
        exact absurd (toDigits_all_isDigit _ '-' (List.mem_of_mem_head? hc)) (by decide)
      rw [if_neg hneg,parseNumber_pos hhead,parseMagnitude_digits hpos false h,CNumber.ofInt,
        decide_eq_false hneg]

theorem skip_cons {c : Char} (h : 32 < c.toNat) (t : Text) : skip (c :: t) = c :: t := by
  have hc : ¬ c.toNat ≤ 32 := Nat.not_le.mpr h
  simp [skip,hc]

def ValueHead (c : Char) : Prop := c ∈ ['n','f','t','"','[','{','-'] ∨ c.isDigit = true

theorem ValueHead.code {c : Char} (h : ValueHead c) : 32 < c.toNat ∧ c ≠ ']' ∧ c ≠ '}' := by
  rcases h with h | h
  · simp only [List.mem_cons,List.not_mem_nil,or_false] at h
    rcases h with rfl | rfl | rfl | rfl | rfl | rfl | rfl <;> decide
  · have hrange := Char.isDigit_iff_toNat.mp h
    change 48 ≤ c.toNat ∧ c.toNat ≤ 57 at hrange
    refine ⟨by omega,?_,?_⟩
    · rintro rfl
      exact absurd h (by decide)
    · rintro rfl
      exact absurd h (by decide)

theorem printStringPtr_head (s : Text) : ∃ t, printStringPtr s = '"' :: t :=
  ⟨_,printStringPtr_eq s⟩

theorem printNumber_head (fmtDouble : CNumber → Text) {n : CNumber} (hn : IsInt n) :
    ∃ c t, printNumber fmtDouble n = c :: t ∧ (c = '-' ∨ c.isDigit = true) := by
  obtain ⟨v,hlow,hhigh,rfl⟩ := hn
  unfold printNumber
  rw [intValue_ofInt hlow hhigh]
  simp only
  by_cases hzero : v = 0
  · rw [if_pos hzero]
    exact ⟨'0',[],rfl,.inr rfl⟩
  · rw [if_neg hzero,printLong]
    by_cases hneg : v < 0
    · rw [if_pos hneg]
      exact ⟨'-',_,rfl,.inl rfl⟩
    · rw [if_neg hneg]
      cases hdigits : Nat.toDigits 10 v.natAbs with
      | nil => exact absurd hdigits Nat.toDigits_ne_nil
      | cons c t =>
        refine ⟨c,t,rfl,.inr (toDigits_all_isDigit v.natAbs c ?_)⟩
        rw [hdigits]
        exact List.mem_cons_self

theorem printValue_head (fmtDouble : CNumber → Text) {j : CJson} (hn : ∀ n ∈ j.numbers, IsInt n) :
    ∃ c t, printValue fmtDouble j = c :: t ∧ ValueHead c := by
  cases j with
  | null => exact ⟨'n',_,by rw [printValue],.inl (by decide)⟩
  | false => exact ⟨'f',_,by rw [printValue],.inl (by decide)⟩
  | true => exact ⟨'t',_,by rw [printValue],.inl (by decide)⟩
  | number n =>
    obtain ⟨c,t,heq,hc⟩ := printNumber_head fmtDouble (hn n (by simp [CJson.numbers]))
    refine ⟨c,t,by rw [printValue,heq],?_⟩
    rcases hc with rfl | hc
    · exact .inl (by decide)
    · exact .inr hc
  | string s =>
    obtain ⟨t,heq⟩ := printStringPtr_head s
    exact ⟨'"',t,by rw [printValue,heq],.inl (by decide)⟩
  | array xs =>
    cases xs with
    | nil => exact ⟨'[',_,by rw [printValue],.inl (by decide)⟩
    | cons x xs => exact ⟨'[',_,by rw [printValue]; rfl,.inl (by decide)⟩
  | object ms =>
    cases ms with
    | nil => exact ⟨'{',_,by rw [printValue],.inl (by decide)⟩
    | cons m ms => exact ⟨'{',_,by rw [printValue]; rfl,.inl (by decide)⟩

theorem parseValue_number {c : Char} (h : c = '-' ∨ c.isDigit = true) (fuel : Nat) (t : Text) :
    parseValue (fuel+1) (c :: t) = .ok (.number (parseNumber (c :: t)).1,(parseNumber (c :: t)).2) := by
  rw [parseValue]
  · exact if_pos h
  all_goals
    intros
    subst_vars
    exact absurd h (by decide)

theorem parseValue_string (fuel : Nat) (s t : Text) :
    parseValue (fuel+1) (printStringPtr s ++ t) =
      (parseString (printStringPtr s ++ t)).map fun r => (.string r.1,r.2) := by
  obtain ⟨u,heq⟩ := printStringPtr_head s
  rw [heq,List.cons_append,parseValue]

/-- The item of every number is an `int` and its strings end at their NUL. -/
def Printable (strings : List Text) (numbers : List CNumber) : Prop :=
  (∀ s ∈ strings, IsCString s) ∧ ∀ n ∈ numbers, IsInt n

theorem Printable.append {ss ss' : List Text} {ns ns' : List CNumber}
    (h : Printable (ss ++ ss') (ns ++ ns')) : Printable ss ns ∧ Printable ss' ns' :=
  ⟨⟨fun s hs => h.1 s (List.mem_append_left _ hs),fun n hn => h.2 n (List.mem_append_left _ hn)⟩,
    ⟨fun s hs => h.1 s (List.mem_append_right _ hs),fun n hn => h.2 n (List.mem_append_right _ hn)⟩⟩

theorem printItems_follow (fmtDouble : CNumber → Text) (xs : List CJson) (t : Text) :
    Follow (printItems fmtDouble xs ++ ']' :: t) := by
  intro c hc
  cases xs with
  | nil =>
    rw [printItems] at hc
    exact .inr (.inl (Option.some.inj hc).symm)
  | cons x xs =>
    rw [printItems] at hc
    exact .inl (Option.some.inj hc).symm

theorem printMembers_follow (fmtDouble : CNumber → Text) (ms : List (Text × CJson)) (t : Text) :
    Follow (printMembers fmtDouble ms ++ '}' :: t) := by
  intro c hc
  cases ms with
  | nil =>
    rw [printMembers] at hc
    exact .inr (.inr (Option.some.inj hc).symm)
  | cons m ms =>
    rw [printMembers] at hc
    exact .inl (Option.some.inj hc).symm

theorem skip_printValue (fmtDouble : CNumber → Text) {j : CJson} (hn : ∀ n ∈ j.numbers, IsInt n)
    (t : Text) : skip (printValue fmtDouble j ++ t) = printValue fmtDouble j ++ t := by
  obtain ⟨c,u,heq,hc⟩ := printValue_head fmtDouble hn
  rw [heq,List.cons_append,skip_cons hc.code.1]

theorem skip_printString (k t : Text) : skip (printStringPtr k ++ t) = printStringPtr k ++ t := by
  obtain ⟨u,heq⟩ := printStringPtr_head k
  rw [heq,List.cons_append,skip_cons (by decide)]

theorem skip_follow {t : Text} (h : Follow t) : skip t = t := by
  cases t with
  | nil => rfl
  | cons c t =>
    refine skip_cons ?_ t
    rcases h c rfl with rfl | rfl | rfl <;> decide

theorem parseArray_printValue (fmtDouble : CNumber → Text) {j : CJson}
    (hn : ∀ n ∈ j.numbers, IsInt n) (fuel : Nat) (t : Text) :
    parseArray (fuel+1) (printValue fmtDouble j ++ t) = parseItems fuel (printValue fmtDouble j ++ t) := by
  rw [parseArray,skip_printValue fmtDouble hn]
  obtain ⟨c,u,heq,hc⟩ := printValue_head fmtDouble hn
  rw [heq]
  split
  · rename_i hbracket
    exact absurd (List.cons.inj hbracket).1 hc.code.2.1
  · rfl

theorem parseObject_printString (fuel : Nat) (k t : Text) :
    parseObject (fuel+1) (printStringPtr k ++ t) = parseMembers fuel (printStringPtr k ++ t) := by
  obtain ⟨u,heq⟩ := printStringPtr_head k
  rw [parseObject,heq,List.cons_append,skip_cons (by decide)]
  rfl

theorem printItems_cons (fmtDouble : CNumber → Text) (x : CJson) (xs : List CJson) (t : Text) :
    printItems fmtDouble (x :: xs) ++ t =
      ',' :: (printValue fmtDouble x ++ (printItems fmtDouble xs ++ t)) := by
  rw [printItems]
  simp

theorem printMembers_cons (fmtDouble : CNumber → Text) (k : Text) (x : CJson)
    (ms : List (Text × CJson)) (t : Text) :
    printMembers fmtDouble ((k,x) :: ms) ++ t =
      ',' :: (printStringPtr k ++ ':' :: (printValue fmtDouble x ++ (printMembers fmtDouble ms ++ t))) := by
  rw [printMembers]
  simp

theorem printArray_cons (fmtDouble : CNumber → Text) (x : CJson) (xs : List CJson) (t : Text) :
    printValue fmtDouble (.array (x :: xs)) ++ t =
      '[' :: (printValue fmtDouble x ++ (printItems fmtDouble xs ++ ']' :: t)) := by
  rw [printValue]
  simp

theorem printObject_cons (fmtDouble : CNumber → Text) (k : Text) (x : CJson)
    (ms : List (Text × CJson)) (t : Text) :
    printValue fmtDouble (.object ((k,x) :: ms)) ++ t =
      '{' :: (printStringPtr k ++ ':' ::
        (printValue fmtDouble x ++ (printMembers fmtDouble ms ++ '}' :: t))) := by
  rw [printValue]
  simp

mutual

theorem parseValue_print (fmtDouble : CNumber → Text) : ∀ (j : CJson) (fuel : Nat) (t : Text),
    Printable j.strings j.numbers → (∀ s ∈ j.strings, Balanced s) →
    2*(printValue fmtDouble j).length ≤ fuel → Follow t →
    parseValue fuel (printValue fmtDouble j ++ t) = .ok (j,t)
  | j, 0, t, hp, _, hf, _ => by
    obtain ⟨c,u,heq,_⟩ := printValue_head fmtDouble hp.2
    simp [heq] at hf
  | .null, fuel+1, t, _, _, _, _ => by
    rw [printValue]
    rfl
  | .false, fuel+1, t, _, _, _, _ => by
    rw [printValue]
    rfl
  | .true, fuel+1, t, _, _, _, _ => by
    rw [printValue]
    rfl
  | .number n, fuel+1, t, hp, _, _, ht => by
    have hn : IsInt n := hp.2 n (by simp [CJson.numbers])
    obtain ⟨c,u,heq,hc⟩ := printNumber_head fmtDouble hn
    have hparse := parseNumber_print fmtDouble hn ht
    rw [printValue]
    rw [heq,List.cons_append] at hparse ⊢
    rw [parseValue_number hc,hparse]
  | .string s, fuel+1, t, hp, hb, _, _ => by
    have hs : s ∈ (CJson.string s).strings := by simp [CJson.strings]
    rw [printValue,parseValue_string,parseString_print (hp.1 s hs) (hb s hs)]
    rfl
  | .array [], fuel+1, t, _, _, hf, _ => by
    rw [printValue] at hf ⊢
    obtain ⟨fuel,rfl⟩ : ∃ f, fuel = f+1 := ⟨fuel-1,by simp at hf; omega⟩
    rfl
  | .array (x :: xs), fuel+1, t, hp, hb, hf, _ => by
    rw [CJson.strings,CJson.numbers,itemStrings,itemNumbers] at hp
    rw [CJson.strings,itemStrings] at hb
    have hlen : (printValue fmtDouble (.array (x :: xs))).length =
        (printValue fmtDouble x ++ printItems fmtDouble xs).length+2 := by
      rw [printValue]
      simp
      omega
    obtain ⟨fuel,rfl⟩ : ∃ f, fuel = f+1 := ⟨fuel-1,by omega⟩
    have hitems := parseItems_print fmtDouble x xs fuel t hp hb (by omega)
    rw [printArray_cons,parseValue,parseArray_printValue fmtDouble hp.append.1.2,hitems]
    rfl
  | .object [], fuel+1, t, _, _, hf, _ => by
    rw [printValue] at hf ⊢
    obtain ⟨fuel,rfl⟩ : ∃ f, fuel = f+1 := ⟨fuel-1,by simp at hf; omega⟩
    rfl
  | .object ((k,x) :: ms), fuel+1, t, hp, hb, hf, _ => by
    rw [CJson.strings,CJson.numbers] at hp
    rw [CJson.strings] at hb
    have hlen : (printValue fmtDouble (.object ((k,x) :: ms))).length =
        (printStringPtr k ++ ':' :: (printValue fmtDouble x ++ printMembers fmtDouble ms)).length+2 := by
      rw [printValue]
      simp
      omega
    obtain ⟨fuel,rfl⟩ : ∃ f, fuel = f+1 := ⟨fuel-1,by omega⟩
    have hmembers := parseMembers_print fmtDouble k x ms fuel t hp hb (by omega)
    rw [printObject_cons,parseValue,parseObject_printString,hmembers]
    rfl
termination_by _ fuel => fuel

theorem parseItems_print (fmtDouble : CNumber → Text) : ∀ (x : CJson) (xs : List CJson) (fuel : Nat)
    (t : Text), Printable (x.strings ++ itemStrings xs) (x.numbers ++ itemNumbers xs) →
    (∀ s ∈ x.strings ++ itemStrings xs, Balanced s) →
    2*(printValue fmtDouble x ++ printItems fmtDouble xs).length+1 ≤ fuel →
    parseItems fuel (printValue fmtDouble x ++ (printItems fmtDouble xs ++ ']' :: t)) = .ok (x :: xs,t)
  | _, _, 0, _, _, _, hf => absurd hf (Nat.not_succ_le_zero _)
  | x, xs, fuel+1, t, hp, hb, hf => by
    obtain ⟨hpx,hpxs⟩ := hp.append
    have hfollow := printItems_follow fmtDouble xs t
    rw [List.length_append] at hf
    have hfirst := parseValue_print fmtDouble x fuel _ hpx
      (fun s hs => hb s (List.mem_append_left _ hs)) (by omega) hfollow
    rw [parseItems,skip_printValue fmtDouble hpx.2,hfirst]
    simp only [skip_follow hfollow]
    cases xs with
    | nil => rw [printItems]; rfl
    | cons y ys =>
      rw [printItems] at hf
      simp only [List.length_append,List.length_cons] at hf
      have hrest := parseItems_print fmtDouble y ys fuel t hpxs
        (fun s hs => hb s (List.mem_append_right _ hs)) (by rw [List.length_append]; omega)
      rw [printItems_cons]
      simp only [hrest]
      rfl
termination_by _ _ fuel => fuel

theorem parseMembers_print (fmtDouble : CNumber → Text) : ∀ (k : Text) (x : CJson)
    (ms : List (Text × CJson)) (fuel : Nat) (t : Text),
    Printable (memberStrings ((k,x) :: ms)) (memberNumbers ((k,x) :: ms)) →
    (∀ s ∈ memberStrings ((k,x) :: ms), Balanced s) →
    2*(printStringPtr k ++ ':' :: (printValue fmtDouble x ++ printMembers fmtDouble ms)).length+1 ≤ fuel →
    parseMembers fuel (printStringPtr k ++ ':' ::
      (printValue fmtDouble x ++ (printMembers fmtDouble ms ++ '}' :: t))) = .ok ((k,x) :: ms,t)
  | _, _, _, 0, _, _, _, hf => absurd hf (Nat.not_succ_le_zero _)
  | k, x, ms, fuel+1, t, hp, hb, hf => by
    rw [memberStrings,List.cons_append] at hb
    rw [memberStrings,memberNumbers,List.cons_append] at hp
    have hkey := parseString_print (hp.1 k List.mem_cons_self) (hb k List.mem_cons_self)
    have hp' : Printable (x.strings ++ memberStrings ms) (x.numbers ++ memberNumbers ms) :=
      ⟨fun s hs => hp.1 s (List.mem_cons_of_mem k hs),hp.2⟩
    obtain ⟨hpx,hpms⟩ := hp'.append
    have hfollow := printMembers_follow fmtDouble ms t
    simp only [List.length_append,List.length_cons] at hf
    have hfirst := parseValue_print fmtDouble x fuel _ hpx
      (fun s hs => hb s (List.mem_cons_of_mem k (List.mem_append_left _ hs))) (by omega) hfollow
    rw [parseMembers,skip_printString,hkey]
    simp only [skip_cons (show 32 < (':').toNat by decide),skip_printValue fmtDouble hpx.2,hfirst,
      skip_follow hfollow]
    cases ms with
    | nil => rw [printMembers]; rfl
    | cons m ms =>
      obtain ⟨k',y⟩ := m
      rw [printMembers] at hf
      simp only [List.length_append,List.length_cons] at hf
      have hrest := parseMembers_print fmtDouble k' y ms fuel t hpms
        (fun s hs => hb s (List.mem_cons_of_mem k (List.mem_append_right _ hs)))
        (by simp only [List.length_append,List.length_cons]; omega)
      rw [printMembers_cons]
      simp only [hrest]
      rfl
termination_by _ _ _ fuel => fuel

end

theorem map_eq_ok {α β : Type} {f : α → β} {r : Except ParseError α} {b : β} (h : r.map f = .ok b) :
    ∃ a, r = .ok a ∧ f a = b := by
  cases r with
  | error e => cases h
  | ok a => exact ⟨a,rfl,Except.ok.inj h⟩

theorem parseItems_head {fuel : Nat} {t t' : Text} {us : List CJson}
    (h : parseItems (fuel+1) t = .ok (us,t')) :
    ∃ r vs, parseValue fuel (skip t) = .ok r ∧ us = r.1 :: vs := by
  rw [parseItems] at h
  split at h
  · cases h
  · rename_i r hr
    split at h
    · obtain ⟨rest,_,heq⟩ := map_eq_ok h
      exact ⟨r,rest.1,hr,(congrArg Prod.fst heq).symm⟩
    · exact ⟨r,[],hr,(congrArg Prod.fst (Except.ok.inj h)).symm⟩
    · cases h

theorem parseMembers_head {fuel : Nat} {t t' : Text} {us : List (Text × CJson)}
    (h : parseMembers (fuel+1) t = .ok (us,t')) :
    ∃ key u r vs, parseString (skip t) = .ok key ∧ skip key.2 = ':' :: u ∧
      parseValue fuel (skip u) = .ok r ∧ us = (key.1,r.1) :: vs := by
  rw [parseMembers] at h
  split at h
  · cases h
  · rename_i key hkey
    split at h
    · rename_i u hcolon
      split at h
      · cases h
      · rename_i r hr
        split at h
        · obtain ⟨rest,_,heq⟩ := map_eq_ok h
          exact ⟨key,u,r,rest.1,hkey,hcolon,hr,(congrArg Prod.fst heq).symm⟩
        · exact ⟨key,u,r,[],hkey,hcolon,hr,(congrArg Prod.fst (Except.ok.inj h)).symm⟩
        · cases h
    · cases h

mutual

theorem parseValue_unbalanced (fmtDouble : CNumber → Text) : ∀ (j : CJson) (fuel : Nat) (t u : Text)
    (v : CJson), Printable j.strings j.numbers → ¬ (∀ s ∈ j.strings, Balanced s) →
    2*(printValue fmtDouble j).length ≤ fuel → Follow t →
    parseValue fuel (printValue fmtDouble j ++ t) = .ok (v,u) → v ≠ j
  | _, 0, _, _, _, _, _, _, _, h => by
    rw [parseValue] at h
    cases h
  | .null, _+1, _, _, _, _, hb, _, _, _ => absurd (by simp [CJson.strings]) hb
  | .false, _+1, _, _, _, _, hb, _, _, _ => absurd (by simp [CJson.strings]) hb
  | .true, _+1, _, _, _, _, hb, _, _, _ => absurd (by simp [CJson.strings]) hb
  | .number _, _+1, _, _, _, _, hb, _, _, _ => absurd (by simp [CJson.strings]) hb
  | .string s, fuel+1, t, u, v, hp, hb, _, _, h => by
    have hs : ¬ Balanced s := fun hbal => hb (by simpa [CJson.strings] using hbal)
    rw [printValue,parseValue_string] at h
    obtain ⟨r,hr,heq⟩ := map_eq_ok h
    have hne := parseString_unbalanced (hp.1 s (by simp [CJson.strings])) hs hr
    rw [← (Prod.mk.inj heq).1]
    exact fun hstring => hne (CJson.string.inj hstring)
  | .array [], _+1, _, _, _, _, hb, _, _, _ => absurd (by simp [CJson.strings,itemStrings]) hb
  | .array (x :: xs), fuel+1, t, u, v, hp, hb, hf, _, h => by
    rw [CJson.strings,CJson.numbers,itemStrings,itemNumbers] at hp
    rw [CJson.strings,itemStrings] at hb
    have hlen : (printValue fmtDouble (.array (x :: xs))).length =
        (printValue fmtDouble x ++ printItems fmtDouble xs).length+2 := by
      rw [printValue]
      simp
      omega
    obtain ⟨fuel,rfl⟩ : ∃ f, fuel = f+1 := ⟨fuel-1,by omega⟩
    rw [printArray_cons,parseValue,parseArray_printValue fmtDouble hp.append.1.2] at h
    obtain ⟨r,hr,heq⟩ := map_eq_ok h
    have hne := parseItems_unbalanced fmtDouble x xs fuel t r.2 r.1 hp hb (by omega) hr
    rw [← (Prod.mk.inj heq).1]
    exact fun harray => hne (CJson.array.inj harray)
  | .object [], _+1, _, _, _, _, hb, _, _, _ => absurd (by simp [CJson.strings,memberStrings]) hb
  | .object ((k,x) :: ms), fuel+1, t, u, v, hp, hb, hf, _, h => by
    rw [CJson.strings,CJson.numbers] at hp
    rw [CJson.strings] at hb
    have hlen : (printValue fmtDouble (.object ((k,x) :: ms))).length =
        (printStringPtr k ++ ':' :: (printValue fmtDouble x ++ printMembers fmtDouble ms)).length+2 := by
      rw [printValue]
      simp
      omega
    obtain ⟨fuel,rfl⟩ : ∃ f, fuel = f+1 := ⟨fuel-1,by omega⟩
    rw [printObject_cons,parseValue,parseObject_printString] at h
    obtain ⟨r,hr,heq⟩ := map_eq_ok h
    have hne := parseMembers_unbalanced fmtDouble k x ms fuel t r.2 r.1 hp hb (by omega) hr
    rw [← (Prod.mk.inj heq).1]
    exact fun hobject => hne (CJson.object.inj hobject)
termination_by _ fuel => fuel

theorem parseItems_unbalanced (fmtDouble : CNumber → Text) : ∀ (x : CJson) (xs : List CJson)
    (fuel : Nat) (t u : Text) (vs : List CJson),
    Printable (x.strings ++ itemStrings xs) (x.numbers ++ itemNumbers xs) →
    ¬ (∀ s ∈ x.strings ++ itemStrings xs, Balanced s) →
    2*(printValue fmtDouble x ++ printItems fmtDouble xs).length+1 ≤ fuel →
    parseItems fuel (printValue fmtDouble x ++ (printItems fmtDouble xs ++ ']' :: t)) = .ok (vs,u) →
    vs ≠ x :: xs
  | _, _, 0, _, _, _, _, _, hf, _ => absurd hf (Nat.not_succ_le_zero _)
  | x, xs, fuel+1, t, u, vs, hp, hb, hf, h => by
    obtain ⟨hpx,hpxs⟩ := hp.append
    have hfollow := printItems_follow fmtDouble xs t
    rw [List.length_append] at hf
    by_cases hbx : ∀ s ∈ x.strings, Balanced s
    · have hfirst := parseValue_print fmtDouble x fuel _ hpx hbx (by omega) hfollow
      have hbxs : ¬ ∀ s ∈ itemStrings xs, Balanced s := fun hall =>
        hb fun s hs => (List.mem_append.mp hs).elim (hbx s) (hall s)
      rw [parseItems,skip_printValue fmtDouble hpx.2,hfirst] at h
      simp only [skip_follow hfollow] at h
      cases xs with
      | nil => exact absurd (by simp [itemStrings]) hbxs
      | cons y ys =>
        rw [printItems] at hf
        simp only [List.length_append,List.length_cons] at hf
        rw [printItems_cons] at h
        obtain ⟨r,hr,heq⟩ := map_eq_ok h
        have hne := parseItems_unbalanced fmtDouble y ys fuel t r.2 r.1 hpxs hbxs
          (by rw [List.length_append]; omega) hr
        rw [← (Prod.mk.inj heq).1]
        exact fun hcons => hne (List.cons.inj hcons).2
    · obtain ⟨r,ws,hr,rfl⟩ := parseItems_head h
      rw [skip_printValue fmtDouble hpx.2] at hr
      have hne := parseValue_unbalanced fmtDouble x fuel _ r.2 r.1 hpx hbx (by omega) hfollow hr
      exact fun hcons => hne (List.cons.inj hcons).1
termination_by _ _ fuel => fuel

theorem parseMembers_unbalanced (fmtDouble : CNumber → Text) : ∀ (k : Text) (x : CJson)
    (ms : List (Text × CJson)) (fuel : Nat) (t u : Text) (vs : List (Text × CJson)),
    Printable (memberStrings ((k,x) :: ms)) (memberNumbers ((k,x) :: ms)) →
    ¬ (∀ s ∈ memberStrings ((k,x) :: ms), Balanced s) →
    2*(printStringPtr k ++ ':' :: (printValue fmtDouble x ++ printMembers fmtDouble ms)).length+1 ≤ fuel →
    parseMembers fuel (printStringPtr k ++ ':' ::
      (printValue fmtDouble x ++ (printMembers fmtDouble ms ++ '}' :: t))) = .ok (vs,u) →
    vs ≠ (k,x) :: ms
  | _, _, _, 0, _, _, _, _, _, hf, _ => absurd hf (Nat.not_succ_le_zero _)
  | k, x, ms, fuel+1, t, u, vs, hp, hb, hf, h => by
    rw [memberStrings,List.cons_append] at hb
    rw [memberStrings,memberNumbers,List.cons_append] at hp
    have hp' : Printable (x.strings ++ memberStrings ms) (x.numbers ++ memberNumbers ms) :=
      ⟨fun s hs => hp.1 s (List.mem_cons_of_mem k hs),hp.2⟩
    obtain ⟨hpx,hpms⟩ := hp'.append
    have hfollow := printMembers_follow fmtDouble ms t
    simp only [List.length_append,List.length_cons] at hf
    by_cases hbk : Balanced k
    · have hkey := parseString_print (hp.1 k List.mem_cons_self) hbk
      by_cases hbx : ∀ s ∈ x.strings, Balanced s
      · have hfirst := parseValue_print fmtDouble x fuel _ hpx hbx (by omega) hfollow
        have hbms : ¬ ∀ s ∈ memberStrings ms, Balanced s := by
          intro hall
          refine hb fun s hs => ?_
          rcases List.mem_cons.mp hs with rfl | hs
          · exact hbk
          · exact (List.mem_append.mp hs).elim (hbx s) (hall s)
        rw [parseMembers,skip_printString,hkey] at h
        simp only [skip_cons (show 32 < (':').toNat by decide),skip_printValue fmtDouble hpx.2,hfirst,
          skip_follow hfollow] at h
        cases ms with
        | nil => exact absurd (by simp [memberStrings]) hbms
        | cons m ms =>
          obtain ⟨k',y⟩ := m
          rw [printMembers] at hf
          simp only [List.length_append,List.length_cons] at hf
          rw [printMembers_cons] at h
          obtain ⟨r,hr,heq⟩ := map_eq_ok h
          have hne := parseMembers_unbalanced fmtDouble k' y ms fuel t r.2 r.1 hpms hbms
            (by simp only [List.length_append,List.length_cons]; omega) hr
          rw [← (Prod.mk.inj heq).1]
          exact fun hcons => hne (List.cons.inj hcons).2
      · obtain ⟨key,w,r,ws,hkey',hcolon,hr,rfl⟩ := parseMembers_head h
        rw [skip_printString,hkey] at hkey'
        cases hkey'
        rw [skip_cons (by decide)] at hcolon
        cases hcolon
        rw [skip_printValue fmtDouble hpx.2] at hr
        have hne := parseValue_unbalanced fmtDouble x fuel _ r.2 r.1 hpx hbx (by omega) hfollow hr
        exact fun hcons => hne (Prod.mk.inj (List.cons.inj hcons).1).2
    · obtain ⟨key,w,r,ws,hkey,_,_,rfl⟩ := parseMembers_head h
      rw [skip_printString] at hkey
      have hne := parseString_unbalanced (hp.1 k List.mem_cons_self) hbk hkey
      exact fun hcons => hne (Prod.mk.inj (List.cons.inj hcons).1).1
termination_by _ _ _ fuel => fuel

end

theorem cJSONParse_print (fmtDouble : CNumber → Text) {item : CJson}
    (hp : Printable item.strings item.numbers) (hb : ∀ s ∈ item.strings, Balanced s) :
    cJSONParse (cJSONPrintUnformatted fmtDouble item) = .ok item := by
  have hskip := skip_printValue fmtDouble hp.2 []
  have hparse := parseValue_print fmtDouble item (3*(printValue fmtDouble item).length+3) [] hp hb
    (by omega) (by simp [Follow])
  rw [List.append_nil] at hskip hparse
  unfold cJSONParse cJSONPrintUnformatted
  rw [hskip,hparse]
  rfl

/-- An item made of `int` numbers and C strings is read back from its text exactly when the braces
in each of its strings and names are balanced. -/
theorem cJSON_round_trip_iff (fmtDouble : CNumber → Text) (item : CJson)
    (hs : ∀ s ∈ item.strings, IsCString s) (hn : ∀ n ∈ item.numbers, IsInt n) :
    cJSONParse (cJSONPrintUnformatted fmtDouble item) = .ok item ↔ ∀ s ∈ item.strings, Balanced s := by
  refine ⟨fun h => ?_,cJSONParse_print fmtDouble ⟨hs,hn⟩⟩
  have hskip := skip_printValue fmtDouble hn []
  rw [List.append_nil] at hskip
  unfold cJSONParse cJSONPrintUnformatted at h
  rw [hskip] at h
  by_contra hb
  obtain ⟨r,hr,heq⟩ := map_eq_ok h
  have hne := parseValue_unbalanced fmtDouble item (3*(printValue fmtDouble item).length+3) [] r.2 r.1
    ⟨hs,hn⟩ hb (by omega) (by simp [Follow]) (by rw [List.append_nil]; exact hr)
  exact hne heq

theorem cJSON_round_trip_subdevice :
    cJSONParse (cJSONPrintUnformatted (fun _ => ['0'])
      (.object [("sub_id".toList,.string "22000001".toList),("tp".toList,.number (.ofInt 0))])) =
      .ok (.object [("sub_id".toList,.string "22000001".toList),("tp".toList,.number (.ofInt 0))]) := by
  refine (cJSON_round_trip_iff _ _ ?_ ?_).mpr ?_
  · simp only [CJson.strings,memberStrings,IsCString]
    decide
  · simp only [CJson.numbers,memberNumbers,List.nil_append,List.append_nil,List.mem_singleton]
    rintro n rfl
    exact ⟨0,by decide,by decide,rfl⟩
  · simp only [CJson.strings,memberStrings,Balanced]
    decide

end GatewayF411
