import GatewayF411.Lib.Cells
import GatewayF411.Lib.CFormat
import GatewayF411.MirrorRun

/-!
What `local_subdev_list` makes of a packet that encodes a list of nodes. The cursor over the
packet is an `unsigned char`, so only the nodes that start below 256 are found.
-/

set_option autoImplicit false

namespace GatewayF411
open CText Cells

def RemoteInfo.entries (r : RemoteInfo) : List UInt32 := slice r.id 1 (r.num+1)

structure SubNode where
  text : Text
  ne_nil : text ≠ []
  length_le : text.length ≤ 31
  isDigit : ∀ c ∈ text, c.isDigit = true
  below : Nat.ofDigitChars 10 text 0 < 2^31

namespace SubNode

def id (n : SubNode) : UInt32 := UInt32.ofNat (Nat.ofDigitChars 10 n.text 0)

def encode (n : SubNode) : List UInt8 := UInt8.ofNat n.text.length :: n.text.map byteOf

end SubNode

def nodeBytes (ns : List SubNode) : List UInt8 := (ns.map SubNode.encode).flatten

/-- `head` holds the number of the packet and whether another one follows. -/
def subdevPacket (head : UInt8) (ns : List SubNode) : List UInt8 :=
  head :: UInt8.ofNat ns.length :: nodeBytes ns

/-- Every node of a list with texts of these lengths starts at an offset below 256. -/
def NodesFit : (start : Nat) → List Nat → Prop
  | _, [] => True
  | start, l :: ls => start ≤ 255 ∧ NodesFit (start+l+1) ls

instance : (start : Nat) → (ls : List Nat) → Decidable (NodesFit start ls)
  | _, [] => isTrue trivial
  | start, l :: ls =>
    have := instDecidableNodesFit (start+l+1) ls
    inferInstanceAs (Decidable (start ≤ 255 ∧ NodesFit (start+l+1) ls))

/-- The list decodes to what was sent. -/
def Decodes (head : UInt8) (ns : List SubNode) : Prop :=
  ∀ g : Gateway, g.remoteDevice.num = 0 →
    (localSubdevList true (subdevPacket head ns) g).remoteDevice.entries = ns.map SubNode.id

theorem remoteDeviceAdds_entries {ids : List UInt32} {g : Gateway}
    (hfit : g.remoteDevice.num+ids.length < 256) :
    (ids.foldl (fun g id => remoteDeviceAdd id g) g).remoteDevice.entries =
      g.remoteDevice.entries ++ ids := by
  induction ids generalizing g with
  | nil => simp
  | cons id ids ih =>
    simp only [List.length_cons] at hfit
    have hnum : (g.remoteDevice.num+1) % 256 = g.remoteDevice.num+1 := Nat.mod_eq_of_lt (by omega)
    have hadd : (remoteDeviceAdd id g).remoteDevice.entries = g.remoteDevice.entries ++ [id] := by
      simp only [RemoteInfo.entries,remoteDeviceAdd,hnum]
      rw [slice_snoc (Nat.le_add_left 1 _),slice_update (.inr (Nat.le_refl _)),Function.update_self]
    have hlen : (remoteDeviceAdd id g).remoteDevice.num+ids.length < 256 := by
      simp only [remoteDeviceAdd,hnum]
      omega
    rw [List.foldl_cons,ih hlen,hadd,List.append_assoc]
    rfl

theorem localSubdevList_entries {packet : List UInt8} {g : Gateway} (hg : g.remoteDevice.num = 0) :
    (localSubdevList true packet g).remoteDevice.entries = readIds packet := by
  have hlen := length_readIds packet
  have hlt := (packet.getD 1 0).toNat_lt
  have hempty : g.remoteDevice.entries = [] := by
    rw [RemoteInfo.entries,hg]
    exact slice_empty (Nat.le_refl 1)
  rw [localSubdevList_remote,if_pos rfl,remoteDeviceAdds_entries (by omega),hempty,List.nil_append]

theorem cString_slice {mem : Nat → UInt8} {a m : Nat} {t : Text} (ht : ∀ c ∈ t, IsByte c)
    (hmem : Holds mem a (t.map byteOf)) (hzero : mem (a+t.length) = 0) (hm : t.length < m) :
    cString (slice mem a (a+m)) 0 = t := by
  have hslice := slice_of_holds hmem
  rw [List.length_map] at hslice
  rw [← slice_append (Nat.le_add_right a t.length) (by omega),hslice,slice_cons (by omega),hzero,
    cString,List.drop_zero,cstring_bytes ht]
  simp

section Node
variable {packet : List UInt8} {count i offset : Nat} {nodes : Nat → UInt8}

def copyNode (packet : List UInt8) (i offset : Nat) (nodes : Nat → UInt8) : Nat → UInt8 :=
  fun a => if 33*i ≤ a ∧ a ≤ 33*i+(packet.getD offset 0).toNat then
    packet.getD (offset+(a-33*i)) 0 else nodes a

theorem subdevIds_succ (left : Nat) :
    subdevIds packet count (left+1) offset nodes =
      u32 (atol (nodeText (copyNode packet (count-(left+1)) offset nodes) count (count-(left+1)))) ::
        subdevIds packet count left ((offset+(packet.getD offset 0).toNat+1) % 256)
          (copyNode packet (count-(left+1)) offset nodes) := rfl

theorem nodeText_eq (mem : Nat → UInt8) :
    nodeText mem count i = cString (slice mem (33*i+1) (33*i+1+(33*(count-i)-1))) 0 := by
  rw [nodeText,slice,Nat.add_sub_cancel_left,List.range'_eq_map_range,List.map_map]
  rfl

theorem SubNode.isByte (n : SubNode) : ∀ c ∈ n.text, IsByte c :=
  fun c hc => isByte_of_isDigit (n.isDigit c hc)

theorem SubNode.atol_text (n : SubNode) : u32 (atol n.text) = n.id := by
  have hclamp : clampLong (Nat.ofDigitChars 10 n.text 0 : Nat) =
      (Nat.ofDigitChars 10 n.text 0 : Nat) := by
    have hlt := n.below
    unfold clampLong
    omega
  have hscan := scanLong_signed n.ne_nil n.isDigit (Int.natAbs_natCast _).symm hclamp [] (by simp)
  rw [if_neg (Int.not_lt.mpr (Int.natCast_nonneg _)),List.append_nil] at hscan
  have hmod : (((Nat.ofDigitChars 10 n.text 0 : Nat) : Int) % 2^32).toNat =
      Nat.ofDigitChars 10 n.text 0 := by
    have hlt := n.below
    omega
  rw [atol,hscan]
  unfold u32 UInt32.ofInt
  rw [hmod]
  rfl

theorem SubNode.length_toNat (n : SubNode) : (UInt8.ofNat n.text.length).toNat = n.text.length :=
  UInt8.toNat_ofNat_of_lt' (Nat.lt_of_le_of_lt n.length_le (by decide))

theorem SubNode.encode_length (n : SubNode) : n.encode.length = n.text.length+1 := by
  rw [SubNode.encode,List.length_cons,List.length_map]

theorem nodeText_copyNode {n : SubNode} (hi : i < count)
    (hpacket : Holds (fun a => packet.getD a 0) offset n.encode) (hnodes : ∀ a, 33*i ≤ a → nodes a = 0) :
    nodeText (copyNode packet i offset nodes) count i = n.text := by
  have hle := n.length_le
  have hlen : packet.getD offset 0 = UInt8.ofNat n.text.length := (holds_cons.mp hpacket).1
  have htext := (holds_cons.mp hpacket).2
  have hcopy : ∀ a, copyNode packet i offset nodes a =
      if 33*i ≤ a ∧ a ≤ 33*i+n.text.length then packet.getD (offset+(a-33*i)) 0 else nodes a := by
    intro a
    rw [copyNode,hlen,n.length_toNat]
  rw [nodeText_eq]
  refine cString_slice n.isByte (fun j v hv => ?_) ?_ (by omega)
  · have hj : j < n.text.length := by
      have hlt := (List.getElem?_eq_some_iff.mp hv).1
      rwa [List.length_map] at hlt
    rw [hcopy,if_pos ⟨by omega,by omega⟩,← htext j v hv]
    congr 1
    omega
  · rw [hcopy,if_neg (by omega),hnodes _ (by omega)]

/-- What lies behind a node that the cursor has found stays as it was. -/
theorem copyNode_zero {n : SubNode} (hpacket : Holds (fun a => packet.getD a 0) offset n.encode)
    (hnodes : ∀ a, 33*i ≤ a → nodes a = 0) :
    ∀ a, 33*(i+1) ≤ a → copyNode packet i offset nodes a = 0 := by
  intro a ha
  have hle := n.length_le
  have hlen : packet.getD offset 0 = UInt8.ofNat n.text.length := (holds_cons.mp hpacket).1
  rw [copyNode,hlen,n.length_toNat,if_neg (by omega),hnodes a (by omega)]

theorem nodeText_congr {packet' : List UInt8} {nodes' : Nat → UInt8}
    (hpacket : ∀ a, offset ≤ a → a ≤ offset+255 → packet'.getD a 0 = packet.getD a 0)
    (hnodes : ∀ a, 33*i ≤ a → nodes a = 0) (hnodes' : ∀ a, 33*i ≤ a → nodes' a = 0) :
    nodeText (copyNode packet' i offset nodes') count i =
      nodeText (copyNode packet i offset nodes) count i := by
  have hlen := hpacket offset (Nat.le_refl _) (by omega)
  have hlt := (packet.getD offset 0).toNat_lt
  rw [nodeText_eq,nodeText_eq]
  congr 1
  refine slice_congr fun a ha _ => ?_
  unfold copyNode
  rw [hlen]
  by_cases hin : 33*i ≤ a ∧ a ≤ 33*i+(packet.getD offset 0).toNat
  · rw [if_pos hin,if_pos hin,hpacket _ (by omega) (by omega)]
  · rw [if_neg hin,if_neg hin,hnodes a (by omega),hnodes' a (by omega)]

end Node

theorem nodeBytes_cons (n : SubNode) (ns : List SubNode) :
    nodeBytes (n :: ns) = n.encode ++ nodeBytes ns := rfl

/-- The node loop as long as the nodes start below 256: their ids are read, and the records of
the nodes that are left are still empty. -/
theorem subdevIds_fit {packet : List UInt8} {count left offset : Nat} {nodes : Nat → UInt8}
    {ns : List SubNode} (hcount : ns.length+left ≤ count)
    (hfit : NodesFit offset (ns.map fun n => n.text.length))
    (hpacket : Holds (fun a => packet.getD a 0) offset (nodeBytes ns))
    (hnodes : ∀ a, 33*(count-(ns.length+left)) ≤ a → nodes a = 0) :
    ∃ nodes', (∀ a, 33*(count-left) ≤ a → nodes' a = 0) ∧
      subdevIds packet count (ns.length+left) (offset % 256) nodes = ns.map SubNode.id ++
        subdevIds packet count left ((offset+(nodeBytes ns).length) % 256) nodes' := by
  induction ns generalizing offset nodes with
  | nil =>
    simp only [List.length_nil,Nat.zero_add] at hnodes ⊢
    exact ⟨nodes,hnodes,rfl⟩
  | cons n ns ih =>
    rw [nodeBytes_cons,holds_append,n.encode_length] at hpacket
    simp only [List.length_cons] at hcount hnodes
    have hoffset : offset % 256 = offset := Nat.mod_eq_of_lt (Nat.lt_succ_of_le hfit.1)
    have hlen : packet.getD offset 0 = UInt8.ofNat n.text.length := (holds_cons.mp hpacket.1).1
    have hleft : ns.length+1+left = ns.length+left+1 := by omega
    have hrecord : count-(ns.length+left+1)+1 = count-(ns.length+left) := by omega
    rw [hleft] at hnodes
    obtain ⟨nodes',hzero,hids⟩ := ih (by omega) hfit.2 hpacket.2 fun a ha =>
      copyNode_zero hpacket.1 hnodes a (by omega)
    refine ⟨nodes',hzero,?_⟩
    rw [List.length_cons,hleft,hoffset,subdevIds_succ,
      nodeText_copyNode (by omega) hpacket.1 hnodes,n.atol_text,hlen,n.length_toNat,hids,
      nodeBytes_cons,List.length_append,n.encode_length]
    simp only [List.map_cons,List.cons_append,Nat.add_assoc]

theorem holds_packet (head : UInt8) (ns : List SubNode) :
    Holds (fun a => (subdevPacket head ns).getD a 0) 2 (nodeBytes ns) :=
  (holds_cons.mp (holds_cons.mp (holds_getD (subdevPacket head ns) fun _ => 0)).2).2

theorem packet_count {ns : List SubNode} (hn : ns.length ≤ 49) (head : UInt8) :
    ((subdevPacket head ns).getD 1 0).toNat = ns.length :=
  UInt8.toNat_ofNat_of_lt' (Nat.lt_of_le_of_lt hn (by decide))

theorem readIds_fit {ns : List SubNode} (hn : ns.length ≤ 49)
    (hfit : NodesFit 2 (ns.map fun n => n.text.length)) (head : UInt8) :
    readIds (subdevPacket head ns) = ns.map SubNode.id := by
  have hcount : ns.length+0 ≤ ns.length := Nat.le_refl _
  obtain ⟨nodes,_,hids⟩ := subdevIds_fit hcount hfit (holds_packet head ns) fun a _ => rfl
  rw [readIds,packet_count hn]
  exact hids.trans (List.append_nil _)

/-- The first node that starts behind 255 starts at most 32 bytes behind it. -/
theorem nodesFit_split {start : Nat} {ns : List SubNode} (hstart : start ≤ 287)
    (h : ¬ NodesFit start (ns.map fun n => n.text.length)) :
    ∃ before n after, ns = before ++ n :: after ∧
      NodesFit start (before.map fun n => n.text.length) ∧
      255 < start+(nodeBytes before).length ∧ start+(nodeBytes before).length ≤ 287 := by
  induction ns generalizing start with
  | nil => exact absurd trivial h
  | cons n ns ih =>
    by_cases hfit : start ≤ 255
    · have hle := n.length_le
      have hrest : ¬ NodesFit (start+n.text.length+1) (ns.map fun n => n.text.length) :=
        fun hrest => h ⟨hfit,hrest⟩
      obtain ⟨before,m,after,rfl,hbefore,hlow,hhigh⟩ := ih (by omega) hrest
      have hlen : start+(nodeBytes (n :: before)).length =
          start+n.text.length+1+(nodeBytes before).length := by
        rw [nodeBytes_cons,List.length_append,n.encode_length]
        omega
      exact ⟨n :: before,m,after,rfl,⟨hfit,hbefore⟩,by omega,by omega⟩
    · exact ⟨[],n,ns,rfl,trivial,by simpa [nodeBytes] using Nat.lt_of_not_le hfit,
        by simpa [nodeBytes] using hstart⟩

def paddedNode (l v : Nat) (hv : v < 10) : SubNode where
  text := padDigits (min l 31) v
  ne_nil := padDigits_ne_nil _ _
  length_le := by
    rw [length_padDigits Nat.one_pos hv (.inr rfl)]
    omega
  isDigit := padDigits_all_isDigit _ _
  below := by
    rw [ofDigitChars_padDigits]
    exact Nat.lt_trans hv (by decide)

theorem paddedNode_id (l v : Nat) (hv : v < 10) : (paddedNode l v hv).id = UInt32.ofNat v :=
  congrArg UInt32.ofNat (ofDigitChars_padDigits _ _)

theorem paddedNode_length {l v : Nat} (hv : v < 10) (hl : 1 ≤ l ∧ l ≤ 31) :
    (paddedNode l v hv).text.length = l := by
  have hlen : (paddedNode l v hv).text.length = max (min l 31) 1 :=
    length_padDigits Nat.one_pos hv (.inr rfl)
  omega

/-- Behind the nodes that fit the packet is read from its beginning again. -/
theorem readIds_past {before : List SubNode} {n : SubNode} {after : List SubNode}
    (hn : (before ++ n :: after).length ≤ 49)
    (hfit : NodesFit 2 (before.map fun n => n.text.length))
    (hlow : 255 < 2+(nodeBytes before).length) (hhigh : 2+(nodeBytes before).length ≤ 287)
    (head : UInt8) :
    ∃ nodes, (∀ a, 33*before.length ≤ a → nodes a = 0) ∧
      (readIds (subdevPacket head (before ++ n :: after)))[before.length]? =
        some (u32 (atol (nodeText (copyNode (subdevPacket head (before ++ n :: after)) before.length
          (2+(nodeBytes before).length-256) nodes) (before ++ n :: after).length before.length))) := by
  have hcount : before.length+(after.length+1) = (before ++ n :: after).length := by simp
  have hpacket := holds_packet head (before ++ n :: after)
  have hbytes : nodeBytes (before ++ n :: after) = nodeBytes before ++ nodeBytes (n :: after) := by
    simp [nodeBytes]
  rw [hbytes,holds_append] at hpacket
  obtain ⟨nodes,hzero,hids⟩ := subdevIds_fit (Nat.le_of_eq hcount) hfit hpacket.1 fun a _ => rfl
  have hrecord : (before ++ n :: after).length-(after.length+1) = before.length := by omega
  have hwrap : (2+(nodeBytes before).length) % 256 = 2+(nodeBytes before).length-256 := by omega
  rw [hrecord] at hzero
  refine ⟨nodes,hzero,?_⟩
  rw [readIds,packet_count hn]
  rw [hcount,hwrap,subdevIds_succ,hrecord] at hids
  rw [show (2 : Nat) = 2 % 256 from rfl,hids,List.getElem?_append_right (by simp)]
  simp

theorem packet_agree (head : UInt8) (before : List SubNode) {x y : List SubNode}
    (hlen : x.length = y.length) {a : Nat} (ha : a < 2+(nodeBytes before).length) :
    (subdevPacket head (before ++ x)).getD a 0 = (subdevPacket head (before ++ y)).getD a 0 := by
  have hsplit : ∀ z : List SubNode, subdevPacket head (before ++ z) =
      (head :: UInt8.ofNat (before.length+z.length) :: nodeBytes before) ++ nodeBytes z := by
    intro z
    simp [subdevPacket,nodeBytes]
  have hin : a < (head :: UInt8.ofNat (before.length+y.length) :: nodeBytes before).length := by
    simp only [List.length_cons]
    omega
  rw [hsplit,hsplit,hlen,List.getD_eq_getElem?_getD,List.getD_eq_getElem?_getD,
    List.getElem?_append_left hin,List.getElem?_append_left hin]

/-- Two lists that differ in one node behind the nodes that fit cannot both be read. -/
theorem not_both_decode {before after : List SubNode} {n m : SubNode}
    (hn : (before ++ n :: after).length ≤ 49)
    (hfit : NodesFit 2 (before.map fun n => n.text.length))
    (hlow : 255 < 2+(nodeBytes before).length) (hhigh : 2+(nodeBytes before).length ≤ 287)
    {head : UInt8} (hdec : Decodes head (before ++ n :: after))
    (hdec' : Decodes head (before ++ m :: after)) : n.id = m.id := by
  have hlen : (before ++ m :: after).length = (before ++ n :: after).length := by simp
  obtain ⟨nodes,hzero,hread⟩ := readIds_past hn hfit hlow hhigh head
  obtain ⟨nodes',hzero',hread'⟩ := readIds_past (hlen.trans_le hn) hfit hlow hhigh head
  have hagree : ∀ a, 2+(nodeBytes before).length-256 ≤ a →
      a ≤ 2+(nodeBytes before).length-256+255 →
      (subdevPacket head (before ++ m :: after)).getD a 0 =
        (subdevPacket head (before ++ n :: after)).getD a 0 := by
    intro a _ ha
    exact packet_agree head before (List.length_cons.trans List.length_cons.symm) (by omega)
  rw [← localSubdevList_entries (g := powerOn 0 []) rfl,hdec _ rfl] at hread
  rw [← localSubdevList_entries (g := powerOn 0 []) rfl,hdec' _ rfl,hlen,
    nodeText_congr hagree hzero hzero',← hread] at hread'
  simpa using hread'.symm

/-- Whatever the ids are, lists with texts of these lengths decode to what was sent, exactly
when every node starts at an offset that the cursor can hold. -/
theorem subdev_list_iff (ls : List Nat) (hn : ls.length ≤ 49) (hls : ∀ l ∈ ls, 1 ≤ l ∧ l ≤ 31) :
    (∀ head ns, ns.map (fun n => n.text.length) = ls → Decodes head ns) ↔ NodesFit 2 ls := by
  constructor
  · intro hall
    by_contra hfit
    have hlengths : (ls.map fun l => paddedNode l 0 (by decide)).map (fun n => n.text.length) = ls := by
      rw [List.map_map]
      refine (List.map_congr_left fun l hl => ?_).trans (List.map_id ls)
      exact paddedNode_length _ (hls l hl)
    rw [← hlengths] at hfit
    obtain ⟨before,n,after,hsplit,hbefore,hlow,hhigh⟩ := nodesFit_split (by decide) hfit
    have hzero : n.id = 0 := by
      have hmem : n ∈ ls.map fun l => paddedNode l 0 (by decide) := by rw [hsplit]; simp
      obtain ⟨l,_,rfl⟩ := List.mem_map.mp hmem
      exact paddedNode_id l 0 _
    have hnum := congrArg List.length hsplit
    rw [List.length_map] at hnum
    rw [hsplit] at hlengths
    have hpos : 1 ≤ n.text.length := List.length_pos_of_ne_nil n.ne_nil
    have hother : (before ++ paddedNode n.text.length 1 (by decide) :: after).map
        (fun n => n.text.length) = ls := by
      rw [← hlengths]
      simp only [List.map_append,List.map_cons,paddedNode_length _ ⟨hpos,n.length_le⟩]
    have hid := not_both_decode (hnum ▸ hn) hbefore hlow hhigh (hall 0 _ hlengths) (hall 0 _ hother)
    rw [hzero,paddedNode_id] at hid
    exact absurd hid (by decide)
  · intro hfit head ns hlengths g hg
    have hnum := congrArg List.length hlengths
    rw [List.length_map] at hnum
    rw [localSubdevList_entries hg,readIds_fit (hnum.trans_le hn) (hlengths ▸ hfit)]

/-- 29 nodes with ids of eight digits are as many as fit. -/
theorem subdev_list_eight_digits :
    NodesFit 2 (List.replicate 29 8) ∧ ∀ head ns,
      ns.map (fun n => n.text.length) = List.replicate 29 8 → Decodes head ns := by
  have hfit : NodesFit 2 (List.replicate 29 8) := by decide
  refine ⟨hfit,(subdev_list_iff (List.replicate 29 8) (by decide) ?_).mpr hfit⟩
  intro l hl
  rw [List.eq_of_mem_replicate hl]
  decide

def stationNode : SubNode where
  text := ['1','0','0','0','0','0','0','0']
  ne_nil := by decide
  length_le := by decide
  isDigit := List.all_eq_true.mp (by decide)
  below := by decide

/-- The thirtieth node starts at 263, and is read from 7. -/
theorem subdev_list_counterexample :
    ¬ ∀ (head : UInt8) (ns : List SubNode), ns.length ≤ 49 → Decodes head ns := by
  intro hall
  have hn : (List.replicate 29 stationNode ++ [stationNode]).length ≤ 49 := by decide +kernel
  have hfit : NodesFit 2 ((List.replicate 29 stationNode).map fun n => n.text.length) := by
    decide +kernel
  have hstart : (nodeBytes (List.replicate 29 stationNode)).length = 261 := by decide +kernel
  have hempty : ∀ a, 33*(List.replicate 29 stationNode).length ≤ a → (0 : UInt8) = 0 := fun _ _ => rfl
  obtain ⟨nodes,hzero,hread⟩ := readIds_past hn hfit (by omega) (by omega) 0
  rw [← localSubdevList_entries (g := powerOn 0 []) rfl,hall 0 _ hn _ rfl,hstart,
    ← nodeText_congr (fun _ _ _ => rfl) hzero hempty] at hread
  exact absurd hread (by decide +kernel)

end GatewayF411
