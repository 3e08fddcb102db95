import LuaScope.Proofs.DecodeFaults
import LuaScope.Proofs.Spot
import LuaScope.Proofs.Utf8

/-!
This module contains the proofs of what is left of a string that is cut. A text keeps its whole
characters in front of the cut, and one replacement stands for a character that is cut itself. The
flag that says whether a string was cut is right unless the string is read in parts to its end.
-/

namespace LuaScope

namespace Utf8

theorem foldl_next_two_take (t : String) {n k : Nat} (h1 : 0x7F < n) (h2 : n ≤ 0x7FF)
    (hpos : 0 < k) (hk : k < 2) :
    ∃ p, ([UInt8.ofNat (n / 64 % 32 + 192), UInt8.ofNat (n % 64 + 128)].take k).foldl State.next
      ⟨t, none⟩ = ⟨t, some p⟩ := by
  have hlead := Lead.ofByte_begins (n / 64 % 32 + 192) 1 0xC0 (by omega)
  have hone : k = 1 := by omega
  simp only [hone, List.take_succ_cons, List.take_zero, List.foldl, State.next_none, State.lead,
    hlead]
  exact ⟨_, rfl⟩

theorem foldl_next_three_take (t : String) {n k : Nat} (h1 : 0x7FF < n) (h2 : n ≤ 0xFFFF)
    (h3 : n < 0xD800 ∨ 0xDFFF < n) (hpos : 0 < k) (hk : k < 3) :
    ∃ p, ([UInt8.ofNat (n / 4096 % 16 + 224), UInt8.ofNat (n / 64 % 64 + 128),
      UInt8.ofNat (n % 64 + 128)].take k).foldl State.next ⟨t, none⟩ = ⟨t, some p⟩ := by
  have hlead := Lead.ofByte_begins (n / 4096 % 16 + 224) 2 0xE0 (by omega)
  have hsecond := second_of_three h1 h2 h3
  rcases (by omega : k = 1 ∨ k = 2) with rfl | rfl
  all_goals
    simp only [List.take_succ_cons, List.take_zero, List.foldl, State.next_none, State.lead, hlead]
  . exact ⟨_, rfl⟩
  . rw [State.next_more]
    . exact ⟨_, rfl⟩
    all_goals grind

theorem foldl_next_four_take (t : String) {n k : Nat} (h1 : 0xFFFF < n) (h2 : n < 0x110000)
    (hpos : 0 < k) (hk : k < 4) :
    ∃ p, ([UInt8.ofNat (n / 262144 % 8 + 240), UInt8.ofNat (n / 4096 % 64 + 128),
      UInt8.ofNat (n / 64 % 64 + 128), UInt8.ofNat (n % 64 + 128)].take k).foldl State.next
        ⟨t, none⟩ = ⟨t, some p⟩ := by
  have hlead := Lead.ofByte_begins (n / 262144 % 8 + 240) 3 0xF0 (by omega)
  have hsecond := second_of_four h1 h2
  rcases (by omega : k = 1 ∨ k = 2 ∨ k = 3) with rfl | rfl | rfl
  all_goals
    simp only [List.take_succ_cons, List.take_zero, List.foldl, State.next_none, State.lead, hlead]
  . exact ⟨_, rfl⟩
  . rw [State.next_more]
    . exact ⟨_, rfl⟩
    all_goals grind
  . rw [State.next_more, State.next_more]
    . exact ⟨_, rfl⟩
    all_goals grind

theorem foldl_next_encodeChar_take (t : String) (c : Char) {k : Nat} (hpos : 0 < k)
    (hk : k < c.utf8Size) :
    ∃ p, ((String.utf8EncodeChar c).take k).foldl State.next ⟨t, none⟩ = ⟨t, some p⟩ := by
  have hvalid : c.val.toNat < 0xD800 ∨ (0xDFFF < c.val.toNat ∧ c.val.toNat < 0x110000) := c.valid
  rw [← String.length_utf8EncodeChar] at hk
  unfold String.utf8EncodeChar at hk ⊢
  generalize c.val.toNat = n at *
  dsimp only at hk ⊢
  split at hk
  . have : k < 1 := hk
    omega
  . rw [if_neg (by assumption)]
    split at hk
    . rw [if_pos (by assumption)]
      apply foldl_next_two_take t (by omega) (by omega) hpos hk
    . rw [if_neg (by assumption)]
      split at hk
      . rw [if_pos (by assumption)]
        apply foldl_next_three_take t (by omega) (by omega) (by omega) hpos hk
      . rw [if_neg (by assumption)]
        apply foldl_next_four_take t (by omega) (by omega) hpos hk

/--
The longest run of whole characters at the start of a text that fits into as many bytes.
-/
structure Fills (s : String) (k : Nat) (whole : String) : Prop where
  isPrefix : whole.toList <+: s.toList
  le : whole.utf8ByteSize ≤ k
  longest : ∀ run : String, run.toList <+: s.toList → run.utf8ByteSize ≤ k →
    run.length ≤ whole.length

/--
The whole characters among so many bytes, and a replacement for one that is cut by their end.
-/
def cutText (k : Nat) (whole : String) : String :=
  if whole.utf8ByteSize < k then whole.push replacement else whole

def fitting (k : Nat) : List Char → List Char
  | [] => []
  | c :: cs => if c.utf8Size ≤ k then c :: fitting (k - c.utf8Size) cs else []

theorem utf8ByteSize_ofList_cons (c : Char) (cs : List Char) :
    (String.ofList (c :: cs)).utf8ByteSize = c.utf8Size + (String.ofList cs).utf8ByteSize := by
  rw [String.ofList_cons, String.utf8ByteSize_append, String.utf8ByteSize_singleton]

theorem length_le_utf8ByteSize (cs : List Char) : cs.length ≤ (String.ofList cs).utf8ByteSize := by
  induction cs with
  | nil => simp
  | cons c cs ih =>
    have := c.utf8Size_pos
    rw [utf8ByteSize_ofList_cons, List.length_cons]
    omega

theorem fitting_isPrefix (k : Nat) (cs : List Char) : fitting k cs <+: cs := by
  induction cs generalizing k with
  | nil => apply List.prefix_rfl
  | cons c cs ih =>
    unfold fitting
    split
    . rw [List.cons_prefix_cons]
      exact ⟨rfl, ih _⟩
    . apply List.nil_prefix

theorem utf8ByteSize_fitting_le (k : Nat) (cs : List Char) :
    (String.ofList (fitting k cs)).utf8ByteSize ≤ k := by
  induction cs generalizing k with
  | nil => simp [fitting]
  | cons c cs ih =>
    unfold fitting
    split
    . have := ih (k - c.utf8Size)
      rw [utf8ByteSize_ofList_cons]
      omega
    . simp

theorem length_le_length_fitting {k : Nat} {run cs : List Char} (h : run <+: cs)
    (hk : (String.ofList run).utf8ByteSize ≤ k) : run.length ≤ (fitting k cs).length := by
  induction cs generalizing k run with
  | nil => simp [List.prefix_nil.mp h]
  | cons c cs ih =>
    cases run with
    | nil => simp
    | cons d run =>
      rw [List.cons_prefix_cons] at h
      rw [utf8ByteSize_ofList_cons, h.1] at hk
      unfold fitting
      rw [if_pos (by omega)]
      have := ih h.2 (k := k - c.utf8Size) (by omega)
      simp only [List.length_cons]
      omega

theorem fills_fitting (s : String) (k : Nat) : Fills s k (String.ofList (fitting k s.toList)) := by
  constructor
  . rw [String.toList_ofList]
    apply fitting_isPrefix
  . apply utf8ByteSize_fitting_le
  . intro run hrun hk
    rw [← String.ofList_toList (s := run)] at hk
    rw [String.length_ofList, ← String.length_toList]
    apply length_le_length_fitting hrun hk

theorem finish_foldl_next_take (t : String) {cs : List Char} {k : Nat}
    (hk : k ≤ (String.ofList cs).utf8ByteSize) :
    (((cs.flatMap String.utf8EncodeChar).take k).foldl State.next ⟨t, none⟩).finish =
      t ++ cutText k (String.ofList (fitting k cs)) := by
  induction cs generalizing t k with
  | nil =>
    have : k = 0 := by simpa using hk
    simp [cutText, fitting, State.finish, this]
  | cons c cs ih =>
    have hlen := String.length_utf8EncodeChar c
    rw [utf8ByteSize_ofList_cons] at hk
    rw [List.flatMap_cons]
    unfold fitting
    split
    . next hfits =>
      rw [List.take_append, List.foldl_append, List.take_of_length_le (by omega),
        foldl_next_encodeChar, hlen, ih _ (by omega)]
      unfold cutText
      rw [utf8ByteSize_ofList_cons]
      by_cases hcut : (String.ofList (fitting (k - c.utf8Size) cs)).utf8ByteSize < k - c.utf8Size
      . rw [if_pos hcut, if_pos (by omega)]
        simp [← String.toList_inj]
      . rw [if_neg hcut, if_neg (by omega)]
        simp [← String.toList_inj]
    . next hcut =>
      rw [List.take_append_of_le_length (by omega)]
      cases Nat.eq_zero_or_pos k with
      | inl hzero =>
        simp [hzero, cutText, State.finish]
      | inr hpos =>
        rcases foldl_next_encodeChar_take t c hpos (by omega) with ⟨p, hp⟩
        rw [hp]
        simp [State.finish, cutText, hpos]

theorem decodeLossy_take_encode {s : String} {k : Nat} (hk : k ≤ s.utf8ByteSize) :
    ∃ whole, Fills s k whole ∧ decodeLossy ((encode s).take k) = cutText k whole := by
  refine ⟨_, fills_fitting s k, ?_⟩
  rw [decodeLossy, encode_eq_flatMap, finish_foldl_next_take]
  . simp
  . rw [String.ofList_toList]
    exact hk

theorem Fills.length_le {s whole : String} {k : Nat} (h : Fills s k whole) :
    (cutText k whole).length ≤ k := by
  have hchars := length_le_utf8ByteSize whole.toList
  rw [String.ofList_toList, String.length_toList] at hchars
  have hfits := h.le
  unfold cutText
  split
  . rw [String.length_push]
    omega
  . omega

theorem Fills.eq {s whole : String} (h : Fills s s.utf8ByteSize whole) : whole = s := by
  have hlen := h.longest s List.prefix_rfl (Nat.le_refl _)
  rw [← String.toList_inj]
  apply h.isPrefix.eq_of_length_le
  rw [String.length_toList, String.length_toList]
  exact hlen

end Utf8

namespace StringHeader

variable {m : Memory}

theorem result_bytes (hm : m.Agrees) (h : StringHeader) (limit : Nat) :
    ∃ bs, m.Leads h.content (min h.length limit) bs ∧
      (h.bytes limit).result m =
        if 0 < min h.length limit ∧ bs = [] then none
        else some (bs, decide (bs.length < h.length) ||
          (m.read h.content (min h.length limit)).isNone) := by
  have hleads := Peek.leading_leads hm h.content (min h.length limit)
  refine ⟨_, hleads, ?_⟩
  simp only [bytes, Peek.result_bind]
  cases hread : (Peek.bytes h.content (min h.length limit)).result m with
  | some all =>
    have hall := Peek.leading_eq_of_read hm hread
    have hlen := (hm _ _ _ hread).1
    have hread' : m.read h.content (min h.length limit) = some all := hread
    have hempty : ¬(0 < min h.length limit ∧ all = []) := by
      rintro ⟨hpos, rfl⟩
      simp at hlen
      omega
    rw [hall, if_neg hempty, hread', hlen]
    simp [Peek.result]
  | none =>
    have hread' : m.read h.content (min h.length limit) = none := hread
    simp only [Peek.result_bind]
    generalize (Peek.leading h.content (min h.length limit)).result m = all
    rw [hread']
    have hcond : (all.isEmpty && decide (0 < min h.length limit)) = true ↔
        0 < min h.length limit ∧ all.toList = [] := by
      rw [Bool.and_eq_true, decide_eq_true_eq, and_comm, Array.isEmpty_iff, Array.toList_eq_nil_iff]
    by_cases hmissing : 0 < min h.length limit ∧ all.toList = []
    . rw [if_pos hmissing, if_pos (hcond.mpr hmissing)]
      rfl
    . rw [if_neg hmissing, if_neg (mt hcond.mp hmissing)]
      simp [Peek.result]

def TellsCut (m : Memory) (h : StringHeader) (limit : Nat) : Prop :=
  ∀ bs cut, (h.bytes limit).result m = some (bs, cut) → (cut = true ↔ bs.length < h.length)

theorem result_text_eq (h : StringHeader) (limit : Nat) :
    (h.text limit).result m =
      ((h.bytes limit).result m).map fun (bs, cut) => (Utf8.decodeLossy bs, cut) := by
  simp only [text, Peek.result_bind]
  rfl

theorem tellsCut_iff_isSome (hm : m.Agrees) (h : StringHeader) (limit : Nat) :
    TellsCut m h limit ↔ (h.length ≤ limit → (∀ i < h.length, m.Readable (h.content + i)) →
      (m.read h.content h.length).isSome) := by
  rcases result_bytes hm h limit with ⟨bs, hleads, hbytes⟩
  have hle := hleads.le
  unfold TellsCut
  rw [hbytes]
  split
  . next hmissing =>
    rcases hmissing with ⟨hpos, rfl⟩
    apply iff_of_true
    . intro bs cut hsome
      contradiction
    . intro hlimit hall
      exfalso
      apply hleads.stops hpos
      apply hall
      simp only [List.length_nil]
      omega
  . simp only [Option.some.injEq, Prod.mk.injEq, and_imp]
    constructor
    . intro htells hlimit hall
      have hwanted : min h.length limit = h.length := by omega
      specialize htells bs _ rfl rfl
      rw [hwanted] at hleads htells
      by_contra hnone
      have hlt : bs.length < h.length := by
        rw [← htells]
        simp_all
      apply hleads.stops hlt
      apply hall _ hlt
    . rintro hwhole _ _ rfl rfl
      rw [Bool.or_eq_true, decide_eq_true_eq, or_iff_left_iff_imp]
      intro hnone
      by_contra hfull
      have hlen : bs.length = h.length := by omega
      have hwanted : min h.length limit = h.length := by omega
      have hsome := hwhole (by omega) fun i hi => hleads.spells.readable (by omega)
      rw [hwanted] at hnone
      simp_all

/--
The flag of a string is wrong only if the string could not be read at once and yet each of its bytes
was. It is right for all strings exactly in a memory that answers a request for many bytes whenever
it answers those for each of them.
-/
theorem tellsCut_iff {m : Memory} (hm : m.Agrees) :
    (∀ h limit, TellsCut m h limit ↔
      (h.length ≤ limit → (∀ i < h.length, m.Readable (h.content + i)) →
        (m.read h.content h.length).isSome)) ∧
    ((∀ h limit, TellsCut m h limit) ↔
      ∀ (a : Address) (n : Nat), (∀ i < n, m.Readable (a + i)) → (m.read a n).isSome) := by
  refine ⟨tellsCut_iff_isSome hm, ?_⟩
  constructor
  . intro htells a n hall
    have hstring := htells ⟨true, n, a⟩ n
    rw [tellsCut_iff_isSome hm] at hstring
    apply hstring (Nat.le_refl n) hall
  . intro hwhole h limit
    rw [tellsCut_iff_isSome hm]
    intro _ hall
    apply hwhole _ _ hall

end StringHeader

namespace Frame

structure Apart (fs : List Frame) : Prop where
  fits : ∀ f ∈ fs, f.start.toNat + f.size ≤ UInt64.size
  disjoint : fs.Pairwise fun f g =>
    f.start.toNat + f.size ≤ g.start.toNat ∨ g.start.toNat + g.size ≤ f.start.toNat

theorem exists_of_spot {fs : List Frame} {x : Address} {p : Spot} (h : spot fs x = some p) :
    ∃ f ∈ fs, f.index? x = some p.offset := by
  induction fs with
  | nil => contradiction
  | cons f fs ih =>
    unfold spot at h
    split at h
    . next i hi =>
      injection h with h
      subst h
      exact ⟨f, List.mem_cons_self, hi⟩
    . rcases ih h with ⟨g, hg, hindex⟩
      exact ⟨g, List.mem_cons_of_mem f hg, hindex⟩

theorem Apart.spot_add {fs : List Frame} (h : Apart fs) {a : Address} {p : Spot} {k i : Nat}
    (hspot : spot fs a = some p) (hroom : room fs a = some k) (hi : i < k) :
    spot fs (a + i) = some (p.move i) := by
  induction fs with
  | nil => contradiction
  | cons f fs ih =>
    rcases h with ⟨hfits, hdisjoint⟩
    rw [List.pairwise_cons] at hdisjoint
    unfold spot at hspot ⊢
    unfold room at hroom
    cases hindex : f.index? a with
    | some o =>
      rw [hindex] at hspot hroom
      injection hspot with hspot
      injection hroom with hroom
      rw [index?_eq_some_iff] at hindex
      have hf := hfits f List.mem_cons_self
      have hmoved : f.index? (a + i) = some (o + i) := by
        rw [index?_eq_some_iff, Address.toNat_add_of_lt (by omega)]
        omega
      rw [hmoved, ← hspot]
      rfl
    | none =>
      rw [hindex] at hspot hroom
      have hrest : Apart fs := ⟨fun g hg => hfits g (List.mem_cons_of_mem f hg), hdisjoint.2⟩
      have hadd := ih hrest hspot hroom
      have hmoved : f.index? (a + i) = none := by
        -- the address is in an older region, from which this one is apart
        rcases exists_of_spot hadd with ⟨g, hg, hgindex⟩
        rw [index?_eq_some_iff] at hgindex
        have hg := hdisjoint.1 g hg
        rw [Option.eq_none_iff_forall_ne_some]
        intro j hj
        rw [index?_eq_some_iff] at hj
        omega
      rw [hmoved]
      exact hadd

end Frame

namespace Snapshot

theorem agrees_of_apart {s : Snapshot} (h : Frame.Apart s.frames) : s.memory.Agrees := by
  intro a n bs hread
  have hlen : bs.length = n := length_read hread
  refine ⟨hlen, ?_⟩
  intro i hi
  have hpos : 0 < n := by omega
  rcases read_of_pos hpos hread with ⟨p, hspot, -, hcell⟩
  have hsome : (s.read a n).isSome := by
    rw [show s.read a n = some bs from hread]
    rfl
  rcases (isSome_read.mp hsome).resolve_left (by omega) with ⟨k, hroom, hk⟩
  show s.read (a + i) 1 = some [bs[i]]
  rw [read_one_iff]
  refine ⟨p.move i, h.spot_add hspot hroom (by omega), ?_⟩
  rw [← hcell i (by omega), List.getElem?_eq_getElem]

end Snapshot

namespace Decoder

structure HasText (d : Decoder) (m : Memory) (target : Address) (h : StringHeader) (s : String) :
    Prop where
  ne_null : target ≠ .null
  header : (StringHeader.read d.target d.version target none).result m = some h
  length : h.length = s.utf8ByteSize
  content : ∀ i (hi : i < (Utf8.encode s).length), m.Readable (h.content + i) →
    m.read (h.content + i) 1 = some [(Utf8.encode s)[i]]

theorem HasText.eq_take {d : Decoder} {m : Memory} {target : Address} {h : StringHeader}
    {s : String} (hs : d.HasText m target h s) {bs : List UInt8} (hspells : m.Spells h.content bs)
    (hlen : bs.length ≤ h.length) : bs = (Utf8.encode s).take bs.length := by
  have hsize := Utf8.length_encode s
  have hlength := hs.length
  have hle : bs.length ≤ (Utf8.encode s).length := by omega
  apply List.ext_getElem
  . rw [List.length_take, Nat.min_eq_left hle]
  . intro i hi _
    have hread := hs.content i (by omega) (hspells.readable hi)
    rw [hspells i hi] at hread
    injection hread with hread
    injection hread with hread
    rw [List.getElem_take, hread]

theorem result_readString_of_text {m : Memory} (hm : m.Agrees) (d : Decoder) {target : Address}
    {h : StringHeader} {s : String} (hs : d.HasText m target h s) :
    ∃ k whole text,
      IsGreatest {k | k ≤ min h.length d.maxString ∧ ∀ i < k, m.Readable (h.content + i)} k ∧
      Utf8.Fills s k whole ∧
      text = Utf8.cutText k whole ∧
      (d.readString target).result m =
        (if 0 < min h.length d.maxString ∧ k = 0 then
          Value.error (DecodeFault.contentUnreadable h.content).message
        else Value.remoteString text target (if h.isLong then .long else .short)) ∧
      text.length ≤ k ∧ (k = s.utf8ByteSize → text = s) := by
  rcases StringHeader.result_bytes hm h d.maxString with ⟨bs, hleads, hbytes⟩
  have hle := hleads.le
  have hlength := hs.length
  have htake := hs.eq_take hleads.spells (by omega)
  rcases Utf8.decodeLossy_take_encode (s := s) (k := bs.length) (by omega) with
    ⟨whole, hwhole, htext⟩
  rw [← htake] at htext
  refine ⟨bs.length, whole, _, hleads.isGreatest, hwhole, rfl, ?_, hwhole.length_le, ?_⟩
  . simp only [readString, Peek.result_bind]
    rw [result_decodeString m d none hs.ne_null, hs.header]
    dsimp only
    rw [StringHeader.result_text_eq, hbytes]
    by_cases hmissing : 0 < min h.length d.maxString ∧ bs = []
    . simp [hmissing, Peek.result, outcome]
    . have hsome : ¬(0 < min h.length d.maxString ∧ bs.length = 0) := by
        rw [List.length_eq_zero_iff]
        exact hmissing
      rw [if_neg hmissing, if_neg hsome]
      simp only [Option.map_some, htext]
      rfl
  . intro hfull
    rw [hfull] at hwhole ⊢
    unfold Utf8.cutText
    rw [hwhole.eq, if_neg (Nat.lt_irrefl _)]

theorem readString_cut_character :
    let object := #[0, 0, 0, 0, 0x04, 0, 0, 6, 0, 0, 0, 0, 0, 0, 0, 0,
      0x61, 0xC3, 0xA9, 0xE2, 0x82, 0xAC]
    let s : Snapshot := ⟨⟨.four, .little⟩, [⟨⟨0x1000⟩, object⟩]⟩
    let d : Decoder := ⟨s.target, .v53, 5⟩
    let h : StringHeader := ⟨false, 6, ⟨0x1010⟩⟩
    s.memory.Agrees ∧ d.HasText s.memory ⟨0x1000⟩ h "aé€" ∧
      (d.readString ⟨0x1000⟩).result s.memory = Value.remoteString "aé�" ⟨0x1000⟩ .short ∧
      ∃ k whole text,
        IsGreatest {k | k ≤ min 6 5 ∧ ∀ i < k, s.memory.Readable (h.content + i)} k ∧
        Utf8.Fills "aé€" k whole ∧ text = Utf8.cutText k whole ∧
        (d.readString ⟨0x1000⟩).result s.memory =
          (if 0 < min 6 5 ∧ k = 0 then
            Value.error (DecodeFault.contentUnreadable h.content).message
          else Value.remoteString text ⟨0x1000⟩ .short) ∧
        text.length ≤ k ∧ (k = "aé€".utf8ByteSize → text = "aé€") := by
  intro object s d h
  have hm : s.memory.Agrees := by
    apply Snapshot.agrees_of_apart
    exact ⟨by decide, by decide⟩
  have hs : d.HasText s.memory ⟨0x1000⟩ h "aé€" := by
    constructor
    . decide
    . decide +kernel
    . decide +kernel
    . unfold Memory.Readable
      decide +kernel
  have hresult : (d.readString ⟨0x1000⟩).result s.memory =
      Value.remoteString "aé�" ⟨0x1000⟩ .short := by
    decide +kernel
  exact ⟨hm, hs, hresult, result_readString_of_text hm d hs⟩

end Decoder

namespace Snapshot

theorem tellsCut_within_region :
    let s : Snapshot := ⟨.native, [⟨⟨0x1002⟩, #[0x63]⟩, ⟨⟨0x1000⟩, #[0x61, 0x62]⟩]⟩
    s.memory.Agrees ∧ StringHeader.TellsCut s.memory ⟨false, 2, ⟨0x1000⟩⟩ 9 ∧
      ¬StringHeader.TellsCut s.memory ⟨false, 3, ⟨0x1000⟩⟩ 9 := by
  intro s
  have hm : s.memory.Agrees := by
    apply agrees_of_apart
    exact ⟨by decide, by decide⟩
  refine ⟨hm, ?_, ?_⟩
  . rw [(StringHeader.tellsCut_iff hm).1]
    unfold Memory.Readable
    decide
  . rw [(StringHeader.tellsCut_iff hm).1]
    unfold Memory.Readable
    decide

theorem complete_string_said_cut :
    let image := #[0, 0, 0, 0, 0x04, 0, 0, 2, 0, 0, 0, 0, 0, 0, 0, 0, 0x61]
    let s : Snapshot := ⟨⟨.four, .little⟩, [⟨⟨0x1011⟩, #[0x62]⟩, ⟨⟨0x1000⟩, image⟩]⟩
    let h : StringHeader := ⟨false, 2, ⟨0x1010⟩⟩
    let d : Decoder := ⟨s.target, .v53, 9⟩
    s.memory.Agrees ∧ (StringHeader.read s.target .v53 ⟨0x1000⟩ none).result s.memory = some h ∧
      (h.bytes 9).result s.memory = some ([0x61, 0x62], true) ∧
      (h.text 9).result s.memory = some ("ab", true) ∧
      (d.readString ⟨0x1000⟩).notices s.memory = [.stringTruncated ⟨0x1000⟩ 2 2] := by
  intro image s h d
  have hm : s.memory.Agrees := by
    apply agrees_of_apart
    exact ⟨by decide, by decide⟩
  refine ⟨hm, ?_, ?_, ?_, ?_⟩ <;> decide +kernel

end Snapshot

end LuaScope
