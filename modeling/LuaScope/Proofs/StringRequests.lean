import LuaScope.Proofs.Sessions
import LuaScope.Proofs.StringContent

/-!
This module contains the bounds on the requests for the content of a string, however they are
answered. All of them lie in the content as far as it is wanted. Twice the number of missing bytes
pays for those that are left to be made: a request that is answered adds a byte, and one for a part of
a page that fails is followed by requests for its bytes.
-/

namespace LuaScope

namespace Peek

structure Part (a : Address) (wanted : Nat) (r : Address × Nat) : Prop where
  within : ∃ o, r.1 = a + o ∧ o + r.2 ≤ wanted
  pos : 0 < r.2
  page : r.1.toNat % pageSize + r.2 ≤ pageSize

variable {a : Address} {wanted : Nat}

theorem part_of_min {o : Nat} (h : o < wanted) :
    Part a wanted (a + o, min (pageSize - (a + o).toNat % pageSize) (wanted - o)) := by
  have hpage := Nat.mod_lt (a + o).toNat (show 0 < pageSize by decide)
  constructor
  . refine ⟨o, rfl, ?_⟩
    dsimp only
    omega
  . dsimp only
    omega
  . dsimp only
    omega

theorem part_one {o : Nat} (h : o < wanted) : Part a wanted (a + o, 1) := by
  have hpage := Nat.mod_lt (a + o).toNat (show 0 < pageSize by decide)
  refine ⟨⟨o, rfl, ?_⟩, ?_, ?_⟩
  . dsimp only
    omega
  . apply Nat.one_pos
  . dsimp only
    omega

theorem singles.always_go (position : Address) (left offset : Nat) {out : Array UInt8}
    (hposition : position + offset = a + out.size) (hroom : out.size + left ≤ wanted) :
    (singles.go position offset left out).Always Advances fun rs all =>
      (∀ r ∈ rs, Part a wanted r) ∧
      (if all.2 then all.1.size = out.size + left ∧ rs.length = left
      else all.1.size < out.size + left ∧ rs.length + out.size = all.1.size + 1) := by
  induction left generalizing offset out with
  | zero => exact ⟨nofun, rfl, rfl⟩
  | succ left ih =>
    unfold singles.go
    rw [hposition]
    intro reply hreply
    have hpart : Part a wanted (a + out.size, 1) := part_one (by omega)
    cases reply with
    | none =>
      refine ⟨List.forall_mem_singleton.mpr hpart, ?_⟩
      rw [if_neg Bool.false_ne_true, List.length_singleton]
      dsimp only
      omega
    | some bs =>
      have hlen := hreply bs rfl
      have hsize := size_appendList out bs
      apply (@ih (offset + 1) (out ++ bs) ?_ ?_).mono
      . rintro rs all ⟨hparts, hcount⟩
        refine ⟨List.forall_mem_cons.mpr ⟨hpart, hparts⟩, ?_⟩
        rw [List.length_cons]
        split
        . next hcomplete =>
          rw [if_pos hcomplete] at hcount
          omega
        . next hstopped =>
          rw [if_neg hstopped] at hcount
          omega
      . rw [← Address.add_add, hposition, Address.add_add]
        apply congrArg (a + ·)
        omega
      . omega

theorem leading.always_go (fuel : Nat) {out : Array UInt8} (hle : out.size ≤ wanted)
    (hfuel : wanted ≤ out.size + fuel) :
    (leading.go a wanted fuel out).Always Advances fun rs all =>
      (∀ r ∈ rs, Part a wanted r) ∧ all.size ≤ wanted ∧ rs.length ≤ 2 * (wanted - out.size) := by
  -- every page adds a byte at least, so the loop is finished when the fuel is used up
  induction fuel generalizing out with
  | zero => exact ⟨hfuel, nofun, hle, Nat.zero_le _⟩
  | succ fuel ih =>
    unfold leading.go
    split
    . exact ⟨nofun, hle, Nat.zero_le _⟩
    . next hmore =>
      have hpage := Nat.mod_lt (a + out.size).toNat (show 0 < pageSize by decide)
      have hpart : Part a wanted (a + out.size, _) := part_of_min (Nat.lt_of_not_le hmore)
      dsimp only
      generalize hchunk :
        min (pageSize - (a + out.size).toNat % pageSize) (wanted - out.size) = chunk at hpart
      have hpos : 0 < chunk := hpart.pos
      have hroom : out.size + chunk ≤ wanted := by omega
      refine ⟨Nat.le_of_lt hpage, hle, ?_⟩
      intro reply hreply
      cases reply with
      | some bs =>
        have hlen := hreply bs rfl
        have hsize := size_appendList out bs
        apply (@ih (out ++ bs) (by omega) (by omega)).mono
        rintro rs all ⟨hparts, hall, hcount⟩
        refine ⟨List.forall_mem_cons.mpr ⟨hpart, hparts⟩, hall, ?_⟩
        rw [List.length_cons]
        omega
      | none =>
        apply (singles.always_go (a := a) (a + out.size) chunk 0 (by simp) hroom).bind
        rintro rs ⟨all, complete⟩ ⟨hparts, hcount⟩
        dsimp only at hcount
        cases complete with
        | false =>
          rw [if_neg Bool.false_ne_true] at hcount
          refine ⟨?_, show all.size ≤ wanted by omega, ?_⟩
          . rw [List.append_nil]
            exact List.forall_mem_cons.mpr ⟨hpart, hparts⟩
          . rw [List.append_nil, List.length_cons]
            omega
        | true =>
          rw [if_pos rfl] at hcount
          apply (@ih all (by omega) (by omega)).mono
          rintro rest whole ⟨hparts', hwhole, hcount'⟩
          refine ⟨?_, hwhole, ?_⟩
          . rw [List.forall_mem_cons, List.forall_mem_append]
            exact ⟨hpart, hparts, hparts'⟩
          . rw [List.length_cons, List.length_append]
            omega

theorem always_leading (a : Address) (wanted : Nat) :
    (leading a wanted).Always Advances fun rs all =>
      (∀ r ∈ rs, Part a wanted r) ∧ all.size ≤ wanted ∧ rs.length ≤ 2 * wanted :=
  leading.always_go wanted (Nat.zero_le wanted) (Nat.le_add_left _ _)

end Peek

namespace StringHeader

open Peek

/--
The requests for the content of a string: one for all that is wanted of it, and then parts of that,
at most two for each byte.
-/
def Requests (content : Address) (wanted : Nat) (rs : List (Address × Nat)) : Prop :=
  ∃ rest, rs = (content, wanted) :: rest ∧ rest.length ≤ 2 * wanted ∧
    ∀ r ∈ rest, Part content wanted r

theorem always_bytes (h : StringHeader) (limit : Nat) :
    (h.bytes limit).Always Advances fun rs found =>
      Requests h.content (min h.length limit) rs ∧
        ∀ bs cut, found = some (bs, cut) → bs.length ≤ min h.length limit := by
  intro reply hreply
  cases reply with
  | some all =>
    refine ⟨⟨[], rfl, Nat.zero_le _, nofun⟩, ?_⟩
    rintro bs cut ⟨⟩
    exact (hreply all rfl).1
  | none =>
    apply (always_leading h.content (min h.length limit)).bind
    rintro rs all ⟨hparts, hall, hcount⟩
    have hrequests : Requests h.content (min h.length limit)
        ((h.content, min h.length limit) :: (rs ++ [])) := by
      rw [List.append_nil]
      exact ⟨rs, rfl, hcount, hparts⟩
    split
    . exact ⟨hrequests, nofun⟩
    . refine ⟨hrequests, ?_⟩
      rintro bs cut ⟨⟩
      exact hall

theorem always_text (h : StringHeader) (limit : Nat) :
    (h.text limit).Always Advances fun rs _ => Requests h.content (min h.length limit) rs := by
  apply (h.always_bytes limit).bind
  rintro rs found ⟨hrequests, -⟩
  show Requests _ _ (rs ++ [])
  rw [List.append_nil]
  exact hrequests

/--
Reading a string comes to an end, whatever the answers depend on, as long as none of them is too long
or empty without a reason. The whole content is asked for first, as far as it is wanted, and if that
fails at most twice as many requests follow as bytes are wanted, each for a part of it within a page.
No more bytes than wanted are decoded.
-/
theorem requests_within_content {σ : Type}
    {readAt : Address → Nat → StateM σ (Option (List UInt8))}
    (hreadAt : ∀ a n s, Advances n (readAt a n s).1) (h : StringHeader) (limit : Nat) (s : σ) :
    let wanted := min h.length limit
    let content := (h.bytes limit).session readAt s
    let text := (h.text limit).session readAt s
    (∀ c ∈ text.checks, c.Holds) ∧
    Requests h.content wanted text.reads ∧
    (content.result = none → text.result = none) ∧
    ∀ bs cut, content.result = some (bs, cut) →
      bs.length ≤ wanted ∧ text.result = some (Utf8.decodeLossy bs, cut) := by
  intro wanted content text
  have htext : text.result = content.result.map fun found => (Utf8.decodeLossy found.1, found.2) :=
    congrArg Session.result (session_map readAt (h.bytes limit) _ s)
  rcases (h.always_text limit).session hreadAt s with ⟨hchecks, hrequests⟩
  rcases (h.always_bytes limit).session hreadAt s with ⟨-, -, hlength⟩
  refine ⟨hchecks, hrequests, ?_, ?_⟩
  . intro hnone
    rw [htext, hnone]
    rfl
  . intro bs cut hsome
    rw [htext, hsome]
    exact ⟨hlength bs cut hsome, rfl⟩

/--
If nothing can be read the one byte that is wanted is asked for with the whole content, with its page
and alone.
-/
example : ((text ⟨false, 1, ⟨0x1000⟩⟩ 8).session (fun _ _ (s : Unit) => (none, s)) ()).reads.length =
    3 := rfl

theorem requests_across_page :
    let readAt : Address → Nat → StateM Nat (Option (List UInt8)) := fun _ n s =>
      (if 0 < n ∧ 2 ≤ s ∧ s < 5 then some [0x41] else none, s + 1)
    let h : StringHeader := ⟨true, 9, ⟨0xFFE⟩⟩
    let text := (h.text 5).session readAt 0
    (∀ a n s, Advances n (readAt a n s).1) ∧ (∀ c ∈ text.checks, c.Holds) ∧
    text.reads = [(⟨0xFFE⟩, 5), (⟨0xFFE⟩, 2), (⟨0xFFE⟩, 1), (⟨0xFFF⟩, 1), (⟨0x1000⟩, 3),
      (⟨0x1001⟩, 2), (⟨0x1001⟩, 1)] ∧
    Requests ⟨0xFFE⟩ 5 text.reads ∧ text.result = some ("AAA", true) := by
  intro readAt h text
  have hreadAt : ∀ a n s, Advances n (readAt a n s).1 := by
    intro a n s bs hread
    simp only [readAt, Option.ite_none_right_eq_some, Option.some.injEq] at hread
    rcases hread with ⟨⟨hpos, -⟩, hbs⟩
    rw [← hbs, List.length_singleton]
    omega
  rcases requests_within_content hreadAt h 5 0 with ⟨hchecks, hrequests, -, hbytes⟩
  have hthree : ((h.bytes 5).session readAt 0).result = some ([0x41, 0x41, 0x41], true) := by
    decide +kernel
  exact ⟨hreadAt, hchecks, by decide +kernel, hrequests, (hbytes _ _ hthree).2⟩

end StringHeader

end LuaScope
