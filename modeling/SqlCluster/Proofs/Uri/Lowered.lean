import SqlCluster.Proofs.Peer.Spelled
import SqlCluster.Proofs.Text.Lower
import SqlCluster.Proofs.Uri.Groups
/-!
Hosts in lower case. A host is put in lower case up to its zone, and stays as it is when that is
done again. An address that may stand in brackets still is one, and no letter comes to look like a
character that ends a part.
-/
namespace SqlCluster.Uri

open Text

def IsLowered (cs : List Char) : Prop := Within IsLower (cs.takeWhile (· ≠ '%'))

theorem isLowered_loweredHost (cs : List Char) : IsLowered (loweredHost cs) := by
  rw [loweredHost]
  split
  · next host zone _ =>
      rw [IsLowered, List.takeWhile_append]
      split
      · rw [List.takeWhile_cons_of_neg (by decide), List.append_nil]
        exact isLower_lower host
      · exact (isLower_lower host).takeWhile _
  · exact (isLower_lower cs).takeWhile _

theorem IsLowered.loweredHost_eq {cs : List Char} (h : IsLowered cs) : loweredHost cs = cs := by
  rw [loweredHost]
  split
  · next host zone hc =>
      have hhost := (takeWhile_ne (not_mem_of_cutFirst? hc) (.inr ⟨zone, rfl⟩)).1
      rw [eq_of_cutFirst? hc] at h ⊢
      rw [IsLowered, hhost] at h
      rw [lower_of_isLower h]
  · next hc =>
      have hhost := (takeWhile_ne (not_mem_of_cutFirst?_eq_none hc) (.inl rfl)).1
      rw [List.append_nil] at hhost
      rw [IsLowered, hhost] at h
      exact lower_of_isLower h

theorem IsLowered.dropWhile {cs : List Char} (h : IsLowered cs) {drop : Char → Bool}
    (hd : drop '%' = false) : IsLowered (cs.dropWhile drop) := by
  have hfront : ∀ c ∈ cs.takeWhile drop, decide (c ≠ '%') = true := by
    intro c hc
    rw [decide_eq_true_eq]
    rintro rfl
    rw [List.mem_takeWhile_imp hc] at hd
    cases hd
  rw [IsLowered, ← List.takeWhile_append_dropWhile (p := drop) (l := cs),
    List.takeWhile_append_of_pos hfront, within_append] at h
  exact h.2

theorem loweredHost_append {opening : List Char} (ho : Within IsPlain opening) (hp : '%' ∉ opening)
    {more : List Char} (hm : more ≠ []) :
    ∃ rest, rest ≠ [] ∧ loweredHost (opening ++ more) = asciiLower opening ++ rest := by
  rw [loweredHost, cutFirst?_append_of_not_mem hp]
  cases cutFirst? '%' more with
  | none => exact ⟨_, lowerAfter_ne_nil _ hm, lowerAfter_append ho [] more⟩
  | some cut =>
      refine ⟨lowerAfter (opening.reverse ++ []) cut.1 ++ '%' :: cut.2, by simp, ?_⟩
      rw [← List.append_assoc, ← lowerAfter_append ho]
      rfl

theorem isFutureAddress_iff {cs : List Char} : isFutureAddress cs = true ↔
    ∃ version more, cs = 'v' :: (version ++ '.' :: more) ∧ version ≠ [] ∧
      Within (fun c => (hexValue? c).isSome = true) version ∧ more ≠ [] ∧ '\n' ∉ more := by
  constructor
  · intro h
    unfold isFutureAddress at h
    split at h
    · next rest =>
        simp only [drop_length_takeWhile, Bool.and_eq_true] at h
        obtain ⟨hversion, h⟩ := h
        split at h
        · next more hmore =>
            refine ⟨rest.takeWhile fun c => (hexValue? c).isSome, more, ?_, ?_, ?_, ?_⟩
            · rw [← hmore, List.takeWhile_append_dropWhile]
            · simpa using hversion
            · intro c hc
              exact List.mem_takeWhile_imp (p := fun c => (hexValue? c).isSome) hc
            · simpa using h
        · cases h
    · cases h
  · rintro ⟨version, more, rfl, hversion, hhex, hmore, hn⟩
    have hw := takeWhile_append_opens hhex (.inr ⟨'.', more, rfl, by decide⟩)
    simp only [isFutureAddress, hw]
    simp [hversion, hmore, hn]

theorem isFutureAddress_loweredHost {cs : List Char} (h : isFutureAddress cs = true) :
    isFutureAddress (loweredHost cs) = true := by
  obtain ⟨version, more, rfl, hversion, hhex, hmore, hn⟩ := isFutureAddress_iff.mp h
  have hplain : Within IsPlain ('v' :: (version ++ ['.'])) := by
    rw [within_cons, within_append, within_cons]
    exact ⟨by decide, hhex.mono fun _ => plain_of_hex, by decide, within_nil⟩
  have hone : '%' ∉ 'v' :: (version ++ ['.']) ∧ '\n' ∉ 'v' :: (version ++ ['.']) := by
    have hp : '%' ∉ version := hhex.not_mem (by decide)
    have hl : '\n' ∉ version := hhex.not_mem (by decide)
    simp [hp, hl]
  obtain ⟨rest, hrest, heq⟩ := loweredHost_append hplain hone.1 hmore
  have htext : 'v' :: (version ++ '.' :: more) = 'v' :: (version ++ ['.']) ++ more := by simp
  have hnewline := unlettered_char (d := '\n') (by decide) (by decide) (by decide)
  have hline := mem_iff_of_filter (filter_loweredHost hnewline
    ('v' :: (version ++ '.' :: more))) (c := '\n') rfl
  rw [htext] at hline ⊢
  rw [heq] at hline ⊢
  refine isFutureAddress_iff.mpr ⟨asciiLower version, rest, ?_, ?_, ?_, hrest, fun hr => ?_⟩
  · simp [asciiLower]
    decide
  · simpa [asciiLower] using hversion
  · exact within_asciiLower (fun c hc => (isSome_hexValue_asciiLowerChar c).trans hc) hhex
  · exact (List.mem_append.mp (hline.mp (List.mem_append_right _ hr))).elim hone.2 hn

theorem isIpv6_loweredHost {cs : List Char} (h : isIpv6 cs = true) :
    isIpv6 (loweredHost cs) = true := by
  have groups {address : List Char} (hg : isGroups (splitAt ':' address) = true) :
      lower address = asciiLower address ∧ isGroups (splitAt ':' (asciiLower address)) = true := by
    refine ⟨lower_of_plain (plain_of_isGroups hg), ?_⟩
    rw [splitAt_asciiLower (by decide)]
    exact isGroups_asciiLower hg
  rw [isIpv6] at h
  split at h
  · next address zone hc =>
      simp only [Bool.and_eq_true] at h
      obtain ⟨⟨⟨hzone, hpercent⟩, hslash⟩, hg⟩ := h
      obtain ⟨hl, hg⟩ := groups hg
      have hnone : '%' ∉ asciiLower address := fun hm =>
        not_mem_of_cutFirst? hc ((mem_asciiLower (by decide)).mp hm)
      have hkept : '/' ∉ asciiLower address ++ '%' :: zone := by
        rw [List.mem_append, mem_asciiLower (by decide), ← List.mem_append, ← eq_of_cutFirst? hc]
        simpa using hslash
      rw [loweredHost, hc]
      simp only [hl]
      rw [isIpv6, cutFirst?_append hnone]
      simp only [hzone, hpercent, hg, Bool.true_and, Bool.and_true]
      simpa using hkept
  · next hc =>
      obtain ⟨hl, hg⟩ := groups h
      have hnone : '%' ∉ asciiLower cs := fun hm =>
        not_mem_of_cutFirst?_eq_none hc ((mem_asciiLower (by decide)).mp hm)
      rw [loweredHost, hc]
      simp only [hl]
      rw [isIpv6, cutFirst?_eq_none hnone]
      exact hg

theorem checkAddress_eq_ok {cs : List Char} :
    checkAddress cs = .ok () ↔ isFutureAddress cs = true ∨ isIpv6 cs = true := by
  constructor
  · exact fun h => (address_spec h).imp_left And.right
  · rintro (hf | h6)
    · obtain ⟨version, more, rfl, -⟩ := isFutureAddress_iff.mp hf
      rw [checkAddress, List.head?_cons, if_pos rfl, if_pos hf]
    · exact checkAddress_of_isIpv6 h6

theorem checkAddress_loweredHost {cs : List Char} (h : checkAddress cs = .ok ()) :
    checkAddress (loweredHost cs) = .ok () :=
  checkAddress_eq_ok.mpr <|
    (checkAddress_eq_ok.mp h).imp isFutureAddress_loweredHost isIpv6_loweredHost

theorem lowerShifts_open : ∀ r ∈ lowerShifts, ∀ n ∈ disguised,
    n < r.image ∨ r.image + (r.last - r.first) < n := by decide +kernel

theorem open_lowerChar {c : Char} (h : disguised.contains c.toNat = false) :
    Within (fun c => disguised.contains c.toNat = false) (lowerChar c) := by
  refine within_lowerChar ?_ (by decide) (by decide) ?_ fun _ => h
  · exact of_ascii (P := fun c => Within (fun c => disguised.contains c.toNat = false) (lowerChar c))
      (by decide +kernel)
  · intro r hr hcovers d hd
    rw [Bool.eq_false_iff, ne_eq, List.contains_iff_mem]
    intro hm
    simp only [Shift.covers, Bool.and_eq_true, decide_eq_true_eq] at hcovers
    have hopen := lowerShifts_open r hr d.toNat hm
    omega

theorem open_loweredHost {cs : List Char}
    (h : Within (fun c => disguised.contains c.toNat = false) cs) :
    Within (fun c => disguised.contains c.toNat = false) (loweredHost cs) := by
  have hlower {ds : List Char} (hd : Within (fun c => disguised.contains c.toNat = false) ds) :
      Within (fun c => disguised.contains c.toNat = false) (lower ds) :=
    within_lower (by decide) (by decide) fun c hc _ => open_lowerChar (hd c hc)
  rw [loweredHost]
  split
  · next host zone hc =>
      obtain ⟨hhost, hzone⟩ := h.of_cutFirst? hc
      exact within_append.mpr ⟨hlower hhost, within_cons.mpr ⟨by decide, hzone⟩⟩
  · exact hlower h

end SqlCluster.Uri
