import SqlCluster.Proofs.Text.Hex
import SqlCluster.Proofs.Text.Utf8
import SqlCluster.Uri.Escape
/-!
A text that has been escaped is read back by unescaping, byte by byte: an escape gives its byte, and
an unreserved character its own.
-/
namespace SqlCluster.Uri

open Text

theorem unescapeBytes_escapeByte (b : UInt8) (rest : List Char) :
    unescapeBytes (escapeByte b ++ rest) = b :: unescapeBytes rest := by
  have hb : b.toNat < 256 := b.toNat_lt
  have hbits : b.toNat / 16 % 16 * 16 + b.toNat % 16 = b.toNat := by omega
  simp only [escapeByte, hexFixed_two, List.cons_append, List.nil_append, unescapeBytes,
    hexValue?_upper, hbits, Nat.toUInt8_eq, UInt8.ofNat_toNat]

theorem unescapeBytes_escapeBytes (bs : List UInt8) (rest : List Char) :
    unescapeBytes (bs.flatMap escapeByte ++ rest) = bs ++ unescapeBytes rest := by
  induction bs with
  | nil => rfl
  | cons b bs ih =>
      rw [List.flatMap_cons, List.append_assoc, unescapeBytes_escapeByte, ih, List.cons_append]

theorem unescapeBytes_escapeChar (c : Char) (rest : List Char) :
    unescapeBytes (escapeChar c ++ rest) = Utf8.encodeChar c ++ unescapeBytes rest := by
  rw [escapeChar]
  split
  · next hc =>
      have hne : c ≠ '%' := by
        rintro rfl
        exact absurd hc (by decide)
      rw [List.singleton_append, unescapeBytes.eq_3 c rest fun _ _ _ he _ => hne he]
  · exact unescapeBytes_escapeBytes _ rest

theorem unescapeBytes_escape_append (cs rest : List Char) :
    unescapeBytes (escape cs ++ rest) = Utf8.encode cs ++ unescapeBytes rest := by
  induction cs with
  | nil => rfl
  | cons c cs ih =>
      have he : escape (c :: cs) = escapeChar c ++ escape cs := rfl
      have hu : Utf8.encode (c :: cs) = Utf8.encodeChar c ++ Utf8.encode cs := rfl
      rw [he, hu, List.append_assoc, unescapeBytes_escapeChar, ih, List.append_assoc]

theorem unescape_escape_append (cs rest : List Char) :
    unescape (escape cs ++ rest) = cs ++ unescape rest := by
  rw [unescape, unescapeBytes_escape_append, Utf8.decodeLossy_encode_append, unescape]

theorem unescape_cons {c : Char} (h : c ≠ '%') (cs : List Char) :
    unescape (c :: cs) = c :: unescape cs := by
  have he : Utf8.encode [c] = Utf8.encodeChar c := List.append_nil _
  rw [unescape, unescapeBytes.eq_3 c cs fun _ _ _ hc _ => h hc, ← he,
    Utf8.decodeLossy_encode_append, unescape, List.singleton_append]

theorem unescape_escape (cs : List Char) : unescape (escape cs) = cs := by
  have h := unescape_escape_append cs []
  rwa [List.append_nil, show unescape [] = [] from rfl, List.append_nil] at h

end SqlCluster.Uri
