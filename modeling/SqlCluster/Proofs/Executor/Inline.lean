import SqlCluster.Proofs.Executor.Slots
import SqlCluster.Proofs.Executor.TwinRun
import SqlCluster.Proofs.Journal.Transcript
/-!
Lines without line ends. Neither the URLs that are asked nor the redirects that are followed have
line ends in them, so a line that shows one has none either. A line can only quote some.
-/
namespace SqlCluster

open Text Uri Http

def Notice.quoted : Notice → String
  | .peerFailed _ f => f.detail
  | .statusFailed f => f.message
  | _ => ""

/-- Under a condition, a line has no line ends in it but those that it quotes. -/
def Tidy (h : Prop) : Event → Prop
  | .notice n => h → Inline n.quoted.toList → Inline n.text.toList
  | .record _ => True

def Peer.IsInline (p : Peer) : Prop := Inline p.host.toList

instance (p : Peer) : Decidable p.IsInline := inferInstanceAs (Decidable (Inline _))

theorem inline_decimal (n : Nat) : Inline (decimal n) :=
  inline_of_plain ((within_decimal n).mono fun _ hc => hc.1)

theorem Peer.IsInline.address_chars {p : Peer} (h : p.IsInline) : Inline p.addressChars := by
  have hport : Inline (':' :: decimal p.port) := inline_cons (by decide) (inline_decimal p.port)
  by_cases hc : ':' ∈ p.host.toList
  · rw [Peer.addressChars_of_colon hc]
    exact inline_cons (by decide) (inline_append.mpr ⟨h, inline_cons (by decide) hport⟩)
  · rw [Peer.addressChars_of_not_mem hc]
    exact inline_append.mpr ⟨h, hport⟩

theorem Peer.IsInline.address {p : Peer} (h : p.IsInline) : Inline p.address.toList := by
  rw [Peer.address, String.toList_ofList]
  exact h.address_chars

theorem Notice.inline_text {n : Notice} (h : ∀ s ∈ n.texts, Inline s.toList) :
    Inline n.text.toList := by
  rw [Notice.text, toList_joined, inline_iff, List.mem_flatMap]
  rintro ⟨s, hs, hn⟩
  obtain ⟨p, hp, rfl⟩ := List.mem_map.mp hs
  cases p with
  | own s => exact (Notice.own_parts hp).2 hn
  | text s =>
      have ht : s ∈ n.texts := List.mem_filterMap.mpr ⟨_, hp, rfl⟩
      exact inline_iff.mp (h s ht) hn
  | count k =>
      rw [Part.written, Message.toList_toString] at hn
      exact inline_iff.mp (inline_decimal k) hn

theorem tidy_of_texts {h : Prop} {n : Notice} (hn : h → ∀ s ∈ n.texts, Inline s.toList) :
    Tidy h (.notice n) :=
  fun hh _ => Notice.inline_text (hn hh)

theorem tidy_peerFailed {h : Prop} {f : PeerFailure} (hu : h → Inline f.url.toList) (n : Nat) :
    Tidy h (.notice (.peerFailed n f)) := by
  intro hh hq
  have hkind : Inline f.kind.name.toList := by cases f.kind <;> decide
  refine Notice.inline_text (List.forall_mem_singleton.mpr ?_)
  simp only [PeerFailure.text, String.toList_append, inline_append]
  exact ⟨⟨⟨⟨hu hh, by decide⟩, hkind⟩, by decide⟩, hq⟩

theorem tidy_statusFailed (h : Prop) (f : Fault) : Tidy h (.notice (.statusFailed f)) :=
  fun _ hq => Notice.inline_text (List.forall_mem_singleton.mpr hq)

theorem inline_shownUrl {url : List Char} (h : Inline url) : Inline (shownUrl url).toList := by
  rw [shownUrl, String.toList_ofList]
  exact inline_redact h

theorem inline_name (operation : Operation) : Inline operation.name.toList := by
  cases operation <;> decide

theorem inline_userinfo {c : Config} {user : List Char} (h : c.userinfo? = some user) :
    Inline user :=
  inline_of_plain ((Config.loginChars_userinfo h).mono fun _ hc => (isLoginChar_spec hc).1)

theorem inline_assembleUrl {c : Config} {operation : Operation} {peer : Peer} {queue : Bool}
    {url : List Char} (hp : peer.IsInline) (h : c.assembleUrl? operation peer queue = some url) :
    Inline url := by
  obtain ⟨part, hpart, rfl⟩ := Option.map_eq_some_iff.mp h
  have huser : Inline part := by
    rw [Config.userPart?] at hpart
    split at hpart
    · obtain ⟨user, hu, rfl⟩ := Option.map_eq_some_iff.mp hpart
      exact inline_append.mpr ⟨inline_userinfo hu, by decide⟩
    · cases hpart
      exact inline_nil
  have hscheme : Inline c.scheme.name.toList := by cases c.scheme <;> decide
  have hpath : Inline operation.path.toList := by cases operation <;> decide
  have hflags : Inline (c.flags operation queue) :=
    inline_of_plain (plain_flags c operation queue).1
  simp only [inline_append]
  exact ⟨⟨⟨⟨⟨hscheme, by decide⟩, huser⟩, hp.address_chars⟩, hpath⟩, hflags⟩

namespace Executor

variable {x : Executor} {operation : Operation} {peer : Peer} {url : List Char}

theorem inline_passage {spelled url : List Char} (h : x.passage spelled = .ok (.admitted url)) :
    Inline url := by
  unfold passage at h
  split at h
  · cases h
  · next parts hs =>
      have hparts := oneLine_of_split hs
      simp only at h
      split at h
      · cases h
      · split at h
        · cases h
        · split at h
          · split at h
            · next hu =>
                cases h
                exact (hparts.withAuthority (inline_userinfo hu) hparts.authority).text
            · cases h
          · cases h

theorem inline_redirect {location : String} {r : Redirect} (hu : Inline url)
    (hl : Inline location.toList) (h : x.redirect url location = .ok r) :
    Inline r.spelled ∧ Inline r.target := by
  unfold redirect at h
  split at h
  · cases h
  · next spelled hj =>
      obtain ⟨p, hp, rfl⟩ := Outcome.map_eq_ok.mp h
      have hspelled : Inline spelled := inline_join hu hl hj
      refine ⟨hspelled, ?_⟩
      cases p with
      | plain => exact hspelled
      | foreign host port => exact hspelled
      | admitted url => exact inline_passage hp

theorem inline_onward {σ : Type} {serve : Server σ} {body : List UInt8} {timeout : Value}
    {w : World σ} {r : Redirect} (hu : Inline url)
    (h : x.next operation peer url
      (x.client.send serve (methodOf operation) url body timeout w).1 = .onward r) :
    Inline r.spelled ∧ Inline r.target := by
  generalize hs : (x.client.send serve (methodOf operation) url body timeout w).1 = answer at h
  cases verdict_of_next h with
  | @redirected res _ hr _ hred =>
      obtain ⟨hpost, hcode⟩ := isRedirect_codes hr
      rw [hpost] at hs
      refine inline_redirect hu ?_ hred
      cases hl : res.location? with
      | none => exact inline_nil
      | some location => exact inline_of_plain (plain_location_of_send hs hcode hl)

theorem url_of_next {answer : Except SendError Response} {f : PeerFailure}
    (h : x.next operation peer url answer = .done (.failed f)) : f.url = shownUrl url := by
  cases verdict_of_next h <;> rfl

end Executor

end SqlCluster
