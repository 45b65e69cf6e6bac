import Mathlib.Data.List.Forall2
import SqlCluster.Proofs.Http.Dressed
import SqlCluster.Proofs.Uri.Resolve
import SqlCluster.Proofs.Uri.Mask
import SqlCluster.Proofs.Http.Sent
/-!
Two clients whose URLs differ in logins only. They send the same requests but for the logins and get
the same answers, unless a URL is too long for one of them.
-/
namespace SqlCluster

open Text Uri

def Uri.Login.Alike (named : Prop) (l m : Login) : Prop := named → l.SameName m

/-- Two texts that are the same URL, or the same place of a kind with two logins. -/
inductive Uri.Alike (named : Prop) (kind : Place → Prop) : List Char → List Char → Prop
  | fixed (cs : List Char) (h : Within IsPlain cs) : Uri.Alike named kind cs cs
  | dressed (p : Place) (hp : kind p) (l m : Login) (h : l.Alike named m) :
      Uri.Alike named kind (p.dress l) (p.dress m)

/-- The same error, or results that are related; or one of them is the error that is left out. -/
inductive Agree {ε α : Type} (apart : ε) (R : α → α → Prop) : Except ε α → Except ε α → Prop
  | left (y : Except ε α) : Agree apart R (.error apart) y
  | right (x : Except ε α) : Agree apart R x (.error apart)
  | error (e : ε) : Agree apart R (.error e) (.error e)
  | ok {a b : α} (h : R a b) : Agree apart R (.ok a) (.ok b)

namespace Agree

variable {ε α β : Type} {apart : ε} {R : α → α → Prop} {S : β → β → Prop} {x y : Except ε α}

theorem refl (hR : ∀ a, R a a) (x : Except ε α) : Agree apart R x x := by
  cases x with
  | error e => exact .error e
  | ok a => exact .ok (hR a)

theorem bind {f g : α → Except ε β} (h : Agree apart R x y)
    (hfg : ∀ a b, R a b → Agree apart S (f a) (g b)) : Agree apart S (x >>= f) (y >>= g) := by
  cases h with
  | left y => exact .left _
  | right x => exact .right _
  | error e => exact .error e
  | ok h => exact hfg _ _ h

end Agree

namespace Http

def Request.anonymous (r : Request) : Request :=
  { r with url := r.url.withUser [], credentials := none }

inductive Outcome.Alike (t u : List Char) : Outcome → Outcome → Prop
  | refl (o : Outcome) : Outcome.Alike t u o o
  | quoting (cause : Cause) (pieces : List (List Char)) :
      Outcome.Alike t u (.failure ⟨cause, String.ofList (joinWith t pieces)⟩)
        (.failure ⟨cause, String.ofList (joinWith u pieces)⟩)

variable {σ : Type}

/-- A server that does not look at logins, and shows them only where it quotes the URL of a
request. -/
def Discreet (serve : Server σ) : Prop :=
  ∀ s r q, r.anonymous = q.anonymous →
    (serve s r).2 = (serve s q).2 ∧ (serve s r).1.Alike r.url.text q.url.text (serve s q).1

def Blind (serve : Server σ) : Prop := ∀ s r q, r.anonymous = q.anonymous → serve s r = serve s q

theorem Blind.discreet {serve : Server σ} (h : Blind serve) : Discreet serve := by
  intro s r q hrq
  rw [h s r q hrq]
  exact ⟨rfl, .refl _⟩

inductive Url.Alike (named : Prop) : Url → Url → Prop
  | refl (u : Url) : Url.Alike named u u
  | login (u : Url) (sound : u.Sound) (hs : u.scheme ≠ []) (l m : Login) (h : l.Alike named m) :
      Url.Alike named (u.withUser l.text) (u.withUser m.text)

inductive Request.Alike (named : Prop) (kind : Url → Prop) : Request → Request → Prop
  | refl (r : Request) : Request.Alike named kind r r
  | credentials (r : Request) (hk : kind r.url) (c d : Option (List Char)) :
      Request.Alike named kind { r with credentials := c } { r with credentials := d }
  | login (r : Request) (hk : kind r.url) (sound : r.url.Sound) (hs : r.url.scheme ≠ [])
      (l m : Login) (h : l.Alike named m) (c d : Option (List Char)) :
      Request.Alike named kind { r with url := r.url.withUser l.text, credentials := c }
        { r with url := r.url.withUser m.text, credentials := d }

inductive AnswerAlike (named : Prop) :
    Except SendError Response → Except SendError Response → Prop
  | refl (a : Except SendError Response) : AnswerAlike named a a
  | failed (cause : Cause) {m n : String}
      (h : named → redactText (Failure.text ⟨cause, m⟩).toList =
        redactText (Failure.text ⟨cause, n⟩).toList) :
      AnswerAlike named (.error (.failed ⟨cause, m⟩)) (.error (.failed ⟨cause, n⟩))

def tooLong : SendError := .invalid .tooLong

end Http

/-- The same server, alike requests, and the same diagnostics if these have to be the same. -/
structure World.Alike {σ : Type} (named : Prop) (kind : Http.Url → Prop) (w v : World σ) : Prop where
  server : w.server = v.server
  sent : List.Forall₂ (Http.Request.Alike named kind) w.sent v.sent
  journal : named → w.journal = v.journal

namespace Http

/-- Answers and worlds that are alike; or a URL is too long for one of the two, and from there on
the other is on its own. -/
inductive ReplyAlike {σ : Type} (named : Prop) (kind : Url → Prop) :
    Except SendError Response × World σ → Except SendError Response × World σ → Prop
  | left {w v : World σ} (hw : w.Alike named kind v) {y : Except SendError Response × World σ}
      (hy : v.GoesOn y.2) : ReplyAlike named kind (.error tooLong, w) y
  | right {w v : World σ} (hw : w.Alike named kind v) {x : Except SendError Response × World σ}
      (hx : w.GoesOn x.2) : ReplyAlike named kind x (.error tooLong, v)
  | both {a b : Except SendError Response} {w v : World σ} (ha : AnswerAlike named a b)
      (hw : w.Alike named kind v) : ReplyAlike named kind (a, w) (b, v)

variable {named : Prop} {kind : Url → Prop}

def reach (u : Url) (user : List Char) : Except UrlError Url :=
  if u.isAbsolute then .ok (u.withUser user) else u.asPath

theorem target_dress (p : Place) :
    ∃ (tail : List Char) (r : Except UrlError Url), (∀ u, r = .ok u → Reads p u) ∧
      ∀ l, Client.target (p.dress l) =
        if maxLength < (p.dress l).length then .error .tooLong
        else r.bind fun u => reach u (readLogin l tail).text := by
  obtain ⟨tail, r, hr, hp⟩ := parse_dress p
  refine ⟨tail, r, hr, fun l => ?_⟩
  rw [Client.target, hp]
  split
  · rfl
  · cases r with
    | error e => rfl
    | ok u => rfl

theorem request_withUser (method : Method) (body : List UInt8) (timeout : Value) (u : Url)
    (user : List Char) :
    Client.request method body timeout (u.withUser user) =
      (Client.request method body timeout u).map fun r =>
        { r with url := u.withUser user, credentials := (u.withUser user).credentials? } := by
  have hc : Client.checkHost (u.withUser user) = Client.checkHost u := rfl
  rw [Client.request, Client.request, hc]
  cases Client.checkHost u with
  | error e => rfl
  | ok _ => cases timeout.toDouble <;> rfl

theorem url_of_request {method : Method} {body : List UInt8} {timeout : Value} {u : Url}
    {r : Request} (h : Client.request method body timeout u = .ok r) : r.url = u := by
  rw [Client.request] at h
  split at h
  · cases h
  · split at h
    · cases h
    · cases h
      rfl

theorem request_alike (method : Method) (body : List UInt8) (timeout : Value) {u : Url}
    (hk : kind u) (sound : u.Sound) (hs : u.scheme ≠ []) {l m : Login} (h : l.Alike named m) :
    Agree tooLong (Request.Alike named kind)
      (Client.request method body timeout (u.withUser l.text))
      (Client.request method body timeout (u.withUser m.text)) := by
  rw [request_withUser, request_withUser]
  cases hr : Client.request method body timeout u with
  | error e => exact .error e
  | ok r =>
      have hu := url_of_request hr
      subst hu
      exact .ok (.login r hk sound hs l m h _ _)

theorem prepare_alike {place : Place → Prop} (hk : ∀ p u, place p → Reads p u → kind u)
    (method : Method) (body : List UInt8) (timeout : Value) {cs ds : List Char}
    (h : Uri.Alike named place cs ds) :
    Agree tooLong (Request.Alike named kind) (Client.prepare method cs body timeout)
      (Client.prepare method ds body timeout) := by
  cases h with
  | fixed cs _ => exact .refl .refl _
  | dressed p hp l m h =>
      obtain ⟨tail, r, hr, ht⟩ := target_dress p
      rw [Client.prepare, Client.prepare, ht, ht]
      by_cases hl : maxLength < (p.dress l).length
      · rw [if_pos hl]
        exact .left _
      by_cases hm : maxLength < (p.dress m).length
      · rw [if_pos hm]
        exact .right _
      rw [if_neg hl, if_neg hm]
      cases r with
      | error e => exact .error _
      | ok u =>
          by_cases ha : u.isAbsolute = true
          · have hread := hr u rfl
            have hs : u.scheme ≠ [] := by
              rintro hs
              simp [Url.isAbsolute, hs] at ha
            simp only [Except.bind, reach, ha, if_true]
            exact request_alike method body timeout (hk p u hp hread) hread.sound hs h
          · simp only [Except.bind, reach, ha]
            exact .refl .refl _

theorem Request.Alike.anonymous {r q : Request} (h : r.Alike named kind q) :
    r.anonymous = q.anonymous := by
  cases h <;> rfl

theorem Outcome.Alike.eq {t : List Char} {o p : Outcome} (h : o.Alike t t p) : o = p := by
  cases h <;> rfl

theorem redact_quoting {p : Place} (hs : p.scheme ≠ []) {l m : Login} (h : l.SameName m)
    (cause : Cause) (pieces : List (List Char)) :
    redactText (Failure.text ⟨cause, String.ofList (joinWith (p.dress l) pieces)⟩).toList =
      redactText (Failure.text ⟨cause, String.ofList (joinWith (p.dress m) pieces)⟩).toList := by
  have hempty : joinWith (p.dress l) pieces = [] ↔ joinWith (p.dress m) pieces = [] := by
    cases pieces with
    | nil => simp [joinWith]
    | cons piece pieces =>
        cases pieces with
        | nil => simp [joinWith]
        | cons next pieces => simp [joinWith, p.dress_ne_nil]
  have hstr (cs : List Char) : String.ofList cs = "" ↔ cs = [] := by
    rw [← String.toList_inj, String.toList_ofList]
    rfl
  simp only [Failure.text, hstr]
  by_cases he : joinWith (p.dress l) pieces = []
  · rw [if_pos he, if_pos (hempty.mp he)]
  · rw [if_neg he, if_neg (fun h => he (hempty.mpr h)), String.toList_ofList,
      String.toList_ofList]
    exact redactText_masked (Masked.joinWith (Masked.dress p hs h) pieces)

theorem receive_withUser {u : Url} (hs : u.scheme ≠ []) (user : List Char) (r : Response) :
    Client.receive (u.withUser user) r = Client.receive u r := by
  have hw : (u.withUser user).scheme ≠ [] := hs
  simp only [Client.receive, hs, hw, if_false]

theorem exchange_alike {serve : Server σ} (hd : Discreet serve) {r q : Request}
    (h : r.Alike named kind q) {w v : World σ} (hw : w.Alike named kind v) :
    AnswerAlike named (Client.exchange serve r w).1 (Client.exchange serve q v).1 ∧
      (Client.exchange serve r w).2.Alike named kind (Client.exchange serve q v).2 := by
  obtain ⟨hserver, ho⟩ := hd w.server r q h.anonymous
  have hworld : World.Alike named kind (w.exchange serve r).2 (v.exchange serve q).2 := by
    simp only [World.exchange, ← hw.server]
    exact ⟨hserver, List.rel_append hw.sent (.cons h .nil), hw.journal⟩
  have hout : (w.exchange serve r).1.Alike r.url.text q.url.text (v.exchange serve q).1 := by
    simp only [World.exchange, ← hw.server]
    exact ho
  have hx (r : Request) (w : World σ) : Client.exchange serve r w =
      (match (w.exchange serve r).1 with
        | .cancelled => .error .cancelled
        | .failure f => .error (.failed f)
        | .response res => Client.receive r.url res, (w.exchange serve r).2) := by
    rw [Client.exchange]
    rcases w.exchange serve r with ⟨o, w'⟩
    cases o <;> rfl
  rw [hx r w, hx q v]
  refine ⟨?_, hworld⟩
  generalize (w.exchange serve r).1 = o at hout ⊢
  generalize (v.exchange serve q).1 = o' at hout ⊢
  cases h with
  | refl r =>
      rw [hout.eq]
      exact .refl _
  | credentials r _ c d =>
      have heq : o = o' := Outcome.Alike.eq hout
      rw [heq]
      exact .refl _
  | login r _ sound hs l m hlm c d =>
      cases hout with
      | refl o =>
          cases o with
          | cancelled => exact .refl _
          | failure f => exact .refl _
          | response res =>
              simp only [receive_withUser hs]
              exact .refl _
      | quoting cause pieces =>
          refine .failed cause fun hn => ?_
          simp only [Url.text_withUser sound]
          exact redact_quoting hs (hlm hn) cause pieces

end Http

end SqlCluster
