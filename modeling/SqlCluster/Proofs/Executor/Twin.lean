import SqlCluster.Proofs.Executor.Account
import SqlCluster.Proofs.Executor.Reached
import SqlCluster.Proofs.Http.Reply
/-!
Two runs of an executor with two accounts. The calls of both lead to the same places, one by one,
and come to the same, as long as no URL is too long.
-/
namespace SqlCluster

open Text Uri Http

def Executor.withAccount (x : Executor) (a : Account) : Executor :=
  { x with config := x.config.withAccount a }

/-- The same call but for the login, with alike answers and as many requests. -/
structure Call.Alike (named : Prop) (kind : Place → Prop) (c d : Call) : Prop where
  method : c.method = d.method
  url : Uri.Alike named kind c.url d.url
  body : c.body = d.body
  answer : AnswerAlike named c.answer d.answer
  requests : c.requests = d.requests

inductive Attempt.Alike (named : Prop) : Attempt → Attempt → Prop
  | answered (content : List UInt8) : Attempt.Alike named (.answered content) (.answered content)
  | escaped (f : Fault) : Attempt.Alike named (.escaped f) (.escaped f)
  | failed {f g : PeerFailure} (h : named → f = g) : Attempt.Alike named (.failed f) (.failed g)

theorem Attempt.Alike.refl {named : Prop} (a : Attempt) : a.Alike named a := by
  cases a with
  | answered content => exact .answered content
  | failed f => exact .failed fun _ => rfl
  | escaped f => exact .escaped f

inductive OutcomeAlike (named : Prop) : Except Fault (List UInt8) → Except Fault (List UInt8) → Prop
  | refl (o : Except Fault (List UInt8)) : OutcomeAlike named o o
  | exhausted {fs gs : List PeerFailure} (h : named → fs = gs) :
      OutcomeAlike named (.error (.allPeersFailed fs)) (.error (.allPeersFailed gs))

structure Run.Alike {σ α : Type} (named : Prop) (place : Place → Prop) (kind : Url → Prop)
    (R : α → α → Prop) (r s : Run σ α) : Prop where
  calls : List.Forall₂ (Call.Alike named place) r.calls s.calls
  outcome : R r.outcome s.outcome
  world : r.world.Alike named kind s.world

/-- After how many requests a call ends because a URL is too long, if that ends it. -/
def Call.cutShort? (c : Call) : Option Nat :=
  if c.answer = .error tooLong then some c.requests else none

/-- No URL is too long in one of the runs only: a call whose URL differs between them is cut short
in both, and at the same point, or in neither. -/
def Run.Fits {σ α : Type} (r s : Run σ α) : Prop :=
  ∀ p ∈ r.calls.zip s.calls, p.1.url ≠ p.2.url → p.1.cutShort? = p.2.cutShort?

instance {σ α : Type} (r s : Run σ α) : Decidable (r.Fits s) :=
  List.decidableBAll _ (r.calls.zip s.calls)

namespace World.Alike

variable {σ : Type} {named : Prop} {kind : Url → Prop} {w v : World σ}

theorem note (h : w.Alike named kind v) (t : Tracer) {m n : String} (hm : named → m = n) :
    (w.note t m).Alike named kind (v.note t n) :=
  ⟨h.server, h.sent, fun hn => by simp only [World.note, h.journal hn, hm hn]⟩

theorem log (h : w.Alike named kind v) (severity : Severity) (channel : Channel) {m n : String}
    (hm : named → m = n) :
    (w.log severity channel m).Alike named kind (v.log severity channel n) :=
  ⟨h.server, h.sent, fun hn => by simp only [World.log, h.journal hn, hm hn]⟩

end World.Alike

namespace Executor

inductive RedirectAlike (named : Prop) (place : Place → Prop) : Redirect → Redirect → Prop
  | fixed (cs : List Char) (h : Within IsPlain cs) (p : Passage) (hp : ∀ u, p ≠ .admitted u) :
      RedirectAlike named place ⟨cs, p⟩ ⟨cs, p⟩
  | admitted (cs : List Char) (p : Place) (hp : place p) (l m : Login) (h : l.Alike named m) :
      RedirectAlike named place ⟨cs, .admitted (p.dress l)⟩ ⟨cs, .admitted (p.dress m)⟩
  | dressed (p : Place) (hp : place p) (l m : Login) (h : l.Alike named m) :
      RedirectAlike named place ⟨p.dress l, .plain⟩ ⟨p.dress m, .plain⟩

/-- The places that the calls of an executor lead to: those of its peers, those of known peers that
a location names, and those that a relative location leads to. -/
structure Covers (x : Executor) (operation : Operation) (queue : Bool) (place : Place → Prop) :
    Prop where
  peer : ∀ p ∈ x.topology.orderedPeers x.favorSeed, ∀ h : p.IsNamed,
    place (x.config.place operation queue h)
  known : ∀ (parts : Parts) (h : parts.IsPlain) (given : Option Nat),
    checkBrackets parts.authority = .ok () →
    parts.port? = .ok given →
    x.trusted.contains (parts.hostname, given.getD (impliedPort parts.scheme)) = true →
      place (parts.place h)
  moved : ∀ p q : Place, place p → q.scheme = p.scheme → q.authority = p.authority → place q

variable {σ : Type} {x : Executor} {a b : Account} {operation : Operation} {queue : Bool}
  {body : List UInt8} {named : Prop} {place : Place → Prop} {kind : Url → Prop} {peer : Peer}

theorem shownUrl_alike {cs ds : List Char} (h : Uri.Alike named place cs ds) (hn : named) :
    shownUrl cs = shownUrl ds := by
  cases h with
  | fixed cs _ => rfl
  | dressed p _ l m h => rw [shownUrl, shownUrl, redact_dress p (h hn)]

theorem RedirectAlike.target {r s : Redirect} (h : RedirectAlike named place r s) :
    Uri.Alike named place r.target s.target := by
  cases h with
  | fixed cs h p hp =>
      cases p with
      | admitted u => exact absurd rfl (hp u)
      | plain => exact .fixed cs h
      | foreign host port => exact .fixed cs h
  | admitted cs p hp l m h => exact .dressed p hp l m h
  | dressed p hp l m h => exact .dressed p hp l m h

theorem noteRedirect_alike {r s : Redirect} (h : RedirectAlike named place r s) {cs ds : List Char}
    (hu : Uri.Alike named place cs ds) {w v : World σ} (hw : w.Alike named kind v) :
    ((x.withAccount a).noteRedirect cs r w).Alike named kind
      ((x.withAccount b).noteRedirect ds s v) := by
  have hline (hn : named) : shownUrl cs ++ " redirected to " ++ shownUrl r.target =
      shownUrl ds ++ " redirected to " ++ shownUrl s.target := by
    rw [shownUrl_alike hu hn, shownUrl_alike h.target hn]
  simp only [noteRedirect]
  refine World.Alike.note ?_ x.tracer hline
  cases h with
  | fixed cs _ p hp =>
      cases p with
      | admitted u => exact absurd rfl (hp u)
      | plain => exact hw
      | foreign host port =>
          exact (hw.note x.tracer fun _ => rfl).log .warning .executor fun _ => rfl
  | admitted cs p hp l m h => exact hw
  | dressed p hp l m h => exact hw

section Redirects

variable (cover : Covers x operation queue place) (hab : a.login.Alike named b.login)
include cover hab

theorem passage_fixed {cs : List Char} (h : Within IsPlain cs) :
    (∃ f, (x.withAccount a).passage cs = .error f ∧ (x.withAccount b).passage cs = .error f) ∨
      ∃ p q, (x.withAccount a).passage cs = .ok p ∧ (x.withAccount b).passage cs = .ok q ∧
        RedirectAlike named place ⟨cs, p⟩ ⟨cs, q⟩ := by
  have hc (a : Account) : (x.withAccount a).config.hasCredentials = true :=
    x.config.hasCredentials_withAccount a
  have hu (a : Account) : (x.withAccount a).config.userinfo? = some a.login.text := rfl
  have ht (a : Account) : (x.withAccount a).trusted = x.trusted := rfl
  simp only [passage, hc, hu, ht, Bool.not_true, Bool.or_false]
  cases hs : split cs with
  | error e => exact .inl ⟨_, rfl, rfl⟩
  | ok parts =>
      refine .inr ?_
      simp only
      split
      · exact ⟨.plain, .plain, rfl, rfl, .fixed cs h .plain (by simp)⟩
      · cases hport : parts.port? with
        | error e => exact ⟨.plain, .plain, rfl, rfl, .fixed cs h .plain (by simp)⟩
        | ok given =>
            simp only
            split
            · next hk =>
                have hplain := plain_of_split hs h
                have hplace := cover.known parts hplain given (checkBrackets_of_split hs) hport hk
                have htext (a : Account) : (parts.withUser a.login.text).text =
                    (parts.place hplain).dress a.login := Parts.text_withUser hplain a.login
                refine ⟨.admitted (parts.withUser a.login.text).text,
                  .admitted (parts.withUser b.login.text).text, rfl, rfl, ?_⟩
                rw [htext, htext]
                exact .admitted cs (parts.place hplain) hplace a.login b.login hab
            · exact ⟨_, _, rfl, rfl, .fixed cs h _ (by simp)⟩

omit cover hab in
theorem passage_dress (y : Executor) (p : Place) (l : Login) :
    y.passage (p.dress l) = match checkBrackets p.authority with
      | .error e => .error (.reference e)
      | .ok _ => .ok .plain := by
  simp only [passage, p.split_dress l]
  cases checkBrackets p.authority with
  | error e => rfl
  | ok _ =>
      have hn : (l.name).isEmpty = false := by simpa using l.name_ne
      simp [Except.map, username_withUser, hn]

theorem redirect_alike {cs ds : List Char} (h : Uri.Alike named place cs ds) {location : String}
    (hl : Within IsPlain location.toList) :
    (∃ f, (x.withAccount a).redirect cs location = .error f ∧
        (x.withAccount b).redirect ds location = .error f) ∨
      ∃ r s, (x.withAccount a).redirect cs location = .ok r ∧
        (x.withAccount b).redirect ds location = .ok s ∧ RedirectAlike named place r s := by
  have fixed {cs : List Char} (h : Within IsPlain cs) :
      (∃ f, ((x.withAccount a).passage cs).map (Redirect.mk cs) = .error f ∧
          ((x.withAccount b).passage cs).map (Redirect.mk cs) = .error f) ∨
        ∃ r s, ((x.withAccount a).passage cs).map (Redirect.mk cs) = .ok r ∧
          ((x.withAccount b).passage cs).map (Redirect.mk cs) = .ok s ∧
            RedirectAlike named place r s := by
    rcases passage_fixed cover hab h with ⟨f, ha, hb⟩ | ⟨p, q, ha, hb, hpq⟩
    · rw [ha, hb]
      exact .inl ⟨f, rfl, rfl⟩
    · rw [ha, hb]
      exact .inr ⟨_, _, rfl, rfl, hpq⟩
  simp only [redirect]
  cases h with
  | fixed cs h =>
      cases hj : join cs location.toList with
      | error e => exact .inl ⟨_, rfl, rfl⟩
      | ok spelled => exact fixed (plain_join h hl hj)
  | dressed p hp l m hlm =>
      obtain ⟨r, hr, hq⟩ := join_dress p hl
      rw [hr, hr]
      cases r with
      | error e => exact .inl ⟨_, rfl, rfl⟩
      | ok spot =>
          cases spot with
          | fixed cs h => exact fixed h
          | dressed q =>
              obtain ⟨hs, ha⟩ := hq q rfl
              have hplace := cover.moved p q hp hs ha
              simp only [Except.map, Spot.text, passage_dress]
              cases checkBrackets q.authority with
              | error e => exact .inl ⟨_, rfl, rfl⟩
              | ok _ => exact .inr ⟨_, _, rfl, rfl, .dressed q hplace l m hlm⟩

end Redirects

end Executor

end SqlCluster
