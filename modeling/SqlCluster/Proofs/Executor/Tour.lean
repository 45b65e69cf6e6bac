import SqlCluster.Executor.Walk
import Mathlib.Data.List.Forall2
/-!
What a walk hands to the client. The requests of one peer form a chain: each goes where the answer
before it leads, and the last one settles the peer. The requests of a walk are the chains of the
peers in order, up to the first peer that does not simply fail.
-/
namespace SqlCluster

open Http

namespace Call

def Succeeded (c : Call) (content : List UInt8) : Prop :=
  ∃ r, c.answer = .ok r ∧ r.status = 200 ∧ r.body = content

end Call

namespace Executor

variable {σ : Type} {x : Executor} {operation : Operation} {peer : Peer} {body : List UInt8}

/-- What an answer leads to, one case for each way in which it can fall out. -/
inductive Verdict (x : Executor) (operation : Operation) (peer : Peer) (url : List Char) :
    Except SendError Response → Hop → Prop
  | unanswered {e : SendError} {f : Http.Failure} (h : e.failure? = some f) :
      Verdict x operation peer url (.error e) (.done (.failed
        ⟨peer.address, shownUrl url, kindOf f.cause, described f, none⟩))
  | leaked {e : SendError} {f : Fault} (h : unsent peer url e = .escaped f) :
      Verdict x operation peer url (.error e) (.done (.escaped f))
  | stranded {r : Response} (hr : isRedirect operation r = true) (hl : r.location?.getD "" = "") :
      Verdict x operation peer url (.ok r) (.done (.failed ⟨peer.address, shownUrl url, .status,
        "redirect without Location header", some r.status⟩))
  | unresolved {r : Response} {f : Fault} (hr : isRedirect operation r = true)
      (hl : r.location?.getD "" ≠ "") (h : x.redirect url (r.location?.getD "") = .error f) :
      Verdict x operation peer url (.ok r) (.done (.escaped f))
  | redirected {r : Response} {t : Redirect} (hr : isRedirect operation r = true)
      (hl : r.location?.getD "" ≠ "") (h : x.redirect url (r.location?.getD "") = .ok t) :
      Verdict x operation peer url (.ok r) (.onward t)
  | success {r : Response} (hr : isRedirect operation r = false) (hs : r.status = 200) :
      Verdict x operation peer url (.ok r) (.done (.answered r.body))
  | unreadable {r : Response} {e : Text.CharsetError} (hr : isRedirect operation r = false)
      (hs : r.status ≠ 200) (h : r.text = .error e) :
      Verdict x operation peer url (.ok r) (.done (.escaped (.units e)))
  | refused {r : Response} {text : List Char} (hr : isRedirect operation r = false)
      (hs : r.status ≠ 200) (h : r.text = .ok text) :
      Verdict x operation peer url (.ok r) (.done (.failed
        ⟨peer.address, shownUrl url, .status, statusDetail r.status text, some r.status⟩))

theorem verdict_next (url : List Char) (answer : Except SendError Response) :
    Verdict x operation peer url answer (x.next operation peer url answer) := by
  cases answer with
  | error e =>
      cases e with
      | failed f => exact .unanswered (f := f) rfl
      | invalid e => exact .unanswered (f := ⟨.invalidUrl, e.message⟩) rfl
      | _ => exact .leaked rfl
  | ok r =>
      simp only [next]
      split
      · next hr =>
          split
          · next hl => exact .stranded hr hl
          · next hl =>
              split
              · next f h => exact .unresolved hr hl h
              · next t h => exact .redirected hr hl h
      · next hr =>
          have hr : isRedirect operation r = false := by simpa using hr
          split
          · next hs => exact .success hr hs
          · next hs =>
              split
              · next e h => exact .unreadable hr hs h
              · next text h => exact .refused hr hs h

theorem verdict_of_next {url : List Char} {answer : Except SendError Response} {hop : Hop}
    (h : x.next operation peer url answer = hop) : Verdict x operation peer url answer hop :=
  h ▸ verdict_next url answer

theorem isRedirect_of_success {r : Response} (h : r.status = 200) :
    isRedirect operation r = false := by
  have hs : redirectCodes.contains (200 : Int) = false := by decide
  rw [isRedirect, h, hs, Bool.and_false]

theorem next_of_success {url : List Char} {r : Response} (h : r.status = 200) :
    x.next operation peer url (.ok r) = .done (.answered r.body) := by
  simp [next, isRedirect_of_success h, h]

theorem fault_of_redirect {url : List Char} {location : String} {f : Fault}
    (h : x.redirect url location = .error f) : (∃ e, f = .reference e) ∨ f = .unquotable := by
  simp only [redirect] at h
  split at h
  · next e _ => exact .inl ⟨e, (Except.error.inj h).symm⟩
  · next spelled _ =>
      have hp : x.passage spelled = .error f := by
        cases hp : x.passage spelled with
        | ok p => simp [hp, Except.map] at h
        | error g => simpa [hp, Except.map] using h
      simp only [passage] at hp
      split at hp
      · next e _ => exact .inl ⟨e, (Except.error.inj hp).symm⟩
      · split at hp
        · cases hp
        · split at hp
          · cases hp
          · split at hp
            · split at hp
              · cases hp
              · exact .inr (Except.error.inj hp).symm
            · cases hp

theorem cancelled_of_next {url : List Char} {answer : Except SendError Response}
    (h : x.next operation peer url answer = .done (.escaped .cancelled)) :
    answer = .error .cancelled := by
  cases verdict_of_next h with
  | @leaked e _ he => cases e <;> simp [unsent, failure] at he ⊢
  | unresolved _ _ hf => rcases fault_of_redirect hf with ⟨e, he⟩ | he <;> cases he

theorem escaped_ne_allPeersFailed {url : List Char} {answer : Except SendError Response}
    {fs : List PeerFailure} :
    x.next operation peer url answer ≠ .done (.escaped (.allPeersFailed fs)) := by
  intro h
  cases verdict_of_next h with
  | @leaked e _ he => cases e <;> simp [unsent, failure] at he
  | unresolved _ _ hf => rcases fault_of_redirect hf with ⟨e, he⟩ | he <;> cases he

theorem peer_of_next {url : List Char} {answer : Except SendError Response} {f : PeerFailure}
    (h : x.next operation peer url answer = .done (.failed f)) : f.peer = peer.address := by
  cases verdict_of_next h <;> rfl

theorem success_of_next {url : List Char} {answer : Except SendError Response}
    {content : List UInt8} (h : x.next operation peer url answer = .done (.answered content)) :
    ∃ r, answer = .ok r ∧ r.status = 200 ∧ r.body = content := by
  cases verdict_of_next h with
  | success _ hs => exact ⟨_, rfl, hs, rfl⟩

/-- The requests of one peer, from a URL on, and what they come to. -/
inductive Chain (x : Executor) (operation : Operation) (peer : Peer) (body : List UInt8) :
    Nat → List Char → List Call → Attempt → Prop
  | spent (url : List Char) : Chain x operation peer body 0 url []
      (failure peer url .redirect ("more than " ++ toString x.maxRedirects ++ " redirects") none)
  | done {fuel : Nat} {url : List Char} {answer : Except SendError Response} {n : Nat}
      {a : Attempt} (h : x.next operation peer url answer = .done a) :
      Chain x operation peer body (fuel + 1) url [⟨methodOf operation, url, body, answer, n⟩] a
  | onward {fuel : Nat} {url : List Char} {answer : Except SendError Response} {n : Nat}
      {r : Redirect} {calls : List Call} {a : Attempt}
      (h : x.next operation peer url answer = .onward r)
      (rest : Chain x operation peer body fuel r.target calls a) :
      Chain x operation peer body (fuel + 1) url
        (⟨methodOf operation, url, body, answer, n⟩ :: calls) a

theorem chain_hops (serve : Server σ) (fuel : Nat) (url : List Char) (w : World σ) :
    Chain x operation peer body fuel url (x.hops serve operation peer body fuel url w).calls
      (x.hops serve operation peer body fuel url w).outcome := by
  induction fuel generalizing url w with
  | zero => exact .spent url
  | succ fuel ih =>
      simp only [hops]
      split
      · next a h => exact .done h
      · next r h => exact .onward h (ih r.target _)

namespace Chain

variable {fuel : Nat} {url : List Char} {calls : List Call} {a : Attempt}

theorem head_url (h : Chain x operation peer body (fuel + 1) url calls a) :
    ∃ c rest, calls = c :: rest ∧ c.url = url := by
  cases h with
  | done _ => exact ⟨_, [], rfl, rfl⟩
  | onward _ _ => exact ⟨_, _, rfl, rfl⟩

theorem peer_of_failed (h : Chain x operation peer body fuel url calls a) {f : PeerFailure}
    (ha : a = .failed f) : f.peer = peer.address := by
  induction h with
  | spent url =>
      simp only [failure, Attempt.failed.injEq] at ha
      rw [← ha]
  | done hn =>
      rw [ha] at hn
      exact peer_of_next hn
  | onward _ _ ih => exact ih ha

theorem ne_allPeersFailed (h : Chain x operation peer body fuel url calls a)
    (fs : List PeerFailure) : a ≠ .escaped (.allPeersFailed fs) := by
  induction h with
  | spent url => simp [failure]
  | done hn =>
      intro ha
      rw [ha] at hn
      exact escaped_ne_allPeersFailed hn
  | onward _ _ ih => exact ih

theorem last_of_done (P : Call → Prop) (h : Chain x operation peer body fuel url calls a)
    (hs : ∀ url : List Char, a ≠
      failure peer url .redirect ("more than " ++ toString x.maxRedirects ++ " redirects") none)
    (hd : ∀ url answer n, x.next operation peer url answer = .done a →
      P ⟨methodOf operation, url, body, answer, n⟩) :
    ∃ c, calls.getLast? = some c ∧ P c := by
  induction h with
  | spent url => exact absurd rfl (hs url)
  | done hn => exact ⟨_, rfl, hd _ _ _ hn⟩
  | onward _ _ ih =>
      obtain ⟨c, hc, hP⟩ := ih hs hd
      exact ⟨c, by simp [List.getLast?_cons, hc], hP⟩

theorem last_of_answered {content : List UInt8}
    (h : Chain x operation peer body fuel url calls (.answered content)) :
    ∃ c, calls.getLast? = some c ∧ c.Succeeded content :=
  h.last_of_done _ (by simp [failure]) fun _ _ _ hn => success_of_next hn

theorem last_of_cancelled (h : Chain x operation peer body fuel url calls (.escaped .cancelled)) :
    ∃ c, calls.getLast? = some c ∧ c.answer = .error .cancelled :=
  h.last_of_done _ (by simp [failure]) fun _ _ _ hn => cancelled_of_next hn

theorem answered_of_mem (h : Chain x operation peer body fuel url calls a) {c : Call}
    {content : List UInt8} (hc : c ∈ calls) (hs : c.Succeeded content) : a = .answered content := by
  induction h with
  | spent url => simp at hc
  | done hn =>
      obtain ⟨r, hr, h200, hb⟩ := hs
      rw [List.mem_singleton.mp hc] at hr
      simp only at hr
      rw [hr, next_of_success h200] at hn
      rw [← hb]
      exact (Hop.done.inj hn).symm
  | onward hn _ ih =>
      rcases List.mem_cons.mp hc with rfl | hc
      · obtain ⟨r, hr, h200, -⟩ := hs
        simp only at hr
        rw [hr, next_of_success h200] at hn
        cases hn
      · exact ih hc

theorem cancelled_of_mem (h : Chain x operation peer body fuel url calls a) {c : Call}
    (hc : c ∈ calls) (hs : c.answer = .error .cancelled) : a = .escaped .cancelled := by
  induction h with
  | spent url => simp at hc
  | done hn =>
      rw [List.mem_singleton.mp hc] at hs
      simp only at hs
      rw [hs] at hn
      exact (Hop.done.inj hn).symm
  | onward hn _ ih =>
      rcases List.mem_cons.mp hc with rfl | hc
      · simp only at hs
        rw [hs] at hn
        cases hn
      · exact ih hc

end Chain

def Turn (x : Executor) (operation : Operation) (body : List UInt8) (queue : Bool) (peer : Peer)
    (calls : List Call) (a : Attempt) : Prop :=
  ∃ url, x.config.assembleUrl? operation peer queue = some url ∧
    Chain x operation peer body (x.maxRedirects + 1).toNat url calls a

def Tried (x : Executor) (operation : Operation) (body : List UInt8) (queue : Bool) :
    List Peer → List (List Call × PeerFailure) → Prop :=
  List.Forall₂ fun peer slot => Turn x operation body queue peer slot.1 (.failed slot.2)

inductive Stop (x : Executor) (operation : Operation) (body : List UInt8) (queue : Bool)
    (peer : Peer) : List Call → Except Fault (List UInt8) → Prop
  | answered {calls : List Call} {content : List UInt8}
      (h : Turn x operation body queue peer calls (.answered content)) :
      Stop x operation body queue peer calls (.ok content)
  | escaped {calls : List Call} {f : Fault}
      (h : Turn x operation body queue peer calls (.escaped f)) :
      Stop x operation body queue peer calls (.error f)
  | unquotable (h : x.config.assembleUrl? operation peer queue = none) :
      Stop x operation body queue peer [] (.error .unquotable)

/-- The requests of a walk over peers, after which those before have failed. -/
inductive Tour (x : Executor) (operation : Operation) (body : List UInt8) (queue : Bool)
    (peers : List Peer) (failures : List PeerFailure) :
    List Call → Except Fault (List UInt8) → Prop
  | exhausted {slots : List (List Call × PeerFailure)}
      (tried : Tried x operation body queue peers slots) :
      Tour x operation body queue peers failures (slots.flatMap (·.1))
        (.error (.allPeersFailed (failures ++ slots.map (·.2))))
  | stopped {before after : List Peer} {peer : Peer} {slots : List (List Call × PeerFailure)}
      {calls : List Call} {outcome : Except Fault (List UInt8)}
      (split : peers = before ++ peer :: after) (tried : Tried x operation body queue before slots)
      (stop : Stop x operation body queue peer calls outcome) :
      Tour x operation body queue peers failures (slots.flatMap (·.1) ++ calls) outcome

theorem Tour.cons {queue : Bool} {peers : List Peer} {failures : List PeerFailure}
    {block calls : List Call} {f : PeerFailure} {outcome : Except Fault (List UInt8)}
    (ht : Turn x operation body queue peer block (.failed f))
    (h : Tour x operation body queue peers (failures ++ [f]) calls outcome) :
    Tour x operation body queue (peer :: peers) failures (block ++ calls) outcome := by
  cases h with
  | @exhausted slots tried =>
      have tried' : Tried x operation body queue (peer :: peers) ((block, f) :: slots) :=
        .cons ht tried
      have h : Tour x operation body queue (peer :: peers) failures _ _ := .exhausted tried'
      simpa [List.append_assoc] using h
  | @stopped before after p slots calls _ split tried stop =>
      have hp : peer :: peers = (peer :: before) ++ p :: after := by rw [split, List.cons_append]
      have tried' : Tried x operation body queue (peer :: before) ((block, f) :: slots) :=
        .cons ht tried
      have h : Tour x operation body queue (peer :: peers) failures _ _ := .stopped hp tried' stop
      simpa [List.append_assoc] using h

theorem turn_attempt (serve : Server σ) (queue : Bool) {url : List Char}
    (h : x.config.assembleUrl? operation peer queue = some url) (w : World σ) :
    Turn x operation body queue peer (x.attempt serve operation body queue peer w).calls
      (x.attempt serve operation body queue peer w).outcome := by
  refine ⟨url, h, ?_⟩
  simp only [attempt, h]
  exact chain_hops serve _ url _

theorem tour_tryPeers (serve : Server σ) (queue : Bool) (peers : List Peer)
    (failures : List PeerFailure) (w : World σ) :
    Tour x operation body queue peers failures
      (x.tryPeers serve operation body queue peers failures w).calls
      (x.tryPeers serve operation body queue peers failures w).outcome := by
  induction peers generalizing failures w with
  | nil =>
      have tried : Tried x operation body queue [] [] := .nil
      have h : Tour x operation body queue [] failures _ _ := .exhausted tried
      simpa [tryPeers] using h
  | cons peer peers ih =>
      have stopped {calls : List Call} {outcome : Except Fault (List UInt8)}
          (hs : Stop x operation body queue peer calls outcome) :
          Tour x operation body queue (peer :: peers) failures calls outcome := by
        have tried : Tried x operation body queue [] [] := .nil
        exact .stopped rfl tried hs
      simp only [tryPeers]
      generalize w.note x.tracer _ = v
      cases hu : x.config.assembleUrl? operation peer queue with
      | none =>
          simp only [attempt, hu]
          exact stopped (.unquotable hu)
      | some url =>
          have ht : Turn x operation body queue peer _ _ := turn_attempt serve queue hu v
          split
          · next content hc =>
              rw [hc] at ht
              exact stopped (.answered ht)
          · next f hf =>
              rw [hf] at ht
              exact stopped (.escaped ht)
          · next f hf =>
              rw [hf] at ht
              exact (ih (failures ++ [f]) _).cons ht

theorem tour_walk (serve : Server σ) (queue : Bool) (w : World σ)
    (h : x.topology.orderedPeers x.favorSeed ≠ []) :
    Tour x operation body queue (x.topology.orderedPeers x.favorSeed) []
      (x.walk serve operation body queue w).calls
      (x.walk serve operation body queue w).outcome := by
  simp only [walk]
  split
  · next hp => exact absurd hp h
  · next peer peers hp =>
      rw [hp]
      exact tour_tryPeers serve queue (peer :: peers) [] _

def twoPeers : Executor where
  client := ownClient
  config := .default
  topology := .make (some ⟨"a", 4001⟩) [⟨"b", 4001⟩] none
  tracer := ⟨.silent, []⟩
  favorSeed := false
  maxRedirects := defaultRedirects

end Executor

end SqlCluster
