import SqlCluster.Proofs.Executor.Tour
import SqlCluster.Http.Script
/-!
What leaves a walk. A walk is settled when it returns the content of a success or reports a failure
of every peer; some answers of a single peer keep it from that.
-/
namespace SqlCluster.Executor

open Http

variable {σ : Type} {x : Executor} {operation : Operation} {queue : Bool} {peer : Peer}
  {body : List UInt8}

/-- A walk that ends in a success, or with the failures of all peers, each of which had its turn. -/
inductive Settled (x : Executor) (operation : Operation) (body : List UInt8) (queue : Bool) :
    List Call → Except Fault (List UInt8) → Prop
  | answered {calls : List Call} {content : List UInt8} {c : Call} (last : calls.getLast? = some c)
      (success : c.Succeeded content) : Settled x operation body queue calls (.ok content)
  | exhausted {slots : List (List Call × PeerFailure)}
      (tried : Tried x operation body queue (x.topology.orderedPeers x.favorSeed) slots) :
      Settled x operation body queue (slots.flatMap (·.1))
        (.error (.allPeersFailed (slots.map (·.2))))

def resolve (url location : List Char) : Except Uri.SplitError Uri.Parts :=
  Uri.join url location >>= Uri.split

/-- The answers that are not counted as a failure of the peer: an error that the client does not
report as a failed request, a redirect to a location that cannot be resolved, and a refusal whose
text cannot be read. -/
inductive Leaks (operation : Operation) : Call → Prop
  | unsent {c : Call} {e : SendError} (h : c.answer = .error e)
      (hf : e.failure? = none) : Leaks operation c
  | unresolved {c : Call} {r : Response} {e : Uri.SplitError} (h : c.answer = .ok r)
      (hr : isRedirect operation r = true) (hl : r.location?.getD "" ≠ "")
      (he : resolve c.url (r.location?.getD "").toList = .error e) : Leaks operation c
  | unreadable {c : Call} {r : Response} {e : Text.CharsetError} (h : c.answer = .ok r)
      (hr : isRedirect operation r = false) (hs : r.status ≠ 200) (he : r.text = .error e) :
      Leaks operation c

theorem userinfo_of_userPart (hu : x.config.userPart? ≠ none)
    (hc : x.config.hasCredentials = true) : x.config.userinfo? ≠ none := by
  intro h
  simp [Config.userPart?, hc, h] at hu

theorem passage_of_split {url : List Char} {parts : Uri.Parts} (hu : x.config.userPart? ≠ none)
    (h : Uri.split url = .ok parts) : ∃ p, x.passage url = .ok p := by
  simp only [passage, h]
  split
  · exact ⟨_, rfl⟩
  · next hc =>
      have hc : x.config.hasCredentials = true := by
        cases hb : x.config.hasCredentials with
        | true => rfl
        | false => simp [hb] at hc
      split
      · exact ⟨_, rfl⟩
      · split
        · split
          · exact ⟨_, rfl⟩
          · next hn => exact absurd hn (userinfo_of_userPart hu hc)
        · exact ⟨_, rfl⟩

theorem redirect_eq_error_iff {url : List Char} {location : String} {f : Fault}
    (hu : x.config.userPart? ≠ none) :
    x.redirect url location = .error f ↔
      ∃ e, resolve url location.toList = .error e ∧ f = .reference e := by
  simp only [redirect, resolve]
  cases hj : Uri.join url location.toList with
  | error e => simp [bind, Except.bind, eq_comm]
  | ok spelled =>
      cases hs : Uri.split spelled with
      | error e => simp [passage, hs, bind, Except.bind, Except.map, eq_comm]
      | ok parts =>
          obtain ⟨p, hp⟩ := passage_of_split hu hs
          simp [hp, hs, bind, Except.bind, Except.map]

/-- A fault leaves a peer's turn exactly at a leaking answer. -/
theorem escapes_iff_leaks {url : List Char} {answer : Except SendError Response}
    (hu : x.config.userPart? ≠ none) (body : List UInt8) (n : Nat) :
    (∃ f, x.next operation peer url answer = .done (.escaped f)) ↔
      Leaks operation ⟨methodOf operation, url, body, answer, n⟩ := by
  constructor
  · rintro ⟨f, h⟩
    cases verdict_of_next h with
    | @leaked e _ he =>
        refine .unsent rfl ?_
        cases e <;> simp [unsent, failure] at he <;> rfl
    | unresolved hr hl hf =>
        obtain ⟨e, he, -⟩ := (redirect_eq_error_iff hu).mp hf
        exact .unresolved rfl hr hl he
    | unreadable hr hs he => exact .unreadable rfl hr hs he
  · intro h
    cases h with
    | @unsent e h hf =>
        obtain rfl : answer = .error e := h
        cases e with
        | failed f => cases hf
        | invalid e => cases hf
        | _ => exact ⟨_, rfl⟩
    | @unresolved r e h hr hl he =>
        obtain rfl : answer = .ok r := h
        have hf := (redirect_eq_error_iff hu).mpr ⟨e, he, rfl⟩
        exact ⟨.reference e, by simp [next, hr, hl, hf]⟩
    | @unreadable r e h hr hs he =>
        obtain rfl : answer = .ok r := h
        exact ⟨.units e, by simp [next, hr, hs, he]⟩

theorem Chain.escapes_iff {fuel : Nat} {url : List Char} {calls : List Call} {a : Attempt}
    (hu : x.config.userPart? ≠ none) (h : Chain x operation peer body fuel url calls a) :
    (∃ f, a = .escaped f) ↔ ∃ c ∈ calls, Leaks operation c := by
  induction h with
  | spent url => simp [failure]
  | @done _ url answer n a hn =>
      have he : (∃ f, a = .escaped f) ↔ ∃ f, x.next operation peer url answer = .done (.escaped f) := by
        simp [hn]
      rw [he, escapes_iff_leaks hu body n]
      simp
  | @onward _ url answer n r calls a hn _ ih =>
      have he : ¬∃ f, x.next operation peer url answer = .done (.escaped f) := by simp [hn]
      rw [escapes_iff_leaks hu body n] at he
      rw [ih]
      simp [he]

theorem Turn.userPart {calls : List Call} {a : Attempt}
    (h : Turn x operation body queue peer calls a) : x.config.userPart? ≠ none := by
  obtain ⟨url, hurl, -⟩ := h
  intro hu
  simp [Config.assembleUrl?, hu] at hurl

theorem Turn.escapes_iff {calls : List Call} {a : Attempt}
    (h : Turn x operation body queue peer calls a) :
    (∃ f, a = .escaped f) ↔ ∃ c ∈ calls, Leaks operation c := by
  have hu := h.userPart
  obtain ⟨url, -, hc⟩ := h
  exact hc.escapes_iff hu

theorem Tried.not_leaks {peers : List Peer} {slots : List (List Call × PeerFailure)}
    (h : Tried x operation body queue peers slots) {c : Call} (hc : c ∈ slots.flatMap (·.1)) :
    ¬Leaks operation c := by
  induction h with
  | nil => simp at hc
  | @cons _ slot _ _ ht _ ih =>
      rw [List.flatMap_cons, List.mem_append] at hc
      rcases hc with hc | hc
      · intro hl
        obtain ⟨f, hf⟩ := ht.escapes_iff.mpr ⟨c, hc, hl⟩
        cases hf
      · exact ih hc

theorem Tried.userPart {peers : List Peer} {slots : List (List Call × PeerFailure)}
    (h : Tried x operation body queue peers slots) (hp : peers ≠ []) :
    x.config.userPart? ≠ none := by
  cases h with
  | nil => exact absurd rfl hp
  | cons ht _ => exact ht.userPart

theorem not_settled {calls : List Call} {f : Fault} (hf : ∀ fs, f ≠ .allPeersFailed fs) :
    ¬Settled x operation body queue calls (.error f) := by
  intro h
  cases h with
  | exhausted _ => exact hf _ rfl

theorem Tour.settled_iff {calls : List Call} {outcome : Except Fault (List UInt8)}
    (hp : x.topology.orderedPeers x.favorSeed ≠ [])
    (h : Tour x operation body queue (x.topology.orderedPeers x.favorSeed) [] calls outcome) :
    Settled x operation body queue calls outcome ↔
      x.config.userPart? ≠ none ∧ ∀ c ∈ calls, ¬Leaks operation c := by
  cases h with
  | exhausted tried =>
      rw [List.nil_append]
      exact iff_of_true (.exhausted tried)
        ⟨tried.userPart hp, fun c hc => tried.not_leaks hc⟩
  | stopped hs tried stop =>
      cases stop with
      | answered ht =>
          have hu := ht.userPart
          have hn : ∀ c ∈ _, ¬Leaks operation c := fun c hc hl => by
            obtain ⟨f, hf⟩ := ht.escapes_iff.mpr ⟨c, hc, hl⟩
            cases hf
          obtain ⟨url, -, hchain⟩ := ht
          obtain ⟨c, hlast, hc⟩ := hchain.last_of_answered
          refine iff_of_true (.answered (c := c) ?_ hc) ⟨hu, fun c hc => ?_⟩
          · rw [List.getLast?_append, hlast, Option.some_or]
          · rcases List.mem_append.mp hc with hc | hc
            · exact tried.not_leaks hc
            · exact hn c hc
      | @escaped _ f ht =>
          obtain ⟨c, hc, hl⟩ := ht.escapes_iff.mp ⟨f, rfl⟩
          obtain ⟨url, -, hchain⟩ := ht
          have hf : ∀ fs, f ≠ .allPeersFailed fs := fun fs hf =>
            hchain.ne_allPeersFailed fs (by rw [hf])
          exact iff_of_false (not_settled hf) fun h => h.2 c (List.mem_append_right _ hc) hl
      | unquotable hn =>
          have hu : x.config.userPart? = none := by simpa [Config.assembleUrl?] using hn
          exact iff_of_false (not_settled (by simp)) fun h => h.1 hu

/-- A walk is settled exactly when the credentials can be escaped and no answer leaks. -/
theorem settled_iff_not_leaks (x : Executor) (serve : Server σ) (operation : Operation)
    (body : List UInt8) (queue : Bool) (w : World σ)
    (hp : x.topology.orderedPeers x.favorSeed ≠ []) :
    Settled x operation body queue (x.walk serve operation body queue w).calls
        (x.execute serve operation body queue w).1 ↔
      x.config.userPart? ≠ none ∧
        ∀ c ∈ (x.walk serve operation body queue w).calls, ¬Leaks operation c :=
  (tour_walk serve queue w hp).settled_iff hp

/-- The first peer redirects to a location whose bracket is never closed, the second would answer.
-/
def unclosedBracketRoutes : List Route :=
  [⟨"a:4001".toList, "/db/execute".toList,
      [.response ⟨307, [("Location", "http://a[/")], []⟩]⟩,
    ⟨"b:4001".toList, "/db/execute".toList, [.response ⟨200, [], [111, 107]⟩]⟩]

theorem unclosedBracketRoutes_not_settled :
    twoPeers.topology.orderedPeers twoPeers.favorSeed ≠ [] ∧
      (twoPeers.execute Script.serve .execute [] false ⟨unclosedBracketRoutes, [], .empty⟩).1 =
        .error (.reference .brackets) ∧
      ((twoPeers.walk Script.serve .execute [] false ⟨unclosedBracketRoutes, [], .empty⟩).calls.map
        (·.answer)) = [.ok ⟨307, [("Location", "http://a[/")], []⟩] ∧
      ¬Settled twoPeers .execute [] false
        (twoPeers.walk Script.serve .execute [] false ⟨unclosedBracketRoutes, [], .empty⟩).calls
        (twoPeers.execute Script.serve .execute [] false ⟨unclosedBracketRoutes, [], .empty⟩).1 := by
  have he : (twoPeers.execute Script.serve .execute [] false ⟨unclosedBracketRoutes, [], .empty⟩).1 =
      .error (.reference .brackets) := rfl
  refine ⟨by decide, he, rfl, ?_⟩
  rw [he]
  exact not_settled (by simp)

theorem twoPeers_settled_iff :
    twoPeers.topology.orderedPeers twoPeers.favorSeed ≠ [] ∧
      (Settled twoPeers .execute [] false
          (twoPeers.walk Script.serve .execute [] false ⟨unclosedBracketRoutes, [], .empty⟩).calls
          (twoPeers.execute Script.serve .execute [] false ⟨unclosedBracketRoutes, [], .empty⟩).1 ↔
        twoPeers.config.userPart? ≠ none ∧
          ∀ c ∈ (twoPeers.walk Script.serve .execute [] false
            ⟨unclosedBracketRoutes, [], .empty⟩).calls,
            ¬Leaks .execute c) :=
  ⟨by decide, settled_iff_not_leaks twoPeers Script.serve .execute [] false _ (by decide)⟩

end SqlCluster.Executor
