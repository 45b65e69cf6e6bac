import SqlCluster.Proofs.Connection.LinedUp
/-!
Single statements beside a cluster that keeps to the protocol. A queued request is acknowledged
without results, any other one with a result for its statement; an operation that waits for a result
gives a reply unless the request that was answered was queued, and a write is queued where the
settings say so.
-/
namespace SqlCluster

open Text Http

def Call.isQueued (c : Call) : Bool :=
  (splitAt '&' ((UrlParts.ofText c.url).query.getD [])).contains "queue".toList

/-- How the protocol answers a request of one statement: a queued one with a sequence number and no
results, any other with one entry that reports no error. -/
inductive Acknowledges (content : List UInt8) : Bool → Prop
  | queued {e : Response.Envelope} {n : Int} (hp : Response.parse content = .ok e)
      (hr : e.results = []) (hn : e.sequenceNumber = some n) : Acknowledges content true
  | carriedOut {e : Response.Envelope} {entry : Response.Entry} (hp : Response.parse content = .ok e)
      (hr : e.results = [entry]) (hf : entry.fault = .null) : Acknowledges content false

def Conforms (calls : List Call) : Prop :=
  ∀ call ∈ calls, ∀ content, call.Succeeded content → Acknowledges content call.isQueued

namespace Executor

variable {σ : Type} {x : Executor} {operation : Operation} {body : List UInt8} {queue : Bool}
  {calls : List Call}

def IsDirect (operation : Operation) (calls : List Call) : Prop :=
  ∀ call ∈ calls, ∀ r, call.answer = .ok r → isRedirect operation r = false

theorem Chain.direct {peer : Peer} {fuel : Nat} {url : List Char} {content : List UInt8}
    (h : Chain x operation peer body fuel url calls (.answered content))
    (hd : IsDirect operation calls) : ∃ call, calls = [call] ∧ call.url = url := by
  cases h with
  | done _ => exact ⟨_, rfl, rfl⟩
  | onward hn _ =>
      cases verdict_of_next hn with
      | redirected hr _ _ =>
          have hno := hd _ List.mem_cons_self _ rfl
          rw [hr] at hno
          cases hno

theorem answered_walk (serve : Server σ) (w : World σ)
    {content : List UInt8} (h : (x.walk serve operation body queue w).outcome = .ok content) :
    ∃ call, (x.walk serve operation body queue w).calls.getLast? = some call ∧
      call.Succeeded content ∧
      (IsDirect operation (x.walk serve operation body queue w).calls →
        ∃ peer ∈ x.topology.orderedPeers x.favorSeed,
          x.config.assembleUrl? operation peer queue = some call.url) := by
  by_cases hp : x.topology.orderedPeers x.favorSeed = []
  · simp only [walk, hp] at h
    cases h
  · have tour : Tour x operation body queue _ [] _ _ := tour_walk serve queue w hp
    rw [h] at tour
    generalize (x.walk serve operation body queue w).calls = calls at tour ⊢
    cases tour with
    | stopped hsplit _ stop =>
        cases stop with
        | answered ht =>
            obtain ⟨url, hu, hc⟩ := ht
            obtain ⟨call, hlast, hs⟩ := hc.last_of_answered
            refine ⟨call, by rw [List.getLast?_append, hlast, Option.some_or], hs, fun hd => ?_⟩
            obtain ⟨only, rfl, rfl⟩ := hc.direct fun call hm => hd call (List.mem_append_right _ hm)
            obtain rfl : only = call := by simpa using hlast
            refine ⟨_, ?_, hu⟩
            rw [hsplit]
            exact List.mem_append_right _ List.mem_cons_self

end Executor

theorem queued_dataQuery (level : Level) (transaction queued : Bool) :
    (splitAt '&' (dataQuery level transaction queued)).contains "queue".toList = queued := by
  cases level <;> cases transaction <;> cases queued <;> decide

theorem isQueued_of_url {config : Config} {kind : BatchKind} {peer : Peer} {call : Call}
    (hm : call.method = .post)
    (hu : config.assembleUrl? kind.operation peer (decide (kind = .queue)) = some call.url)
    (hs : peer.IsSpelled) :
    call.isQueued = true ↔ kind = .queue ∨ kind = .write ∧ config.queuedWrites.isTruthy = true := by
  obtain ⟨user, hread⟩ := (asks_of_url kind.isData_operation hm hu).read hs
  rw [Call.isQueued, hread, Option.getD_some, queued_dataQuery]
  cases kind <;> simp [BatchKind.operation]

namespace Connection

variable {σ : Type} {serve : Server σ} {c : Connection} {kind : BatchKind} {item : Item}
  {parameters : List Value} {w : World σ}

theorem runSingle_written {walk : Run σ (Except Fault (List UInt8))}
    (hw : c.walk? serve (.single kind item parameters) w = some walk) {content : List UInt8}
    (hb : walk.outcome = .ok content) :
    ∃ s body v, walk = c.walkWith serve kind body v ∧
      (c.run serve (.single kind item parameters) w).1 =
        match decode kind content with
        | .ok (.results rs) => onlyResult s rs
        | r => r := by
  simp only [walk?] at hw
  split at hw
  · next s v hs =>
      have hbatch : c.walk? serve (.batch kind [.prepared s]) v = some walk := hw
      rw [dispatch?] at hw
      split at hw
      · next hopen =>
          rw [Bool.and_eq_true] at hopen
          obtain ⟨cs, hcs, rfl⟩ := Option.map_eq_some_iff.mp hw
          have hencoded : Statement.encodeAll c.room [s] = .ok cs := by
            cases he : Statement.encodeAll c.room [s] with
            | error e =>
                rw [he] at hcs
                cases hcs
            | ok ds =>
                rw [he] at hcs
                exact congrArg Except.ok (Option.some.inj hcs)
          have hprepared : Item.statements? [.prepared s] = .ok [s] := rfl
          obtain ⟨sent, hsent, hr⟩ := runBatch_written serve v hopen.1 hprepared
            (List.cons_ne_nil s []) hencoded
          obtain rfl := Option.some.inj (hbatch.symm.trans hsent)
          refine ⟨s, _, _, rfl, ?_⟩
          rw [hb] at hr
          change (c.runSingle serve kind item parameters w).1 = _
          simp only [runSingle, hs]
          cases hbatched : c.runBatch serve kind [.prepared s] v with
          | mk r u =>
              rw [hbatched] at hr
              obtain rfl : r = decode kind content := hr
              cases decode kind content with
              | error f => rfl
              | ok reply => cases reply <;> rfl
      · cases hw
  · cases hw

theorem reply_of_acknowledges (kind : BatchKind) (s : Statement) {content : List UInt8} {queued : Bool}
    (h : Acknowledges content queued) :
    (∃ n, decode .queue content = .ok (.queued n)) ∧ (kind ≠ .queue → ∃ rs,
      decode kind content = .ok (.results rs) ∧
        ((queued = true ∧ onlyResult s rs = .error (.resultCount 0)) ∨
          (queued = false ∧ ∃ r, onlyResult s rs = .ok (.result r)))) := by
  have acknowledged {e : Response.Envelope} (hp : Response.parse content = .ok e) :
      ∃ n, decode .queue content = .ok (.queued n) :=
    ⟨e.sequenceNumber.getD 0, by simp only [decode, Response.decodeQueued, hp, Except.map]⟩
  have results {e : Response.Envelope} (hp : Response.parse content = .ok e) (hk : kind ≠ .queue) :
      decode kind content =
        .ok (.results (e.results.mapIdx fun i e => e.result kind.operation i)) := by
    refine decode_results hk ?_
    rw [Response.decode_eq kind.isData_operation, hp]
  cases h with
  | queued hp hr _ =>
      refine ⟨acknowledged hp, fun hk => ⟨_, results hp hk, .inl ⟨rfl, ?_⟩⟩⟩
      rw [hr]
      rfl
  | @carriedOut e entry hp hr hf =>
      refine ⟨acknowledged hp, fun hk => ⟨_, results hp hk, .inr ⟨rfl, ?_⟩⟩⟩
      have hok : (entry.result kind.operation 0).isOk = true := by
        have herror : (entry.result kind.operation 0).error = entry.fault := by
          rw [Response.Entry.result]
          split <;> rfl
        rw [Result.isOk, herror, hf]
      refine ⟨entry.result kind.operation 0, ?_⟩
      rw [hr]
      exact if_pos hok

/-- An operation on one statement that the cluster acknowledged gives a reply, unless it waits for a
result and its request was queued: then it fails for want of one. Of a request that is answered by a
peer of the cluster itself, this is so for a write under settings that queue writes, and for nothing
else. -/
theorem reply_iff_of_acknowledged {walk : Run σ (Except Fault (List UInt8))}
    (hw : c.walk? serve (.single kind item parameters) w = some walk) {content : List UInt8}
    (hb : walk.outcome = .ok content) (hc : Conforms walk.calls) :
    let reply := (c.run serve (.single kind item parameters) w).1
    ∃ call, walk.calls.getLast? = some call ∧ call.Succeeded content ∧
      ((∃ r, reply = .ok r) ↔ kind = .queue ∨ call.isQueued = false) ∧
      (kind ≠ .queue → call.isQueued = true → reply = .error (.resultCount 0)) ∧
      (Executor.IsDirect kind.operation walk.calls →
        (∀ p ∈ c.topology.orderedPeers c.favorSeed, p.IsSpelled) →
        ((∃ r, reply = .ok r) ↔
          ¬(kind = .write ∧ c.config.queuedWrites.isTruthy = true))) := by
  intro reply
  obtain ⟨s, body, v, rfl, hreply⟩ := runSingle_written hw hb
  obtain ⟨call, hlast, hs, hdirect⟩ := Executor.answered_walk serve v hb
  have hmem := List.mem_of_getLast? hlast
  obtain ⟨hqueue, hresults⟩ := reply_of_acknowledges kind s (hc call hmem content hs)
  have hfails : kind ≠ .queue → call.isQueued = true → reply = .error (.resultCount 0) := by
    intro hk hq
    obtain ⟨rs, hd, ⟨-, hnone⟩ | ⟨hno, -⟩⟩ := hresults hk
    · exact hreply.trans (by rw [hd]; exact hnone)
    · rw [hq] at hno
      cases hno
  have hiff : (∃ r, reply = .ok r) ↔ kind = .queue ∨ call.isQueued = false := by
    constructor
    · rintro ⟨r, hr⟩
      refine or_iff_not_imp_left.mpr fun hk => Bool.eq_false_iff.mpr fun hq => ?_
      rw [hfails hk hq] at hr
      cases hr
    · intro hcases
      by_cases hk : kind = .queue
      · subst hk
        obtain ⟨n, hn⟩ := hqueue
        exact ⟨.queued n, hreply.trans (by rw [hn])⟩
      · have hq := hcases.resolve_left hk
        obtain ⟨rs, hd, ⟨hyes, -⟩ | ⟨-, r, hone⟩⟩ := hresults hk
        · rw [hq] at hyes
          cases hyes
        · exact ⟨.result r, hreply.trans (by rw [hd]; exact hone)⟩
  refine ⟨call, hlast, hs, hiff, hfails, fun hd hspelled => hiff.trans ?_⟩
  obtain ⟨peer, hp, hu⟩ := hdirect hd
  have hpost : call.method = .post := ((sameBody_walkWith c serve kind body v).made call hmem).1
  have hqueued : call.isQueued = true ↔
      kind = .queue ∨ kind = .write ∧ c.config.queuedWrites.isTruthy = true :=
    isQueued_of_url hpost hu (hspelled peer hp)
  rw [← Bool.not_eq_true, hqueued]
  cases kind <;> simp

theorem conforms_of_alone {content : List UInt8} {queued : Bool}
    (hq : (c.walk? serve (.single kind item parameters) w).map (·.calls.map Call.isQueued) =
      some [queued])
    (hb : (c.walk? serve (.single kind item parameters) w).bind (·.outcome.toOption) = some content)
    (h : Acknowledges content queued) :
    ∃ walk, c.walk? serve (.single kind item parameters) w = some walk ∧
      walk.outcome = .ok content ∧ Conforms walk.calls ∧
      Executor.IsDirect kind.operation walk.calls := by
  obtain ⟨walk, hw, hq⟩ := Option.map_eq_some_iff.mp hq
  rw [hw, Option.bind_some] at hb
  have houtcome : walk.outcome = .ok content := by
    cases ho : walk.outcome with
    | error f =>
        rw [ho] at hb
        cases hb
    | ok other =>
        rw [ho] at hb
        exact congrArg Except.ok (Option.some.inj hb)
  refine ⟨walk, hw, houtcome, ?_⟩
  obtain ⟨s, body, v, rfl, -⟩ := runSingle_written hw houtcome
  obtain ⟨call, hlast, ⟨r, hr, hstatus, hbody⟩, -⟩ := Executor.answered_walk serve v houtcome
  -- The request that succeeded is the only one.
  obtain ⟨only, rest, hcalls, rfl, hnil⟩ := List.map_eq_cons_iff.mp hq
  obtain rfl := List.map_eq_nil_iff.mp hnil
  obtain rfl : call = only := List.mem_singleton.mp (hcalls ▸ List.mem_of_getLast? hlast)
  have answer {other : Call} {r' : Http.Response} (ho : other ∈ [call])
      (hr' : other.answer = .ok r') : r' = r := by
    rw [List.mem_singleton.mp ho, hr] at hr'
    exact (Except.ok.inj hr').symm
  rw [hcalls]
  constructor
  · rintro other ho content' ⟨r', hr', -, hbody'⟩
    obtain rfl := answer ho hr'
    rw [List.mem_singleton.mp ho, ← hbody', hbody]
    exact h
  · intro other ho r' hr'
    obtain rfl := answer ho hr'
    exact Executor.isRedirect_of_success hstatus

def oneWrite : Item := .plain (.text "a")

def executedBody : List UInt8 := Utf8.encode "\x7b\"results\":[\x7b\"rows_affected\":1\x7d]\x7d".toList

theorem executedBody_carriedOut : Acknowledges executedBody false := by
  have hparse : (Response.parse executedBody).toOption.map (·.results.map (·.error.get?)) =
      some [none] := by decide +kernel
  cases he : Response.parse executedBody with
  | error e =>
      rw [he] at hparse
      cases hparse
  | ok e =>
      rw [he] at hparse
      obtain ⟨entry, rest, hr, hnone, hnil⟩ := List.map_eq_cons_iff.mp (Option.some.inj hparse)
      obtain rfl := List.map_eq_nil_iff.mp hnil
      refine .carriedOut he hr ?_
      rw [Response.Entry.fault, hnone]
      rfl

def queuedBody : List UInt8 := Utf8.encode "\x7b\"results\":[],\"sequence_number\":7\x7d".toList

theorem queuedBody_queued : Acknowledges queuedBody true := by
  have hparse : (Response.parse queuedBody).toOption.map
      (fun e => (e.results.length, e.sequenceNumber)) = some (0, some 7) := by decide +kernel
  cases he : Response.parse queuedBody with
  | error e =>
      rw [he] at hparse
      cases hparse
  | ok e =>
      rw [he] at hparse
      obtain ⟨hr, hn⟩ := Prod.mk.inj (Option.some.inj hparse)
      exact .queued he (List.length_eq_zero_iff.mp hr) hn

def answeringWrites (body : List UInt8) : World (List Route) where
  server := [⟨"a:4001".toList, "/db/execute".toList, [.response ⟨200, [], body⟩]⟩]
  sent := []
  journal := .empty

theorem oneWrite_acknowledged :
    ∃ walk, openedOnTwoSeeds.walk? Script.serve (.single .write oneWrite [])
          (answeringWrites executedBody) = some walk ∧
      walk.outcome = .ok executedBody ∧ Conforms walk.calls ∧
      ∃ r, (openedOnTwoSeeds.run Script.serve (.single .write oneWrite [])
        (answeringWrites executedBody)).1 = .ok r := by
  have hq : (openedOnTwoSeeds.walk? Script.serve (.single .write oneWrite [])
      (answeringWrites executedBody)).map (·.calls.map Call.isQueued) = some [false] := by
    decide +kernel
  have hb : (openedOnTwoSeeds.walk? Script.serve (.single .write oneWrite [])
      (answeringWrites executedBody)).bind (·.outcome.toOption) = some executedBody := by decide +kernel
  obtain ⟨walk, hw, hb, hc, hd⟩ := conforms_of_alone hq hb executedBody_carriedOut
  have hspelled : ∀ p ∈ openedOnTwoSeeds.topology.orderedPeers openedOnTwoSeeds.favorSeed,
      p.IsSpelled := by
    have hplain : ∀ p ∈ openedOnTwoSeeds.topology.orderedPeers openedOnTwoSeeds.favorSeed,
        Within (endsHost · = false) p.host.toList ∧ p.host.toList.head? ≠ some '[' := by decide
    exact fun p hp => ⟨(hplain p hp).1, fun _ => (hplain p hp).2⟩
  have hplain : ¬(BatchKind.write = .write ∧
      openedOnTwoSeeds.config.queuedWrites.isTruthy = true) := by decide
  obtain ⟨call, -, -, -, -, hiff⟩ := reply_iff_of_acknowledged hw hb hc
  exact ⟨walk, hw, hb, hc, (hiff hd hspelled).mpr hplain⟩

def queueingConnection : Connection :=
  (openedOnTwoSeeds.run Script.serve (.setQueuedWrites (.bool true))
    (answeringWrites queuedBody)).2.1

/-- A write that the cluster has queued, as it was asked to, is reported as a failure. -/
theorem oneWrite_misreported :
    queueingConnection.isOpen = true ∧
      ∃ walk, queueingConnection.walk? Script.serve (.single .write oneWrite [])
            (answeringWrites queuedBody) = some walk ∧
        walk.outcome = .ok queuedBody ∧ Conforms walk.calls ∧
        (queueingConnection.run Script.serve (.single .write oneWrite [])
          (answeringWrites queuedBody)).1 = .error (.resultCount 0) := by
  have hq : (queueingConnection.walk? Script.serve (.single .write oneWrite [])
      (answeringWrites queuedBody)).map (·.calls.map Call.isQueued) = some [true] := by decide +kernel
  have hb : (queueingConnection.walk? Script.serve (.single .write oneWrite [])
      (answeringWrites queuedBody)).bind (·.outcome.toOption) = some queuedBody := by decide +kernel
  obtain ⟨walk, hw, hb, hc, -⟩ := conforms_of_alone hq hb queuedBody_queued
  obtain ⟨s, _, _, -, hreply⟩ := runSingle_written hw hb
  have hk : BatchKind.write ≠ .queue := nofun
  obtain ⟨-, hresults⟩ := reply_of_acknowledges .write s queuedBody_queued
  obtain ⟨rs, hd, ⟨-, hnone⟩ | ⟨hno, -⟩⟩ := hresults hk
  · exact ⟨rfl, walk, hw, hb, hc, hreply.trans (by rw [hd]; exact hnone)⟩
  · cases hno

end Connection

end SqlCluster
