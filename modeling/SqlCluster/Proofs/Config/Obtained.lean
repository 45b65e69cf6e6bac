import SqlCluster.Config.Url
import SqlCluster.Proofs.Outcome
/-!
The settings that can be had: read from a URL, made from the defaults, or changed from others. They
always name a peer.
-/
namespace SqlCluster

open Outcome

theorem Peer.make_eq_ok {host : String} {port : Int} {p : Peer} : make host port = .ok p ↔
    host.isEmpty = false ∧ isValidPort port = true ∧ p = ⟨host, port.toNat⟩ := by
  rw [make]
  cases host.isEmpty <;> cases isValidPort port <;> simp [eq_comm]

namespace Config

def changed (b : Config) (o : Options) (scheme : Scheme) (timeout : Value) : Config where
  seeds := o.seeds.getD b.seeds
  scheme := scheme
  username := o.username.getD b.username
  password := o.password.getD b.password
  level := o.level.getD b.level
  timeout := timeout
  disableDiscovery := o.disableDiscovery.getD b.disableDiscovery
  transaction := o.transaction.getD b.transaction
  queuedWrites := o.queuedWrites.getD b.queuedWrites

theorem withOptions_eq_ok {b c : Config} {o : Options} :
    b.withOptions o = .ok c ↔ o.seeds.getD b.seeds ≠ [] ∧
      ∃ scheme timeout, orKeep b.scheme schemeOf o.scheme = .ok scheme ∧
        orKeep b.timeout checkTimeout o.timeout = .ok timeout ∧ b.changed o scheme timeout = c := by
  cases hs : o.seeds.getD b.seeds with
  | nil => simp [withOptions, hs, bind, Except.bind, throw, throwThe, MonadExceptOf.throw]
  | cons p ps =>
      cases hc : orKeep b.scheme schemeOf o.scheme <;>
        cases ht : orKeep b.timeout checkTimeout o.timeout <;>
        simp [withOptions, hs, hc, ht, bind, Except.bind, pure, Except.pure, changed]

def hostOrDefault (parts : Uri.Parts) : String :=
  if parts.hostname = [] then defaultHost else String.ofList parts.hostname

def urlOptions (parts : Uri.Parts) (seeds : List Peer) (level : Level) (timeout : Value)
    (disable : Bool) : Options where
  seeds := some (distinct seeds)
  scheme := some (.text (String.ofList parts.scheme))
  username := some (.text (userText parts.username))
  password := some (.text (userText parts.password))
  level := some level
  timeout := some timeout
  disableDiscovery := some (.bool disable)

theorem ofParts_eq_ok {first : List Char} {rest : List (List Char)} {c : Config} :
    ofParts first rest = .ok c ↔ startsHttp first = true ∧
      ∃ r, cutUrl first = .ok r ∧
      ∃ primary, Peer.make (hostOrDefault r.1) (r.2.getD Peer.defaultPort) = .ok primary ∧
      ∃ others, furtherPeers rest = .ok others ∧
      ∃ level, orKeep Level.weak (fun t => levelOf (.text t))
        (option? "level" (Uri.Query.fields r.1.query)) = .ok level ∧
      ∃ timeout, orKeep default.timeout timeoutOfText
        (option? "timeout" (Uri.Query.fields r.1.query)) = .ok timeout ∧
      ∃ disable, orKeep false (flagOf "disableClusterDiscovery")
        (option? "disableClusterDiscovery" (Uri.Query.fields r.1.query)) = .ok disable ∧
      make (urlOptions r.1 (primary :: others) level timeout disable) = .ok c := by
  cases hs : startsHttp first with
  | false => simp [ofParts, hs, bind, Except.bind, throw, throwThe, MonadExceptOf.throw]
  | true =>
      simp only [ofParts, hs, Bool.not_true, Bool.false_eq_true, if_false, bind_eq_ok, true_and]
      rfl

inductive Obtained : Config → Prop
  | ofUrl {url : List Char} {c : Config} (h : ofUrl url = .ok c) : Obtained c
  | make {o : Options} {c : Config} (h : make o = .ok c) : Obtained c
  | withOptions {b c : Config} {o : Options} (hb : Obtained b) (h : b.withOptions o = .ok c) :
      Obtained c

theorem ofParts_of_ofUrl {url : List Char} {c : Config} (h : ofUrl url = .ok c) :
    ∃ first rest, ofParts first rest = .ok c := by
  simp only [Config.ofUrl] at h
  split at h
  · cases h
  · split at h
    · cases h
    · exact ⟨_, _, h⟩

theorem make_of_ofUrl {url : List Char} {c : Config} (h : ofUrl url = .ok c) :
    ∃ o, make o = .ok c := by
  obtain ⟨first, rest, h⟩ := ofParts_of_ofUrl h
  obtain ⟨-, _, -, _, -, _, -, _, -, _, -, _, -, hm⟩ := ofParts_eq_ok.mp h
  exact ⟨_, hm⟩

theorem Obtained.seeds_ne_nil {c : Config} (h : c.Obtained) : c.seeds ≠ [] := by
  have changed_ne {b : Config} {o : Options} (h : b.withOptions o = .ok c) : c.seeds ≠ [] := by
    obtain ⟨hs, scheme, timeout, -, -, rfl⟩ := withOptions_eq_ok.mp h
    exact hs
  cases h with
  | ofUrl h =>
      obtain ⟨o, ho⟩ := make_of_ofUrl h
      exact changed_ne ho
  | make h => exact changed_ne h
  | withOptions _ h => exact changed_ne h

end Config

end SqlCluster
