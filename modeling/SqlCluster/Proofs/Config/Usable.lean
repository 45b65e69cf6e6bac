import SqlCluster.Proofs.Config.Obtained
import SqlCluster.Proofs.Config.Refusal
/-!
Settings that can be used: they name a peer, their scheme is known, and their timeout is above zero.
All that can be had are such but for one timeout, which the check lets pass: a float that is not a
number. Other settings are refused as such, but for a decimal that is not a number and for a value
whose message cannot be written.
-/
namespace SqlCluster

open Outcome

namespace Value

def isNumber : Value → Bool
  | .float _ => true
  | .int _ => true
  | .bool _ => true
  | .decimal _ => true
  | _ => false

def isAboveZero : Value → Bool
  | .float d => d.isPositive
  | .int n => decide (0 < n)
  | .bool b => b
  | .decimal d => d.isPositive
  | _ => false

end Value

namespace Config

structure Usable (c : Config) : Prop where
  seeds : c.seeds ≠ []
  scheme : c.scheme.name = "http" ∨ c.scheme.name = "https"
  timeout : c.timeout.isAboveZero = true

def Passes (v : Value) : Prop := v.isAboveZero = true ∨ v = .float .nan

theorem exceedsZero_eq_true {v : Value} : exceedsZero v = .ok true ↔ Passes v := by
  rw [Passes]
  cases v with
  | float d => cases d <;> simp [exceedsZero, Value.isAboveZero, Number.Double.isAtMostZero,
      Number.Double.isPositive]
  | decimal d => cases d <;> simp [exceedsZero, Value.isAboveZero, Number.Decimal.isNan,
      Number.Decimal.isPositive]
  | int n => simp [exceedsZero, Value.isAboveZero]
  | bool b => simp [exceedsZero, Value.isAboveZero]
  | _ => simp [exceedsZero, Value.isAboveZero]

theorem checkTimeout_eq_ok {v w : Value} :
    checkTimeout v = .ok w ↔ w = v ∧ Passes v := by
  rw [← exceedsZero_eq_true, checkTimeout]
  cases exceedsZero v with
  | error e => simp [bind, Except.bind]
  | ok above => cases above <;> simp [bind, Except.bind, pure, Except.pure, throw, throwThe,
      MonadExceptOf.throw, eq_comm]

theorem checkTimeout_eq_error {v : Value} {e : ConfigError} (hv : v.isNumber = true)
    (h : checkTimeout v = .error e) :
    e = .lowTimeout v ∨ e = .incomparable ∧ ∃ d, v = .decimal d ∧ d.isNan = true := by
  rw [checkTimeout] at h
  cases hx : exceedsZero v with
  | ok above =>
      rw [hx] at h
      cases above with
      | true => cases h
      | false =>
          cases h
          exact .inl rfl
  | error f =>
      rw [hx] at h
      cases h
      cases v with
      | decimal d =>
          rw [exceedsZero] at hx
          split at hx
          · next hn =>
              cases hx
              exact .inr ⟨rfl, d, rfl, hn⟩
          · cases hx
      | float d => cases hx
      | int n => cases hx
      | bool b => cases hx
      | _ => cases hv

theorem schemeOf_eq_ok {v : Value} {s : Scheme} (h : schemeOf v = .ok s) :
    v.text? = some s.name := by
  rw [schemeOf] at h
  split at h
  · next t ht =>
      cases h
      obtain ⟨name, hv, hs⟩ := Option.bind_eq_some_iff.mp ht
      rw [hv]
      simp only [Scheme.ofName?] at hs
      split at hs
      · next hname =>
          cases hs
          rw [hname]
          rfl
      · split at hs
        · next hname =>
            cases hs
            rw [hname]
            rfl
        · cases hs
  · cases h

theorem schemeOf_eq_error {v : Value} {e : ConfigError} (h : schemeOf v = .error e) :
    e = .badScheme v := by
  rw [schemeOf] at h
  split at h
  · cases h
  · cases h
    rfl

theorem scheme_name (s : Scheme) : s.name = "http" ∨ s.name = "https" := by
  cases s
  · exact .inl rfl
  · exact .inr rfl

theorem orKeep_eq_error {α β : Type} {current : α} {check : β → Except ConfigError α}
    {given : Option β} {e : ConfigError} (h : orKeep current check given = .error e) :
    ∃ b, given = some b ∧ check b = .error e := by
  cases given with
  | none => cases h
  | some b => exact ⟨b, rfl, h⟩

theorem withOptions_eq_error {b : Config} {o : Options} {e : ConfigError}
    (h : b.withOptions o = .error e) : e = .noPeers ∨ (∃ v, o.scheme = some v ∧ e = .badScheme v) ∨
      ∃ v, o.timeout = some v ∧ checkTimeout v = .error e := by
  rw [withOptions] at h
  cases hs : o.seeds.getD b.seeds with
  | nil =>
      rw [hs] at h
      cases h
      exact .inl rfl
  | cons p ps =>
      cases hc : orKeep b.scheme schemeOf o.scheme with
      | error f =>
          obtain ⟨v, ho, hv⟩ := orKeep_eq_error hc
          simp only [hs, hc, List.isEmpty_cons, Bool.false_eq_true, if_false, bind, Except.bind,
            Except.error.injEq] at h
          exact .inr (.inl ⟨v, ho, h ▸ schemeOf_eq_error hv⟩)
      | ok scheme =>
          cases ht : orKeep b.timeout checkTimeout o.timeout with
          | error f =>
              simp only [hs, hc, ht, List.isEmpty_cons, Bool.false_eq_true, if_false, bind,
                Except.bind, Except.error.injEq] at h
              exact .inr (.inr (h ▸ orKeep_eq_error ht))
          | ok timeout => simp [hs, hc, ht, bind, Except.bind, pure, Except.pure] at h

theorem passes_of_change {b c : Config} {o : Options} (h : b.withOptions o = .ok c)
    (hb : Passes b.timeout) : Passes c.timeout := by
  obtain ⟨-, scheme, timeout, -, ht, rfl⟩ := withOptions_eq_ok.mp h
  show Passes timeout
  cases ho : o.timeout with
  | none =>
      rw [ho] at ht
      cases ht
      exact hb
  | some v =>
      rw [ho] at ht
      obtain ⟨rfl, hv⟩ := checkTimeout_eq_ok.mp ht
      exact hv

theorem Obtained.passes {c : Config} (h : c.Obtained) : Passes c.timeout := by
  have hdefault : Passes default.timeout := .inl (by decide)
  induction h with
  | ofUrl h =>
      obtain ⟨o, ho⟩ := make_of_ofUrl h
      exact passes_of_change ho hdefault
  | make h => exact passes_of_change h hdefault
  | withOptions _ h ih => exact passes_of_change h ih

theorem Obtained.usable_iff {c : Config} (h : c.Obtained) : c.Usable ↔ c.timeout ≠ .float .nan := by
  constructor
  · rintro hu hnan
    have ht := hu.timeout
    rw [hnan] at ht
    cases ht
  · intro hnan
    exact ⟨h.seeds_ne_nil, scheme_name c.scheme, h.passes.resolve_right hnan⟩

inductive Attempt where
  | read (url : List Char)
  | make (o : Options)
  | change (b : Config) (o : Options)

namespace Attempt

def outcome : Attempt → Except ConfigError Config
  | .read url => ofUrl url
  | .make o => Config.make o
  | .change b o => b.withOptions o

def options : Attempt → Options
  | .read _ => {}
  | .make o => o
  | .change _ o => o

/-- The settings that are changed could be had, and a timeout that is given is a number. -/
structure IsProper (a : Attempt) : Prop where
  base : ∀ b o, a = .change b o → b.Obtained
  timeout : ∀ v, a.options.timeout = some v → v.isNumber = true

/-- Usable settings, or an error of the settings' own kind. -/
def Upheld (a : Attempt) : Prop :=
  match a.outcome with
  | .ok c => c.Usable
  | .error e => (Fault.config e).kind = .configuration

theorem obtained {a : Attempt} (h : a.IsProper) {c : Config} (hc : a.outcome = .ok c) :
    c.Obtained := by
  cases a with
  | read url => exact .ofUrl hc
  | make o => exact .make hc
  | change b o => exact .withOptions (h.base b o rfl) hc

theorem scheme_of_options {a : Attempt} {c : Config} (hc : a.outcome = .ok c) {v : Value}
    (hv : a.options.scheme = some v) : v.text? = some c.scheme.name := by
  have given {b : Config} {o : Options} (h : b.withOptions o = .ok c) (ho : o.scheme = some v) :
      v.text? = some c.scheme.name := by
    obtain ⟨-, scheme, timeout, hs, -, rfl⟩ := withOptions_eq_ok.mp h
    rw [ho] at hs
    exact schemeOf_eq_ok hs
  cases a with
  | read url => cases hv
  | make o => exact given hc hv
  | change b o => exact given hc hv

/-- An error that comes of a decimal which is no number, or of a scheme or a timeout which no
message can show. -/
inductive Strays (o : Options) : ConfigError → Prop
  | incomparable (d : Number.Decimal) (ho : o.timeout = some (.decimal d)) (hd : d.isNan = true) :
      Strays o .incomparable
  | scheme (v : Value) (ho : o.scheme = some v) (hv : v.isShowable = false) :
      Strays o (.badScheme v)
  | timeout (v : Value) (ho : o.timeout = some v) (hv : v.isShowable = false) :
      Strays o (.lowTimeout v)

theorem kind_eq_or_strays {o : Options} {e : ConfigError} {v : Value} (he : e.shown? = some v)
    (hs : v.isShowable = false → Strays o e) :
    (Fault.config e).kind = .configuration ∨ Strays o e := by
  cases hv : v.isShowable with
  | true => exact .inl (kind_of_isSayable he hv)
  | false => exact .inr (hs hv)

theorem refusal {a : Attempt} (h : a.IsProper) {e : ConfigError} (he : a.outcome = .error e) :
    (Fault.config e).kind = .configuration ∨ Strays a.options e := by
  have changed {b : Config} {o : Options} (hn : ∀ v, o.timeout = some v → v.isNumber = true)
      (h : b.withOptions o = .error e) : (Fault.config e).kind = .configuration ∨ Strays o e := by
    rcases withOptions_eq_error h with rfl | ⟨v, ho, rfl⟩ | ⟨v, ho, hc⟩
    · exact .inl rfl
    · exact kind_eq_or_strays rfl (.scheme v ho)
    · rcases checkTimeout_eq_error (hn v ho) hc with rfl | ⟨rfl, d, rfl, hd⟩
      · exact kind_eq_or_strays rfl (.timeout v ho)
      · exact .inr (.incomparable d ho hd)
  cases a with
  | read url => exact .inl (onlyRefuses_ofUrl url e he)
  | make o => exact changed h.timeout he
  | change b o => exact changed h.timeout he

theorem kind_ne_of_strays {o : Options} {e : ConfigError} (h : Strays o e) :
    (Fault.config e).kind ≠ .configuration := by
  have unshown {e : ConfigError} {v : Value} (he : e.shown? = some v) (hv : v.isShowable = false) :
      (Fault.config e).kind ≠ .configuration := by
    simp [Fault.kind, Fault.configKind_of_shown he, hv]
  cases h with
  | incomparable d _ _ => decide
  | scheme v _ hv => exact unshown rfl hv
  | timeout v _ hv => exact unshown rfl hv

/-- Settings that can be had name a peer and have the scheme that is given, and can be used but
where their timeout is a float that is no number. An attempt fails with an error of the settings'
own kind, but where its timeout is a decimal that is no number or no message can show what is
refused. -/
theorem upheld_iff (a : Attempt) (h : a.IsProper) :
    (∀ c, a.outcome = .ok c → c.seeds ≠ [] ∧
      (∀ v, a.options.scheme = some v → v.text? = some c.scheme.name) ∧
      (c.Usable ↔ c.timeout ≠ .float .nan)) ∧
      (∀ e, a.outcome = .error e →
        ((Fault.config e).kind = .configuration ↔ ¬Strays a.options e)) ∧
      (a.Upheld ↔ (∀ c, a.outcome = .ok c → c.timeout ≠ .float .nan) ∧
        ∀ e, a.outcome = .error e → ¬Strays a.options e) := by
  have hkind : ∀ e, a.outcome = .error e →
      ((Fault.config e).kind = .configuration ↔ ¬Strays a.options e) := fun e he =>
    ⟨fun hk hs => kind_ne_of_strays hs hk, (refusal h he).resolve_right⟩
  refine ⟨fun c hc => ?_, hkind, ?_⟩
  · have hobtained := obtained h hc
    exact ⟨hobtained.seeds_ne_nil, fun v => scheme_of_options hc, hobtained.usable_iff⟩
  · cases ho : a.outcome with
    | ok c =>
        have hiff := (obtained h ho).usable_iff
        simp only [Upheld, ho, Except.ok.injEq, forall_eq', reduceCtorEq, ne_eq, false_implies,
          implies_true, and_true]
        exact hiff
    | error e =>
        simp only [Upheld, ho, Except.error.injEq, forall_eq', reduceCtorEq, false_implies,
          implies_true, true_and]
        exact hkind e ho

def nanTimeout : Attempt := .change default { timeout := some (.float .nan) }

theorem nanTimeout_kept : nanTimeout.IsProper ∧ ∃ c, nanTimeout.outcome = .ok c ∧ ¬c.Usable := by
  have hproper : nanTimeout.IsProper := by
    refine ⟨?_, ?_⟩
    · rintro b o ⟨⟩
      exact .make (o := {}) rfl
    · rintro v ⟨⟩
      rfl
  refine ⟨hproper, _, rfl, fun hu => ?_⟩
  exact ((upheld_iff nanTimeout hproper).1 _ rfl).2.2.mp hu rfl

theorem not_upheld_nan : ¬(Attempt.read "http://a:4001?timeout=nan".toList).Upheld := by
  have hread : ∃ c, ofUrl "http://a:4001?timeout=nan".toList = .ok c ∧ c.timeout = .float .nan :=
    ⟨_, rfl, rfl⟩
  obtain ⟨c, hc, hnan⟩ := hread
  intro hupheld
  rw [Upheld, outcome, hc] at hupheld
  have ht := Usable.timeout hupheld
  rw [hnan] at ht
  cases ht

end Attempt

end Config

end SqlCluster
