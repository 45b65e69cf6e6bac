import SqlCluster.Fault.Basic
import SqlCluster.Proofs.Config.Disclosure
import SqlCluster.Proofs.Number.Row
/-!
How a connection URL is refused: always as a setting. None of the errors that a value of a wrong
type or a number that cannot be compared would raise comes from text.
-/
namespace SqlCluster.Config

open Text Uri Number

variable {α β : Type}

/-- Every error, if there is one, is of the settings' own kind. -/
def OnlyRefuses (x : Except ConfigError α) : Prop :=
  ∀ e, x = .error e → (Fault.config e).kind = .configuration

theorem OnlyRefuses.ok (a : α) : OnlyRefuses (.ok a) := by
  rintro e ⟨⟩

theorem OnlyRefuses.error {e : ConfigError} (h : (Fault.config e).kind = .configuration) :
    OnlyRefuses (.error e : Except ConfigError α) := by
  rintro _ ⟨⟩
  exact h

theorem OnlyRefuses.bind {x : Except ConfigError α} {f : α → Except ConfigError β}
    (hx : OnlyRefuses x) (hf : ∀ a, x = .ok a → OnlyRefuses (f a)) : OnlyRefuses (x.bind f) := by
  cases x with
  | error e => exact .error (hx e rfl)
  | ok a => exact hf a rfl

theorem OnlyRefuses.orKeep {current : α} {check : β → Except ConfigError α}
    (h : ∀ b, OnlyRefuses (check b)) (given : Option β) :
    OnlyRefuses (Config.orKeep current check given) := by
  cases given with
  | none => exact .ok current
  | some b => exact h b

theorem kind_of_isSayable {e : ConfigError} {v : Value} (he : e.shown? = some v)
    (hv : v.isShowable = true) : (Fault.config e).kind = .configuration := by
  rw [Fault.kind, Fault.configKind_of_shown he, hv, if_pos rfl]

theorem onlyRefuses_peer (host : String) {port : Int} (h : Literal.isWritable port = true) :
    OnlyRefuses (Peer.make host port) := by
  rw [Peer.make]
  split
  · exact .error rfl
  · split
    · exact .ok _
    · exact .error (kind_of_isSayable rfl h)

theorem ofValues_text (host : String) (port : Int) :
    Peer.ofValues (.text host) (.int port) = Peer.make host port := by
  by_cases h : host = ""
  · rw [h]
    rfl
  · have htruthy : (Value.text host).isTruthy = true := by simp [Value.isTruthy, h]
    simp only [Peer.ofValues, htruthy, Bool.not_true, Bool.false_eq_true, if_false]
    rfl

theorem port_le {parts : Parts} {n : Nat} (h : parts.port? = .ok (some n)) : n ≤ 65535 := by
  rw [Parts.port?] at h
  split at h
  · cases h
  · split at h
    · cases h
    · split at h
      · cases h
      · dsimp only at h
        split at h
        · next hn =>
            cases h
            exact hn
        · cases h

theorem isWritable_port {parts : Parts} {found : Option Nat} (h : parts.port? = .ok found)
    {port : Int} (hp : Literal.isWritable port = true) :
    Literal.isWritable ((found.map fun n : Nat => (n : Int)).getD port) = true := by
  cases found with
  | none => exact hp
  | some n =>
      have hn := port_le h
      exact Literal.isWritable_of_lt (show n < 10 ^ 5 by omega)

theorem parse_cases (address : List Char) (port : Int) :
    (∃ cs e, Peer.parse address port = .error (.badAddress cs e)) ∨
      (∃ cs, Peer.parse address port = .error (.noHost cs)) ∨
      ∃ host n, Peer.parse address port = Peer.make host n ∧
        (Literal.isWritable port = true → Literal.isWritable n = true) := by
  have hport (found : Option Nat) : (found.map fun n : Nat => Value.int n).getD (.int port) =
      .int ((found.map fun n : Nat => (n : Int)).getD port) := by cases found <;> rfl
  simp only [Peer.parse, Peer.parseWith]
  split
  · exact .inl ⟨_, _, rfl⟩
  · split
    · exact .inl ⟨_, _, rfl⟩
    · next found hfound =>
        split
        · exact .inr (.inl ⟨_, rfl⟩)
        · rw [hport, ofValues_text]
          exact .inr (.inr ⟨_, _, rfl, isWritable_port hfound⟩)

theorem onlyRefuses_parse (address : List Char) {port : Int}
    (hp : Literal.isWritable port = true) : OnlyRefuses (Peer.parse address port) := by
  rcases parse_cases address port with ⟨cs, e, h⟩ | ⟨cs, h⟩ | ⟨host, n, h, hn⟩
  · rw [h]
    exact .error rfl
  · rw [h]
    exact .error rfl
  · rw [h]
    exact onlyRefuses_peer host (hn hp)

theorem isWritable_defaultPort : Literal.isWritable Peer.defaultPort = true :=
  Literal.isWritable_of_lt (by decide)

theorem onlyRefuses_further (parts : List (List Char)) : OnlyRefuses (furtherPeers parts) := by
  induction parts with
  | nil => exact .ok []
  | cons part parts ih =>
      rw [furtherPeers_cons]
      split
      · exact ih
      · exact (onlyRefuses_parse part isWritable_defaultPort).bind fun _ _ => ih.bind fun _ _ => .ok _

theorem onlyRefuses_level {v : Value} (h : v.isShowable = true) : OnlyRefuses (levelOf v) := by
  rw [levelOf]
  split
  · exact .ok _
  · exact .error (kind_of_isSayable rfl h)

theorem onlyRefuses_flag (name text : String) : OnlyRefuses (flagOf name text) := by
  simp only [flagOf]
  split
  · exact .ok _
  · split
    · exact .ok _
    · exact .error rfl

theorem onlyRefuses_timeout (text : String) : OnlyRefuses (timeoutOfText text) := by
  rw [timeoutOfText]
  split
  · exact .ok _
  · exact .error rfl

theorem exists_float {given : Option String} {v : Value}
    (h : orKeep default.timeout timeoutOfText given = .ok v) : ∃ d, v = .float d := by
  cases given with
  | none =>
      cases h
      exact ⟨_, rfl⟩
  | some text =>
      rw [orKeep, timeoutOfText] at h
      split at h
      · cases h
        exact ⟨_, rfl⟩
      · cases h

theorem onlyRefuses_make {o : Options} {s : String} {d : Double} (hs : o.scheme = some (.text s))
    (h : o.timeout = some (.float d)) : OnlyRefuses (make o) := by
  have hscheme : OnlyRefuses (orKeep default.scheme schemeOf o.scheme) := by
    rw [hs, orKeep, schemeOf]
    split
    · exact .ok _
    · exact .error rfl
  have htimeout : OnlyRefuses (orKeep default.timeout checkTimeout o.timeout) := by
    rw [h]
    cases hd : d.isAtMostZero <;> simp only [orKeep, checkTimeout, exceedsZero, hd]
    · exact .ok _
    · exact .error rfl
  rw [make_eq]
  split
  · exact .error rfl
  · exact hscheme.bind fun _ _ => htimeout.bind fun _ _ => .ok _

theorem onlyRefuses_cutUrl (first : List Char) : OnlyRefuses (cutUrl first) := by
  rw [cutUrl]
  split
  · exact .error rfl
  · split
    · exact .error rfl
    · exact .ok _

theorem isWritable_cutUrl {first : List Char} {r : Parts × Option Nat}
    (h : cutUrl first = .ok r) : Literal.isWritable (r.2.getD Peer.defaultPort) = true := by
  rw [cutUrl] at h
  split at h
  · cases h
  · split at h
    · cases h
    · next port hport =>
        cases h
        have hw := isWritable_port hport isWritable_defaultPort
        cases port <;> exact hw

theorem onlyRefuses_settle {first : List Char} {r : Parts × Option Nat} (hr : cutUrl first = .ok r)
    {others : Except ConfigError (List Peer)} (h : OnlyRefuses others) :
    OnlyRefuses (settle r others) := by
  refine (onlyRefuses_peer _ (isWritable_cutUrl hr)).bind fun primary _ => h.bind fun others _ => ?_
  refine (OnlyRefuses.orKeep (fun t => onlyRefuses_level rfl) _).bind fun level _ => ?_
  refine (OnlyRefuses.orKeep onlyRefuses_timeout _).bind fun timeout htimeout => ?_
  refine (OnlyRefuses.orKeep (onlyRefuses_flag _) _).bind fun disable _ => ?_
  obtain ⟨d, rfl⟩ := exists_float htimeout
  exact onlyRefuses_make rfl rfl

theorem onlyRefuses_ofParts (first : List Char) (rest : List (List Char)) :
    OnlyRefuses (ofParts first rest) := by
  rw [ofParts_eq]
  split
  · exact (onlyRefuses_cutUrl first).bind fun r hr =>
      onlyRefuses_settle hr (onlyRefuses_further rest)
  · exact .error rfl

theorem onlyRefuses_ofUrl (url : List Char) : OnlyRefuses (ofUrl url) := by
  rw [ofUrl]
  split
  · exact .error rfl
  · split
    · exact .error rfl
    · exact onlyRefuses_ofParts _ _

end SqlCluster.Config
