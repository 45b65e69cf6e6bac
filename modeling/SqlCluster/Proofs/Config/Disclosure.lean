import SqlCluster.Proofs.Config.Gap
import SqlCluster.Proofs.Config.Obtained
/-!
What a connection URL that is refused gives away of a password in it: nothing, unless the error
quotes the address that the password stands in.
-/
namespace SqlCluster.Config

open Text Uri Outcome

theorem furtherPeers_cons (part : List Char) (parts : List (List Char)) :
    furtherPeers (part :: parts) = if part = [] then furtherPeers parts else
      (Peer.parse part Peer.defaultPort).bind fun p =>
        (furtherPeers parts).bind fun ps => .ok (p :: ps) := by
  rw [furtherPeers]
  rfl

theorem Gap.fill_ne_nil (g : Gap) (w : List Char) : g.fill w ≠ [] := by
  obtain ⟨cs, h⟩ := g.fill_eq_cons w
  rw [h]
  exact List.cons_ne_nil _ _

theorem furtherPeers_fill (g : Gap) (xs ys : List (List Char)) :
    SteadyOrExposes fun w => furtherPeers (xs ++ g.fill w.chars :: ys) := by
  induction xs with
  | nil =>
      simp only [List.nil_append, furtherPeers_cons, g.fill_ne_nil, if_false]
      exact g.parse_fill.bind _
  | cons x xs ih =>
      simp only [List.cons_append, furtherPeers_cons]
      split
      · exact ih
      · cases Peer.parse x Peer.defaultPort with
        | error e => exact .inl ⟨.error e, fun _ => rfl⟩
        | ok p => exact ih.bind _

def settle (r : Parts × Option Nat) (others : Except ConfigError (List Peer)) :
    Except ConfigError Config := do
  let primary ← Peer.make (hostOrDefault r.1) (r.2.getD Peer.defaultPort)
  let others ← others
  let level ← orKeep Level.weak (fun t => levelOf (.text t))
    (option? "level" (Query.fields r.1.query))
  let timeout ← orKeep default.timeout timeoutOfText (option? "timeout" (Query.fields r.1.query))
  let disable ← orKeep false (flagOf "disableClusterDiscovery")
    (option? "disableClusterDiscovery" (Query.fields r.1.query))
  make (urlOptions r.1 (primary :: others) level timeout disable)

theorem ofParts_eq (first : List Char) (rest : List (List Char)) :
    ofParts first rest = if startsHttp first then
      (cutUrl first).bind fun r => settle r (furtherPeers rest) else .error .notHttp := by
  rw [ofParts]
  cases startsHttp first <;> rfl

theorem settle_further (r : Parts × Option Nat) {others : Word → Except ConfigError (List Peer)}
    (h : SteadyOrExposes others) : SteadyOrExposes fun w => settle r (others w) := by
  simp only [settle]
  cases Peer.make (hostOrDefault r.1) (r.2.getD Peer.defaultPort) with
  | error e => exact .inl ⟨.error e, fun _ => rfl⟩
  | ok p => exact h.bind _

theorem ofParts_further (first : List Char) {rest : Word → List (List Char)}
    (h : SteadyOrExposes fun w => furtherPeers (rest w)) :
    SteadyOrExposes fun w => ofParts first (rest w) := by
  simp only [ofParts_eq]
  cases startsHttp first with
  | false => exact .inl ⟨.error .notHttp, fun _ => rfl⟩
  | true =>
      cases cutUrl first with
      | error e => exact .inl ⟨.error e, fun _ => rfl⟩
      | ok r => exact settle_further r h

def withPassword (c : Config) (w : List Char) : Config :=
  { c with password := .text (String.ofList w) }

theorem make_eq (o : Options) : make o =
    if (o.seeds.getD default.seeds).isEmpty then .error .noPeers else
      (orKeep default.scheme schemeOf o.scheme).bind fun scheme =>
        (orKeep default.timeout checkTimeout o.timeout).bind fun timeout =>
          .ok (default.changed o scheme timeout) := by
  rw [make, withOptions]
  split <;> rfl

theorem make_urlOptions (g : Gap) {w : List Char} (hw : Within (isWordChar · = true) w)
    (seeds : List Peer) (level : Level) (timeout : Value) (disable : Bool) :
    make (urlOptions (g.parts w) seeds level timeout disable) =
      (make (urlOptions (g.parts []) seeds level timeout disable)).map (·.withPassword w) := by
  have hu : (g.parts w).username = (g.parts []).username := by
    rw [g.username_parts, g.username_parts]
  have hp : userText (g.parts w).password = String.ofList w := by
    rw [g.password_parts, Gap.userText_word hw]
  have hs : (g.parts w).scheme = (g.parts []).scheme := rfl
  simp only [make_eq, urlOptions, hu, hp, hs, Option.getD_some]
  split
  · rfl
  · cases orKeep default.scheme schemeOf (some (.text (String.ofList (g.parts []).scheme))) with
    | error e => rfl
    | ok scheme => cases orKeep default.timeout checkTimeout (some timeout) <;> rfl

theorem settle_parts (g : Gap) {w : List Char} (hw : Within (isWordChar · = true) w)
    (port : Option Nat) (others : Except ConfigError (List Peer)) :
    settle (g.parts w, port) others =
      (settle (g.parts [], port) others).map (·.withPassword w) := by
  have hh : hostOrDefault (g.parts w) = hostOrDefault (g.parts []) := by
    simp only [hostOrDefault, g.hostname_parts]
  have hq : (g.parts w).query = (g.parts []).query := rfl
  simp only [settle, hh, hq, make_urlOptions g hw]
  cases Peer.make (hostOrDefault (g.parts [])) (port.getD Peer.defaultPort) with
  | error e => rfl
  | ok primary =>
      cases others with
      | error e => rfl
      | ok others =>
          cases orKeep Level.weak (fun t => levelOf (.text t))
              (option? "level" (Query.fields (g.parts []).query)) with
          | error e => rfl
          | ok level =>
              cases orKeep default.timeout timeoutOfText
                  (option? "timeout" (Query.fields (g.parts []).query)) with
              | error e => rfl
              | ok timeout =>
                  cases orKeep false (flagOf "disableClusterDiscovery")
                    (option? "disableClusterDiscovery" (Query.fields (g.parts []).query)) <;> rfl

theorem startsHttp_fill (g : Gap) (w : List Char) : startsHttp (g.fill w) = true := by
  rw [Gap.fill]
  cases g.scheme <;> rfl

theorem ofParts_fill (g : Gap) (rest : List (List Char)) :
    (∃ e, ∀ w : Word, ofParts (g.fill w.chars) rest = .error e) ∨
      Exposes (fun w => ofParts (g.fill w.chars) rest) ∨
      ∃ c : Config, ∀ w : Word, ofParts (g.fill w.chars) rest = .ok (c.withPassword w.chars) := by
  simp only [ofParts_eq, startsHttp_fill, if_true]
  rcases g.cutUrl_fill with ⟨e, h⟩ | ⟨error, he, h⟩ | ⟨port, h⟩
  · refine .inl ⟨e, ?_⟩
    intro w
    simp only [h, Except.bind]
  · refine .inr (.inl ⟨error, he, ?_⟩)
    intro w
    simp only [h, Except.bind]
  · have hs : ∀ w : Word, settle (g.tidy.parts w.chars, port) (furtherPeers rest) = _ :=
      fun w => settle_parts g.tidy w.isWord port (furtherPeers rest)
    cases hb : settle (g.tidy.parts [], port) (furtherPeers rest) with
    | error e =>
        refine .inl ⟨e, ?_⟩
        intro w
        rw [h, Except.bind, hs, hb]
        rfl
    | ok c =>
        refine .inr (.inr ⟨c, ?_⟩)
        intro w
        rw [h, Except.bind, hs, hb]
        rfl

/-- The place of a password in a URL: what stands in front of the comma before its part and behind
the comma after it, where there are any, and the part itself, of which blanks at either end are
dropped. -/
structure Seat where
  earlier : Option (List Char)
  blanks : List Char
  gap : Gap
  later : Option (List Char)
  blanks_chars : Within (isBlank · = true) blanks
  user_part : ',' ∉ gap.user
  rest_part : ',' ∉ gap.rest

namespace Seat

def part (s : Seat) (w : Word) : List Char := s.blanks ++ s.gap.fill w.chars

def url (s : Seat) (w : Word) : List Char :=
  s.earlier.elim [] (· ++ [',']) ++ (s.part w ++ s.later.elim [] (',' :: ·))

def trimmedPieces (cs : Option (List Char)) : List (List Char) :=
  cs.elim [] fun cs => (splitAt ',' cs).map (trim isBlank)

theorem comma_not_mem (s : Seat) (w : Word) : ',' ∉ s.part w := by
  have hb : ',' ∉ s.blanks := s.blanks_chars.not_mem (by decide)
  have hs : ',' ∉ s.gap.scheme.name.toList := by cases s.gap.scheme <;> decide
  have hw : ',' ∉ w.chars := w.isWord.not_mem (by decide)
  simp [part, Gap.fill, hb, hs, hw, s.user_part, s.rest_part]

theorem pieces_url (s : Seat) (w : Word) : (splitAt ',' (s.url w)).map (trim isBlank) =
    trimmedPieces s.earlier ++ s.gap.trimmed.fill w.chars :: trimmedPieces s.later := by
  have hpart := s.comma_not_mem w
  have htrim : trim isBlank (s.part w) = s.gap.trimmed.fill w.chars :=
    s.gap.trim_fill s.blanks_chars w.chars
  have htail : (splitAt ',' (s.part w ++ s.later.elim [] (',' :: ·))).map (trim isBlank) =
      s.gap.trimmed.fill w.chars :: trimmedPieces s.later := by
    cases s.later with
    | none =>
        simp only [Option.elim_none, List.append_nil, splitAt_of_not_mem hpart, List.map_singleton,
          htrim, trimmedPieces]
    | some later =>
        simp only [Option.elim_some, splitAt_append later hpart, List.map_cons, htrim,
          trimmedPieces]
  rw [url]
  cases s.earlier with
  | none => simpa only [Option.elim_none, List.nil_append, trimmedPieces] using htail
  | some earlier =>
      simp only [Option.elim_some, List.append_assoc, List.singleton_append, splitAt_append_cons,
        List.map_append, htail, trimmedPieces]

theorem ofUrl_url (s : Seat) (w : Word) {first : List Char} {rest : List (List Char)}
    (h : trimmedPieces s.earlier ++ s.gap.trimmed.fill w.chars :: trimmedPieces s.later =
      first :: rest) : ofUrl (s.url w) = ofParts first rest := by
  have hp := s.pieces_url w
  rw [← trim_splitAt_trim (by decide)] at hp
  rw [ofUrl]
  split
  · next ht =>
      have hm : s.gap.trimmed.fill w.chars ∈ (splitAt ',' []).map (trim isBlank) := by
        rw [← ht, hp]
        exact List.mem_append_right _ List.mem_cons_self
      exact absurd (List.mem_singleton.mp hm) (s.gap.trimmed.fill_ne_nil w.chars)
  · rw [hp, h]

/-- A URL with a password is refused with the same error whatever the password, or with one that
gives it away, or is read, and then nothing but the password depends on it. -/
theorem answers (s : Seat) :
    (∃ e, ∀ w, ofUrl (s.url w) = .error e) ∨ Exposes (fun w => ofUrl (s.url w)) ∨
      ∃ c, ∀ w, ofUrl (s.url w) = .ok (if s.earlier = none then c.withPassword w.chars else c) := by
  cases he : trimmedPieces s.earlier with
  | nil =>
      have hnone : s.earlier = none := by
        cases hs : s.earlier with
        | none => rfl
        | some cs =>
            rw [hs, trimmedPieces, Option.elim_some, List.map_eq_nil_iff] at he
            exact absurd he (splitAt_ne_nil ',' cs)
      have hu : ∀ w, ofUrl (s.url w) =
          ofParts (s.gap.trimmed.fill w.chars) (trimmedPieces s.later) :=
        fun w => s.ofUrl_url w (by rw [he]; rfl)
      simp only [hu, hnone, if_true]
      exact ofParts_fill s.gap.trimmed (trimmedPieces s.later)
  | cons first xs =>
      have hsome : s.earlier ≠ none := by
        intro hs
        rw [hs] at he
        cases he
      have hu : ∀ w, ofUrl (s.url w) =
          ofParts first (xs ++ s.gap.trimmed.fill w.chars :: trimmedPieces s.later) :=
        fun w => s.ofUrl_url w (by rw [he]; rfl)
      simp only [hu, hsome, if_false]
      rcases ofParts_further first (furtherPeers_fill s.gap.trimmed xs (trimmedPieces s.later)) with
        ⟨a, ha⟩ | h
      · cases a with
        | error e => exact .inl ⟨e, ha⟩
        | ok c => exact .inr (.inr ⟨c, ha⟩)
      · exact .inr (.inl h)

end Seat

/-- Whether a URL is read does not depend on a password in it, and if it is not, the two messages
differ exactly where the error quotes the address that the password stands in. -/
theorem ofUrl_password (s : Seat) (v w : Word) :
    (ofUrl (s.url v)).isOk = (ofUrl (s.url w)).isOk ∧
      (∀ c d, ofUrl (s.url v) = .ok c → ofUrl (s.url w) = .ok d →
        d = if s.earlier = none then c.withPassword w.chars else c) ∧
      ∀ e f, ofUrl (s.url v) = .error e → ofUrl (s.url w) = .error f →
        (e.message = f.message ↔ v = w ∨ ¬Exposes fun w => ofUrl (s.url w)) ∧
          (e.quotesAddress = false → e = f) := by
  rcases s.answers with ⟨a, ha⟩ | ⟨error, he, ha⟩ | ⟨c, hc⟩
  · have hnot : v = w ∨ ¬Exposes fun w => ofUrl (s.url w) := by
      refine or_iff_not_imp_right.mpr ?_
      intro hx
      obtain ⟨error, he, hb⟩ := not_not.mp hx
      have hsame : ∀ w, error w = a := fun w => Except.error.inj ((hb w).symm.trans (ha w))
      exact he.inj (by rw [hsame, hsame])
    refine ⟨by rw [ha, ha], ?_, ?_⟩
    · intro c d hc
      rw [ha] at hc
      cases hc
    · intro e f hv hw
      rw [ha] at hv hw
      cases hv
      cases hw
      exact ⟨iff_of_true rfl hnot, fun _ => rfl⟩
  · have ha : ∀ w, ofUrl (s.url w) = .error (error w) := ha
    have hshown : Exposes fun w => ofUrl (s.url w) := ⟨error, he, ha⟩
    refine ⟨by simp only [ha, Except.isOk, Except.toBool], ?_, ?_⟩
    · intro c d hc
      rw [ha] at hc
      cases hc
    · intro e f hv hw
      have hquotes := he.1 v
      rw [ha] at hv hw
      cases hv
      cases hw
      refine ⟨⟨fun hm => .inl (he.inj hm), ?_⟩, ?_⟩
      · rintro (rfl | hn)
        · rfl
        · exact absurd hshown hn
      · intro hq
        rw [hquotes] at hq
        cases hq
  · refine ⟨by simp only [hc, Except.isOk, Except.toBool], ?_, ?_⟩
    · intro a b hv hw
      rw [hc] at hv hw
      cases hv
      cases hw
      split <;> rfl
    · intro e f hv
      rw [hc] at hv
      cases hv

/-- `http://a:4001,http://u:…@b:bad` -/
def badPortSeat : Seat where
  earlier := some "http://a:4001".toList
  blanks := []
  gap := ⟨.http, "u".toList, "b:bad".toList, by decide, by decide⟩
  later := none
  blanks_chars := within_nil
  user_part := by decide
  rest_part := by decide

theorem badPortSeat_quotes : ¬∀ (s : Seat) (v w : Word) (e f : ConfigError),
    ofUrl (s.url v) = .error e → ofUrl (s.url w) = .error f → e.message = f.message := by
  intro h
  have hm := h badPortSeat ⟨"secret".toList, by decide, by decide⟩
    ⟨"other".toList, by decide, by decide⟩
    (.badAddress "http://u:secret@b:bad".toList (.portText "bad".toList))
    (.badAddress "http://u:other@b:bad".toList (.portText "bad".toList)) rfl rfl
  exact absurd hm (by decide +kernel)

end SqlCluster.Config
