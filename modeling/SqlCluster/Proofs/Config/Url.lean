import SqlCluster.Proofs.Config.Obtained
import SqlCluster.Proofs.Executor.Landing
import SqlCluster.Proofs.Text.Pieces
import SqlCluster.Proofs.Uri.Escape
/-!
The URL that is sent to a peer is a connection URL as well. Read as one, it gives back the scheme,
the peer, the name and password and the level that it was put together from.
-/
namespace SqlCluster

open Text Uri

namespace Uri

def isUrlChar (c : Char) : Bool := isUnreserved c || "%:@/[]?&=".toList.contains c

theorem isUrlChar_spec {c : Char} (h : isUrlChar c = true) : isBlank c = false ∧ c ≠ ',' := by
  have hc : c.toNat < 128 := by
    rw [isUrlChar, Bool.or_eq_true] at h
    rcases h with h | h
    · exact lt_of_isUnreserved h
    · exact lt_of_contains (by decide) h
  exact of_ascii (P := fun c => isUrlChar c = true → isBlank c = false ∧ c ≠ ',')
    (by decide +kernel) hc h

theorem isUrlChar_of_isPeerChar {c : Char} (h : isPeerChar c = true) : isUrlChar c = true :=
  IsPlain.of_ascii (P := fun c => isPeerChar c = true → isUrlChar c = true) (by decide +kernel)
    (isPeerChar_spec h).1.1 h

theorem urlChars_escape (cs : List Char) : Within (isUrlChar · = true) (escape cs) := by
  rw [escape_eq_escapeUnless]
  refine within_escapeUnless (by decide) (by decide) ?_ cs
  intro c hc
  rw [Bool.or_false] at hc
  rw [isUrlChar, hc, Bool.true_or]

theorem trim_of_within {cs : List Char} (h : Within (isUrlChar · = true) cs) :
    trim isBlank cs = cs :=
  (h.mono fun _ hc => (isUrlChar_spec hc).1).trim_eq

def Place.bare (p : Place) : List Char := p.scheme ++ ':' :: '/' :: '/' :: (p.authority ++ p.rest)

theorem Place.split_bare (p : Place) (hs : p.scheme ≠ []) :
    split p.bare = (checkBrackets p.authority).map fun _ => p.parts := by
  have ha : cutAuthority ('/' :: '/' :: (p.authority ++ p.rest)) = (p.authority, p.rest) :=
    cutAuthority_append (p.authority_chars.mono fun _ h => h.2) p.opens
  have hd := checkDisguised_of_plain p.authority_plain
  have hplain : Within IsPlain p.bare := by
    rw [bare, within_append, within_cons, within_cons, within_cons, within_append]
    exact ⟨p.isScheme.plain, by decide, by decide, by decide, p.authority_plain, p.rest_chars⟩
  have hhead : p.bare.head? ≠ some ' ' := by
    rcases p.isScheme with h | ⟨c, ds, h, hc, -, -⟩
    · exact absurd h hs
    · rw [bare, h, List.cons_append, List.head?_cons]
      intro he
      rw [Option.some.inj he] at hc
      exact absurd hc (by decide)
  have hcut : cutScheme p.bare = (p.scheme, '/' :: '/' :: (p.authority ++ p.rest)) :=
    cutScheme_append p.isScheme hs _
  simp only [split, cleaned_of_plain hplain hhead, hcut, ha, hd]
  cases checkBrackets p.authority <;> rfl

end Uri

namespace Config

variable {c : Config} {operation : Operation} {queue : Bool} {peer : Peer}

theorem ofUrl_of_urlChars {url : List Char} (h : Within (isUrlChar · = true) url) (hne : url ≠ []) :
    ofUrl url = ofParts url [] := by
  have hcomma : ',' ∉ url := fun hm => (isUrlChar_spec (h ',' hm)).2 rfl
  have htrim := trim_of_within h
  obtain ⟨x, xs, rfl⟩ := List.exists_cons_of_ne_nil hne
  simp only [ofUrl, htrim, splitAt_of_not_mem hcomma, List.map_cons, List.map_nil]

theorem urlChars_address (h : peer.IsNamed) : Within (isUrlChar · = true) peer.addressChars := by
  have hh : Within (isUrlChar · = true) peer.host.toList :=
    h.host_chars.mono fun _ hc => isUrlChar_of_isPeerChar hc
  have hd : Within (isUrlChar · = true) (decimal peer.port) := by
    intro c hc
    have hrow : isAsciiDigit c = true := isRow_decimal peer.port c hc
    exact of_asciiDigit (P := fun c => isUrlChar c = true) (by decide) hrow
  simp only [Peer.addressChars, within_append, within_cons]
  refine ⟨?_, by decide, hd⟩
  split
  · rw [within_append, within_cons]
    exact ⟨⟨by decide, hh⟩, by decide⟩
  · exact hh

theorem urlChars_rest (c : Config) (operation : Operation) (queue : Bool) :
    Within (isUrlChar · = true) (operation.path.toList ++ c.flags operation queue) := by
  have hl : Within (isUrlChar · = true) c.level.name.toList := by cases c.level <;> decide
  have hp : Within (isUrlChar · = true) operation.path.toList := by cases operation <;> decide
  rw [within_append, flags]
  refine ⟨hp, ?_⟩
  split
  · simp only [within_append]
    refine ⟨⟨⟨by decide, hl⟩, ?_⟩, ?_⟩
    · split <;> decide
    · split <;> decide
  · exact within_nil

theorem query_of_place (c : Config) (operation : Operation) (queue : Bool) (h : peer.IsNamed) :
    (c.place operation queue h).parts.query = (c.flags operation queue).drop 1 := by
  have hhash : '#' ∉ operation.path.toList ++ c.flags operation queue :=
    (urlChars_rest c operation queue).not_mem (by decide)
  have hpath : '?' ∉ operation.path.toList := by cases operation <;> decide
  have hopen : c.flags operation queue = [] ∨ ∃ query, c.flags operation queue = '?' :: query := by
    rw [flags]
    split
    · exact .inr ⟨_, rfl⟩
    · exact .inl rfl
  have hq : (c.place operation queue h).parts.query =
    (cutAt '?' (cutAt '#' (operation.path.toList ++ c.flags operation queue)).1).2 := rfl
  have hcut : cutAt '#' (operation.path.toList ++ c.flags operation queue) =
      (operation.path.toList ++ c.flags operation queue, []) := by
    rw [cutAt, cutFirst?_eq_none hhash, Option.getD_none]
  rw [hq, hcut, cutAt]
  rcases hopen with hf | ⟨query, hf⟩
  · rw [hf, List.append_nil, cutFirst?_eq_none hpath]
    rfl
  · rw [hf, cutFirst?_append hpath]
    rfl

theorem options_of_place (c : Config) (operation : Operation) (queue : Bool) (h : peer.IsNamed) :
    let fields := Query.fields (c.place operation queue h).parts.query
    option? "level" fields = (if operation.isData then some c.level.name else none) ∧
      option? "timeout" fields = none ∧ option? "disableClusterDiscovery" fields = none := by
  rw [query_of_place, flags]
  generalize c.level = level
  cases operation.isData with
  | false => exact ⟨rfl, rfl, rfl⟩
  | true =>
      rw [if_pos rfl, if_pos rfl]
      split <;> split <;> cases level <;> decide +kernel

theorem startsHttp_scheme (scheme : Scheme) (rest : List Char) :
    startsHttp (scheme.name.toList ++ ':' :: '/' :: '/' :: rest) = true := by
  cases scheme with
  | http =>
      have h : after? "http://".toList ("http".toList ++ ':' :: '/' :: '/' :: rest) = some rest :=
        after?_append "http://".toList rest
      simp only [startsHttp, Scheme.name, h, Option.isSome_some, Bool.true_or]
  | https =>
      have h : after? "https://".toList ("https".toList ++ ':' :: '/' :: '/' :: rest) = some rest :=
        after?_append "https://".toList rest
      simp only [startsHttp, Scheme.name, h, Option.isSome_some, Bool.or_true]

theorem scheme_ne_nil (scheme : Scheme) : scheme.name.toList ≠ [] := by cases scheme <;> decide

theorem assembleUrl_bare (hc : c.hasCredentials = false) (h : peer.IsNamed) :
    c.assembleUrl? operation peer queue = some (c.place operation queue h).bare := by
  have hmark : "://".toList = [':', '/', '/'] := rfl
  have huser : c.userPart? = some [] := by simp only [userPart?, hc, Bool.false_eq_true, if_false]
  simp only [assembleUrl?, huser, Option.map_some, hmark, Place.bare, place, List.append_assoc,
    List.cons_append, List.nil_append]

/-- What an assembled URL is read as, up to the user. -/
structure Assembled (c : Config) (operation : Operation) (queue : Bool) (peer : Peer)
    (username password : String) (r : Parts) : Prop where
  scheme : r.scheme = c.scheme.name.toList
  hostname : r.hostname = peer.host.toList
  level : option? "level" (Query.fields r.query) =
    if operation.isData then some c.level.name else none
  timeout : option? "timeout" (Query.fields r.query) = none
  disable : option? "disableClusterDiscovery" (Query.fields r.query) = none
  username : userText r.username = username
  password : userText r.password = password

/-- The settings that come back. What a URL does not say is at its default. -/
def restored (c : Config) (operation : Operation) (peer : Peer) (username password : String) :
    Config :=
  { Config.default with
    seeds := [peer]
    scheme := c.scheme
    username := .text username
    password := .text password
    level := if operation.isData then c.level else .weak }

variable {username password : String} {r : Parts} {url : List Char}

theorem levelOf_name (l : Level) : levelOf (.text l.name) = .ok l := by
  cases l <;> rfl

theorem make_of_assembled (ha : Assembled c operation queue peer username password r)
    {level : Level} (hl : level = if operation.isData then c.level else .weak) :
    make (urlOptions r [peer] level default.timeout false) =
      .ok (c.restored operation peer username password) := by
  refine withOptions_eq_ok.mpr ⟨List.cons_ne_nil peer [], c.scheme, default.timeout, ?_, rfl, ?_⟩
  · simp only [urlOptions, orKeep, schemeOf, Value.text?, ha.scheme, String.ofList_toList,
      Option.bind_some, Scheme.ofName?_name]
  · simp only [changed, urlOptions, restored, ha.username, ha.password, hl, Option.getD_some]
    rfl

theorem ofParts_of_assembled (ha : Assembled c operation queue peer username password r)
    (h : peer.IsNamed) (hne : peer.host ≠ "") (hs : startsHttp url = true)
    (hcut : cutUrl url = .ok (r, some peer.port)) :
    ofParts url [] = .ok (c.restored operation peer username password) := by
  have hhost : hostOrDefault r = peer.host := by
    rw [hostOrDefault, ha.hostname, String.ofList_toList, if_neg (Account.toList_ne_nil hne)]
  have hpeer : Peer.make peer.host (peer.port : Int) = .ok peer := by
    have he : peer.host.isEmpty = false := by simpa using hne
    simp only [Peer.make, he, h.port, Bool.false_eq_true, if_false, if_true, Int.toNat_natCast]
  have hlevel : orKeep Level.weak (fun t => levelOf (.text t))
      (option? "level" (Query.fields r.query)) =
        .ok (if operation.isData then c.level else .weak) := by
    rw [ha.level]
    cases operation.isData with
    | true => simp only [if_true, orKeep, levelOf_name]
    | false => simp only [Bool.false_eq_true, if_false, orKeep]
  refine ofParts_eq_ok.mpr ⟨hs, _, hcut, peer, ?_, [], rfl, _, hlevel, default.timeout, ?_, false,
    ?_, make_of_assembled ha rfl⟩
  · rw [hhost]
    exact hpeer
  · simp only [ha.timeout, orKeep]
  · simp only [ha.disable, orKeep]

theorem assembled_bare (h : peer.IsNamed) (hl : asciiLower peer.host.toList = peer.host.toList) :
    Assembled c operation queue peer "" "" (c.place operation queue h).parts := by
  obtain ⟨hlevel, htimeout, hdisable⟩ := options_of_place c operation queue h
  have huser : (c.place operation queue h).parts.userinfo = none := by
    rw [Parts.userinfo]
    simp only [Place.parts, place, cutLast?_eq_none h.at_not_mem, Option.map_none]
  refine ⟨rfl, ?_, hlevel, htimeout, hdisable, ?_, ?_⟩
  · rw [h.hostname rfl, h.lower_host.1, hl]
  · rw [Parts.username, huser]
    rfl
  · rw [Parts.password, huser]
    rfl

theorem assembled_withUser (a : Account) (h : peer.IsNamed)
    (hl : asciiLower peer.host.toList = peer.host.toList) :
    Assembled (c.withAccount a) operation queue peer a.username a.password
      ((c.place operation queue h).parts.withUser a.login.text) := by
  obtain ⟨hlevel, htimeout, hdisable⟩ := options_of_place c operation queue h
  have huser : ((c.place operation queue h).parts.withUser a.login.text).userinfo =
      some a.login.text := by
    simp only [Parts.userinfo, Parts.withUser, Place.parts, place, cutLast?_append_cons,
      cutLast?_eq_none h.at_not_mem, Option.elim_none, Option.map_some]
  have hcut : cutFirst? ':' a.login.text = some (a.login.name, a.login.secret) := by
    have hc := a.login.cutFirst_text []
    rwa [List.append_nil, List.append_nil] at hc
  refine ⟨rfl, ?_, hlevel, htimeout, hdisable, ?_, ?_⟩
  · rw [hostname_withUser, h.hostname rfl, h.lower_host.1, hl]
  · simp only [Parts.username, huser, Option.map_some, cutAt, hcut, Option.getD_some, userText]
    simp only [Account.login, Login.ofTexts, unescape_escape, String.ofList_toList]
  · simp only [Parts.password, huser, Option.bind_some, hcut, Option.map_some, userText,
      Option.getD_some]
    simp only [Account.login, Login.ofTexts, unescape_escape, String.ofList_toList]

theorem cutUrl_of_split {port : Option Nat} (hs : split url = .ok r) (hp : r.port? = .ok port) :
    cutUrl url = .ok (r, port) := by
  simp only [cutUrl, hs, hp]

theorem checkBrackets_place (c : Config) (operation : Operation) (queue : Bool) (h : peer.IsNamed) :
    checkBrackets (c.place operation queue h).authority = .ok () := by
  have hr : (c.place operation queue h).parts.authority = peer.addressChars := rfl
  exact (h.read_address hr).1

theorem ofUrl_bare (c : Config) (operation : Operation) (queue : Bool) (h : peer.IsNamed)
    (hne : peer.host ≠ "") (hl : asciiLower peer.host.toList = peer.host.toList) :
    ofUrl (c.place operation queue h).bare = .ok (c.restored operation peer "" "") := by
  have hscheme : Within (isUrlChar · = true) c.scheme.name.toList := by cases c.scheme <;> decide
  have hchars : Within (isUrlChar · = true) (c.place operation queue h).bare := by
    rw [Place.bare, within_append, within_cons, within_cons, within_cons, within_append]
    exact ⟨hscheme, by decide, by decide, by decide, urlChars_address h,
      urlChars_rest c operation queue⟩
  have hne' : (c.place operation queue h).bare ≠ [] := by simp [Place.bare]
  have hsplit := (c.place operation queue h).split_bare (scheme_ne_nil c.scheme)
  rw [checkBrackets_place] at hsplit
  rw [ofUrl_of_urlChars hchars hne']
  exact ofParts_of_assembled (assembled_bare h hl) h hne (startsHttp_scheme c.scheme _)
    (cutUrl_of_split hsplit (h.port_read rfl))

theorem ofUrl_dress (c : Config) (a : Account) (operation : Operation) (queue : Bool)
    (h : peer.IsNamed) (hne : peer.host ≠ "") (hl : asciiLower peer.host.toList = peer.host.toList) :
    ofUrl ((c.place operation queue h).dress a.login) =
      .ok ((c.withAccount a).restored operation peer a.username a.password) := by
  have hscheme : Within (isUrlChar · = true) c.scheme.name.toList := by cases c.scheme <;> decide
  have hlogin : Within (isUrlChar · = true) a.login.text := by
    simp only [Login.text, Account.login, Login.ofTexts, within_append, within_cons]
    exact ⟨urlChars_escape _, by decide, urlChars_escape _⟩
  have hdress : (c.place operation queue h).dress a.login =
      c.scheme.name.toList ++ ':' :: '/' :: '/' ::
        ((a.login.text ++ '@' :: peer.addressChars) ++
          (operation.path.toList ++ c.flags operation queue)) := if_neg (scheme_ne_nil c.scheme)
  have hchars : Within (isUrlChar · = true) ((c.place operation queue h).dress a.login) := by
    rw [hdress, within_append, within_cons, within_cons, within_cons, within_append, within_append,
      within_cons]
    exact ⟨hscheme, by decide, by decide, by decide, ⟨hlogin, by decide, urlChars_address h⟩,
      urlChars_rest c operation queue⟩
  have hstart : startsHttp ((c.place operation queue h).dress a.login) = true := by
    rw [hdress]
    exact startsHttp_scheme c.scheme _
  have hsplit := (c.place operation queue h).split_dress a.login
  rw [checkBrackets_place] at hsplit
  have hport : ((c.place operation queue h).parts.withUser a.login.text).port? =
      .ok (some peer.port) := by
    rw [port_withUser]
    exact h.port_read rfl
  rw [ofUrl_of_urlChars hchars ((c.place operation queue h).dress_ne_nil a.login)]
  exact ofParts_of_assembled (assembled_withUser a h hl) h hne hstart (cutUrl_of_split hsplit hport)

/-- Without a name or without a password neither of them is sent. -/
theorem ofUrl_assembleUrl (hu : c.username = .text username) (hp : c.password = .text password)
    (operation : Operation) (queue : Bool) (h : peer.IsNamed) (hne : peer.host ≠ "")
    (hl : asciiLower peer.host.toList = peer.host.toList) :
    ∃ url, c.assembleUrl? operation peer queue = some url ∧
      ofUrl url = .ok (if username = "" ∨ password = "" then c.restored operation peer "" ""
        else c.restored operation peer username password) := by
  by_cases hempty : username = "" ∨ password = ""
  · have hc : c.hasCredentials = false := by
      simp only [hasCredentials, hu, hp, Value.isTruthy]
      rcases hempty with rfl | rfl
      · rfl
      · exact Bool.and_false _
    refine ⟨_, assembleUrl_bare hc h, ?_⟩
    rw [if_pos hempty]
    exact ofUrl_bare c operation queue h hne hl
  · rw [not_or] at hempty
    let a : Account := ⟨username, password, hempty.1, hempty.2⟩
    have hc : c.withAccount a = c := by
      cases c
      cases hu
      cases hp
      rfl
    have hurl := assembleUrl_withAccount c a operation queue h
    have hread := ofUrl_dress c a operation queue h hne hl
    rw [hc] at hurl hread
    refine ⟨_, hurl, ?_⟩
    rw [if_neg (not_or.mpr hempty)]
    exact hread

def accountConfig : Config :=
  { Config.default with
    scheme := .https
    username := .text "ann,@:"
    password := .text "p/%ü"
    level := .strong }

theorem accountConfig_restored :
    accountConfig.username = .text "ann,@:" ∧ accountConfig.password = .text "p/%ü" ∧
      (Peer.mk "fd00::1" 4001).IsNamed ∧ (Peer.mk "fd00::1" 4001).host ≠ "" ∧
      asciiLower (Peer.mk "fd00::1" 4001).host.toList = (Peer.mk "fd00::1" 4001).host.toList ∧
      ∃ url, accountConfig.assembleUrl? .execute ⟨"fd00::1", 4001⟩ true = some url ∧
        ofUrl url = .ok (if "ann,@:" = "" ∨ "p/%ü" = "" then
            accountConfig.restored .execute ⟨"fd00::1", 4001⟩ "" ""
          else accountConfig.restored .execute ⟨"fd00::1", 4001⟩ "ann,@:" "p/%ü") := by
  have h : (Peer.mk "fd00::1" 4001).IsNamed :=
    ⟨by decide, fun _ => by decide +kernel, by decide⟩
  exact ⟨rfl, rfl, h, by decide, by decide,
    ofUrl_assembleUrl rfl rfl .execute true h (by decide) (by decide)⟩

end Config

end SqlCluster
