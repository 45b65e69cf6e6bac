import SqlCluster.Proofs.Http.Location
/-!
Two runs of the client. From URLs that differ in a login, and with a server that does not look at
logins, the answers and what is left of the worlds are alike.
-/
namespace SqlCluster.Http

open Text Uri

variable {σ : Type} {named : Prop} {kind : Url → Prop} {serve : Server σ}

theorem checkAscii_ok {cs : List Char} (h : Response.checkAscii cs = .ok ()) :
    Within (isAscii · = true) cs := by
  rw [Response.checkAscii] at h
  split at h
  · next hd =>
      intro c hc
      exact List.dropWhile_eq_nil_iff.mp hd c hc
  · cases h

theorem checkHeaders_ok {r : Response} (h : r.checkHeaders = .ok ()) :
    ∀ header ∈ r.headers, Within (isAscii · = true) header.2.toList := by
  rw [Response.checkHeaders] at h
  generalize r.headers = headers at h ⊢
  induction headers with
  | nil => simp
  | cons header headers ih =>
      rw [List.forM_eq_forM, List.forM_cons] at h
      cases hn : Response.checkAscii header.1.toList with
      | error e => simp [hn, bind, Except.bind] at h
      | ok _ =>
          cases hv : Response.checkAscii header.2.toList with
          | error e => simp [hn, hv, bind, Except.bind] at h
          | ok _ =>
              have hrest := ih (by simpa [hn, hv, bind, Except.bind] using h)
              intro k hk
              rcases List.mem_cons.mp hk with rfl | hk
              · exact checkAscii_ok hv
              · exact hrest k hk

def Response.AsciiLocation (r : Response) : Prop :=
  ∀ location, r.location? = some location → Within (isAscii · = true) location.toList

theorem within_intercalate {p : Char → Prop} {sep : String} {values : List String}
    (hs : Within p sep.toList) (h : ∀ v ∈ values, Within p v.toList) :
    Within p (sep.intercalate values).toList := by
  induction values with
  | nil => simp
  | cons value values ih =>
      cases values with
      | nil => simpa using h value List.mem_cons_self
      | cons next values =>
          have ih := ih fun v hv => h v (List.mem_cons_of_mem _ hv)
          rw [String.intercalate_cons_cons, String.toList_append, String.toList_append,
            within_append, within_append]
          exact ⟨⟨h value List.mem_cons_self, hs⟩, ih⟩

theorem asciiLocation_of_headers {r : Response}
    (h : ∀ header ∈ r.headers, Within (isAscii · = true) header.2.toList) : r.AsciiLocation := by
  intro location hl
  have hv : ∀ v ∈ r.headers? "location", Within (isAscii · = true) v.toList := by
    intro v hv
    obtain ⟨header, hh, rfl⟩ := List.mem_map.mp hv
    exact h header (List.mem_filter.mp hh).1
  simp only [Response.location?, Response.header?] at hl
  split at hl
  · cases hl
  · cases hl
    exact within_intercalate (by decide) hv

theorem headers_of_decoded {r res : Response} (h : r.decoded = .ok res) :
    res.headers = r.headers := by
  rw [Response.decoded] at h
  split at h
  · cases h
    rfl
  · cases hd : Coding.decodeAll r.codings r.body with
    | error e => simp [hd, Except.map] at h
    | ok body =>
        simp only [hd, Except.map, Except.ok.injEq] at h
        rw [← h]

theorem asciiLocation_of_receive {u : Url} {r res : Response} (h : Client.receive u r = .ok res) :
    res.AsciiLocation := by
  rw [Client.receive] at h
  split at h
  · cases h
  · next hc =>
      split at h
      · cases h
      · next hd =>
          split at h
          · cases h
          · cases h
            refine asciiLocation_of_headers ?_
            rw [headers_of_decoded hd]
            exact checkHeaders_ok hc

theorem asciiLocation_of_exchange {r : Request} {w : World σ} {res : Response}
    (h : (Client.exchange serve r w).1 = .ok res) : res.AsciiLocation := by
  rw [Client.exchange] at h
  split at h
  · cases h
  · cases h
  · exact asciiLocation_of_receive h

theorem redirect_alike {r q : Request} (h : r.Alike named kind q) {res : Response}
    (ha : res.AsciiLocation) :
    (Client.redirect? r.url res = none ∧ Client.redirect? q.url res = none) ∨
      ∃ s t, Client.redirect? r.url res = some s ∧ Client.redirect? q.url res = some t ∧
        Agree tooLong (Url.Alike named) s t := by
  have same (u : Url) : (Client.redirect? u res = none ∧ Client.redirect? u res = none) ∨
      ∃ s t, Client.redirect? u res = some s ∧ Client.redirect? u res = some t ∧
        Agree tooLong (Url.Alike named) s t := by
    cases hr : Client.redirect? u res with
    | none => exact .inl ⟨rfl, rfl⟩
    | some s => exact .inr ⟨s, s, rfl, rfl, .refl .refl s⟩
  cases h with
  | refl r => exact same r.url
  | credentials r _ c d => exact same r.url
  | login r _ sound hs l m hlm c d =>
      simp only [Client.redirect?]
      split
      swap
      · exact .inl ⟨rfl, rfl⟩
      cases hl : res.location? with
      | none => exact .inl ⟨rfl, rfl⟩
      | some location =>
          exact .inr ⟨_, _, rfl, rfl, locate_alike sound hs hlm (ha location hl)⟩

theorem redirected_alike (hk : ∀ u, kind u) {r q : Request} (h : r.Alike named kind q) {s t : Url}
    (ht : s.Alike named t) :
    (Client.Request.redirected r s).Alike named kind (Client.Request.redirected q t) := by
  cases ht with
  | refl s =>
      cases h with
      | refl r => exact .refl _
      | credentials r _ c d => exact .credentials { r with url := s } (hk s) _ _
      | login r _ _ _ l m _ c d => exact .credentials { r with url := s } (hk s) _ _
  | login u sound hs l m hlm =>
      cases h with
      | refl r => exact .login { r with url := u } (hk u) sound hs l m hlm _ _
      | credentials r _ c d => exact .login { r with url := u } (hk u) sound hs l m hlm _ _
      | login r _ _ _ _ _ _ c d => exact .login { r with url := u } (hk u) sound hs l m hlm _ _

theorem exchange_same (serve : Server σ) (r : Request) {w v : World σ} (hw : w.Alike named kind v) :
    (Client.exchange serve r w).1 = (Client.exchange serve r v).1 ∧
      (Client.exchange serve r w).2.Alike named kind (Client.exchange serve r v).2 := by
  have hworld (server : σ) : World.Alike named kind { w with server, sent := w.sent ++ [r] }
      { v with server, sent := v.sent ++ [r] } :=
    ⟨rfl, List.rel_append hw.sent (.cons (.refl r) .nil), hw.journal⟩
  simp only [Client.exchange, World.exchange, hw.server]
  cases (serve v.server r).1 with
  | cancelled => exact ⟨rfl, hworld _⟩
  | failure f => exact ⟨rfl, hworld _⟩
  | response res => exact ⟨rfl, hworld _⟩

theorem sendOnce_same (serve : Server σ) (r : Request) {w v : World σ} (hw : w.Alike named kind v) :
    (Client.sendOnce serve r w).1 = (Client.sendOnce serve r v).1 ∧
      (Client.sendOnce serve r w).2.Alike named kind (Client.sendOnce serve r v).2 := by
  obtain ⟨ha, hworld⟩ := exchange_same serve r hw
  simp only [Client.sendOnce]
  generalize Client.exchange serve r w = x at ha hworld ⊢
  generalize Client.exchange serve r v = y at ha hworld ⊢
  rcases x with ⟨a, w'⟩
  rcases y with ⟨b, v'⟩
  obtain rfl : a = b := ha
  cases a with
  | error e => exact ⟨rfl, hworld⟩
  | ok res =>
      simp only
      split
      · exact ⟨rfl, hworld⟩
      · exact ⟨rfl, hworld⟩

theorem follow_same (serve : Server σ) (fuel : Nat) (r : Request) {w v : World σ}
    (hw : w.Alike named kind v) :
    (Client.follow serve fuel r w).1 = (Client.follow serve fuel r v).1 ∧
      (Client.follow serve fuel r w).2.Alike named kind (Client.follow serve fuel r v).2 := by
  induction fuel generalizing r w v with
  | zero => exact ⟨rfl, hw⟩
  | succ fuel ih =>
      obtain ⟨ha, hworld⟩ := exchange_same serve r hw
      simp only [Client.follow]
      generalize Client.exchange serve r w = x at ha hworld ⊢
      generalize Client.exchange serve r v = y at ha hworld ⊢
      rcases x with ⟨a, w'⟩
      rcases y with ⟨b, v'⟩
      obtain rfl : a = b := ha
      cases a with
      | error e => exact ⟨rfl, hworld⟩
      | ok res =>
          simp only
          split
          · exact ⟨rfl, hworld⟩
          · exact ⟨rfl, hworld⟩
          · exact ih _ hworld

theorem sendOnce_alike (hd : Discreet serve) {r q : Request} (h : r.Alike named kind q)
    {w v : World σ} (hw : w.Alike named kind v) :
    ReplyAlike named kind (Client.sendOnce serve r w) (Client.sendOnce serve q v) := by
  obtain ⟨ha, hworld⟩ := exchange_alike hd h hw
  have hascii : ∀ res, (Client.exchange serve r w).1 = .ok res → res.AsciiLocation :=
    fun res hr => asciiLocation_of_exchange hr
  simp only [Client.sendOnce]
  generalize Client.exchange serve r w = x at ha hworld hascii ⊢
  generalize Client.exchange serve q v = y at ha hworld ⊢
  rcases x with ⟨a, w'⟩
  rcases y with ⟨b, v'⟩
  cases ha with
  | failed cause hmn => exact .both (.failed cause hmn) hworld
  | refl a =>
      cases a with
      | error e => exact .both (.refl _) hworld
      | ok res =>
          rcases redirect_alike h (hascii res rfl) with ⟨hr, hq⟩ | ⟨s, t, hr, hq, hst⟩
          · simp only [hr, hq]
            exact .both (.refl _) hworld
          · simp only [hr, hq]
            cases hst with
            | left _ => cases t <;> exact .left hworld (.refl _)
            | right _ => cases s <;> exact .right hworld (.refl _)
            | error e => exact .both (.refl _) hworld
            | ok _ => exact .both (.refl _) hworld

theorem follow_alike (hd : Discreet serve) (hk : ∀ u, kind u) (fuel : Nat) {r q : Request}
    (h : r.Alike named kind q) {w v : World σ} (hw : w.Alike named kind v) :
    ReplyAlike named kind (Client.follow serve fuel r w) (Client.follow serve fuel q v) := by
  induction fuel generalizing r q w v with
  | zero => exact .both (.refl _) hw
  | succ fuel ih =>
      obtain ⟨ha, hworld⟩ := exchange_alike hd h hw
      have hascii : ∀ res, (Client.exchange serve r w).1 = .ok res → res.AsciiLocation :=
        fun res hr => asciiLocation_of_exchange hr
      simp only [Client.follow]
      generalize Client.exchange serve r w = x at ha hworld hascii ⊢
      generalize Client.exchange serve q v = y at ha hworld ⊢
      rcases x with ⟨a, w'⟩
      rcases y with ⟨b, v'⟩
      cases ha with
      | failed cause hmn => exact .both (.failed cause hmn) hworld
      | refl a =>
          cases a with
          | error e => exact .both (.refl _) hworld
          | ok res =>
              rcases redirect_alike h (hascii res rfl) with ⟨hr, hq⟩ | ⟨s, t, hr, hq, hst⟩
              · simp only [hr, hq]
                exact .both (.refl _) hworld
              · simp only [hr, hq]
                cases hst with
                | left _ =>
                    cases t with
                    | error e => exact .left hworld (.refl _)
                    | ok target => exact .left hworld (Client.goesOn_follow serve _ _ _)
                | right _ =>
                    cases s with
                    | error e => exact .right hworld (.refl _)
                    | ok target => exact .right hworld (Client.goesOn_follow serve _ _ _)
                | error e => exact .both (.refl _) hworld
                | ok hst => exact ih (redirected_alike hk h hst) hworld

theorem send_same (client : Client) (serve : Server σ) (method : Method) (cs : List Char)
    (body : List UInt8) (timeout : Value) {w v : World σ} (hw : w.Alike named kind v) :
    (client.send serve method cs body timeout w).1 =
        (client.send serve method cs body timeout v).1 ∧
      (client.send serve method cs body timeout w).2.Alike named kind
        (client.send serve method cs body timeout v).2 := by
  simp only [Client.send]
  cases Client.prepare method cs body timeout with
  | error e => exact ⟨rfl, hw⟩
  | ok r =>
      cases method with
      | post => exact sendOnce_same serve r hw
      | get => exact follow_same serve _ r hw

/-- Two runs of the client from URLs that differ in a login. A read may lead anywhere, so it asks
that every URL is of the kind. -/
theorem send_alike {place : Place → Prop} (client : Client) (hd : Discreet serve)
    (hk : ∀ p u, place p → Reads p u → kind u) {method : Method} (hm : method = .post ∨ ∀ u, kind u)
    (body : List UInt8) (timeout : Value) {cs ds : List Char} (h : Uri.Alike named place cs ds)
    {w v : World σ} (hw : w.Alike named kind v) :
    ReplyAlike named kind (client.send serve method cs body timeout w)
      (client.send serve method ds body timeout v) := by
  have hp : Agree tooLong (Request.Alike named kind) _ _ := prepare_alike hk method body timeout h
  have hgoes (cs : List Char) (w : World σ) := client.goesOn_send serve method cs body timeout w
  have hfirst := hgoes cs w
  have hsecond := hgoes ds v
  simp only [Client.send] at hfirst hsecond ⊢
  generalize Client.prepare method cs body timeout = x at hp hfirst ⊢
  generalize Client.prepare method ds body timeout = y at hp hsecond ⊢
  cases hp with
  | left y => exact .left hw hsecond
  | right x => exact .right hw hfirst
  | error e => exact .both (.refl _) hw
  | ok hr =>
      cases method with
      | post => exact sendOnce_alike hd hr hw
      | get =>
          rcases hm with hm | hm
          · cases hm
          · exact follow_alike hd hm _ hr hw

theorem plain_location_of_send {client : Client} {url : List Char} {body : List UInt8} {timeout : Value}
    {w : World σ} {res : Response}
    (h : (client.send serve .post url body timeout w).1 = .ok res)
    (hc : Client.redirectCodes.contains res.status = true) {location : String}
    (hl : res.location? = some location) : Within IsPlain location.toList := by
  simp only [Client.send] at h
  cases hp : Client.prepare .post url body timeout with
  | error e => simp [hp] at h
  | ok r =>
      simp only [hp, Client.sendOnce] at h
      have hascii : ∀ res, (Client.exchange serve r w).1 = .ok res → res.AsciiLocation :=
        fun res hr => asciiLocation_of_exchange hr
      generalize Client.exchange serve r w = x at h hascii
      rcases x with ⟨answer, v⟩
      cases answer with
      | error e => cases h
      | ok res' =>
          simp only at h
          split at h
          · cases h
          · next hr =>
              cases h
              have hloc : Client.redirect? r.url res = some (Client.locate r.url location) := by
                simp only [Client.redirect?, hc, hl, if_true, Option.map_some]
              cases hsp : Client.spelled location with
              | error e =>
                  have hlocate : Client.locate r.url location = .error e := by
                    simp only [Client.locate, hsp, bind, Except.bind]
                  rw [hlocate] at hloc
                  exact absurd hloc (hr e)
              | ok u => exact plain_of_spelled_ok (hascii res rfl location hl) hsp

end SqlCluster.Http
