import Jukebox.Proofs.Text.Pieces
import Jukebox.Session

/-!
# Settings that are in order and the client

Settings are checked before a client is made of them, and the client checks the server's URL again.  The first check
looks at the URL without white space at its ends, the second one without slashes at its end.  So settings that are in
order are refused by the client all the same when white space stands before the URL, or when nothing but slashes follows
its scheme (`Misread`).  In all other cases it is the rest of the URL, the set-up of the HTTP client or the server's
answer that decides (`validated_connects`).
-/

namespace Jukebox

namespace Subsonic.Client

/-- The schemes of web addresses, with the colon. -/
def schemes : List String := ["http:", "https:"]

/-- A text that starts like a web address. -/
def IsWeb (cs : List Char) : Prop := ∃ scheme ∈ schemes, scheme.toList ++ "//".toList <+: cs

/-- The URLs in which a client looks for the scheme in vain, even if they are web addresses: white space stands before
the scheme, or nothing but slashes after it. -/
def Misread (url : String) : Prop :=
  (∃ c rest, url.toList = c :: rest ∧ Text.isBlank c = true) ∨
    ∃ scheme ∈ schemes, ∃ n, url.toList = scheme.toList ++ List.replicate n '/'

/-- What a client finds when it reads the URL of its server, from the scheme on: nothing without a scheme. -/
def address? (url : String) : Option (Except Url.Error Url) :=
  (splitScheme? (String.ofList (Text.stripEnd (· = '/') url.toList))).map fun (scheme, rest) =>
    Url.readAfterScheme scheme rest

/-- What a client says of a URL without a scheme. -/
def schemeMissing : Fault := .invalidUrl "URL must start with http:// or https://"

/-! ### Schemes -/

private theorem isWeb_iff {s : String} :
    IsWeb s.toList ↔ s.startsWith "http://" = true ∨ s.startsWith "https://" = true := by
  rw [String.startsWith_string_iff, String.startsWith_string_iff]
  simp [IsWeb, schemes]

private theorem splitScheme?_eq_none_iff {url : String} : splitScheme? url = none ↔ ¬ IsWeb url.toList := by
  rw [isWeb_iff, splitScheme?]
  cases url.startsWith "http://" <;> cases url.startsWith "https://" <;> simp

private theorem IsWeb.mono {cs cs' : List Char} (h : IsWeb cs) (hstart : cs <+: cs') : IsWeb cs' := by
  obtain ⟨scheme, hscheme, hcs⟩ := h
  exact ⟨scheme, hscheme, hcs.trans hstart⟩

/-- No white space stands before a web address. -/
private theorem IsWeb.not_blank {c : Char} {rest : List Char} (h : IsWeb (c :: rest)) : Text.isBlank c = false := by
  obtain ⟨scheme, hscheme, tail, htail⟩ := h
  have hc : c = 'h' := by
    simp only [schemes, List.mem_cons, List.not_mem_nil, or_false] at hscheme
    rcases hscheme with rfl | rfl <;> exact (List.cons.inj htail).1.symm
  rw [hc]
  decide

private theorem stripEnd_scheme {scheme : String} (h : scheme ∈ schemes) :
    Text.stripEnd (· = '/') scheme.toList = scheme.toList ∧ ¬ IsWeb scheme.toList := by
  simp only [schemes, List.mem_cons, List.not_mem_nil, or_false] at h
  rcases h with rfl | rfl <;> simp [IsWeb, schemes] <;> decide

/-- Without the slashes at its end a web address is still one, unless nothing but slashes follows its scheme. -/
private theorem IsWeb.stripEnd_iff {cs : List Char} (h : IsWeb cs) :
    IsWeb (Text.stripEnd (· = '/') cs) ↔
      ¬ ∃ scheme ∈ schemes, ∃ n, cs = scheme.toList ++ List.replicate n '/' := by
  refine ⟨?_, ?_⟩
  · rintro hweb ⟨scheme, hscheme, n, rfl⟩
    obtain ⟨hkept, hnot⟩ := stripEnd_scheme hscheme
    have hslashes : Text.stripEnd (· = '/') (List.replicate n '/') = [] :=
      Text.stripEnd_eq_nil_iff.2 fun c hc => decide_eq_true (List.eq_of_mem_replicate hc)
    rw [Text.stripEnd_append, if_pos hslashes, hkept] at hweb
    exact hnot hweb
  · intro hmore
    obtain ⟨scheme, hscheme, rest, rfl⟩ := h
    have hrest : Text.stripEnd (· = '/') rest ≠ [] := by
      intro hslashes
      refine hmore ⟨scheme, hscheme, rest.length + 2, ?_⟩
      rw [List.append_assoc, List.append_cancel_left_eq, List.eq_replicate_iff]
      refine ⟨by simp +arith, fun c hc => ?_⟩
      rcases List.mem_append.1 hc with hc | hc
      · simpa using hc
      · exact of_decide_eq_true (Text.stripEnd_eq_nil_iff.1 hslashes c hc)
    rw [Text.stripEnd_append, if_neg hrest]
    exact ⟨scheme, hscheme, List.prefix_append _ _⟩

/-- White space at the ends aside, a URL is a web address; the client finds its scheme unless it misreads the URL. -/
private theorem address?_eq_none_iff {url : String} (h : IsWeb (Text.trim url).toList) :
    address? url = none ↔ Misread url := by
  rw [address?, Option.map_eq_none_iff, splitScheme?_eq_none_iff, String.toList_ofList]
  rw [Text.trim, String.toList_ofList] at h
  by_cases hblank : ∃ c rest, url.toList = c :: rest ∧ Text.isBlank c = true
  · refine iff_of_true ?_ (.inl hblank)
    intro hweb
    obtain ⟨c, rest, hurl, hc⟩ := hblank
    have hwhole : IsWeb (c :: rest) := by
      rw [← hurl]
      exact hweb.mono <| List.rdropWhile_prefix _ _
    rw [hwhole.not_blank] at hc
    cases hc
  · -- nothing is cut off in front, so the URL itself starts like a web address
    have hfront : url.toList.dropWhile Text.isBlank = url.toList := by
      cases hurl : url.toList with
      | nil => rfl
      | cons c rest => exact List.dropWhile_cons_of_neg fun hc => hblank ⟨c, rest, hurl, hc⟩
    have hweb : IsWeb url.toList := by
      rw [Text.stripEnds, hfront] at h
      exact h.mono <| List.rdropWhile_prefix _ _
    rw [hweb.stripEnd_iff, not_not, Misread, or_iff_right hblank]

/-! ### Clients -/

/-- The client of an account whose URL was read as an address. -/
def reading (a : Account) (address : Url) : Client :=
  ⟨String.ofList (Text.stripEnd (· = '/') a.url.toList), address.dropEmptySegment.push "rest", .ofAccount a⟩

private theorem new_eq (httpReady : Bool) {a : Account} (h : a.url ≠ "") :
    new httpReady a = match address? a.url with
      | none => .error schemeMissing
      | some (.error e) => .error (.invalidUrl e.message)
      | some (.ok address) => if httpReady then .ok (reading a address) else .error .transport := by
  rw [new, if_neg h, address?]
  unfold reading
  dsimp only
  generalize String.ofList (Text.stripEnd (· = '/') a.url.toList) = base
  cases hscheme : splitScheme? base with
  | none => rfl
  | some found =>
    obtain ⟨scheme, rest⟩ := found
    simp only [Option.map_some]
    cases Url.readAfterScheme scheme rest <;> rfl

end Subsonic.Client

namespace Session

open Subsonic (Client Exchange Fault Request)

/-- What settings that are in order hold for the server. -/
structure Equipped (s : Settings) : Prop where
  web : Client.IsWeb (Text.trim s.server.url).toList
  complete : (Subsonic.Credentials.ofAccount s.server).isComplete = true

/-- Of several requirements the first is met if nothing is found wrong, and so are the others. -/
private theorem met_of_none {c : Prop} [Decidable c] {reason : String} {others : Option String}
    (h : (if c then some reason else others) = none) : ¬ c ∧ others = none := by
  split at h
  · cases h
  · rename_i hc
    exact ⟨hc, h⟩

private theorem equipped_of_validate {s : Settings} (h : s.validate = .ok ()) : Equipped s := by
  have hproblem : s.problem? = none := by
    unfold Settings.validate at h
    split at h
    · cases h
    · assumption
  obtain ⟨-, hproblem⟩ := met_of_none hproblem
  obtain ⟨hweb, hproblem⟩ := met_of_none hproblem
  obtain ⟨husername, hproblem⟩ := met_of_none hproblem
  obtain ⟨hsecrets, -⟩ := met_of_none hproblem
  obtain ⟨htoken, hsalt⟩ := not_or.1 hsecrets
  refine ⟨?_, ?_⟩
  · rw [Subsonic.Client.isWeb_iff]
    simpa [or_iff_not_imp_left] using hweb
  · simp [Subsonic.Credentials.isComplete, Subsonic.Credentials.ofAccount, husername, htoken, hsalt]

/-- The URL of settings that are in order is not empty. -/
private theorem Equipped.url_ne {s : Settings} (h : Equipped s) : s.server.url ≠ "" := by
  intro hempty
  obtain ⟨scheme, -, tail, htail⟩ := h.web
  rw [hempty] at htail
  have hlength := congrArg List.length htail
  simp [Text.trim, Text.stripEnds] at hlength

section

variable {httpReady : Bool} {s : Settings} (h : s.validate = .ok ()) (store : Store) (reply : Exchange)

include h

private theorem connect_of_new_error {f : Fault} (hnew : Client.new httpReady s.server = .error f) :
    connect httpReady s store reply = .error (.server f) := by
  rw [connect, h, hnew]
  rfl

/-- With a client that has all credentials, the server's answer decides. -/
private theorem connect_of_new_ok {client : Client} (hnew : Client.new httpReady s.server = .ok client)
    (hcomplete : client.credentials.isComplete = true) :
    (∀ f, Request.ping.answer reply = .error f → connect httpReady s store reply = .error (.server f)) ∧
      (Request.ping.answer reply = .ok () → ∃ session, connect httpReady s store reply = .ok session ∧
        session.client = client) := by
  have hcheck : checkServer client reply = Request.ping.answer reply := if_pos hcomplete
  rw [connect, h, hnew]
  refine ⟨fun f hf => ?_, fun hok => ?_⟩
  · rw [hf] at hcheck
    show (orServerError (checkServer client reply) >>= _) = _
    rw [hcheck]
    rfl
  · rw [hok] at hcheck
    refine ⟨⟨client, .new { s.playback with volume := (Preferences.volume store).getD s.playback.volume }, store⟩,
      ?_, rfl⟩
    show (orServerError (checkServer client reply) >>= _) = _
    rw [hcheck]
    rfl

end

/-- When settings are in order the client refuses a URL it misreads, whoever answers.  Otherwise it finds the scheme;
the rest of the URL is an address or says what is wrong with it; with an address the HTTP client is set up or not; and
if it is, the client has all credentials, and the server's answer decides whether there is a session. -/
theorem validated_connects (s : Settings) (h : s.validate = .ok ()) :
    (Client.address? s.server.url = none ↔ Client.Misread s.server.url) ∧
      (Client.address? s.server.url = none → ∀ httpReady,
        Client.new httpReady s.server = .error Client.schemeMissing ∧
          ∀ store reply, connect httpReady s store reply = .error (.server Client.schemeMissing)) ∧
      (∀ e, Client.address? s.server.url = some (.error e) → ∀ httpReady,
        Client.new httpReady s.server = .error (.invalidUrl e.message) ∧
          ∀ store reply, connect httpReady s store reply = .error (.server (.invalidUrl e.message))) ∧
      ∀ address, Client.address? s.server.url = some (.ok address) →
        (Client.new false s.server = .error .transport ∧
          ∀ store reply, connect false s store reply = .error (.server .transport)) ∧
        ∃ client, Client.new true s.server = .ok client ∧ client.credentials.isComplete = true ∧ ∀ store reply,
          (∀ f, Request.ping.answer reply = .error f → connect true s store reply = .error (.server f)) ∧
            (Request.ping.answer reply = .ok () → ∃ session, connect true s store reply = .ok session ∧
              session.client = client) := by
  have hs := equipped_of_validate h
  have hnew : ∀ httpReady, _ := fun httpReady => Subsonic.Client.new_eq httpReady hs.url_ne
  refine ⟨Subsonic.Client.address?_eq_none_iff hs.web, ?_, ?_, ?_⟩
  · intro hnone httpReady
    have hrefused := hnew httpReady
    rw [hnone] at hrefused
    exact ⟨hrefused, fun store reply => connect_of_new_error h store reply hrefused⟩
  · intro e he httpReady
    have hrefused := hnew httpReady
    rw [he] at hrefused
    exact ⟨hrefused, fun store reply => connect_of_new_error h store reply hrefused⟩
  · intro address haddress
    have hfailed := hnew false
    have hmade := hnew true
    rw [haddress] at hfailed hmade
    refine ⟨⟨hfailed, fun store reply => connect_of_new_error h store reply hfailed⟩, _, hmade, hs.complete, ?_⟩
    exact fun store reply => connect_of_new_ok h store reply hmade hs.complete

/-- Settings with a URL and all else in order. -/
def settingsFor (url : String) : Settings := { Settings.preset with server := ⟨url, "u", "t", "s"⟩ }

/-- A space before the URL, or nothing after the scheme, and the client refuses what was found to be in order.  With the
URL as it should be it is only a bracket, the HTTP client or the server that can be missing. -/
theorem validated_connects_misread :
    connect true (settingsFor " http://[::1]") ⟨[], .memory⟩ .lost = .error (.server Client.schemeMissing) ∧
      connect true (settingsFor "http://") ⟨[], .memory⟩ .lost = .error (.server Client.schemeMissing) ∧
      connect true (settingsFor "http://[::1") ⟨[], .memory⟩ .lost =
        .error (.server (.invalidUrl "invalid IPv6 address")) ∧
      connect false (settingsFor "http://[::1]") ⟨[], .memory⟩ .lost = .error (.server .transport) ∧
      connect true (settingsFor "http://[::1]") ⟨[], .memory⟩ .lost = .error (.server .transport) := by
  have hvalid : (settingsFor " http://[::1]").validate = .ok () ∧ (settingsFor "http://").validate = .ok () ∧
      (settingsFor "http://[::1").validate = .ok () ∧ (settingsFor "http://[::1]").validate = .ok () := by
    decide +kernel
  obtain ⟨hpadded, hbare, hopen, hproper⟩ := hvalid
  obtain ⟨hmisread, hrefused, -⟩ := validated_connects (settingsFor " http://[::1]") hpadded
  obtain ⟨hmisread', hrefused', -⟩ := validated_connects (settingsFor "http://") hbare
  obtain ⟨-, -, hunread, -⟩ := validated_connects (settingsFor "http://[::1") hopen
  obtain ⟨-, -, -, hread⟩ := validated_connects (settingsFor "http://[::1]") hproper
  refine ⟨?_, ?_, ?_, ?_⟩
  · exact (hrefused (hmisread.2 (.inl ⟨' ', "http://[::1]".toList, rfl, by decide⟩)) true).2 _ _
  · exact (hrefused' (hmisread'.2 (.inr ⟨"http:", by decide, 2, rfl⟩)) true).2 _ _
  · have haddress : Client.address? "http://[::1" = some (.error .invalidIpv6) := by decide +kernel
    exact (hunread _ haddress true).2 _ _
  · have haddress : Client.address? "http://[::1]" =
        some (.ok ⟨.http, [], [], "[::1]".toList, none, [[]], none, none⟩) := by decide +kernel
    obtain ⟨⟨-, hfailed⟩, client, -, -, hasked⟩ := hread _ haddress
    exact ⟨hfailed _ _, (hasked _ .lost).1 _ rfl⟩

end Session

end Jukebox
