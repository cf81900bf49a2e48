import Jukebox.Proofs.Url.Target
import Jukebox.Subsonic.Client

/-!
# Addresses of requests

Whatever the texts in a request and in the credentials contain, the server takes the target of the request apart into
what the client put into it: the endpoint, the pairs of the server's own address, the credentials and the parameters,
in this order (`call_url`).  The path of the server's own address is kept but for an empty last segment; of two empty
segments none is kept (`doubled_slash_path`).
-/

namespace Jukebox.Subsonic

/-- What a client asks its server for. -/
inductive Call where
  | ping
  | albumList
  | artists
  | album (id : String)
  | search (query : String)
  | randomSongs (size : Nat)
  | playlists
  | playlist (id : String)
  | user
  | lyricsBySongId (id : String)
  | star (id : String)
  | unstar (id : String)
  | scrobble (id : String) (submission : Bool)
  | stream (id : String)
  | coverArt (id : String) (size : Option Nat)

namespace Call

/-- The address that a client asks. -/
def url (c : Client) : Call → Url
  | ping => c.url Request.ping
  | albumList => c.url Request.albumList
  | artists => c.url Request.artists
  | album id => c.url (Request.album id)
  | search query => c.url (Request.search query)
  | randomSongs size => c.url (Request.randomSongs size)
  | playlists => c.url Request.playlists
  | playlist id => c.url (Request.playlist id)
  | user => c.url (Request.user c.credentials.username)
  | lyricsBySongId id => c.url (Request.lyricsBySongId id)
  | star id => c.url (Request.star id)
  | unstar id => c.url (Request.unstar id)
  | scrobble id submission => c.url (Request.scrobble id submission)
  | stream id => c.streamUrl id
  | coverArt id size => c.coverArtUrl id size

def endpoint : Call → String
  | ping => "ping"
  | albumList => "getAlbumList2"
  | artists => "getArtists"
  | album _ => "getAlbum"
  | search _ => "search3"
  | randomSongs _ => "getRandomSongs"
  | playlists => "getPlaylists"
  | playlist _ => "getPlaylist"
  | user => "getUser"
  | lyricsBySongId _ => "getLyricsBySongId"
  | star _ => "star"
  | unstar _ => "unstar"
  | scrobble .. => "scrobble"
  | stream _ => "stream"
  | coverArt .. => "getCoverArt"

/-- The parameters of a call by the user with a name. -/
def parameters (username : String) : Call → List (String × String)
  | ping | artists | playlists => []
  | albumList => [("type", "alphabeticalByName"), ("size", "500")]
  | album id | playlist id | lyricsBySongId id | star id | unstar id | stream id => [("id", id)]
  | search query => [("query", query), ("albumCount", "20"), ("artistCount", "20"), ("songCount", "50")]
  | randomSongs size => [("size", toString size)]
  | user => [("username", username)]
  | scrobble id submission => [("id", id), ("submission", if submission then "true" else "false")]
  | coverArt id none => [("id", id)]
  | coverArt id (some size) => [("id", id), ("size", toString size)]

private theorem url_eq (c : Client) (call : Call) :
    call.url c = c.endpointUrl call.endpoint (call.parameters c.credentials.username) := by
  cases call with
  | coverArt id size => cases size <;> rfl
  | _ => rfl

/-- No endpoint has a character that would be encoded. -/
private theorem percentEncode_endpoint (call : Call) :
    Url.percentEncode Url.inPathSegment call.endpoint.toList = call.endpoint.toList := by
  cases call <;> simp only [endpoint] <;> rfl

end Call

/-! ### The server's own address -/

/-- The address that a client was given, without the slashes at its end. -/
def Client.server? (c : Client) : Option Url :=
  (Client.splitScheme? c.baseUrl).bind fun (scheme, rest) => (Url.readAfterScheme scheme rest).toOption

/-- The segments under which a server's endpoints lie: those of its own path without an empty last one.  Two empty
segments count as none. -/
def servicePath (path : List (List Char)) : List (List Char) :=
  if path = [[], []] then [] else if path.getLast? = some [] then path.dropLast else path

private theorem exists_server {httpReady : Bool} {a : Account} {c : Client} (h : Client.new httpReady a = .ok c) :
    c.baseUrl = String.ofList (Text.stripEnd (· = '/') a.url.toList) ∧ c.credentials = .ofAccount a ∧
      ∃ server, c.server? = some server ∧ server.Printable ∧ c.restBase = server.dropEmptySegment.push "rest" := by
  simp only [Client.new] at h
  split at h
  · cases h
  · split at h
    · cases h
    · rename_i scheme rest hscheme
      split at h
      · cases h
      · rename_i server hserver
        split at h
        · cases h
          refine ⟨rfl, rfl, server, ?_, Url.printable_readAfterScheme hserver, rfl⟩
          simp only [Client.server?, hscheme, Option.bind_some, hserver]
          rfl
        · cases h

/-- A path of one empty segment, as it is left over from two, gives way to what is added. -/
private theorem path_dropEmptySegment (server : Url) :
    (if server.dropEmptySegment.path = [[]] then [] else server.dropEmptySegment.path) = servicePath server.path := by
  by_cases hlast : server.path.getLast? = some []
  · obtain ⟨front, hpath⟩ := List.getLast?_eq_some_iff.mp hlast
    -- a path of one segment keeps it even if it is empty
    by_cases hfront : front = []
    · simp [Url.dropEmptySegment, servicePath, hpath, hfront]
    · have hdrop : server.path.dropLast = front := by rw [hpath, List.dropLast_concat]
      have hlong : 1 < server.path.length := by
        have hpos := List.length_pos_of_ne_nil hfront
        rw [hpath, List.length_append, List.length_singleton]
        omega
      have hdouble : server.path = [[], []] ↔ front = [[]] := by
        rw [hpath, show ([[], []] : List (List Char)) = [[]] ++ [[]] from rfl, List.append_left_inj]
      have hdropped : server.dropEmptySegment.path = front := by
        rw [Url.dropEmptySegment, if_pos ⟨hlong, hlast⟩, hdrop]
      simp only [hdropped, servicePath, if_pos hlast, hdrop, hdouble]
  · have hne : server.path ≠ [[]] ∧ server.path ≠ [[], []] := by
      constructor <;> exact fun heq => hlast (by rw [heq]; rfl)
    simp [Url.dropEmptySegment, servicePath, hlast, hne.1, hne.2]

/-- The address of an endpoint is the server's own but for its path. -/
private theorem push_endpoint (server : Url) (call : Call) :
    (server.dropEmptySegment.push "rest").push call.endpoint =
      { server with path := servicePath server.path ++ ["rest".toList, call.endpoint.toList] } := by
  have hrest : Url.percentEncode Url.inPathSegment "rest".toList = "rest".toList := rfl
  have hpath : (server.dropEmptySegment.push "rest").path = servicePath server.path ++ ["rest".toList] := by
    rw [← path_dropEmptySegment]
    simp only [Url.push, hrest]
    split <;> rfl
  have hne : servicePath server.path ++ ["rest".toList] ≠ [[]] := by
    intro heq
    have hlast := congrArg List.getLast? heq
    simp at hlast
  rw [Url.push, hpath, if_neg hne, call.percentEncode_endpoint, List.append_assoc, Url.push, Url.dropEmptySegment]
  split <;> rfl

theorem ok_of_toOption {ε α : Type} {x : Except ε α} {a : α} (h : x.toOption = some a) : x = .ok a := by
  cases x <;> cases h
  rfl

/-- The target of every call is taken apart into what the client put into it. -/
theorem call_url {httpReady : Bool} {a : Account} {c : Client} (h : Client.new httpReady a = .ok c) (call : Call) :
    c.baseUrl = String.ofList (Text.stripEnd (· = '/') a.url.toList) ∧
    ∃ server query, c.server? = some server ∧
      call.url c = { server with
        path := servicePath server.path ++ ["rest".toList, call.endpoint.toList]
        query := some query } ∧
      Url.Form.pairs query = Url.Form.pairs (server.query.getD []) ++
        [("u", a.username), ("t", a.token), ("s", a.salt), ("v", "1.8.0"), ("c", "MelomanWeb"), ("f", "json")] ++
        call.parameters a.username ∧
      Url.targetPath (call.url c).target = (call.url c).path ∧ Url.targetQuery (call.url c).target = query ∧
      ∀ ch ∈ (call.url c).target.toList, 0x20 < ch.toNat ∧ ch.toNat < 0x7f ∧ ch ≠ '#' := by
  obtain ⟨hbase, hcredentials, server, hserver, hprintable, hrest⟩ := exists_server h
  let pairs := (Credentials.ofAccount a).parameters ++ call.parameters a.username
  have hurl : call.url c = ((server.dropEmptySegment.push "rest").push call.endpoint).addPairs pairs := by
    rw [call.url_eq, Client.endpointUrl, hcredentials, hrest]
    rfl
  have hcall : (call.url c).Printable := by
    rw [hurl]
    exact ((hprintable.dropEmptySegment.push _).push _).addPairs _
  have heq : call.url c = { server with
      path := servicePath server.path ++ ["rest".toList, call.endpoint.toList]
      query := some (Url.Form.appendPairs (server.query.getD []) pairs) } := by
    rw [hurl, push_endpoint]
    rfl
  refine ⟨hbase, server, _, hserver, heq, ?_, hcall.targetPath_target, ?_, fun ch hch => hcall.mem_target hch⟩
  · rw [Url.Form.pairs_appendPairs, List.append_assoc]
    rfl
  · rw [hcall.targetQuery_target, heq]
    rfl

/-- A search for a text that would be a parameter of its own, by a user whose name would be one, on a server whose
address has a path and a query. -/
theorem call_url_intruding :
    ∃ c, Client.new true ⟨"http://[::1]/music/?key=1", "a&p=b", "t", "s"⟩ = .ok c ∧
      let target := ((Call.search "x&u=root#\r\n").url c).target
      Url.targetPath target = ["music".toList, "rest".toList, "search3".toList] ∧
        Url.Form.pairs (Url.targetQuery target) =
          [("key", "1"), ("u", "a&p=b"), ("t", "t"), ("s", "s"), ("v", "1.8.0"), ("c", "MelomanWeb"), ("f", "json"),
            ("query", "x&u=root#\r\n"), ("albumCount", "20"), ("artistCount", "20"), ("songCount", "50")] := by
  obtain ⟨c, hc⟩ : ∃ c, c = (⟨"http://[::1]/music/?key=1", ⟨.http, [], [], "[::1]".toList, none,
      ["music".toList, "rest".toList], some "key=1".toList, none⟩, ⟨"a&p=b", "t", "s"⟩⟩ : Client) := ⟨_, rfl⟩
  have hnew : Client.new true ⟨"http://[::1]/music/?key=1", "a&p=b", "t", "s"⟩ = .ok c := by
    rw [hc]
    exact ok_of_toOption (by decide +kernel)
  have hread : c.server? = some ⟨.http, [], [], "[::1]".toList, none, ["music".toList, []], some "key=1".toList,
      none⟩ := by
    rw [hc]
    decide +kernel
  obtain ⟨-, server, query, hserver, hurl, hpairs, hpath, hquery, -⟩ := call_url hnew (.search "x&u=root#\r\n")
  cases hserver.symm.trans hread
  refine ⟨c, hnew, ?_, ?_⟩
  · rw [hpath, hurl]
    have hservice : servicePath ["music".toList, []] = ["music".toList] := by decide
    show servicePath ["music".toList, []] ++ ["rest".toList, "search3".toList] = _
    rw [hservice]
    rfl
  · rw [hquery, hpairs]
    decide +kernel

/-- A slash at the end of a server's URL makes no difference, whatever it would be a part of. -/
theorem new_slash (httpReady : Bool) {a : Account} (h : a.url ≠ "") :
    Client.new httpReady { a with url := a.url ++ "/" } = Client.new httpReady a := by
  have hslash : a.url ++ "/" ≠ "" := fun hempty => h (String.append_eq_empty_iff.1 hempty).1
  have hbase : Text.stripEnd (· = '/') (a.url ++ "/").toList = Text.stripEnd (· = '/') a.url.toList := by
    rw [String.toList_append, Text.stripEnd_append]
    exact if_pos rfl
  rw [Client.new, Client.new, if_neg hslash, if_neg h, hbase]
  rfl

/-- So the value of a query may lose one. -/
example : (Client.new true ⟨"http://[::1]/?key=v/", "u", "t", "s"⟩).toOption.bind
    (fun c => c.server?.map fun server => Url.Form.pairs (server.query.getD [])) = some [("key", "v")] := by
  decide +kernel

/-- Of two empty segments the last one is left out, and the other gives way to what is added. -/
theorem doubled_slash_path : ∃ c server, Client.new true ⟨"http://[::1]//?x", "u", "t", "s"⟩ = .ok c ∧
    c.server? = some server ∧ server.path.getLast? = some [] ∧
      ((Call.stream "1").url c).path ≠ server.path.dropLast ++ ["rest".toList, "stream".toList] := by
  exact ⟨⟨"http://[::1]//?x", ⟨.http, [], [], "[::1]".toList, none, ["rest".toList], some ['x'], none⟩,
    ⟨"u", "t", "s"⟩⟩, ⟨.http, [], [], "[::1]".toList, none, [[], []], some ['x'], none⟩,
    ok_of_toOption (by decide +kernel), by decide +kernel, by decide, by decide +kernel⟩

end Jukebox.Subsonic
