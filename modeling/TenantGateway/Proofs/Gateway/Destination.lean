/-
Where a forwarded request goes.

The URL of a forwarded request is the configured one with the path of the request at its end. `server?` is the server that a text
names as a URL of the web. `forwarded_server` says when the URL of a forwarded request names the configured server, and no server that
the caller has written: the configured URL has to name one, and where it ends there the target must not be the asterisk.
`server_not_kept` shows what comes of a URL and a target that are otherwise.
-/
import Mathlib.Data.List.DropRight
import TenantGateway.Proofs.Config.Valid
import TenantGateway.Proofs.Gateway.Changes
import TenantGateway.Proofs.Gateway.Routing

namespace TenantGateway

open Text

/-! ## Servers -/

/-- what follows the scheme in a text that begins as a URL of the web does -/
def webRest? (url : String) : Option (List Char) :=
  if startsWith "http://" url then some (url.toList.drop 7)
  else if startsWith "https://" url then some (url.toList.drop 8)
  else none

/-- the server that a URL of the web names, as far as the next slash, question mark or hash, and what follows it -/
def serverAndRest? (url : String) : Option (List Char × List Char) :=
  (webRest? url).map fun rest => (rest.takeWhile (!Uri.endsAuthority ·), rest.dropWhile (!Uri.endsAuthority ·))

def server? (url : String) : Option (List Char) := (serverAndRest? url).map (·.1)

/-- a configured URL names a server, and a text names the same -/
def KeepsServer (configured text : String) : Prop :=
  ∃ server, server ≠ [] ∧ server? configured = some server ∧ server? text = some server

namespace BackendEndpoint

def NamesServer (e : BackendEndpoint) : Prop := ∃ server, server ≠ [] ∧ server? e.url = some server

/-- nothing but slashes follows the server -/
def EndsAtServer (e : BackendEndpoint) : Prop :=
  ∃ server slashes, serverAndRest? e.url = some (server, slashes) ∧ slashes.all (· = '/') = true

end BackendEndpoint

/-! ## The text of a URL -/

theorem startsWith_iff (head s : String) : startsWith head s = true ↔ ∃ rest, s.toList = head.toList ++ rest := by
  unfold startsWith
  rw [List.isPrefixOf_iff_prefix]
  exact ⟨fun ⟨rest, same⟩ => ⟨rest, same.symm⟩, fun ⟨rest, same⟩ => ⟨rest, same.symm⟩⟩

theorem webRest?_eq_some_iff (url : String) (rest : List Char) :
    webRest? url = some rest ↔ ∃ scheme ∈ ["http://", "https://"], url.toList = scheme.toList ++ rest := by
  simp only [List.mem_cons, List.not_mem_nil, or_false, exists_eq_or_imp, exists_eq_left]
  unfold webRest?
  split_ifs with plain secure
  · obtain ⟨tail, text⟩ := (startsWith_iff _ url).1 plain
    rw [text]
    simp [eq_comm]
  · obtain ⟨tail, text⟩ := (startsWith_iff _ url).1 secure
    rw [text]
    simp [eq_comm]
  · rw [startsWith_iff, not_exists] at plain secure
    exact iff_of_false nofun (not_or.2 ⟨plain rest, secure rest⟩)

theorem serverAndRest?_eq_some {url : String} {server after : List Char} (split : serverAndRest? url = some (server, after)) :
    ∃ scheme ∈ ["http://", "https://"], url.toList = scheme.toList ++ (server ++ after) ∧
      (∀ c ∈ server, Uri.endsAuthority c = false) ∧ ∀ c ∈ after.head?, Uri.endsAuthority c = true := by
  obtain ⟨rest, web, parts⟩ := Option.map_eq_some_iff.1 split
  obtain ⟨rfl, rfl⟩ := Prod.mk.inj parts
  obtain ⟨scheme, listed, text⟩ := (webRest?_eq_some_iff url rest).1 web
  refine ⟨scheme, listed, ?_, fun c member => ?_, Uri.endsAuthority_of_head rest⟩
  · rw [List.takeWhile_append_dropWhile, text]
  · simpa using List.mem_takeWhile_imp member

theorem not_keepsServer {configured text : String} {server : List Char} (names : server? text = some server)
    (other : server? configured ≠ some server) : ¬KeepsServer configured text := by
  rintro ⟨kept, -, configured, same⟩
  rw [names] at same
  exact other (configured.trans same.symm)

theorem isSome_webRest? (e : BackendEndpoint) : (webRest? e.url).isSome = e.isWeb := by
  unfold webRest? BackendEndpoint.isWeb
  cases startsWith "http://" e.url <;> cases startsWith "https://" e.url <;> rfl

/-- slashes are taken off the end of a text, as far as its last part that ends otherwise -/
theorem rdropWhile_append {p : Char → Bool} {xs : List Char} (kept : xs.rdropWhile p = xs) (ys : List Char) :
    (xs ++ ys).rdropWhile p = xs ++ ys.rdropWhile p := by
  induction ys using List.reverseRecOn with
  | nil => simpa using kept
  | append_singleton ys y ih =>
    rw [← List.append_assoc, List.rdropWhile_concat, List.rdropWhile_concat, ih]
    split_ifs with dropped
    · rfl
    · exact List.append_assoc ..

/-- where a server has ended, slashes taken off the end leave it ended, unless they were all there was -/
theorem takeWhile_trimmed {after : List Char} (ended : ∀ c ∈ after.head?, Uri.endsAuthority c = true) (path : List Char) :
    (after.rdropWhile (· = '/') ++ path).takeWhile (!Uri.endsAuthority ·) =
      if after.all (· = '/') then path.takeWhile (!Uri.endsAuthority ·) else [] := by
  split_ifs with slashes
  · have none : after.rdropWhile (· = '/') = [] := List.rdropWhile_eq_nil_iff.2 (List.all_eq_true.1 slashes)
    rw [none, List.nil_append]
  · -- what is left begins with the character that ended the server
    have left : after.rdropWhile (· = '/') ≠ [] := fun none =>
      slashes (List.all_eq_true.2 (List.rdropWhile_eq_nil_iff.1 none))
    obtain ⟨c, tail, begins⟩ := List.exists_cons_of_ne_nil left
    have first : c ∈ after.head? := by
      obtain ⟨more, whole⟩ := List.rdropWhile_prefix (p := (· = '/')) (l := after)
      rw [← whole, begins]
      rfl
    simp [begins, ended c first]

namespace HttpBackend

theorem toList_base (name url : String) : (make name url).base.toList = url.toList.rdropWhile (· = '/') := by
  rw [make, String.toList_ofList]
  rfl

/-- the URL of a request is the configured one without the slashes at its end, followed by the path -/
theorem toList_urlText (name : String) {url : String} {server after : List Char}
    (split : serverAndRest? url = some (server, after)) (named : server ≠ []) (r : ForwardRequest) :
    ∃ scheme ∈ ["http://", "https://"], ((make name url).urlText r).toList =
      scheme.toList ++ (server ++ (after.rdropWhile (· = '/') ++ r.path.toList)) := by
  obtain ⟨scheme, listed, text, within, -⟩ := serverAndRest?_eq_some split
  have last : ¬server.getLast named = '/' := by
    intro slash
    simpa [slash, Uri.endsAuthority] using within _ (List.getLast_mem named)
  -- the server ends with no slash, so that slashes are taken off what follows it only
  have kept : (scheme.toList ++ server).rdropWhile (· = '/') = scheme.toList ++ server := by
    rw [List.rdropWhile_eq_self_iff]
    intro nonempty
    rw [List.getLast_append_of_ne_nil nonempty named]
    simpa using last
  refine ⟨scheme, listed, ?_⟩
  rw [urlText, String.toList_append, toList_base, text, ← List.append_assoc, rdropWhile_append kept]
  simp only [List.append_assoc]

/-- the server of that URL is the configured one, followed by the path as far as it goes on with the name -/
theorem server?_urlText {name url : String} {server after : List Char} (split : serverAndRest? url = some (server, after))
    (named : server ≠ []) (r : ForwardRequest) :
    server? ((make name url).urlText r) =
      some (server ++ if after.all (· = '/') then r.path.toList.takeWhile (!Uri.endsAuthority ·) else []) := by
  obtain ⟨-, -, -, within, ended⟩ := serverAndRest?_eq_some split
  obtain ⟨scheme, listed, written⟩ := toList_urlText name split named r
  rw [server?, serverAndRest?, (webRest?_eq_some_iff _ _).2 ⟨scheme, listed, written⟩, Option.map_some, Option.map_some,
    List.takeWhile_append_of_pos fun c member => by simpa using within c member, takeWhile_trimmed ended]

end HttpBackend

/-! ## The server of a forwarded request -/

/-- the server is kept if the configured URL names one, and, where that ends there, the path does not go on with its name -/
theorem keepsServer_urlText_iff (e : BackendEndpoint) (name : String) (r : ForwardRequest) :
    KeepsServer e.url ((HttpBackend.make name e.url).urlText r) ↔
      e.NamesServer ∧ (e.EndsAtServer → r.path.toList.takeWhile (!Uri.endsAuthority ·) = []) := by
  unfold KeepsServer BackendEndpoint.NamesServer BackendEndpoint.EndsAtServer
  constructor
  · rintro ⟨server, named, configured, kept⟩
    refine ⟨⟨server, named, configured⟩, ?_⟩
    rintro ⟨server', slashes, split, only⟩
    obtain rfl : server' = server := by
      rw [server?, split] at configured
      exact Option.some.inj configured
    rw [HttpBackend.server?_urlText split named, if_pos only] at kept
    simpa using kept
  · rintro ⟨⟨server, named, configured⟩, bare⟩
    obtain ⟨⟨server, after⟩, split, rfl⟩ := Option.map_eq_some_iff.1 configured
    refine ⟨server, named, configured, ?_⟩
    rw [HttpBackend.server?_urlText split named]
    split_ifs with only
    · rw [bare ⟨server, after, split, only⟩, List.append_nil]
    · rw [List.append_nil]

namespace Gateway

variable {α W : Type} [Quantity α]

/-- **Where a forwarded request goes.** Take any gateway whose backends are valid, any request that it forwards, and the endpoint of
the category. The URL that the request is sent to has the configured server if and only if the configured URL names one, and does not
end there while the asterisk is forwarded, which takes a target that is the asterisk and a header that names the tenant. Nothing else
that a caller can write as a target changes the server. -/
theorem forwarded_server (o : Outside W) (g : Gateway α) (world : W) (now : ℕ) (requestId : String) {target : String} {r : Request}
    (parsed : Uri.parse target = some r.uri) (valid : g.settings.config.backends.validate = .ok ()) {c : Category}
    {sent : ForwardRequest} (forwarded : (c, sent) ∈ (g.serve o world now requestId r).forwarded) {e : BackendEndpoint}
    (endpoint : g.settings.config.backends.endpoint? c = some e) :
    (webRest? e.url).isSome = true ∧
    (KeepsServer e.url ((HttpBackend.make c.name e.url).urlText sent) ↔
      e.NamesServer ∧ ¬(g.settings.config.gateway.tenantSource ≠ .pathPrefix ∧ target = "*" ∧ e.EndsAtServer)) := by
  have web : e.isWeb = true := ((BackendsSection.validate_eq_ok_iff _).1 valid).2 c e endpoint
  refine ⟨(isSome_webRest? e).trans web, (keepsServer_urlText_iff e c.name sent).trans (and_congr_right fun named => ?_)⟩
  have path := g.forwarded_path o world now requestId r forwarded
  rcases TenantSource.extract_of_parse parsed r.headers with ⟨mode, rfl, asterisk⟩ | ⟨other, rest⟩
  · have taken : sent.path.toList.takeWhile (!Uri.endsAuthority ·) ≠ [] := by
      rw [path, asterisk]
      decide
    simp [mode, taken]
  · rw [← path] at rest
    have none : sent.path.toList.takeWhile (!Uri.endsAuthority ·) = [] := by
      cases written : sent.path.toList with
      | nil => rfl
      | cons c tail =>
        obtain rfl : c = '/' := rest c (by rw [written]; rfl)
        rfl
    simp only [none, implies_true, true_iff]
    exact fun ⟨mode, same, _⟩ => other ⟨mode, same⟩

/-- a configuration with one tenant, one backend and one route to it -/
def oneBackendConfig (source : TenantSource) (url pattern : String) : Config :=
  { version := 1, gateway := { tenantSource := source }, backends := { openai := some ⟨url⟩ }
    routes := some [⟨pattern, .openai⟩], tenants := [{ id := "acme" }] }

/-- the gateway that is built from it -/
def oneBackend (source : TenantSource) (url pattern : String) : Gateway ℚ :=
  { settings :=
      { config := oneBackendConfig source url pattern, routes := ⟨[⟨pattern, .openai⟩]⟩, source := "static"
        backends := [.openai] }
    registry := ⟨⟨[.ofConfig { id := "acme" }], 1⟩, 1⟩
    limiter := .empty
    cache := .empty (300 * 1000000000)
    diagnostics := .start []
    closing := false }

theorem build_oneBackend {source : TenantSource} {url pattern : String}
    (valid : (oneBackendConfig source url pattern).validate = .ok ())
    (routed : (oneBackendConfig source url pattern).routeTable = .ok ⟨[⟨pattern, .openai⟩]⟩) :
    build (oneBackendConfig source url pattern) (some "static") [.openai] [] = .ok (oneBackend source url pattern) := by
  have made : Registry.make [{ id := "acme" }] 1 = .ok ⟨⟨[.ofConfig { id := "acme" }], 1⟩, 1⟩ := by
    decide +kernel
  exact build_eq_ok_iff.2 ⟨valid, "static", _, _, rfl, made, routed, rfl⟩

/-- what it forwards for its tenant, who is named in a header as well as in the path -/
def sentBy (g : Gateway ℚ) (uri : Uri) : List (Category × ForwardRequest) :=
  let headers := (Headers.ofFields? [("x-tenant-id", .plain "acme")]).getD .empty
  (g.serve sampleOutside () 0 "id" { method := "OPTIONS", uri, headers, body := [] }).forwarded

/-- a request is sent to the server that its URL names, found by its path -/
theorem exists_sent_to (url path : String) {sent : List (Category × ForwardRequest)} {server : List Char}
    (listed : (Category.openai, path) ∈ sent.map fun f => (f.1, f.2.path))
    (names : server? ((HttpBackend.make Category.openai.name url).base ++ path) = some server) :
    ∃ r, (.openai, r) ∈ sent ∧ server? ((HttpBackend.make Category.openai.name url).urlText r) = some server := by
  obtain ⟨⟨c, r⟩, member, same⟩ := List.mem_map.1 listed
  obtain ⟨rfl, rfl⟩ := Prod.mk.inj same
  exact ⟨r, member, names⟩

/-- **A path that begins like the place of another server.** It reaches the configured server, whose URL ends with slashes. -/
theorem forwarded_server_slashes :
    let url := "https://backend.example:8443//"
    let g := oneBackend .pathPrefix url "openai"
    let uri : Uri := ⟨"/acme//evil.example/openai", none⟩
    Uri.parse "/acme//evil.example/openai" = some uri ∧ g.settings.config.backends.validate = .ok () ∧
    g.settings.config.backends.endpoint? .openai = some ⟨url⟩ ∧
    ∃ r, (.openai, r) ∈ sentBy g uri ∧ KeepsServer url ((HttpBackend.make Category.openai.name url).urlText r) := by
  intro url g uri
  have parsed : Uri.parse "/acme//evil.example/openai" = some uri := by decide +kernel
  have valid : g.settings.config.backends.validate = .ok () := by decide +kernel
  have endpoint : g.settings.config.backends.endpoint? .openai = some ⟨url⟩ := rfl
  have named : BackendEndpoint.NamesServer ⟨url⟩ := ⟨"backend.example:8443".toList, by decide, by decide +kernel⟩
  obtain ⟨r, member, -⟩ : ∃ r, (Category.openai, r) ∈ sentBy g uri ∧
      server? ((HttpBackend.make Category.openai.name url).urlText r) = some "backend.example:8443".toList :=
    exists_sent_to url "//evil.example/openai" (by decide +kernel) (by decide +kernel)
  obtain ⟨-, keeps⟩ := forwarded_server sampleOutside g () 0 "id" parsed valid member endpoint
  exact ⟨parsed, valid, endpoint, r, member, keeps.2 ⟨named, fun ⟨mode, _⟩ => mode rfl⟩⟩

/-- **Two ways to another server.** Where the configured URL ends with its server, a caller whom a header names makes an asterisk a part
of the server's name. Where it names no server, and is valid all the same, a caller names one. -/
theorem server_not_kept :
    let g := oneBackend (.header "x-tenant-id") "http://backend.example" "*"
    let nameless := oneBackend .pathPrefix "http://" "openai"
    (build g.settings.config (some "static") [.openai] [] = .ok g ∧ Uri.parse "*" = some ⟨"*", none⟩ ∧
      ∃ r, (.openai, r) ∈ sentBy g ⟨"*", none⟩ ∧
        server? ((HttpBackend.make Category.openai.name "http://backend.example").urlText r) = some "backend.example*".toList ∧
        ¬KeepsServer "http://backend.example" ((HttpBackend.make Category.openai.name "http://backend.example").urlText r)) ∧
    build nameless.settings.config (some "static") [.openai] [] = .ok nameless ∧
      Uri.parse "/acme//evil.example/openai" = some ⟨"/acme//evil.example/openai", none⟩ ∧
      ∃ r, (.openai, r) ∈ sentBy nameless ⟨"/acme//evil.example/openai", none⟩ ∧
        server? ((HttpBackend.make Category.openai.name "http://").urlText r) = some "evil.example".toList ∧
        ¬KeepsServer "http://" ((HttpBackend.make Category.openai.name "http://").urlText r) := by
  intro g nameless
  have built : build g.settings.config (some "static") [.openai] [] = .ok g :=
    build_oneBackend (by decide +kernel) (by decide +kernel)
  have built' : build nameless.settings.config (some "static") [.openai] [] = .ok nameless :=
    build_oneBackend (by decide +kernel) (by decide +kernel)
  obtain ⟨r, member, names⟩ : ∃ r, (Category.openai, r) ∈ sentBy g ⟨"*", none⟩ ∧
      server? ((HttpBackend.make Category.openai.name "http://backend.example").urlText r) = some "backend.example*".toList :=
    exists_sent_to "http://backend.example" "*" (by decide +kernel) (by decide +kernel)
  obtain ⟨r', member', names'⟩ : ∃ r, (Category.openai, r) ∈ sentBy nameless ⟨"/acme//evil.example/openai", none⟩ ∧
      server? ((HttpBackend.make Category.openai.name "http://").urlText r) = some "evil.example".toList :=
    exists_sent_to "http://" "//evil.example/openai" (by decide +kernel) (by decide +kernel)
  refine ⟨⟨built, by decide +kernel, r, member, names, ?_⟩, built', by decide +kernel, r', member', names', ?_⟩
  · exact not_keepsServer names (by decide +kernel)
  · exact not_keepsServer names' (by decide +kernel)

end Gateway

end TenantGateway
