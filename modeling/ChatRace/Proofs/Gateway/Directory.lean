import ChatRace.Gateway.Setup
import ChatRace.Proofs.Backend.Registrations
import ChatRace.Proofs.Chat.Candidates
import ChatRace.Proofs.Config.Backends
import ChatRace.Proofs.Gateway.FrontDoor
import ChatRace.Proofs.Json.Reading

/-!
# Reaching the configured backends

A list of backends and the `model` of a request are cut and trimmed on their own, and a backend is looked up by the
whole of its name.  The names that a configuration can have are candidates as they stand
(`Config.isEntry_of_mem_names`), so the gateway has the configured backends in their order under their names, lists
them, and finds for every selection of them the backends that have been selected (`App.ofConfig_reaches`).
-/

namespace ChatRace

open Chat

/-! ### Configured names -/

/-- The names of the backends of a configuration, or of the mock backends if there are none. -/
def Config.names (c : Config) : List String :=
  if c.backends = [] then ["mock-slow", "mock-medium", "mock-fast"] else c.backends.map (·.id)

variable {raw : String} {c : Config} {network : Provider.Network} {locate : Json.Locator}

theorem Config.nodup_names (h : BackendSpec.ofText raw = .ok c.backends) : c.names.Nodup := by
  unfold names
  split
  · decide
  · exact (BackendSpec.isWritable_of_ofText h).2

/-- A configured name is trimmed and has no comma. -/
theorem Config.isEntry_of_mem_names (h : BackendSpec.ofText raw = .ok c.backends) {id : String} (hid : id ∈ c.names) :
    Text.IsTrimmed id.toList ∧ ',' ∉ id.toList := by
  unfold names at hid
  split at hid
  · -- the three names are the entries of a text
    have hentries : Text.entries "mock-slow,mock-medium,mock-fast" = ["mock-slow", "mock-medium", "mock-fast"] := by
      decide +kernel
    exact Text.of_mem_entries (hentries ▸ hid)
  · obtain ⟨spec, hspec, rfl⟩ := List.mem_map.1 hid
    have hwritable := (BackendSpec.isWritable_of_ofText h).1 spec hspec
    exact ⟨hwritable.id, hwritable.comma_id⟩

namespace App

/-! ### Registered backends -/

private theorem getElem?_onLines (make : α → Nat → Backend) (xs : List α) (k : Nat) :
    (onLines (xs.map make))[k]? = xs[k]?.map fun x => make x k := by
  rw [onLines, List.getElem?_map, List.getElem?_zipIdx, List.getElem?_map]
  cases xs[k]? <;> simp

private theorem names_onLines {make : α → Nat → Backend} (name : α → String)
    (h : ∀ x line, (make x line).name = name x) (xs : List α) :
    (onLines (xs.map make)).map (·.name) = xs.map name := by
  refine List.ext_getElem? fun k => ?_
  rw [List.getElem?_map, getElem?_onLines, List.getElem?_map, Option.map_map]
  exact Option.map_congr fun x _ => h x k

/-- The backends of a configuration have its names. -/
theorem names_makers (network : Provider.Network) (c : Config) (locate : Json.Locator) :
    (onLines (makers network c locate)).map (·.name) = c.names := by
  unfold makers Config.names
  by_cases h : c.backends = []
  · simp only [h, List.isEmpty_nil, if_true]
    exact names_onLines Mock.name (fun _ _ => rfl) defaultMocks
  · simp only [h, List.isEmpty_iff, if_false]
    exact names_onLines BackendSpec.id (fun _ _ => rfl) c.backends

theorem ids_ofConfig (h : BackendSpec.ofText raw = .ok c.backends) :
    (ofConfig network c locate).registry.ids = c.names := by
  have hnames := names_makers network c locate
  rw [← hnames]
  exact congrArg (List.map (·.name)) (Registry.backends_ofList (hnames ▸ c.nodup_names h))

private theorem get?_ofConfig (h : BackendSpec.ofText raw = .ok c.backends) {k : Nat} {b : Backend}
    (hb : (onLines (makers network c locate))[k]? = some b) :
    (ofConfig network c locate).registry.get? b.name = some b :=
  Registry.get?_ofList (names_makers network c locate ▸ c.nodup_names h) (List.mem_of_getElem? hb)

/-- The name of an entry is that of the provider which the entry describes. -/
theorem get?_ofConfig_of_entry (h : BackendSpec.ofText raw = .ok c.backends) {k : Nat} {spec : BackendSpec}
    (hspec : c.backends[k]? = some spec) :
    (ofConfig network c locate).registry.get? spec.id =
      some (Provider.backend network ⟨spec.id, spec.baseUrl, c.apiKey⟩ k locate) := by
  have hne : c.backends ≠ [] := by
    intro hnil
    simp [hnil] at hspec
  have hb : (onLines (makers network c locate))[k]? =
      some (Provider.backend network ⟨spec.id, spec.baseUrl, c.apiKey⟩ k locate) := by
    simp only [makers, List.isEmpty_iff, hne, if_false, getElem?_onLines, hspec, Option.map_some]
  exact get?_ofConfig h hb

/-- Without entries, the name of a mock backend is that of the mock backend. -/
theorem get?_ofConfig_of_mock (h : BackendSpec.ofText raw = .ok c.backends) (hnone : c.backends = []) {k : Nat}
    {m : Mock} (hm : defaultMocks[k]? = some m) :
    (ofConfig network c locate).registry.get? m.name = some (m.backend k) := by
  have hb : (onLines (makers network c locate))[k]? = some (m.backend k) := by
    simp only [makers, hnone, List.isEmpty_nil, if_true, getElem?_onLines, hm, Option.map_some]
  exact get?_ofConfig h hb

end App

/-! ### The list of models -/

/-- Lists of models as documents hold them, of which only the ids are wanted. -/
def listing : Json.Reader (List String) :=
  (Json.Record.only "data" (Json.Reader.list (Json.Record.only "id" Json.Reader.text).reader)).reader

theorem decode_modelList (ids : List String) :
    Json.decode listing (Text.toUtf8 (modelList ids).render) = .ok ids := by
  have hexact : (modelList ids).IsExact := by simp [modelList]
  let model (id : String) : Json.Value :=
    .object [("id", .text id), ("object", .text "model"), ("owned_by", .text "gateway")]
  let modelReader : Json.Reader String := (Json.Record.only "id" Json.Reader.text).reader
  have hmodel (id : String) : modelReader (model id).node = .ok id :=
    Json.Record.reader_only [] _ (by simp) (by simp) (Json.Reader.text_node id) (by simp)
  have hdata : Json.Reader.list modelReader (Json.Value.array (ids.map model)).node = .ok ids :=
    Json.Reader.list_node (List.forall₂_map_left_iff.2 (List.forall₂_same.2 fun id _ => hmodel id))
  rw [Json.decode_render listing hexact]
  exact Json.Record.reader_only [("object", .text "list")] [] hexact (by simp) hdata (by simp)

/-- Whoever asks for the models has the list of the registered names in the end. -/
theorem Server.serve_models (srv : Server) {clients : List Client} {k : Nat} {client : Client}
    (hc : clients[k]? = some client) (hfind : Endpoint.find client.request = .ok .models)
    (hmethod : client.request.method ≠ "HEAD") :
    (srv.serve clients).1[k]? =
      some (.answered (.whole client.room 0 (.json 200 (modelList srv.app.registry.ids)))) := by
  refine serve_endsAs hc (.step rfl fun metrics => ?_)
  simp only [Session.step, Session.arrive, hfind, hmethod, if_false]
  refine .ended rfl ?_
  simp only [Session.answerWith, Nat.sub_self]

/-! ### Selections -/

/-- A request for a selection of configured names is accepted and finds the backends that have these names. -/
theorem App.exists_toRace_of_writes (h : BackendSpec.ofText raw = .ok c.backends) {pieces names : List String}
    (hwrites : Writes pieces names) (hsome : names ≠ []) (hnames : ∀ id ∈ names, id ∈ c.names) {q : ClientRequest}
    (hmodel : q.model = ",".intercalate pieces) (hfastest : q.fastestResponse = true) (hmessages : q.messages ≠ [])
    (requestId : String) :
    ∃ request bs, q.toRace requestId = .ok request ∧ request.candidates = names.eraseDups ∧
      Race.resolve (ofConfig network c locate).registry request.candidates = .ok bs ∧
      bs.map (·.name) = names.eraseDups := by
  have hcandidates : candidates q.model = names.eraseDups := by
    rw [hmodel]
    exact candidates_of_writes hwrites fun id hid => c.isEntry_of_mem_names h (hnames id hid)
  have hcandidatesSome : candidates q.model ≠ [] := by
    obtain ⟨id, rest, rfl⟩ := List.exists_cons_of_ne_nil hsome
    rw [hcandidates, List.eraseDups_cons]
    exact List.cons_ne_nil _ _
  have hknown : ∀ id ∈ names.eraseDups, ((ofConfig network c locate).registry.get? id).isSome := by
    intro id hid
    rw [Registry.isSome_get?_iff, ids_ofConfig h]
    exact hnames id (List.mem_eraseDups.1 hid)
  obtain ⟨bs, hbs⟩ := Race.exists_resolve hknown
  refine ⟨⟨requestId, names.eraseDups, q.messages, q.generation, q.stream⟩, bs, ?_, rfl, hbs, Race.names_resolve hbs⟩
  rw [ClientRequest.toRace, ClientRequest.refusal?_eq_none hcandidatesSome (.inr hfastest) hmessages, hcandidates]

/-! ### The gateway of a configuration -/

private theorem find_models {r : Http.Request} (hmethod : r.method = "GET") (hpath : r.path = "/v1/models") :
    Endpoint.find r = .ok .models := by
  have hendpoint : Endpoint.ofPath? "/v1/models" = some .models := by decide
  simp [Endpoint.find, hpath, hendpoint, hmethod, Endpoint.methods]

namespace App

/-- Take the gateway of a configuration whose backends have been read from a text.  Its names are the configured ones in
their order, or those of the three mock backends if none are configured, and whoever asks for the models gets them so.
Each name is the only candidate of itself and belongs to the backend of its own entry, and no other name belongs to any.
However a selection of these names is written with blanks and blank entries between them, a request for the fastest of
them with some message is accepted, its candidates are the selected names where each comes first, and the race finds the
backends of all of them. -/
theorem ofConfig_reaches (h : BackendSpec.ofText raw = .ok c.backends) (network : Provider.Network)
    (locate : Json.Locator) :
    let registry := (ofConfig network c locate).registry
    registry.ids = c.names ∧
    (∀ (srv : Server) (clients : List Client) (k : Nat) (client : Client), srv.app = ofConfig network c locate →
      clients[k]? = some client → client.request.method = "GET" → client.request.path = "/v1/models" →
      client.room = none →
      ∃ a, (srv.serve clients).1[k]? = some (.answered a) ∧ a.status = 200 ∧
        Json.decode listing (Text.toUtf8 a.body) = .ok c.names) ∧
    (∀ (k : Nat) (spec : BackendSpec), c.backends[k]? = some spec →
      registry.get? spec.id = some (Provider.backend network ⟨spec.id, spec.baseUrl, c.apiKey⟩ k locate)) ∧
    (c.backends = [] → ∀ (k : Nat) (m : Mock), defaultMocks[k]? = some m →
      registry.get? m.name = some (m.backend k)) ∧
    (∀ id, (registry.get? id).isSome ↔ id ∈ c.names) ∧
    (∀ id ∈ c.names, candidates id = [id]) ∧
    ∀ (pieces names : List String) (q : ClientRequest) (requestId : String), Writes pieces names → names ≠ [] →
      (∀ id ∈ names, id ∈ c.names) → q.model = ",".intercalate pieces → q.fastestResponse = true → q.messages ≠ [] →
      ∃ request bs, q.toRace requestId = .ok request ∧ request.candidates = names.eraseDups ∧
        Race.resolve registry request.candidates = .ok bs ∧ bs.map (·.name) = names.eraseDups := by
  intro registry
  have hids : registry.ids = c.names := ids_ofConfig h
  refine ⟨hids, ?_, fun k spec => get?_ofConfig_of_entry h, fun hnone k m => get?_ofConfig_of_mock h hnone, ?_, ?_, ?_⟩
  · intro srv clients k client happ hc hmethod hpath hroom
    have hget : client.request.method ≠ "HEAD" := by
      rw [hmethod]
      decide
    have hend := srv.serve_models hc (find_models hmethod hpath) hget
    rw [happ, hids, hroom] at hend
    exact ⟨_, hend, rfl, decode_modelList c.names⟩
  · intro id
    rw [Registry.isSome_get?_iff, hids]
  · intro id hid
    obtain ⟨htrimmed, hcomma⟩ := c.isEntry_of_mem_names h hid
    exact candidates_of_isTrimmed htrimmed hcomma
  · intro pieces names q requestId hwrites hsome hnames hmodel hfastest hmessages
    exact exists_toRace_of_writes h hwrites hsome hnames hmodel hfastest hmessages requestId

/-- Two providers, one with a space in its name, of which none answers. -/
private def twoProviders : Config :=
  { Config.default with backends := [⟨"b", "http://one/v1"⟩, ⟨"c d", "http://two/v1?k=v"⟩] }

private def silent : Provider.Network := fun _ => .unanswered 0 false

/-- A wish for both, with a no-break space and a blank entry behind the one with the space. -/
private def bothWished : ClientRequest := ⟨" c d\u00a0,\t,b,c d", [⟨.user, "hi"⟩], .free, false, true, none⟩

/-- The provider with a space in its name has its own address, and is the first candidate of who names it first. -/
theorem ofConfig_reaches_twoProviders :
    (ofConfig silent twoProviders).registry.get? "c d" =
        some (Provider.backend silent ⟨"c d", "http://two/v1?k=v", none⟩ 1) ∧
      ∃ request bs, bothWished.toRace "req_1" = .ok request ∧ request.candidates = ["c d", "b"] ∧
        Race.resolve (ofConfig silent twoProviders).registry request.candidates = .ok bs ∧
        bs.map (·.name) = ["c d", "b"] := by
  have hread : BackendSpec.ofText "b=http://one/v1,, c d = http://two/v1?k=v " = .ok twoProviders.backends := by
    decide +kernel
  have hspace : ∀ c ∈ " ".toList, Text.isBlank c = true := by simp [Text.isBlank]
  have hnoBreakSpace : ∀ c ∈ "\u00a0".toList, Text.isBlank c = true := by simp [Text.isBlank]
  have htab : ∀ c ∈ "\t".toList, Text.isBlank c = true := by simp [Text.isBlank]
  have hnone : ∀ c ∈ "".toList, Text.isBlank c = true := by simp
  have hwrites : Writes [" " ++ "c d" ++ "\u00a0", "\t", "" ++ "b" ++ "", "" ++ "c d" ++ ""] ["c d", "b", "c d"] :=
    .name "c d" hspace hnoBreakSpace (.blank htab (.name "b" hnone hnone (.name "c d" hnone hnone .nil)))
  have hnames : ∀ id ∈ ["c d", "b", "c d"], id ∈ twoProviders.names := by simp [Config.names, twoProviders]
  obtain ⟨-, -, hentries, -, -, -, hselections⟩ := ofConfig_reaches hread silent .mute
  exact ⟨hentries 1 _ rfl, hselections _ _ bothWished "req_1" hwrites (by simp) hnames rfl rfl (by simp [bothWished])⟩

end App

end ChatRace
