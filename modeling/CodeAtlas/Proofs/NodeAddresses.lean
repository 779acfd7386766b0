import CodeAtlas.Proofs.AddressPaths
import CodeAtlas.Proofs.Arrivals
import CodeAtlas.Proofs.StaleDetails
import Mathlib.Data.Option.Basic

/-!
The nodes of the backend as entries of a collection. A request for the details of a node puts its id
behind the address of the collection as it is. It reaches the node exactly if the id is plain and
the base has neither query nor fragment; otherwise it is answered from somewhere else, and what is
shown for the selection need not be about the node that is selected.
-/
namespace CodeAtlas

def Request.nodes : Request := { method := "GET", path := "/api/graph/node" }

namespace Net.Url

/-- Whether what is added to an address belongs to its path. -/
def isOpen (s : String) : Bool := s.toList.all (!isTail ·)

def Site.isSendable (site : Site) : Bool := (site.url []).hasHost && (site.url []).isHttp

theorem Site.sendable_iff {site : Site} {rest : List Char} :
    site.isSendable = true ↔
      (site.url rest).hasHost = true ∧ (site.url rest).isHttp = true := by
  rw [isSendable, Bool.and_eq_true]
  refine and_congr_left ?_
  intro http
  have web : kindOf site.scheme = .web := kindOf_http http
  rw [hasHost, hasHost, (url_eq web _).2.1, (url_eq web _).2.1]

theorem Site.web_of_sendable {site : Site} (sendable : site.isSendable = true) :
    kindOf site.scheme = .web :=
  kindOf_http (u := site.url []) (Bool.and_eq_true_iff.mp sendable).2

def graphBelow (base : String) : List Char := cleanedStart base.toList ++ "/api/graph".toList

theorem cleaned_nodes (base : String) :
    cleaned (base ++ Request.nodes.path) = graphBelow base ++ '/' :: "node".toList := by
  have chars : (base ++ Request.nodes.path).toList =
      base.toList ++ '/' :: "api/graph/node".toList := by
    rw [String.toList_append]
    rfl
  rw [cleaned_append chars (by decide), graphBelow, List.append_assoc]
  rfl

theorem cleaned_node (base id : String) :
    cleaned (base ++ (Call.details id).request.path) =
      graphBelow base ++ '/' :: ("node".toList ++ '/' :: cleanedEnd id.toList) := by
  have chars : (base ++ (Call.details id).request.path).toList =
      base.toList ++ '/' :: ("api/graph/node".toList ++ '/' :: id.toList) := by
    rw [Call.request, String.toList_append, String.toList_append]
    rfl
  rw [cleaned_append chars (by decide), cleanedEnd_append (by decide), graphBelow,
    List.append_assoc]
  rfl

theorem inner_node : ∀ c ∈ "node".toList, isInner c = true := List.all_eq_true.mp (by decide)

theorem namesHost_graph (base : String) : NamesHost (graphBelow base) := by
  have ends : graphBelow base = (cleanedStart base.toList ++ "/api/grap".toList) ++ ['h'] := by
    rw [graphBelow, List.append_assoc]
    rfl
  rw [ends]
  exact namesHost_of_last (by decide) (by decide) _

theorem tail_of_graph {base : String} {site : Site} {before : List Char}
    (found : site? (graphBelow base) = some (site, before)) :
    (∀ c ∈ before, isTail c = false) ↔ isOpen base = true := by
  have same {c : Char} (tail : isTail c = true) : c ∈ before ↔ c ∈ base.toList := by
    have marks : c = '?' ∨ c = '#' := by simpa [isTail] using tail
    rw [← tail_of_site found tail, graphBelow, List.mem_append]
    rcases marks with rfl | rfl
    · rw [mem_cleanedStart (by decide)]
      simp
    · rw [mem_cleanedStart (by decide)]
      simp
  simp only [isOpen, List.all_eq_true, Bool.not_eq_true', ← Bool.not_eq_true]
  refine forall_congr' fun c => ⟨?_, ?_⟩
  · intro clear inside tail
    exact clear ((same tail).mpr inside) tail
  · intro clear inside tail
    exact clear ((same tail).mp inside) tail

theorem namesHost_of_base {base : String} {b : Url} (read : parse? base = some b)
    (http : b.isHttp = true) : NamesHost (cleanedStart base.toList) := by
  obtain ⟨site, rest, alone, rfl⟩ := (parse_http http).mp read
  obtain ⟨left, start, more⟩ := Site.behind_slashes alone
  obtain ⟨behind, longer⟩ := cleanedStart_eq base
  rw [longer]
  exact namesHost_append start more behind

theorem segments_of_nodes {before : List Char} (start : ∀ c ∈ before.head?, isSlash c = true) :
    ∃ front, segmentsOf .web (before ++ '/' :: "api/graph/node".toList) =
      front ++ ["api", "graph", "node"] := by
  obtain ⟨settled, segments⟩ := segmentsOf_behind start
  have parts : Text.parts isSlash "api/graph/node".toList =
      ["api".toList, "graph".toList, "node".toList] := by decide
  have written : [escapePath "api".toList, escapePath "graph".toList, escapePath "node".toList] =
      ["api", "graph", "node"] := by decide
  refine ⟨settled, ?_⟩
  rw [segments, parts, resolve_cons (by decide) (by decide), resolve_cons (by decide) (by decide),
    resolve_cons (by decide) (by decide), resolve, List.append_assoc, List.append_assoc,
    List.singleton_append, List.singleton_append, written]

end Net.Url

/-! ### Requests -/

open Net Net.Url

namespace Request

theorem address_eq_ok {r : Request} (bare : r.query = none) {base : String} {u : Net.Url} :
    r.address base = .ok u ↔
      parse? (base ++ r.path) = some u ∧ u.hasHost = true ∧ u.isHttp = true := by
  rw [address]
  cases parse? (base ++ r.path) with
  | none => simp
  | some v =>
    by_cases host : v.hasHost = true
    · by_cases http : v.isHttp = true
      · simp only [bare, host, http, Bool.not_true, Bool.false_eq_true, ↓reduceIte,
          Except.ok.injEq, Option.some.injEq]
        constructor
        · rintro rfl
          exact ⟨rfl, host, http⟩
        · exact And.left
      · simp only [bare, host, http, Bool.not_true, Bool.false_eq_true, ↓reduceIte,
          reduceCtorEq, Option.some.injEq, false_iff]
        rintro ⟨rfl, _, wrong⟩
        exact http wrong
    · simp only [host, Bool.not_false, ↓reduceIte, reduceCtorEq, Option.some.injEq, false_iff]
      rintro ⟨rfl, wrong, _⟩
      exact host wrong

theorem address_below_graph {r : Request} (bare : r.query = none) {base : String}
    {more : List Char} (read : cleaned (base ++ r.path) = graphBelow base ++ '/' :: more)
    {u : Net.Url} :
    r.address base = .ok u ↔ ∃ site before, site? (graphBelow base) = some (site, before) ∧
      site.isSendable = true ∧ u = site.url (before ++ '/' :: more) := by
  rw [address_eq_ok bare]
  constructor
  · rintro ⟨parsed, host, http⟩
    obtain ⟨site, left, found, rfl⟩ := (parse_http http).mp parsed
    rw [read, site_append (namesHost_graph base)] at found
    obtain ⟨before, found, rfl⟩ := found
    exact ⟨site, before, found, Site.sendable_iff.mpr ⟨host, http⟩, rfl⟩
  · rintro ⟨site, before, found, sendable, rfl⟩
    obtain ⟨host, http⟩ := Site.sendable_iff.mp sendable
    refine ⟨(parse_http http).mpr ⟨site, _, ?_, rfl⟩, host, http⟩
    rw [read, site_append (namesHost_graph base)]
    exact ⟨before, found, rfl⟩

theorem nodes_address {base : String} {u : Net.Url} :
    nodes.address base = .ok u ↔ ∃ site before, site? (graphBelow base) = some (site, before) ∧
      site.isSendable = true ∧ u = site.url (before ++ '/' :: "node".toList) :=
  address_below_graph rfl (cleaned_nodes base)

theorem details_address {base id : String} {u : Net.Url} :
    (Call.details id).request.address base = .ok u ↔
      ∃ site before, site? (graphBelow base) = some (site, before) ∧ site.isSendable = true ∧
        u = site.url (before ++ '/' :: ("node".toList ++ '/' :: cleanedEnd id.toList)) :=
  address_below_graph rfl (cleaned_node base id)

theorem details_sendable_iff {base id : String} :
    (∃ u, (Call.details id).request.address base = .ok u) ↔
      ∃ u, nodes.address base = .ok u := by
  constructor
  · rintro ⟨u, sent⟩
    obtain ⟨site, before, graph, sendable, _⟩ := details_address.mp sent
    exact ⟨_, nodes_address.mpr ⟨site, before, graph, sendable, rfl⟩⟩
  · rintro ⟨u, found⟩
    obtain ⟨site, before, graph, sendable, _⟩ := nodes_address.mp found
    exact ⟨_, details_address.mpr ⟨site, before, graph, sendable, rfl⟩⟩

end Request

/-! ### What is reached -/

namespace Call

section Below

variable {base : String} {nodes : Net.Url} (found : Request.nodes.address base = .ok nodes)

include found

theorem path_of_nodes {b : Net.Url} (read : parse? base = some b) (http : b.isHttp = true)
    (opened : isOpen base = true) :
    ∃ front, nodes.path = .segments (front ++ ["api", "graph", "node"]) := by
  obtain ⟨site, before, graph, sendable, rfl⟩ := Request.nodes_address.mp found
  have clear := (tail_of_graph graph).mpr opened
  have split : graphBelow base = cleanedStart base.toList ++ '/' :: "api/graph".toList := rfl
  rw [split, site_append (namesHost_of_base read http)] at graph
  obtain ⟨front, atBase, rfl⟩ := graph
  have first := slash_of_start (site_rest_start atBase)
    fun c inside => clear c (List.mem_append_left _ inside)
  have all := clear_behind clear fun c inside => (inner_marks (inner_node c inside)).2
  have path := path_without_tail (Site.web_of_sendable sendable) all []
  have whole : (front ++ '/' :: "api/graph".toList) ++ '/' :: "node".toList =
      front ++ '/' :: "api/graph/node".toList := by
    rw [List.append_assoc]
    rfl
  obtain ⟨settled, segments⟩ := segments_of_nodes first
  rw [List.takeWhile_nil, List.append_nil, whole, segments] at path
  exact ⟨settled, by rw [whole, path]⟩

variable {id : String} {u : Net.Url} (sent : (Call.details id).request.address base = .ok u)

include sent

theorem shared_site :
    ∃ (site : Site) (before : List Char), kindOf site.scheme = .web ∧
      (∀ c ∈ before.head?, isInner c = false) ∧
      ((∀ c ∈ before, isTail c = false) ↔ isOpen base = true) ∧
      nodes = site.url (before ++ '/' :: "node".toList) ∧
      u = site.url (before ++ '/' :: ("node".toList ++ '/' :: cleanedEnd id.toList)) := by
  obtain ⟨site, before, graph, sendable, rfl⟩ := Request.nodes_address.mp found
  obtain ⟨other, front, again, _, rfl⟩ := Request.details_address.mp sent
  rw [graph, Option.some.injEq, Prod.mk.injEq] at again
  obtain ⟨rfl, rfl⟩ := again
  exact ⟨site, before, Site.web_of_sendable sendable, site_rest_start graph, tail_of_graph graph,
    rfl, rfl⟩

theorem node_iff_plain : nodes.Entry id u ↔ isOpen base = true ∧ isPlain id = true := by
  obtain ⟨site, before, web, start, clear, rfl, rfl⟩ := shared_site found sent
  rw [← clear]
  exact entry_iff web start inner_node (by decide) (by decide) id

theorem target_of_node (node : nodes.Entry id u) :
    u.target = nodes.target ++ ("/" ++ escapePath id.toList) := by
  obtain ⟨opened, plain⟩ := (node_iff_plain found sent).mp node
  obtain ⟨site, before, web, start, clear, rfl, rfl⟩ := shared_site found sent
  exact target_of_plain web start inner_node (by decide) (by decide) (clear.mpr opened) plain

theorem node_of_target (node : nodes.Entry id u) {other : String} {v : Net.Url}
    (sent' : (Call.details other).request.address base = .ok v) (node' : nodes.Entry other v)
    (same : u.target = v.target) : id = other := by
  rw [target_of_node found sent node, target_of_node found sent' node',
    String.append_right_inj, String.append_right_inj] at same
  have plain := ((node_iff_plain found sent).mp node).2
  have plain' := ((node_iff_plain found sent').mp node').2
  refine Text.utf8_injective ?_
  rw [← unescape_plain plain, ← unescape_plain plain', same]

end Below

end Call

/-! ### What is shown -/

/-- Whether a backend answers at the entry of each name with what it has to say about that name. -/
def Net.Url.Tells (collection : Net.Url) (serve : Net.Url → Reply) (about : String → Reply) :
    Prop :=
  ∀ name u, collection.Entry name u → serve u = about name

def Call.answered (serve : Net.Url → Reply) (base : String) (c : Call) : Completion :=
  c.complete (match c.request.address base with
    | .ok u => .ok (serve u)
    | .error why => .error (.transport why.message))

/-- Every backend that tells of the entries answers at an address as it should about a name exactly
if the address is that of the entry. -/
theorem Net.Url.told_iff {collection u : Net.Url} {name : String} :
    (∀ serve about, collection.Tells serve about →
        (serve u).value.toOption = (about name).value.toOption) ↔ collection.Entry name u := by
  constructor
  · intro told
    by_contra other
    classical
    -- a backend that knows this name alone, and fails everywhere else
    refine absurd (told (fun v => if collection.Entry name v then {} else { status := 500 })
      (fun known => if known = name then {} else { status := 500 }) ?_) ?_
    · intro known v entry
      by_cases same : known = name
      · subst same
        simp [entry]
      · have apart : ¬ collection.Entry name v := fun also => same (entry.unique also)
        simp [same, apart]
    · simp only [other, ↓reduceIte]
      decide
  · intro entry serve about tells
    rw [tells name u entry]

namespace Session

def inspect (serve : Net.Url → Reply) (base id : String) (s : Session) : Session :=
  let r := s.perform (.select (some id))
  (r.1.receiveAll ((callsOf r.2).map fun c => .completed (c.answered serve base))).1

theorem inspect_details {s : Session} (live : s.tornDown = false) {id : String}
    (other : s.selection.selected ≠ some id) {base : String} {u : Net.Url}
    (sent : (Call.details id).request.address base = .ok u) (serve : Net.Url → Reply) :
    (s.inspect serve base id).details =
      (serve u).value.toOption.map fun value => ⟨id, value⟩ := by
  have asked : callsOf (s.perform (.select (some id))).2 = [.details id] := by
    simp [perform, select, other, ask, live, callsOf]
  have answer : (Call.details id).answered serve base = .details id (serve u).value := by
    rw [Call.answered, sent]
    rfl
  obtain ⟨selected, _, still⟩ := select_selected other
  rw [inspect, asked, receiveAll_session, List.map_singleton, answer]
  exact receive_details_live (still.trans live) selected _

theorem shown_iff_reached {s : Session} (live : s.tornDown = false) {id : String}
    (other : s.selection.selected ≠ some id) {base : String} {u : Net.Url}
    (sent : (Call.details id).request.address base = .ok u) (nodes : Net.Url) :
    (∀ serve about, nodes.Tells serve about → (s.inspect serve base id).details =
        (about id).value.toOption.map fun value => ⟨id, value⟩) ↔ nodes.Entry id u := by
  have labelled : Function.Injective fun value => (⟨id, value⟩ : NodeDetails) := by
    intro value value' same
    exact (NodeDetails.mk.inj same).2
  rw [← Net.Url.told_iff]
  refine forall_congr' fun serve => forall_congr' fun about => imp_congr_right fun _ => ?_
  rw [inspect_details live other sent, (Option.map_injective labelled).eq_iff]

end Session

namespace Call

theorem details_reach_node_iff_plain (base id : String) :
    ((∃ u, (details id).request.address base = .ok u) ↔
      ∃ nodes, Request.nodes.address base = .ok nodes) ∧
    ∀ nodes u, Request.nodes.address base = .ok nodes →
      (details id).request.address base = .ok u →
      (nodes.Entry id u ↔ isOpen base = true ∧ isPlain id = true) ∧
      (nodes.Entry id u → u.target = nodes.target ++ ("/" ++ escapePath id.toList)) ∧
      (∀ other v, (details other).request.address base = .ok v → nodes.Entry id u →
        nodes.Entry other v → u.target = v.target → id = other) ∧
      (∀ b, parse? base = some b → b.isHttp = true → isOpen base = true →
        ∃ front, nodes.path = .segments (front ++ ["api", "graph", "node"])) ∧
      ∀ s : Session, s.tornDown = false → s.selection.selected ≠ some id →
        ((∀ serve about, nodes.Tells serve about → (s.inspect serve base id).details =
          (about id).value.toOption.map fun value => ⟨id, value⟩) ↔ nodes.Entry id u) := by
  refine ⟨Request.details_sendable_iff, ?_⟩
  intro nodes u found sent
  refine ⟨node_iff_plain found sent, target_of_node found sent, ?_, ?_, ?_⟩
  · intro other v sent' node node' same
    exact node_of_target found sent node sent' node' same
  · intro b read http opened
    exact path_of_nodes found read http opened
  · intro s live other
    exact Session.shown_iff_reached live other sent nodes

theorem details_of_spelled_out_type_reached :
    ∃ nodes u, Request.nodes.address "http://[::1]:5000" = .ok nodes ∧
      (details "Map<K> café").request.address "http://[::1]:5000" = .ok u ∧
      nodes.Entry "Map<K> café" u ∧ u.target = "/api/graph/node/Map%3CK%3E%20caf%C3%A9" ∧
      ∀ serve about, nodes.Tells serve about →
        (({} : Session).inspect serve "http://[::1]:5000" "Map<K> café").details =
          (about "Map<K> café").value.toOption.map fun value => ⟨"Map<K> café", value⟩ := by
  have found : Request.nodes.address "http://[::1]:5000" =
      .ok ⟨"http", some "[::1]", some 5000, .segments ["api", "graph", "node"], none, none⟩ := rfl
  have spelled : ("/api/graph/node" ++ ("/" ++ escapePath "Map<K> café".toList) : String) =
      "/api/graph/node/Map%3CK%3E%20caf%C3%A9" := by decide +kernel
  obtain ⟨sendable, reach⟩ := details_reach_node_iff_plain "http://[::1]:5000" "Map<K> café"
  obtain ⟨u, sent⟩ := sendable.mpr ⟨_, found⟩
  obtain ⟨reached, target, _, _, shown⟩ := reach _ u found sent
  have node := reached.mpr ⟨by decide, by decide⟩
  exact ⟨_, u, found, sent, node, (target node).trans spelled, (shown {} rfl (by decide)).mpr node⟩

/-- An id that climbs out of the nodes is answered with the statistics, and one with a query is
taken for a shorter one. -/
theorem details_of_climbing_id_are_statistics :
    ∃ nodes u v, Request.nodes.address "http://[::1]:5000" = .ok nodes ∧
      (details "../stats").request.address "http://[::1]:5000" = .ok u ∧
      stats.request.address "http://[::1]:5000" = .ok u ∧ ¬ nodes.Entry "../stats" u ∧
      (∀ serve, (({} : Session).inspect serve "http://[::1]:5000" "../stats").details =
        (serve u).value.toOption.map fun value => ⟨"../stats", value⟩) ∧
      (details "a?b").request.address "http://[::1]:5000" = .ok v ∧
      nodes.Entry "a" v ∧ ¬ nodes.Entry "a?b" v := by
  have found : Request.nodes.address "http://[::1]:5000" =
      .ok ⟨"http", some "[::1]", some 5000, .segments ["api", "graph", "node"], none, none⟩ := rfl
  have climbing : (details "../stats").request.address "http://[::1]:5000" =
      .ok ⟨"http", some "[::1]", some 5000, .segments ["api", "graph", "stats"], none, none⟩ := rfl
  have shorter : unescape "a".toList = Text.utf8 "a" := by
    rw [unescape_of_none (by decide), String.ofList_toList]
  have cut : (⟨"http", some "[::1]", some 5000, .segments ["api", "graph", "node"], none,
      none⟩ : Net.Url).Entry "a" ⟨"http", some "[::1]", some 5000,
        .segments ["api", "graph", "node", "a"], some "b", none⟩ :=
    ⟨rfl, rfl, rfl, ["api", "graph", "node"], "a", rfl, rfl, by decide, shorter⟩
  refine ⟨_, _, _, found, climbing, rfl, ?_, ?_, rfl, cut, ?_⟩
  · rintro ⟨_, _, _, front, last, whole, longer, _⟩
    cases whole
    simp at longer
  · intro serve
    exact Session.inspect_details rfl (by decide) climbing serve
  · intro wrong
    have same := cut.unique wrong
    revert same
    decide

end Call

end CodeAtlas
