import CodeAtlas.Proofs.JsonMembers
import CodeAtlas.Service.Reply

/-!
Replies of a success that carry an `error`. The calls that read a reply as JSON fail with it, as
long as the reader keeps the whole reply. An export reads it only where it expects no JSON and is
told that there is some; else the document with the error is the file.
-/
namespace CodeAtlas

def blamesBackend {α : Type} : Except Failure α → Bool
  | .error (.backend _) => true
  | _ => false

def Completion.blamesBackend : Completion → Bool
  | .graph _ result => CodeAtlas.blamesBackend result
  | .cleared result => CodeAtlas.blamesBackend result
  | .stats result => CodeAtlas.blamesBackend result
  | .details _ result => CodeAtlas.blamesBackend result
  | .paths result => CodeAtlas.blamesBackend result
  | .search _ result => CodeAtlas.blamesBackend result
  | .artifact _ result => CodeAtlas.blamesBackend result

theorem blamesBackend_bind {α β : Type} {x : Except Failure α} {f : α → Except Failure β}
    (later : ∀ a, x = .ok a → blamesBackend (f a) = false) :
    blamesBackend (x >>= f) = blamesBackend x := by
  cases x with
  | error why => cases why <;> rfl
  | ok a => exact later a rfl

namespace Reply

def text (r : Reply) : String := Text.decodeLossy r.body

def declaresJson (r : Reply) : Bool := r.plainType.any (·.startsWith "application/json")

/-- A success whose document is an object with an `error` that is not null. The document has to be
well formed, whether or not the reader keeps it. -/
structure CarriesError (r : Reply) : Prop where
  success : Net.isSuccess r.status = true
  carried : ∃ members, Json.Members r.text members ∧ members.find? "error" = some false

theorem content_of_parsed {r : Reply} {j : Json} (parsed : Json.parse? r.text = some j) :
    r.content = j := by
  simp only [content]
  rw [← text, parsed]
  rfl

theorem value_of_unread {r : Reply} (success : Net.isSuccess r.status = true)
    (unread : Json.parse? r.text = none) : r.value = .ok (.str r.text) := by
  have content : r.content = .str r.text := by
    simp only [content]
    rw [← text, unread]
    rfl
  simp [value, content, success, Json.field?]

/-- A document that is kept is found out by its `error`. One that is not counts as a text, and a
text has no `error`. -/
theorem CarriesError.value_blame {r : Reply} (carries : r.CarriesError) :
    blamesBackend r.value = (Json.parse? r.text).isSome := by
  cases parsed : Json.parse r.text with
  | ok j =>
    obtain ⟨members, object, given⟩ := carries.carried
    have read : Json.parse? r.text = some j := by rw [Json.parse?, parsed]; rfl
    have field := object.field parsed "error"
    rw [given] at field
    obtain ⟨e, found, nonNull⟩ := Option.map_eq_some_iff.mp field
    simp only [value, content_of_parsed read, carries.success, found, read]
    cases e with
    | null => cases nonNull
    | _ => rfl
  | error fault =>
    have unread : Json.parse? r.text = none := by rw [Json.parse?, parsed]; rfl
    rw [value_of_unread carries.success unread, unread]
    rfl

theorem value_cases (r : Reply) :
    (∃ j, r.value = .ok j) ∨ ∃ words, r.value = .error (.backend words) := by
  simp only [value]
  split
  · exact Or.inr ⟨_, rfl⟩
  · split
    · exact Or.inl ⟨_, rfl⟩
    · exact Or.inl ⟨_, rfl⟩
    · exact Or.inr ⟨_, rfl⟩

theorem shaped_blameless {α : Type} (read : Json → Except Json.Mismatch α) (j : Json) :
    blamesBackend (shaped read j) = false := by
  unfold shaped
  split <;> rfl

theorem lacksArtifact_of_success {r : Reply} (success : Net.isSuccess r.status = true)
    (format : ExportFormat) :
    r.lacksArtifact format = (format ≠ .json && r.declaresJson) := by
  simp [lacksArtifact, declaresJson, success]

/-! ### Looking for an error by computation -/

def characters (r : Reply) : List Char :=
  (Text.pieces r.body.length r.body).map fun
    | .char c _ => c
    | .fault _ _ => Char.ofNat 0xfffd

theorem text_toList (r : Reply) : r.text.toList = r.characters := String.toList_ofList

def showsError (r : Reply) : Bool :=
  Net.isSuccess r.status &&
    match Json.skipSpace r.characters with
    | '\x7b' :: start =>
      match Json.membersFrom (2 * start.length + 2) true [] start with
      | .ok (members, rest) =>
        (Json.skipSpace rest).isEmpty && members.find? "error" = some false
      | .error _ => false
    | _ => false

theorem carriesError_of_shows {r : Reply} (shows : r.showsError = true) : r.CarriesError := by
  obtain ⟨success, shows⟩ := Bool.and_eq_true_iff.mp shows
  refine ⟨success, ?_⟩
  rw [← text_toList] at shows
  split at shows
  · rename_i start opened
    split at shows
    · rename_i members rest read
      obtain ⟨ended, found⟩ := Bool.and_eq_true_iff.mp shows
      exact ⟨members, ⟨_, start, rest, opened, read, by simp [Json.atEnd, ended]⟩,
        of_decide_eq_true found⟩
    · cases shows
  · cases shows

theorem unread_of_refused {r : Reply}
    (refused : (Json.readValue .keep Json.documentRoom r.characters).isOk = false) :
    Json.parse? r.text = none := by
  unfold Json.parse?
  cases parsed : Json.parse r.text with
  | error fault => rfl
  | ok j =>
    obtain ⟨rest, read, _⟩ := Json.parse_eq_ok.mp parsed
    rw [text_toList] at read
    rw [read] at refused
    cases refused

end Reply

namespace Call

/-- Whether a call looks for an error in a reply that is a success. An export does if it wants no
JSON and gets some; any other call does if it can read the reply. -/
def inspects (c : Call) (r : Reply) : Bool :=
  match c with
  | .artifact format => format ≠ .json && r.declaresJson
  | _ => (Json.parse? r.text).isSome

/-- What comes after the reading of a reply blames the form of the reply, never the backend. -/
theorem complete_blame {c : Call} (other : ∀ format, c ≠ .artifact format) (r : Reply) :
    (c.complete (.ok r)).blamesBackend = blamesBackend r.value := by
  cases c with
  | graph request =>
    cases request with
    | clear => exact blamesBackend_bind (f := fun j => pure _) fun _ _ => rfl
    | refresh | prune | subgraph => exact blamesBackend_bind fun j _ => Reply.shaped_blameless _ j
  | stats => rfl
  | details id => rfl
  | paths source target maxLength => exact blamesBackend_bind fun j _ => Reply.shaped_blameless _ _
  | search query filters => exact blamesBackend_bind fun j _ => Reply.shaped_blameless _ _
  | artifact format => exact absurd rfl (other format)

theorem complete_export_blame {r : Reply} {format : ExportFormat}
    (lacks : r.lacksArtifact format = true) :
    ((artifact format).complete (.ok r)).blamesBackend = true := by
  have completed : (artifact format).complete (.ok r) = .artifact format (do
      let _ ← r.value
      .error (.backend s!"export returned no {format.name} artifact")) := by
    simp [complete, Reply.artifact, lacks, bind, Except.bind]
  rw [completed]
  rcases r.value_cases with ⟨j, value⟩ | ⟨words, value⟩
  · rw [value]
    rfl
  · rw [value]
    rfl

theorem complete_stats (r : Reply) : stats.complete (.ok r) = .stats r.value := rfl

theorem complete_export {r : Reply} {format : ExportFormat}
    (takes : r.lacksArtifact format = false) :
    (artifact format).complete (.ok r) = .artifact format (.ok ⟨r.plainType, r.body⟩) := by
  simp [complete, Reply.artifact, takes, bind, Except.bind]

/-- With a reply that carries an error, a call fails as it should exactly if it inspects the reply;
an export that does not gives the document with the error for the file. -/
theorem error_surfaces_iff_inspected (c : Call) {r : Reply} (carries : r.CarriesError) :
    ((c.complete (.ok r)).blamesBackend = true ↔ c.inspects r = true) ∧
      ∀ format, c = .artifact format → c.inspects r = false →
        c.complete (.ok r) = .artifact format (.ok ⟨r.plainType, r.body⟩) := by
  cases c with
  | artifact format =>
    have lacks := Reply.lacksArtifact_of_success carries.success format
    cases inspected : (artifact format).inspects r with
    | true =>
      have blamed := complete_export_blame (lacks.trans inspected)
      simp [blamed]
    | false =>
      have taken := complete_export (lacks.trans inspected)
      refine ⟨?_, ?_⟩
      · rw [taken]
        simp [Completion.blamesBackend, CodeAtlas.blamesBackend]
      · intro wanted same _
        cases same
        exact taken
  | graph | stats | paths | search | details =>
    refine ⟨?_, fun format same => by cases same⟩
    rw [complete_blame (by simp) r, carries.value_blame]
    rfl

/-- An error beside other members, in a reply that is said to be plain text, is surfaced. -/
theorem error_beside_nodes_surfaces :
    let r : Reply :=
      { status := 203, contentType := some "text/plain"
        body := Text.utf8 "\x7b\"nodes\":[],\"error\":\x7b\"code\":7\x7d\x7d" }
    r.CarriesError ∧ ((search "main" {}).complete (.ok r)).blamesBackend = true := by
  intro r
  have carries : r.CarriesError := Reply.carriesError_of_shows (by decide +kernel)
  obtain ⟨surfaces, _⟩ := error_surfaces_iff_inspected (search "main" {}) carries
  exact ⟨carries, surfaces.mpr (by decide +kernel)⟩

/-- The ways for an error to pass for a result: as the file of an export, and in a document that the
reader does not keep, because it is nested too deep, has a number out of range, or half a pair of
surrogates. -/
theorem errors_pass_for_results :
    let refused : Reply :=
      { contentType := some "application/json", body := Text.utf8 "\x7b\"error\":\"boom\"\x7d" }
    let deep : Reply :=
      { body := Text.utf8 "\x7b\"error\":\"boom\",\"deep\":" ++ List.replicate 127 0x5b ++
          List.replicate 127 0x5d ++ [0x7d] }
    let large : Reply := { body := Text.utf8 "\x7b\"error\":\"boom\",\"size\":1e999\x7d" }
    let halved : Reply := { body := Text.utf8 "\x7b\"error\":\"boom\",\"name\":\"\\ud800\"\x7d" }
    (refused.CarriesError ∧ (artifact .json).complete (.ok refused) =
      .artifact .json (.ok ⟨some "application/json", refused.body⟩)) ∧
    ∀ r ∈ [deep, large, halved],
      r.CarriesError ∧ stats.complete (.ok r) = .stats (.ok (.str r.text)) := by
  intro refused deep large halved
  have passed : (artifact .json).complete (.ok refused) =
      .artifact .json (.ok ⟨some "application/json", refused.body⟩) := by
    have typed : refused.plainType = some "application/json" := by decide +kernel
    rw [← typed]
    exact complete_export (by decide +kernel)
  have shown : [deep, large, halved].all Reply.showsError = true := by decide +kernel
  have unread : [deep, large, halved].all (fun r =>
      !(Json.readValue .keep Json.documentRoom r.characters).isOk) = true := by decide +kernel
  refine ⟨⟨Reply.carriesError_of_shows (by decide +kernel), passed⟩, ?_⟩
  intro r member
  have carries := Reply.carriesError_of_shows (List.all_eq_true.mp shown r member)
  refine ⟨carries, ?_⟩
  have refusal := List.all_eq_true.mp unread r member
  rw [complete_stats, Reply.value_of_unread carries.success
    (Reply.unread_of_refused (by simpa using refusal))]

end Call

end CodeAtlas
