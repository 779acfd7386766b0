import CodeAtlas.Proofs.DiskFiles
import CodeAtlas.Proofs.ViewerRuns

/-!
Files that the backend exported. A session has room for one of them, and the viewer takes it once in
a frame. Of the exports that arrive within one frame the last is therefore written, and any other is
lost, also if it has another format.
-/
namespace CodeAtlas

/-! ### What has arrived -/

def Message.artifact? : Message → Option (ExportFormat × Artifact)
  | .completed (.artifact format (.ok a)) => some (format, a)
  | _ => none

def exportsOf (inbox : List Message) : List (ExportFormat × Artifact) :=
  inbox.filterMap Message.artifact?

def lastExport? (format : ExportFormat) (inbox : List Message) : Option Artifact :=
  (((exportsOf inbox).filter (·.1 = format)).getLast?).map (·.2)

namespace Session

theorem forgetMissing_artifact (s : Session) : s.forgetMissing.artifact = s.artifact := by
  simp only [forgetMissing]
  split <;> split <;> rfl

theorem requestGraph_artifact (r : GraphRequest) (s : Session) :
    (s.requestGraph r).1.artifact = s.artifact := by
  unfold requestGraph
  split
  · rfl
  · rw [ask_session]

theorem complete_artifact (s : Session) (k : Completion) :
    (s.complete k).artifact = (Message.completed k).artifact?.or s.artifact := by
  cases k with
  | graph r result =>
    cases result with
    | ok p => exact forgetMissing_artifact _
    | error why => rfl
  | cleared result =>
    cases result with
    | ok done => cases done <;> rfl
    | error why => rfl
  | stats result => rfl
  | details id result =>
    simp only [complete]
    split <;> rfl
  | paths result | search query result | artifact format result => cases result <;> rfl

theorem receive_artifact {s : Session} (live : s.tornDown = false) (m : Message) :
    (s.receive m).1.artifact = m.artifact?.or s.artifact := by
  unfold receive
  rw [if_neg (by simp [live])]
  cases m with
  | completed k => exact complete_artifact s k
  | connection e =>
    cases e with
    | state state => rfl
    | push e =>
      cases e with
      | graphUpdated => exact requestGraph_artifact .refresh s
      | ignored kind => rfl
      | delta d =>
        dsimp only [quiet]
        split
        · exact forgetMissing_artifact _
        · rfl

theorem receiveAll_artifact {s : Session} (live : s.tornDown = false) (inbox : List Message) :
    (s.receiveAll inbox).1.artifact = (exportsOf inbox).getLast?.or s.artifact := by
  rw [receiveAll_session]
  induction inbox generalizing s with
  | nil => rfl
  | cons m rest ih =>
    have still := (receive_effect live m).2
    rw [List.foldl_cons, ih still, receive_artifact live]
    cases brought : m.artifact? with
    | none => simp [exportsOf, brought]
    | some e =>
      have first : exportsOf (m :: rest) = e :: exportsOf rest := by simp [exportsOf, brought]
      rw [first, List.getLast?_cons]
      cases (exportsOf rest).getLast? <;> rfl

end Session

/-! ### What is written -/

namespace Viewer

def dueFiles (v : Viewer) : List (String × Text.Bytes) :=
  v.session.artifact.toList.map fun e => (serverFile e.1, e.2.bytes)

theorem saveServerExport_disk (v : Viewer) :
    v.saveServerExport.disk = v.disk.saveAll v.exportDir v.dueFiles := by
  unfold saveServerExport
  split
  · rename_i found
    have none : v.session.artifact = none := congrArg Prod.snd found
    simp [dueFiles, Disk.saveAll, none]
  · rename_i format a found
    have due : v.session.artifact = some (format, a) := congrArg Prod.snd found
    simp [dueFiles, Disk.saveAll, due]

theorem sync_disk (inbox : List Message) (viewport : Vec Float32) (v : Viewer) :
    (v.sync inbox viewport).disk = (v.taken inbox).disk := by
  rw [sync_eq]
  split <;> rfl

theorem sync_artifact (inbox : List Message) (viewport : Vec Float32) (v : Viewer) :
    (v.sync inbox viewport).session.artifact = none := by
  rw [sync_session, taken_session]
  rfl

theorem serverFile_injective {f g : ExportFormat} (same : serverFile f = serverFile g) : f = g := by
  revert same
  cases f <;> cases g <;> decide

theorem sync_saves_due (inbox : List Message) (viewport : Vec Float32) {v : Viewer}
    (live : v.session.tornDown = false) {due : Option (ExportFormat × Artifact)}
    (last : (exportsOf inbox).getLast?.or v.session.artifact = due) :
    (v.sync inbox viewport).disk =
      v.disk.saveAll v.exportDir (due.toList.map fun e => (serverFile e.1, e.2.bytes)) := by
  rw [sync_disk, taken, saveServerExport_disk, ← last, ← Session.receiveAll_artifact live inbox]
  rfl

theorem lastExport_of_mem {inbox : List Message} {e : ExportFormat × Artifact}
    (member : e ∈ exportsOf inbox) : ∃ a, lastExport? e.1 inbox = some a := by
  have kept : e ∈ (exportsOf inbox).filter (·.1 = e.1) := List.mem_filter.mpr ⟨member, by simp⟩
  obtain ⟨f, last⟩ := Option.isSome_iff_exists.mp
    (List.getLast?_isSome.mpr (List.ne_nil_of_mem kept))
  exact ⟨f.2, by rw [lastExport?, last]; rfl⟩

theorem lastExport_of_one_format {inbox : List Message} {format : ExportFormat} {a : Artifact}
    (one : ∀ e ∈ exportsOf inbox, ∀ e' ∈ exportsOf inbox, e.1 = e'.1)
    (last : lastExport? format inbox = some a) : (exportsOf inbox).getLast? = some (format, a) := by
  obtain ⟨e, found, value⟩ := Option.map_eq_some_iff.mp last
  obtain ⟨member, own⟩ := List.mem_filter.mp (List.mem_of_getLast? found)
  simp only [decide_eq_true_eq] at own
  have all : (exportsOf inbox).filter (·.1 = format) = exportsOf inbox := by
    apply List.filter_eq_self.mpr
    intro f other
    simpa using (one f other e member).trans own
  rw [all] at found
  rw [found, ← own, ← value]

/-- In a frame of a session that is not over, the last export that has arrived is saved, or else the
one that was waiting, and no other; a file that is saved can be read back, and nothing is left to be
saved later. So the last export of each format is saved exactly if all that have arrived in the frame
are of one format. -/
theorem sync_saves_last_export_of_frame (v : Viewer) (live : v.session.tornDown = false)
    (inbox : List Message) (viewport : Vec Float32) :
    let w := v.sync inbox viewport
    let saved := ((exportsOf inbox).getLast?.or v.session.artifact).toList.map fun e =>
      (serverFile e.1, e.2.bytes)
    w.disk = v.disk.saveAll v.exportDir saved ∧
      (∀ file ∈ saved, ∀ path, (v.disk.save v.exportDir file.1 file.2).2 = .ok path →
        w.disk.read path = .ok file.2) ∧
      w.session.artifact = none ∧
      ((∀ format a, lastExport? format inbox = some a → (serverFile format, a.bytes) ∈ saved) ↔
        ∀ e ∈ exportsOf inbox, ∀ e' ∈ exportsOf inbox, e.1 = e'.1) := by
  intro w saved
  have disk : w.disk = v.disk.saveAll v.exportDir saved := sync_saves_due inbox viewport live rfl
  refine ⟨disk, ?_, ?_, ?_, ?_⟩
  · intro file member path written
    obtain ⟨e, due, rfl⟩ := List.mem_map.mp member
    have only : saved = [(serverFile e.1, e.2.bytes)] := by
      simp only [saved, Option.mem_toList.mp due, Option.toList_some, List.map_cons, List.map_nil]
    rw [disk, only]
    exact Disk.read_of_save written
  · exact sync_artifact inbox viewport v
  · intro all e member e' member'
    obtain ⟨a, last⟩ := lastExport_of_mem member
    obtain ⟨a', last'⟩ := lastExport_of_mem member'
    obtain ⟨f, due, name⟩ := List.mem_map.mp (all e.1 a last)
    obtain ⟨f', due', name'⟩ := List.mem_map.mp (all e'.1 a' last')
    -- there is room for one file, so both names are its name
    have same : f = f' :=
      Option.some.inj ((Option.mem_toList.mp due).symm.trans (Option.mem_toList.mp due'))
    subst same
    exact serverFile_injective
      ((congrArg Prod.fst name).symm.trans (congrArg Prod.fst name'))
  · intro one format a last
    have due := lastExport_of_one_format one last
    simp only [saved, due, Option.some_or, Option.toList_some, List.map_cons, List.map_nil,
      List.mem_singleton]

/-- Two drawings arrive in one frame, with a failure between them and a graph after them. -/
theorem later_drawing_of_frame_saved :
    let earlier : Artifact := ⟨none, [1]⟩
    let later : Artifact := ⟨none, [2]⟩
    let inbox : List Message := [.completed (.artifact .svg (.ok earlier)),
      .completed (.artifact .json (.error (.backend "down"))),
      .completed (.artifact .svg (.ok later)), .completed (.graph .refresh (.ok {}))]
    let v := ofSettings {} {}
    let saved := ((exportsOf inbox).getLast?.or v.session.artifact).toList.map fun e =>
      (serverFile e.1, e.2.bytes)
    v.session.tornDown = false ∧ lastExport? .svg inbox = some later ∧
      ("codebase-graph-server.svg", [2]) ∈ saved ∧
      (v.sync inbox Vec.zero).disk = Disk.saveAll {} "." saved := by
  intro earlier later inbox v saved
  obtain ⟨disk, _, _, saves⟩ := sync_saves_last_export_of_frame v rfl inbox Vec.zero
  have one : ∀ e ∈ exportsOf inbox, ∀ e' ∈ exportsOf inbox, e.1 = e'.1 := by decide
  exact ⟨rfl, by decide, saves.mpr one .svg later (by decide), disk⟩

/-- A drawing and a document arrive in one frame. The drawing is not written, then or later. -/
theorem drawing_before_document_lost :
    let drawing : Artifact := ⟨none, [1]⟩
    let inbox : List Message := [.completed (.artifact .svg (.ok drawing)),
      .completed (.artifact .json (.ok ⟨none, [2]⟩))]
    let v := ofSettings {} {}
    let w := v.sync inbox Vec.zero
    v.session.tornDown = false ∧ lastExport? .svg inbox = some drawing ∧
      w.disk = Disk.saveAll {} "." [("codebase-graph-server.json", [2])] ∧
      (∀ file ∈ w.disk.files, file.2 ≠ drawing.bytes) ∧ w.session.artifact = none := by
  intro drawing inbox v w
  have disk : w.disk = Disk.saveAll {} "." [("codebase-graph-server.json", [2])] :=
    sync_saves_due inbox Vec.zero (v := v) rfl rfl
  refine ⟨rfl, by decide, disk, ?_, sync_artifact inbox Vec.zero v⟩
  intro file member
  rw [disk] at member
  rcases Disk.mem_files_of_save member with new | old
  · rw [new]
    decide
  · cases old

end Viewer

end CodeAtlas
