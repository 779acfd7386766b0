import CodeAtlas.Disk
import CodeAtlas.Proofs.Dict
import CodeAtlas.Proofs.JsonMembers

/-!
Files that are written. What was written under a path is read back under it, whatever folders the
path leads through. Making folders leaves the files alone, and saving one brings no other.
-/
namespace CodeAtlas.Disk

open Text (Bytes)

def withFile (d : Disk) (parts : List String) (bytes : Bytes) : Disk :=
  { d with files := d.files.insert (key parts) bytes }

/-- A file can be written there: one is there already, or nothing is. -/
def Free (parts : List String) (found : Except FileFault Place) : Prop :=
  found = .ok (.file parts) ∨ found = .ok (.vacant parts)

theorem entry_folder {d : Disk} {folder inner : List String} {name : String}
    (found : d.entry folder name = .ok (.folder inner)) (parts : List String) (bytes : Bytes) :
    (d.withFile parts bytes).entry folder name = .ok (.folder inner) := by
  unfold entry withFile at *
  dsimp only at *
  split_ifs at found ⊢ <;> simp_all

theorem entry_free {d : Disk} {folder parts : List String} {name : String}
    (free : Free parts (d.entry folder name)) (bytes : Bytes) :
    (d.withFile parts bytes).entry folder name = .ok (.file parts) := by
  have listed : Dict.contains (key parts) (Dict.insert (key parts) bytes d.files) = true := by
    simp [Dict.contains, Dict.find_insert]
  unfold entry withFile Free at *
  dsimp only at *
  split_ifs at free ⊢ <;> simp_all

theorem follow_free {d : Disk} {folder names parts : List String}
    (free : Free parts (d.follow folder names)) (bytes : Bytes) :
    (d.withFile parts bytes).follow folder names = .ok (.file parts) := by
  fun_induction follow d folder names with
  | case1 folder => simp [Free] at free
  | case2 folder name => exact entry_free free bytes
  | case3 folder name rest more ih =>
    cases found : d.entry folder name with
    | error why => simp [found, Free, bind, Except.bind] at free
    | ok there =>
      cases there with
      | folder inner =>
        have inside : Free parts (d.follow inner rest) := by
          simpa [found, bind, Except.bind] using free
        rw [follow.eq_def]
        simp only [entry_folder found]
        exact ih inner inside
      | file | vacant => simp [found, Free, bind, Except.bind] at free

theorem write_eq_ok {d d' : Disk} {path : String} {bytes : Bytes}
    (written : d.write path bytes = .ok d') :
    check path = .ok () ∧ path.endsWith "/" = false ∧
      ∃ parts, Free parts (d.follow (start path) (partsOf path)) ∧ d' = d.withFile parts bytes := by
  unfold write at written
  obtain ⟨_, checked, followed⟩ := bind_eq_ok.mp written
  obtain ⟨there, found, kept⟩ := bind_eq_ok.mp followed
  cases slashed : path.endsWith "/" with
  | true =>
    rw [slashed] at kept
    cases there <;> cases kept
  | false =>
    rw [slashed] at kept found
    refine ⟨checked, rfl, ?_⟩
    cases there with
    | folder parts => cases kept
    | file parts =>
      cases kept
      exact ⟨parts, Or.inl found, rfl⟩
    | vacant parts =>
      cases kept
      exact ⟨parts, Or.inr found, rfl⟩

theorem read_of_write {d d' : Disk} {path : String} {bytes : Bytes}
    (written : d.write path bytes = .ok d') : d'.read path = .ok bytes := by
  obtain ⟨checked, slashed, parts, free, rfl⟩ := write_eq_ok written
  have located : (d.withFile parts bytes).locate path = .ok (.file parts) := by
    unfold locate
    rw [checked, follow_free free bytes, slashed]
    rfl
  have found : Dict.find? (key parts) (d.withFile parts bytes).files = some bytes := by
    simp [withFile, Dict.find_insert]
  unfold read
  rw [located]
  exact congrArg (fun o : Option Bytes => Except.ok (o.getD [])) found

theorem read_of_save {d : Disk} {folder name path : String} {bytes : Bytes}
    (saved : (d.save folder name bytes).2 = .ok path) :
    (d.save folder name bytes).1.read path = .ok bytes := by
  unfold save at *
  split at saved
  · cases saved
  · dsimp only at saved ⊢
    split at saved
    · rename_i written
      cases saved
      exact read_of_write written
    · cases saved

theorem makeFolder_files {d d' : Disk} {path : String} (made : d.makeFolder path = .ok d') :
    d'.files = d.files := by
  unfold makeFolder at made
  obtain ⟨_, _, followed⟩ := bind_eq_ok.mp made
  obtain ⟨there, _, kept⟩ := bind_eq_ok.mp followed
  cases there with
  | folder | file => cases kept
  | vacant parts =>
    cases kept
    rfl

theorem ensureFolder_files (d : Disk) (path : String) :
    (d.ensureFolder path).1.files = d.files := by
  unfold ensureFolder
  split
  · rename_i made
    exact makeFolder_files made
  · rfl

theorem makeNested_files (d : Disk) (paths : List String) :
    (d.makeNested paths).1.files = d.files := by
  induction paths with
  | nil => rfl
  | cons path around ih =>
    simp only [makeNested]
    split
    · split
      · rename_i inner made
        rw [ensureFolder_files]
        rw [made] at ih
        exact ih
      · exact ih
    · exact ensureFolder_files d path

theorem makeFolders_files (d : Disk) (path : String) : (d.makeFolders path).1.files = d.files := by
  unfold makeFolders
  split
  · rfl
  · exact makeNested_files d _

def saveAll (d : Disk) (folder : String) (files : List (String × Bytes)) : Disk :=
  files.foldl (fun d f => (d.save folder f.1 f.2).1) d

theorem mem_files_of_save {d : Disk} {folder name : String} {bytes : Bytes} {file : String × Bytes}
    (member : file ∈ (d.save folder name bytes).1.files) : file.2 = bytes ∨ file ∈ d.files := by
  have before := makeFolders_files d folder
  unfold save at member
  split at member
  · rename_i d' why made
    rw [made] at before
    exact Or.inr (before ▸ member)
  · rename_i d' made
    rw [made] at before
    dsimp only at member
    split at member
    · rename_i d'' written
      obtain ⟨_, _, parts, _, rfl⟩ := write_eq_ok written
      rcases Dict.mem_insert member with new | old
      · exact Or.inl (congrArg Prod.snd new)
      · exact Or.inr (before ▸ old)
    · exact Or.inr (before ▸ member)

end CodeAtlas.Disk
