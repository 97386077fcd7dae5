import SlotServe.Proofs.Settings.Document
import SlotServe.Settings.Document

/-! Settings saved to a file and loaded from it. What is loaded is what was saved, and settings that cannot be
written leave every file as it was. -/
namespace SlotServe

namespace FileTree

variable {tree made next : FileTree} {path text : String} {place : List String}

/-- A place stays where it is whatever the files hold. -/
theorem locate_files (tree : FileTree) (files : List (List String × Option String)) (path : String) :
    ({ tree with files } : FileTree).locate path = tree.locate path := rfl

theorem write_eq (leads : tree.locate path = some place) (free : tree.isDirectory place = false) (text : String) :
    tree.write path text = some { tree with files := (place, some text) :: tree.files.filter (·.1 ≠ place) } := by
  rw [write, leads, Option.bind_eq_bind, Option.bind_some, free]
  rfl

theorem read_write (leads : tree.locate path = some place) (text : String) :
    ({ tree with files := (place, some text) :: tree.files.filter (·.1 ≠ place) } : FileTree).read path =
      some text := by
  rw [read, locate_files, leads]
  simp

theorem descend_files {reached after : FileTree × List String} {name : String}
    (gone : descend reached name = some after) : after.1.files = reached.1.files := by
  obtain ⟨tree, place⟩ := reached
  obtain ⟨next, -, gone⟩ := Option.bind_eq_some_iff.mp gone
  split at gone
  next => cases gone; rfl
  next =>
    split at gone
    next => cases gone
    next => cases gone; rfl

theorem makeParents_files (makes : tree.makeParents path = some made) : made.files = tree.files := by
  have kept (names : List String) (reached after : FileTree × List String)
      (gone : names.foldlM descend reached = some after) : after.1.files = reached.1.files := by
    induction names generalizing reached with
    | nil => cases gone; rfl
    | cons name names ih =>
      obtain ⟨next, first, gone⟩ := Option.bind_eq_some_iff.mp gone
      exact (ih next gone).trans (descend_files first)
  obtain ⟨⟨made, last⟩, gone, same⟩ := Option.bind_eq_some_iff.mp makes
  cases same
  exact kept _ _ _ gone

theorem isDirectory_of_enter {name : String} {next : List String} (entered : tree.enter place name = some next) :
    tree.isDirectory place = true := by
  unfold enter at entered
  split at entered
  next => cases entered
  next inside => simpa using inside

theorem enter_stays {name : String} {next : List String} (entered : tree.enter place name = some next)
    (stays : name = "" ∨ name = ".") : next = place := by
  rw [enter, isDirectory_of_enter entered, if_neg (by simp), if_pos (by simpa using stays)] at entered
  exact (Option.some.inj entered).symm

theorem descend_inside {name : String} {next : List String} (entered : tree.enter place name = some next)
    (inside : tree.isDirectory next = true) : descend (tree, place) name = some (tree, next) := by
  rw [descend, entered, Option.bind_eq_bind, Option.bind_some, if_pos inside]

theorem makeParents_of_locate (leads : tree.locate path = some place) : tree.makeParents path = some tree := by
  have through (names : List String) (start : List String) (found : names.foldlM tree.enter start = some place) :
      ∃ last, (names.filter fun name => name ≠ "" && name ≠ ".").dropLast.foldlM descend (tree, start) =
        some (tree, last) := by
    induction names generalizing start with
    | nil => exact ⟨start, rfl⟩
    | cons name names ih =>
      obtain ⟨next, entered, found⟩ := Option.bind_eq_some_iff.mp found
      obtain ⟨last, later⟩ := ih next found
      by_cases stays : name = "" ∨ name = "."
      · rw [List.filter_cons_of_neg (by simp; tauto), ← enter_stays entered stays]
        exact ⟨last, later⟩
      · rw [List.filter_cons_of_pos (by simp; tauto)]
        cases more : names.filter fun name => name ≠ "" && name ≠ "." with
        | nil => exact ⟨start, rfl⟩
        | cons other others =>
          have inside : tree.isDirectory next = true := by
            cases names with
            | nil => cases more
            | cons second names =>
              obtain ⟨_, second, -⟩ := Option.bind_eq_some_iff.mp found
              exact isDirectory_of_enter second
          rw [more] at later
          rw [List.dropLast_cons_of_ne_nil (List.cons_ne_nil _ _), List.foldlM_cons, descend_inside entered inside]
          exact ⟨last, later⟩
  have outside : ¬ (path = "" || decide (4096 ≤ path.utf8ByteSize)) = true := fun outside => by
    rw [locate, if_pos outside] at leads
    cases leads
  rw [locate, if_neg outside] at leads
  obtain ⟨last, gone⟩ := through _ _ leads
  rw [makeParents]
  dsimp only
  rw [gone]
  rfl

end FileTree

namespace RunSettings

variable {settings : RunSettings} {tree made : FileTree} {path text : String} {place : List String}

theorem access_makeParents (makes : tree.makeParents path = some made) :
    (FileTree.access.makeParents path).run tree = (true, made) := by
  change FileTree.commit (fun tree => tree.makeParents path) tree = (true, made)
  rw [FileTree.commit, makes]

theorem access_writeText {next : FileTree} (writes : tree.write path text = some next) :
    (FileTree.access.writeText path text).run tree = (true, next) := by
  change FileTree.commit (fun tree => tree.write path text) tree = (true, next)
  rw [FileTree.commit, writes]

theorem save_error {fault : SettingsFault} (unwritten : settings.text = .error fault)
    (makes : tree.makeParents path = some made) :
    (settings.save FileTree.access path).run tree = (.error fault, made) := by
  rw [save, StateT.run_bind, access_makeParents makes, unwritten]
  rfl

theorem save_ok (written : settings.text = .ok text) (makes : tree.makeParents path = some made)
    {next : FileTree} (writes : made.write path text = some next) :
    (settings.save FileTree.access path).run tree = (.ok (), next) := by
  rw [save, StateT.run_bind, access_makeParents makes, written]
  change ((FileTree.access.writeText path text >>= _ : StateM FileTree _)).run made = _
  rw [StateT.run_bind, access_writeText writes]
  rfl

theorem load_eq (holds : tree.read path = some text) : (load FileTree.access path).run tree = (parse text, tree) := by
  have access : (FileTree.access.readText path).run tree = (some text, tree) := by
    rw [← holds]
    rfl
  rw [load, loadSettings, StateT.run_bind, access]
  rfl

def saveAndLoad (settings : RunSettings) (path : String) : StateM FileTree (Except SettingsFault RunSettings) := do
  match ← settings.save FileTree.access path with
  | .ok () => load FileTree.access path
  | .error fault => return .error fault

theorem saveAndLoad_error {fault : SettingsFault} (unwritten : settings.text = .error fault)
    (makes : tree.makeParents path = some made) : (settings.saveAndLoad path).run' tree = .error fault := by
  change Prod.fst <$> (settings.saveAndLoad path).run tree = _
  rw [saveAndLoad, StateT.run_bind, save_error unwritten makes]
  rfl

theorem saveAndLoad_ok (written : settings.text = .ok text) (read : parse text = .ok settings)
    (makes : tree.makeParents path = some made) (leads : made.locate path = some place)
    (free : made.isDirectory place = false) : (settings.saveAndLoad path).run' tree = .ok settings := by
  have saved := save_ok written makes (FileTree.write_eq leads free text)
  have loaded := load_eq (FileTree.read_write leads text)
  change Prod.fst <$> (settings.saveAndLoad path).run tree = _
  rw [saveAndLoad, StateT.run_bind, saved]
  change Prod.fst <$> (load FileTree.access path).run _ = _
  rw [loaded, read]
  rfl

/-- Settings that a document can hold return from the file that they are saved to exactly if their path has no 256
double quotes in a row; such a row cannot be counted, and saving fails on it. A whole number beyond the words of a
document is refused before the file is touched: no file changes, and nothing at all if the place of the file is
there. -/
theorem saved_settings_return_iff (settings : RunSettings) (tree : FileTree) (path : String) :
    (settings.IsStorable → ∀ made place, tree.makeParents path = some made → made.locate path = some place →
        made.isDirectory place = false →
      ((settings.saveAndLoad path).run' tree = .ok settings ↔
        ¬ List.replicate 256 '\x22' <:+: settings.engine.tokenizer.path.toList) ∧
      (List.replicate 256 '\x22' <:+: settings.engine.tokenizer.path.toList →
        (settings.save FileTree.access path).run tree = (.error (.defect .overflow), made))) ∧
    ((∃ number ∈ settings.integers, 2 ^ 63 ≤ number) →
      (∀ made, tree.makeParents path = some made →
        (settings.save FileTree.access path).run tree = (.error .unwritable, made) ∧ made.files = tree.files) ∧
      (∀ place, tree.locate path = some place →
        (settings.save FileTree.access path).run tree = (.error .unwritable, tree))) := by
  refine ⟨fun storable made place makes leads free => ⟨⟨fun returned long => ?_, fun short => ?_⟩, fun long => ?_⟩,
    fun large => ⟨fun made makes => ?_, fun place leads => ?_⟩⟩
  · rw [saveAndLoad_error (storable.text_overflow long) makes] at returned
    cases returned
  · obtain ⟨text, written, read⟩ := storable.text_eq short
    exact saveAndLoad_ok written read makes leads free
  · exact save_error (storable.text_overflow long) makes
  · exact ⟨save_error (text_of_large large) makes, FileTree.makeParents_files makes⟩
  · exact save_error (text_of_large large) (FileTree.makeParents_of_locate leads)

def unusual : RunSettings where
  engine := { temperature := Binary32.infinity, topP := Float32.ofBits 0x80000000, seed := 0x7FFFFFFFFFFFFFFF
              tokenizer := { path := "a\x22b\x5cc" } }

def archive : FileTree := ⟨[], [["old"]], [(["old", "run.toml"], some "")]⟩

theorem unusual_path : unusual.engine.tokenizer.path.toList = ['a', '\x22', 'b', '\x5c', 'c'] := rfl

theorem unusual_isStorable : unusual.IsStorable where
  valid := rfl
  fits := by decide
  topK := by decide
  extraIds := by decide
  padId := by decide
  number := rfl
  printable := by
    rw [Toml.IsPrintable, unusual_path]
    simp [Toml.isPlain]

theorem archive_leads : archive.locate "old/run.toml" = some ["old", "run.toml"] := by cbv

theorem unusual_settings_return :
    (unusual.saveAndLoad "old/run.toml").run' archive = .ok unusual ∧
      (({ unusual with workload := { numRequests := 2 ^ 63 } } : RunSettings).save FileTree.access "old/run.toml").run
        archive = (.error .unwritable, archive) := by
  have short : ¬ List.replicate 256 '\x22' <:+: unusual.engine.tokenizer.path.toList := fun long => by
    have fits := long.length_le
    rw [List.length_replicate, unusual_path] at fits
    contradiction
  refine ⟨?_, ?_⟩
  · exact (((saved_settings_return_iff unusual archive "old/run.toml").1 unusual_isStorable archive ["old", "run.toml"]
      (FileTree.makeParents_of_locate archive_leads) archive_leads rfl).1).mpr short
  · exact ((saved_settings_return_iff { unusual with workload := { numRequests := 2 ^ 63 } } archive "old/run.toml").2
      ⟨2 ^ 63, by simp [integers, WorkloadSettings.integers], Nat.le_refl _⟩).2 ["old", "run.toml"] archive_leads

def quoteRun : RunSettings where
  engine := { tokenizer := { path := String.ofList (List.replicate 256 '\x22') } }

theorem quoteRun_isStorable : quoteRun.IsStorable where
  valid := rfl
  fits := by decide
  topK := by decide
  extraIds := by decide
  padId := by decide
  number := rfl
  printable c member := by
    rw [quoteRun, String.toList_ofList] at member
    rw [List.eq_of_mem_replicate member]
    exact ⟨rfl, by decide⟩

/-- These settings are accepted and hold nothing that a document cannot, but saving them fails on the count. -/
theorem quoteRun_not_saved : quoteRun.IsStorable ∧
    (quoteRun.saveAndLoad "old/run.toml").run' archive = .error (.defect .overflow) := by
  have long : List.replicate 256 '\x22' <:+: quoteRun.engine.tokenizer.path.toList := by
    rw [quoteRun, String.toList_ofList]
  exact ⟨quoteRun_isStorable,
    saveAndLoad_error (quoteRun_isStorable.text_overflow long) (FileTree.makeParents_of_locate archive_leads)⟩

end RunSettings

end SlotServe
