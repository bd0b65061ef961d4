import Mathlib.Data.List.Sort
import Switchboard.Proofs.Plugin.Files
import Switchboard.Proofs.Table

/-
  The manifests below a directory.

  A plugin folder offers a manifest when its manifest file is the text of a JSON
  value that is one.  Folders are visited by name, and of the manifests offered
  under an id the first one counts.  A text that is no manifest is passed over;
  bytes that are no text end the collection.

  * `Manifest.WrittenIn`: the bytes that are a manifest;
  * `Holds`, `Offers`, `Garbled`, `Counts`: what is in the folders of a directory;
  * `Visits`: what a visit to a folder can find, and `visit_visits` says that the
    list is complete;
  * `collect_ok`, `collect_error`: what a collection keeps, and how it ends;
  * `first_eq_some`: the manifest that is found first is the one that counts;
  * `manifests_collected`: no malformed text changes what is collected.
-/

namespace Switchboard

/-! ## Rows by key -/

theorem Table.pairwise_sortedRows {α : Type} (t : Table String α) :
    t.sortedRows.Pairwise (·.1 < ·.1) := by
  have hle : t.sortedRows.Pairwise (·.1 ≤ ·.1) :=
    List.pairwise_mergeSort_le (f := fun r : String × α => r.1) t.rows
  have hne : t.sortedRows.Pairwise (·.1 ≠ ·.1) :=
    List.pairwise_map.1 <|
      ((List.mergeSort_perm t.rows fun a b => a.1 ≤ b.1).map Prod.fst).nodup_iff.2 t.distinct
  exact (hle.and hne).imp fun ⟨hle, hne⟩ => lt_of_le_of_ne hle hne

namespace Files

/-! ## What a file says -/

/-- The bytes of a text, in UTF-8. -/
def bytesOf (text : String) : List UInt8 := text.toUTF8.data.toList

def IsText (bytes : List UInt8) : Prop := ∃ text, bytesOf text = bytes

theorem textOf?_eq_some {bytes : List UInt8} {text : String} :
    textOf? bytes = some text ↔ bytesOf text = bytes := by
  unfold textOf? String.fromUTF8?
  constructor
  · intro h
    split_ifs at h
    rw [← Option.some.inj h]
    rfl
  · rintro rfl
    exact dif_pos text.isValidUTF8

end Files

namespace Manifest

variable {m : Manifest} {text : String}

/-- The bytes are the text of a JSON value that is the manifest. -/
def WrittenIn (m : Manifest) (bytes : List UInt8) : Prop :=
  ∃ text v, Files.bytesOf text = bytes ∧ Json.skim text = .ok v ∧ ofJson v = .ok m

theorem ofText?_eq_some :
    ofText? text = some m ↔ ∃ v, Json.skim text = .ok v ∧ ofJson v = .ok m := by
  unfold ofText?
  rcases Json.skim text with f | v
  · simp
  · rcases hread : ofJson v with f | m' <;> simp [hread, Except.toOption]

theorem writtenIn_bytesOf : m.WrittenIn (Files.bytesOf text) ↔ ofText? text = some m := by
  rw [ofText?_eq_some]
  constructor
  · rintro ⟨text', v, hspells, hread⟩
    have htext := Files.textOf?_eq_some.2 hspells
    rw [Files.textOf?_eq_some.2 rfl] at htext
    exact Option.some.inj htext ▸ ⟨v, hread⟩
  · rintro ⟨v, hread⟩
    exact ⟨text, v, rfl, hread⟩

end Manifest

namespace Files

/-! ## What is in a directory -/

section

variable (files : Files) (directory : List String)

/-- A plugin folder holds a manifest file with these bytes. -/
def Holds (name : String) (bytes : List UInt8) : Prop :=
  files.look (directory ++ [name]) = .folder ∧
    files.look (directory ++ [name, manifestName]) = .file bytes

/-- The manifest file of a plugin folder is well-formed and says this. -/
def Offers (name : String) (m : Manifest) : Prop :=
  ∃ bytes, files.Holds directory name bytes ∧ m.WrittenIn bytes

/-- The manifest file of a plugin folder is no text. -/
def Garbled (name : String) : Prop := ∃ bytes, files.Holds directory name bytes ∧ ¬IsText bytes

/-- No plugin folder before offers a manifest of the same id. -/
def Counts (m : Manifest) : Prop :=
  ∃ name, files.Offers directory name m ∧
    ∀ name' < name, ∀ m', files.Offers directory name' m' → m'.id ≠ m.id

/-- A directory of plugin folders, each with a manifest file or nothing of its name. -/
structure PluginDirectory : Prop where
  folder : files.look directory = .folder
  /-- no folder has the name of a manifest file -/
  plain : ∀ name, files.look (directory ++ [name]) = .folder →
    files.look (directory ++ [name, manifestName]) ≠ .folder

end

variable {files : Files} {directory : List String} {name : String} {m m' : Manifest}

/-- Where whatever lies at the place of a manifest is a file, plugins are in order. -/
theorem pluginDirectory_of_entries (hfolder : files.look directory = .folder)
    (h : ∀ name, ∀ e ∈ files, directory ++ [name, manifestName] <+: e.1 →
      ∃ bytes, e = (directory ++ [name, manifestName], .file bytes)) :
    files.PluginDirectory directory := by
  refine ⟨hfolder, fun name _ hlook => ?_⟩
  obtain ⟨hclear, hnil | ⟨e, he, hbelow⟩⟩ := look_eq_folder.1 hlook
  · simp at hnil
  · obtain ⟨bytes, rfl⟩ := h name e he hbelow
    exact hclear _ _ he List.prefix_rfl

theorem Holds.mem {bytes : List UInt8} (h : files.Holds directory name bytes) :
    (directory ++ [name, manifestName], .file bytes) ∈ files := by
  have hlook := files.look_stands (directory ++ [name, manifestName])
  rw [h.2] at hlook
  cases hlook with
  | file _ hmem => exact hmem

theorem Offers.folder (h : files.Offers directory name m) :
    files.look (directory ++ [name]) = .folder := by
  obtain ⟨_, hholds, _⟩ := h
  exact hholds.1

theorem Garbled.folder (h : files.Garbled directory name) :
    files.look (directory ++ [name]) = .folder := by
  obtain ⟨_, hholds, _⟩ := h
  exact hholds.1

/-! ## Visiting a folder -/

/-- What a visit to a plugin folder finds there. -/
def visit (files : Files) (folder : List String) : Except ReadFault (Option Manifest) :=
  (·.bind Manifest.ofText?) <$> files.manifestText folder

theorem manifest_path (directory : List String) (name : String) :
    directory ++ [name] ++ [manifestName] = directory ++ [name, manifestName] := by
  simp

theorem visit_missing (h : files.look (directory ++ [name, manifestName]) = .missing) :
    files.visit (directory ++ [name]) = .ok none := by
  unfold visit manifestText
  simp only [manifest_path, h]
  rfl

theorem visit_text {text : String}
    (h : files.look (directory ++ [name, manifestName]) = .file (bytesOf text)) :
    files.visit (directory ++ [name]) = .ok (Manifest.ofText? text) := by
  unfold visit manifestText
  simp only [manifest_path, h, textOf?_eq_some.2 rfl]
  rfl

theorem visit_garbled {bytes : List UInt8}
    (h : files.look (directory ++ [name, manifestName]) = .file bytes) (hbytes : ¬IsText bytes) :
    files.visit (directory ++ [name]) = .error ⟨directory ++ [name, manifestName]⟩ := by
  have hnone : textOf? bytes = none :=
    Option.eq_none_iff_forall_ne_some.2 fun text htext =>
      hbytes ⟨text, textOf?_eq_some.1 htext⟩
  unfold visit manifestText
  simp only [manifest_path, h, hnone]
  rfl

/-- What a visit to a plugin folder can find. -/
inductive Visits (files : Files) (directory : List String) (name : String) :
    Except ReadFault (Option Manifest) → Prop
  | bare : files.look (directory ++ [name, manifestName]) = .missing →
      Visits files directory name (.ok none)
  /-- the file is no text -/
  | garbled : files.Garbled directory name →
      Visits files directory name (.error ⟨directory ++ [name, manifestName]⟩)
  /-- the text is no JSON -/
  | noJson (text f) : files.Holds directory name (bytesOf text) →
      Json.skim text = .error f → Visits files directory name (.ok none)
  /-- the JSON value is no manifest -/
  | noManifest (text v f) : files.Holds directory name (bytesOf text) →
      Json.skim text = .ok v → Manifest.ofJson v = .error f → Visits files directory name (.ok none)
  | manifest (found : Manifest) : files.Offers directory name found →
      Visits files directory name (.ok (some found))

theorem PluginDirectory.visit_visits (hplugins : files.PluginDirectory directory)
    (hfolder : files.look (directory ++ [name]) = .folder) :
    files.Visits directory name (files.visit (directory ++ [name])) := by
  rcases hlook : files.look (directory ++ [name, manifestName]) with _ | _ | _ | bytes
  · rw [visit_missing hlook]
    exact .bare hlook
  · rw [← manifest_path] at hlook
    exact absurd hlook (look_in_folder hfolder manifestName)
  · exact absurd hlook (hplugins.plain name hfolder)
  · by_cases htext : IsText bytes
    · obtain ⟨text, rfl⟩ := htext
      rw [visit_text hlook]
      unfold Manifest.ofText?
      rcases hskim : Json.skim text with f | v
      · exact .noJson text f ⟨hfolder, hlook⟩ hskim
      · dsimp only
        rcases hread : Manifest.ofJson v with f | m
        · exact .noManifest text v f ⟨hfolder, hlook⟩ hskim hread
        · exact .manifest m ⟨_, ⟨hfolder, hlook⟩, text, v, rfl, hskim, hread⟩
    · rw [visit_garbled hlook htext]
      exact .garbled ⟨bytes, ⟨hfolder, hlook⟩, htext⟩

theorem Offers.visit_eq (h : files.Offers directory name m) :
    files.visit (directory ++ [name]) = .ok (some m) := by
  obtain ⟨_, ⟨-, hlook⟩, text, v, rfl, hread⟩ := h
  rw [visit_text hlook, Manifest.ofText?_eq_some.2 ⟨v, hread⟩]

theorem Garbled.visit_eq (h : files.Garbled directory name) :
    files.visit (directory ++ [name]) = .error ⟨directory ++ [name, manifestName]⟩ := by
  obtain ⟨bytes, ⟨-, hlook⟩, hbytes⟩ := h
  exact visit_garbled hlook hbytes

/-- A plugin folder offers one manifest at most. -/
theorem Offers.unique (h : files.Offers directory name m) (h' : files.Offers directory name m') :
    m = m' := by
  have heq := h.visit_eq.symm.trans h'.visit_eq
  simpa using heq

/-- The manifest that a visit to a plugin folder finds, if it finds one. -/
def manifestIn? (files : Files) (folder : List String) : Option Manifest :=
  (files.visit folder).toOption.join

theorem PluginDirectory.visit_ok (hplugins : files.PluginDirectory directory)
    (hfolder : files.look (directory ++ [name]) = .folder) (hnot : ¬files.Garbled directory name) :
    files.visit (directory ++ [name]) = .ok (files.manifestIn? (directory ++ [name])) := by
  have hvisits := hplugins.visit_visits hfolder
  unfold manifestIn?
  generalize files.visit (directory ++ [name]) = found at hvisits
  cases hvisits with
  | garbled hgarbled => exact absurd hgarbled hnot
  | _ => rfl

theorem PluginDirectory.manifestIn?_eq_some (hplugins : files.PluginDirectory directory)
    (hfolder : files.look (directory ++ [name]) = .folder) :
    files.manifestIn? (directory ++ [name]) = some m ↔ files.Offers directory name m := by
  have hvisits := hplugins.visit_visits hfolder
  unfold manifestIn?
  refine ⟨fun h => ?_, fun h => by rw [h.visit_eq]; rfl⟩
  generalize files.visit (directory ++ [name]) = found at hvisits h
  cases hvisits with
  | manifest m' hoffers =>
    cases h
    exact hoffers
  | _ => cases h

/-! ## Collecting -/

/-- What is known after a visit. -/
def note (known : Table String Manifest) : Option Manifest → Table String Manifest
  | some m => addNew known m
  | none => known

/-- A manifest does not displace one of the same id. -/
theorem get?_addNew (known : Table String Manifest) (m : Manifest) (id : String) :
    (addNew known m).get? id = (known.get? id).or (if m.id = id then some m else none) := by
  unfold addNew
  rw [Table.contains_eq]
  by_cases hid : m.id = id
  · subst hid
    rcases hknown : known.get? m.id with _ | m' <;> simp [hknown, Table.get?_put]
  · split <;> simp [Table.get?_put, hid]

theorem get?_note (known : Table String Manifest) (found : Option Manifest) (id : String) :
    (note known found).get? id = (known.get? id).or (found.filter (·.id = id)) := by
  rcases found with _ | m
  · simp [note]
  · rw [note, get?_addNew, Option.filter_some]
    simp

theorem collect_cons (files : Files) (folder : List String) (folders : List (List String))
    (known : Table String Manifest) :
    files.collect (folder :: folders) known =
      (files.visit folder).bind fun found => files.collect folders (note known found) := by
  unfold visit
  rw [collect]
  rcases files.manifestText folder with f | _ | text
  · rfl
  · rfl
  · rcases hread : Manifest.ofText? text with _ | m <;>
      simp [bind, Except.bind, Functor.map, Except.map, hread, note]

/-- **A collection keeps the first manifest of each id.** -/
theorem collect_ok {folders : List (List String)} (known : Table String Manifest)
    (h : ∀ folder ∈ folders, files.visit folder = .ok (files.manifestIn? folder)) :
    ∃ collected, files.collect folders known = .ok collected ∧ ∀ id, collected.get? id =
      (known.get? id).or
        (folders.findSome? fun folder => (files.manifestIn? folder).filter (·.id = id)) := by
  -- what is known by now comes before what the folders ahead have
  induction folders generalizing known with
  | nil => exact ⟨known, rfl, by simp⟩
  | cons folder folders ih =>
    obtain ⟨collected, hcollect, hget⟩ := ih (note known (files.manifestIn? folder))
      fun folder hfolder => h folder (List.mem_cons_of_mem _ hfolder)
    refine ⟨collected, ?_, fun id => ?_⟩
    · rw [collect_cons, h folder List.mem_cons_self]
      exact hcollect
    · rw [hget, get?_note, List.findSome?_cons, Option.or_assoc]
      generalize Option.filter _ (files.manifestIn? folder) = found
      cases found <;> rfl

/-- A collection ends at the first folder that cannot be read. -/
theorem collect_error {front back : List (List String)} {folder : List String} {f : ReadFault}
    (known : Table String Manifest)
    (hfront : ∀ folder ∈ front, files.visit folder = .ok (files.manifestIn? folder))
    (hfolder : files.visit folder = .error f) :
    files.collect (front ++ folder :: back) known = .error f := by
  induction front generalizing known with
  | nil =>
    rw [List.nil_append, collect_cons, hfolder]
    rfl
  | cons first front ih =>
    rw [List.cons_append, collect_cons, hfront first List.mem_cons_self]
    exact ih _ fun folder hfolder => hfront folder (List.mem_cons_of_mem _ hfolder)

/-! ## The first manifest of an id -/

/-- One manifest counts under an id. -/
theorem Counts.unique (h : files.Counts directory m) (h' : files.Counts directory m')
    (hid : m.id = m'.id) : m = m' := by
  obtain ⟨name, hoffers, hfirst⟩ := h
  obtain ⟨name', hoffers', hfirst'⟩ := h'
  rcases lt_trichotomy name name' with hlt | rfl | hlt
  · exact absurd hid (hfirst' name hlt m hoffers)
  · exact hoffers.unique hoffers'
  · exact absurd hid.symm (hfirst name' hlt m' hoffers')

/-- The manifest of an id that the folders of a directory show first. -/
def first? (files : Files) (directory : List String) (id : String) : Option Manifest :=
  (files.foldersIn directory).findSome? fun name =>
    (files.manifestIn? (directory ++ [name])).filter (·.id = id)

theorem manifests_of_folder (h : files.look directory = .folder) :
    files.manifests directory =
      (files.collect ((files.foldersIn directory).map (directory ++ [·])) {}).map
        fun known => known.sortedRows.map (·.2) := by
  unfold manifests
  simp only [h]
  generalize files.collect _ {} = collected
  cases collected <;> rfl

namespace PluginDirectory

variable (hplugins : files.PluginDirectory directory) {id : String}
include hplugins

theorem counts_of_first (h : files.first? directory id = some m) :
    files.Counts directory m ∧ m.id = id := by
  obtain ⟨front, name, back, hnames, hfound, hfront⟩ := List.findSome?_eq_some_iff.1 h
  obtain ⟨hin, hid⟩ := Option.filter_eq_some_iff.1 hfound
  obtain rfl : m.id = id := by simpa using hid
  have hfolder : files.look (directory ++ [name]) = .folder :=
    mem_foldersIn.1 (hnames ▸ List.mem_append_cons_self)
  refine ⟨⟨name, (hplugins.manifestIn?_eq_some hfolder).1 hin, ?_⟩, rfl⟩
  intro name' hlt m' hoffers hid'
  have hnone := hfront name' (mem_front hnames hoffers.folder hlt)
  rw [(hplugins.manifestIn?_eq_some hoffers.folder).2 hoffers] at hnone
  simp [hid'] at hnone

theorem exists_first (h : files.Offers directory name m) :
    ∃ m', files.first? directory m.id = some m' := by
  rcases hfirst : files.first? directory m.id with _ | m'
  · have hnone := List.findSome?_eq_none_iff.1 hfirst name (mem_foldersIn.2 h.folder)
    rw [(hplugins.manifestIn?_eq_some h.folder).2 h] at hnone
    simp at hnone
  · exact ⟨m', rfl⟩

/-- **What is found first is what counts.** -/
theorem first_eq_some :
    files.first? directory id = some m ↔ files.Counts directory m ∧ m.id = id := by
  refine ⟨hplugins.counts_of_first, ?_⟩
  rintro ⟨hcounts, rfl⟩
  have ⟨name, hoffers, _⟩ := hcounts
  obtain ⟨m', hfirst⟩ := hplugins.exists_first hoffers
  obtain ⟨hcounts', hid⟩ := hplugins.counts_of_first hfirst
  rw [hfirst, hcounts'.unique hcounts hid]

/-! ## All manifests -/

/-- **A directory of texts is collected**: what counts, by id. -/
theorem manifests_ok (hlegible : ∀ name, ¬files.Garbled directory name) :
    ∃ ms, files.manifests directory = .ok ms ∧ ms.Pairwise (·.id < ·.id) ∧
      ∀ m, m ∈ ms ↔ files.Counts directory m := by
  have hvisit : ∀ folder ∈ (files.foldersIn directory).map (directory ++ [·]),
      files.visit folder = .ok (files.manifestIn? folder) := by
    intro folder hfolder
    obtain ⟨name, hname, rfl⟩ := List.mem_map.1 hfolder
    exact hplugins.visit_ok (mem_foldersIn.1 hname) (hlegible name)
  obtain ⟨collected, hcollect, hget⟩ := collect_ok {} hvisit
  -- the rows of the table are what counts, each under its id
  have hrow : ∀ id m, (id, m) ∈ collected.sortedRows ↔ files.Counts directory m ∧ m.id = id := by
    intro id m
    rw [Table.mem_sortedRows, hget, List.findSome?_map, ← hplugins.first_eq_some]
    rfl
  refine ⟨collected.sortedRows.map (·.2), ?_, ?_, fun m => ?_⟩
  · rw [manifests_of_folder hplugins.folder, hcollect]
    rfl
  · refine List.pairwise_map.2 (collected.pairwise_sortedRows.imp_of_mem ?_)
    rintro ⟨id, m⟩ ⟨id', m'⟩ hmem hmem' hlt
    obtain ⟨-, rfl⟩ := (hrow id m).1 hmem
    obtain ⟨-, rfl⟩ := (hrow id' m').1 hmem'
    exact hlt
  · rw [List.mem_map]
    constructor
    · rintro ⟨⟨id, _⟩, hmem, rfl⟩
      exact ((hrow id _).1 hmem).1
    · intro hcounts
      exact ⟨(m.id, m), (hrow m.id m).2 ⟨hcounts, rfl⟩, rfl⟩

/-- A file that is no text ends the collection: of several, the first one. -/
theorem manifests_error (hgarbled : ∃ name, files.Garbled directory name) :
    ∃ name, files.Garbled directory name ∧ (∀ name' < name, ¬files.Garbled directory name') ∧
      files.manifests directory = .error ⟨directory ++ [name, manifestName]⟩ := by
  classical
  -- the first one that is visited; folders are visited by name
  obtain ⟨name, hfound⟩ : ∃ name,
      (files.foldersIn directory).find? (fun name => files.Garbled directory name) = some name := by
    obtain ⟨name, hname⟩ := hgarbled
    exact Option.isSome_iff_exists.1 <|
      List.find?_isSome.2 ⟨name, mem_foldersIn.2 hname.folder, decide_eq_true hname⟩
  obtain ⟨hname, front, back, hnames, hfront⟩ := List.find?_eq_some_iff_append.1 hfound
  have hname := of_decide_eq_true hname
  have hlegible : ∀ name' ∈ front, ¬files.Garbled directory name' := by
    simpa using hfront
  have hvisit : ∀ folder ∈ front.map (directory ++ [·]),
      files.visit folder = .ok (files.manifestIn? folder) := by
    intro folder hfolder
    obtain ⟨name', hname', rfl⟩ := List.mem_map.1 hfolder
    refine hplugins.visit_ok (mem_foldersIn.1 ?_) (hlegible name' hname')
    rw [hnames]
    exact List.mem_append_left _ hname'
  refine ⟨name, hname, ?_, ?_⟩
  · intro name' hlt hname'
    exact hlegible name' (mem_front hnames hname'.folder hlt) hname'
  · rw [manifests_of_folder hplugins.folder, hnames, List.map_append, List.map_cons,
      collect_error {} hvisit hname.visit_eq]
    rfl

end PluginDirectory

/-- A list of manifests by id is determined by what is in it. -/
theorem eq_of_mem_iff {ms ms' : List Manifest} (h : ms.Pairwise (·.id < ·.id))
    (h' : ms'.Pairwise (·.id < ·.id)) (hmem : ∀ m, m ∈ ms ↔ m ∈ ms') : ms = ms' := by
  have : Std.Irrefl fun m m' : Manifest => m.id < m'.id := ⟨fun m => lt_irrefl m.id⟩
  have : Std.Antisymm fun m m' : Manifest => m.id < m'.id :=
    ⟨fun m m' hlt hlt' => absurd hlt (lt_asymm hlt')⟩
  exact h.eq_of_mem_iff h' hmem

/-! ## Directories of texts -/

/-- The manifest files of a directory are these texts. -/
def Keeps (files : Files) (directory : List String) (texts : List (String × String)) : Prop :=
  ∀ name bytes, files.Holds directory name bytes ↔
    ∃ text, (name, text) ∈ texts ∧ bytesOf text = bytes

theorem Keeps.not_garbled {texts : List (String × String)} (h : files.Keeps directory texts)
    (name : String) : ¬files.Garbled directory name := by
  rintro ⟨bytes, hholds, hbytes⟩
  obtain ⟨text, -, htext⟩ := (h name bytes).1 hholds
  exact hbytes ⟨text, htext⟩

theorem Keeps.offers_iff {texts : List (String × String)} (h : files.Keeps directory texts) :
    files.Offers directory name m ↔
      ∃ text, (name, text) ∈ texts ∧ Manifest.ofText? text = some m := by
  constructor
  · rintro ⟨bytes, hholds, hwritten⟩
    obtain ⟨text, htext, rfl⟩ := (h name bytes).1 hholds
    exact ⟨text, htext, Manifest.writtenIn_bytesOf.1 hwritten⟩
  · rintro ⟨text, htext, hread⟩
    exact ⟨_, (h name _).2 ⟨text, htext, rfl⟩, Manifest.writtenIn_bytesOf.2 hread⟩

/-- **A malformed manifest hides no other**, as long as it is a text.  A directory
    of plugin folders whose manifest files are texts is collected: one manifest for
    each id that some well-formed file has, that of the first such folder, by
    increasing id.  Malformed texts make no difference: whichever there are, what
    is collected is the same wherever the well-formed manifests are.  Bytes that are
    no text end the collection, at the first folder that has such. -/
theorem manifests_collected {files : Files} {directory : List String}
    (hplugins : files.PluginDirectory directory) :
    ((∀ name, ¬files.Garbled directory name) →
      ∃ ms, files.manifests directory = .ok ms ∧ ms.Pairwise (·.id < ·.id) ∧
        (∀ m, m ∈ ms ↔ files.Counts directory m) ∧
        (∀ id, (∃ name m, files.Offers directory name m ∧ m.id = id) ↔
          ∃! m, m ∈ ms ∧ m.id = id) ∧
        ∀ files' : Files, files'.PluginDirectory directory →
          (∀ name, ¬files'.Garbled directory name) →
          (∀ name m, files'.Offers directory name m ↔ files.Offers directory name m) →
          files'.manifests directory = .ok ms) ∧
    ((∃ name, files.Garbled directory name) →
      ∃ name, files.Garbled directory name ∧ (∀ name' < name, ¬files.Garbled directory name') ∧
        files.manifests directory = .error ⟨directory ++ [name, manifestName]⟩) := by
  refine ⟨fun hlegible => ?_, hplugins.manifests_error⟩
  obtain ⟨ms, hms, hsorted, hmem⟩ := hplugins.manifests_ok hlegible
  refine ⟨ms, hms, hsorted, hmem, fun id => ⟨?_, ?_⟩, fun files' hplugins' hlegible' hsame => ?_⟩
  · rintro ⟨name, m, hoffers, rfl⟩
    obtain ⟨m', hfirst⟩ := hplugins.exists_first hoffers
    obtain ⟨hcounts, hid⟩ := hplugins.first_eq_some.1 hfirst
    refine ⟨m', ⟨(hmem m').2 hcounts, hid⟩, ?_⟩
    rintro m'' ⟨hmem'', hid'⟩
    exact ((hmem m'').1 hmem'').unique hcounts (hid'.trans hid.symm)
  · rintro ⟨m, ⟨hm, rfl⟩, -⟩
    obtain ⟨name, hoffers, -⟩ := (hmem m).1 hm
    exact ⟨name, m, hoffers, rfl⟩
  · obtain ⟨ms', hms', hsorted', hmem'⟩ := hplugins'.manifests_ok hlegible'
    have hcounts : ∀ m, files'.Counts directory m ↔ files.Counts directory m := by
      simp only [Counts, hsame, implies_true]
    rw [hms', eq_of_mem_iff hsorted' hsorted fun m => by rw [hmem, hmem', hcounts]]

/-- A service, a copy of it, another service and a text that is no JSON, with other
    things about. -/
theorem manifests_collected_weather :
    let weather : Manifest := { id := "weather", name := "Weather Service" }
    let alarms : Manifest := { id := "alarms", name := "Alarms" }
    let texts : List (String × String) :=
      [("weather", "\x7b\"id\": \"weather\", \"name\": \"Weather Service\"\x7d"),
        ("weather-copy", "\x7b\"id\": \"weather\", \"name\": \"Second Weather\"\x7d"),
        ("alarms", "\x7b\"id\": \"alarms\", \"name\": \"Alarms\"\x7d"),
        ("broken", "\x7b not json")]
    let files : Files :=
      (["plugins", "assets"], .folder) :: (["plugins", "README.md"], .file [255]) ::
        texts.map fun (name, text) =>
          (["plugins", name, manifestName], .file (bytesOf text))
    files.PluginDirectory ["plugins"] ∧ (∀ name, ¬files.Garbled ["plugins"] name) ∧
      files.manifests ["plugins"] = .ok [alarms, weather] := by
  intro weather alarms texts files
  have hplugins : files.PluginDirectory ["plugins"] := by
    refine pluginDirectory_of_entries (by simp [look, files, texts]) ?_
    simp only [files, texts]
    simp +contextual
  have hkeeps : files.Keeps ["plugins"] texts := by
    intro name bytes
    constructor
    · intro hholds
      have hmem := hholds.mem
      simp only [files, List.mem_cons, List.mem_map] at hmem
      simpa using hmem
    · rintro ⟨text, htext, rfl⟩
      simp only [texts, List.mem_cons, Prod.mk.injEq, List.not_mem_nil, or_false] at htext
      rcases htext with ⟨rfl, rfl⟩ | ⟨rfl, rfl⟩ | ⟨rfl, rfl⟩ | ⟨rfl, rfl⟩ <;>
        simp [Holds, look, files, texts, manifestName]
  have hread : texts.map (fun t => Manifest.ofText? t.2) =
      [some weather, some { id := "weather", name := "Second Weather" }, some alarms, none] := by
    decide +kernel
  have hoffers : ∀ name m, files.Offers ["plugins"] name m ↔
      name = "weather" ∧ m = weather ∨
      name = "weather-copy" ∧ m = { id := "weather", name := "Second Weather" } ∨
      name = "alarms" ∧ m = alarms := by
    intro name m
    rw [hkeeps.offers_iff]
    simp only [texts, List.map_cons, List.cons.injEq] at hread
    obtain ⟨hweather, hcopy, halarms, hbroken, -⟩ := hread
    simp [texts, or_and_right, exists_or, and_assoc, hweather, hcopy, halarms, hbroken, eq_comm]
  obtain ⟨ms, hms, hsorted, hmem, -⟩ := (manifests_collected hplugins).1 hkeeps.not_garbled
  refine ⟨hplugins, hkeeps.not_garbled, ?_⟩
  have hpair : [alarms, weather].Pairwise (·.id < ·.id) := List.pairwise_pair.2 (by decide)
  rw [hms, eq_of_mem_iff hsorted hpair fun m => ?_]
  rw [hmem, List.mem_pair]
  constructor
  · rintro ⟨name, hm, hfirst⟩
    rcases (hoffers name m).1 hm with ⟨-, rfl⟩ | ⟨rfl, rfl⟩ | ⟨-, rfl⟩
    · exact Or.inr rfl
    · have hweather := (hoffers "weather" weather).2 (Or.inl ⟨rfl, rfl⟩)
      exact absurd rfl (hfirst "weather" (by decide) weather hweather)
    · exact Or.inl rfl
  · rintro (rfl | rfl)
    · refine ⟨"alarms", (hoffers _ _).2 (Or.inr (Or.inr ⟨rfl, rfl⟩)), fun name' hlt m' hm' => ?_⟩
      rcases (hoffers name' m').1 hm' with ⟨-, rfl⟩ | ⟨-, rfl⟩ | ⟨rfl, -⟩
      · decide
      · decide
      · exact absurd hlt (by decide)
    · refine ⟨"weather", (hoffers _ _).2 (Or.inl ⟨rfl, rfl⟩), fun name' hlt m' hm' => ?_⟩
      rcases (hoffers name' m').1 hm' with ⟨rfl, -⟩ | ⟨rfl, -⟩ | ⟨-, rfl⟩
      · exact absurd hlt (by decide)
      · exact absurd hlt (by decide)
      · decide

/-- Bytes that are no text hide the manifest beside them. -/
theorem garbled_hides_alarms :
    let alarms : Manifest := { id := "alarms", name := "Alarms" }
    let text := "\x7b\"id\": \"alarms\", \"name\": \"Alarms\"\x7d"
    let files : Files :=
      [(["plugins", "attic", manifestName], .file [255]),
        (["plugins", "hall", manifestName], .file (bytesOf text))]
    files.PluginDirectory ["plugins"] ∧ files.Offers ["plugins"] "hall" alarms ∧
      ¬∃ ms, files.manifests ["plugins"] = .ok ms := by
  intro alarms text files
  have hplugins : files.PluginDirectory ["plugins"] := by
    refine pluginDirectory_of_entries (by simp [look, files]) ?_
    simp only [files]
    simp +contextual
  have hgarbled : files.Garbled ["plugins"] "attic" := by
    refine ⟨[255], by simp [Holds, look, files, manifestName], ?_⟩
    rintro ⟨text, htext⟩
    have hsome := textOf?_eq_some.2 htext
    have hnone : textOf? [255] = none := by decide
    rw [hnone] at hsome
    cases hsome
  refine ⟨hplugins, ⟨bytesOf text, ?_, Manifest.writtenIn_bytesOf.2 ?_⟩, ?_⟩
  · simp [Holds, look, files, manifestName]
  · decide +kernel
  · rintro ⟨ms, hms⟩
    obtain ⟨_, -, -, herror⟩ := hplugins.manifests_error ⟨"attic", hgarbled⟩
    rw [hms] at herror
    cases herror

end Files

end Switchboard
