import LoopScript.Proofs.Files.Path
import LoopScript.Proofs.Files.Scripts

/-! Directories read. Entries are listed in no particular order, but what is read is settled by what
they are: the script files by name, or the first of them that is not text. A script counts only if
the path to it can be followed. A directory can be one that is listed but not searched, or be reached
by a path so long that the scripts in it cannot, and then they are passed over. -/
namespace LoopScript

open FileTree Source

def Disk.Follows (disk : Disk) (path : String) : Prop := (disk.kind? path).isSome = true

/-- The directory at the path has these entries, and lists them in some order. What can be followed
leads to what is there. -/
structure Disk.Shows (disk : Disk) (path : String) (entries : List (String × FileTree)) :
    Prop where
  nodup : (entries.map (·.1)).Nodup
  names : ∃ names, disk.names path = .ok names ∧ names.Perm (entries.map (·.1))
  file : ∀ name contents, (name, .file contents) ∈ entries → disk.Follows (join path name) →
    disk.kind? (join path name) = some .file ∧ disk.contents (join path name) = .ok contents
  directory : ∀ name children, (name, .directory children) ∈ entries →
    disk.kind? (join path name) ≠ some .file

namespace Source

variable {disk disk' : Disk} {path name : String} {names : List String}
  {entries listed : List (String × FileTree)} {contents : ByteArray}
  {selected : String → ByteArray → Prop} {result result' : Except ReadError (List Source)}

/-- A file with something in front of the extension. -/
structure IsScriptOf (entries : List (String × FileTree)) (name : String) (contents : ByteArray) :
    Prop where
  mem : (name, .file contents) ∈ entries
  named : ∃ base, base ≠ "" ∧ name = base ++ ".js"

/-- The first of the selected files that is not text. -/
structure IsFirstInvalid (selected : String → ByteArray → Prop) (name : String)
    (contents : ByteArray) : Prop where
  isSelected : selected name contents
  invalid : String.fromUTF8? contents = none
  least : ∀ name' contents', selected name' contents' → String.fromUTF8? contents' = none →
    nameBytes name ≤ nameBytes name'

def loaded (path : String) (script : String × String) : Source := ⟨join path script.1, script.2⟩

/-- What comes of reading the selected files: all of them by name, each with what it holds, or the
path of the first that is not text. -/
inductive ReadsTo (path : String) (selected : String → ByteArray → Prop) :
    Except ReadError (List Source) → Prop
  | ok {texts : List (String × String)}
      (ascending : texts.Pairwise fun a b => nameBytes a.1 < nameBytes b.1)
      (selected_iff : ∀ name contents,
        selected name contents ↔ ∃ text, (name, text) ∈ texts ∧ contents = text.toUTF8) :
      ReadsTo path selected (.ok (texts.map (loaded path)))
  | error {name : String} {contents : ByteArray} (first : IsFirstInvalid selected name contents) :
      ReadsTo path selected (.error ⟨join path name, .notUtf8⟩)

theorem IsFirstInvalid.unique {name' : String} {contents' : ByteArray}
    (h : IsFirstInvalid selected name contents) (h' : IsFirstInvalid selected name' contents') :
    name = name' :=
  nameBytes_injective (List.le_antisymm (h.least _ _ h'.isSelected h'.invalid)
    (h'.least _ _ h.isSelected h.invalid))

theorem isText_of_mem_texts {texts : List (String × String)}
    (hiff : ∀ name contents,
      selected name contents ↔ ∃ text, (name, text) ∈ texts ∧ contents = text.toUTF8)
    (hselected : selected name contents) : String.fromUTF8? contents ≠ none := by
  obtain ⟨text, -, rfl⟩ := (hiff name contents).mp hselected
  rw [fromUTF8?_toUTF8]
  nofun

/-- What is selected settles what is read. -/
theorem ReadsTo.unique (h : ReadsTo path selected result) (h' : ReadsTo path selected result') :
    result = result' := by
  cases h with
  | ok ascending hiff =>
    cases h' with
    | ok ascending' hiff' =>
      have hsub : ∀ {texts texts' : List (String × String)}, (∀ name contents,
            selected name contents ↔ ∃ text, (name, text) ∈ texts ∧ contents = text.toUTF8) →
          (∀ name contents,
            selected name contents ↔ ∃ text, (name, text) ∈ texts' ∧ contents = text.toUTF8) →
          ∀ script, script ∈ texts → script ∈ texts' := by
        rintro texts texts' hiff hiff' ⟨name, text⟩ hmem
        obtain ⟨text', hmem', hbytes⟩ := (hiff' name _).mp ((hiff name _).mpr ⟨text, hmem, rfl⟩)
        rwa [String.toByteArray_inj.mp hbytes]
      rw [eq_of_ascending ascending ascending' fun script =>
        ⟨hsub hiff hiff' script, hsub hiff' hiff script⟩]
    | error first => exact absurd first.invalid (isText_of_mem_texts hiff first.isSelected)
  | error first =>
    cases h' with
    | ok _ hiff => exact absurd first.invalid (isText_of_mem_texts hiff first.isSelected)
    | error first' => rw [first.unique first']

theorem ReadsTo.exists_source {sources : List Source} (h : ReadsTo path selected (.ok sources))
    (hselected : selected name contents) : ∃ source ∈ sources, source.name = join path name := by
  cases h with
  | ok _ hiff =>
    obtain ⟨text, hmem, -⟩ := (hiff name contents).mp hselected
    exact ⟨_, List.mem_map_of_mem hmem, rfl⟩

theorem ReadsTo.exists_selected {sources : List Source} (h : ReadsTo path selected (.ok sources))
    {source : Source} (hmem : source ∈ sources) :
    ∃ name contents, selected name contents ∧ source.name = join path name := by
  cases h with
  | ok _ hiff =>
    obtain ⟨⟨name, text⟩, htext, rfl⟩ := List.mem_map.mp hmem
    exact ⟨name, _, (hiff name _).mpr ⟨text, htext, rfl⟩, rfl⟩

/-! ### Reading one script after another -/

theorem cases_of_contents
    (h : ∀ name ∈ names, ∃ contents, disk.contents (join path name) = .ok contents) :
    ∃ texts : List (String × String),
      (∀ script ∈ texts, disk.contents (join path script.1) = .ok script.2.toUTF8) ∧
      (names = texts.map (·.1) ∨ ∃ name contents rest, names = texts.map (·.1) ++ name :: rest ∧
        disk.contents (join path name) = .ok contents ∧ String.fromUTF8? contents = none) := by
  induction names with
  | nil => exact ⟨[], by simp, .inl rfl⟩
  | cons name names ih =>
    obtain ⟨⟨contents, hcontents⟩, hnames⟩ := List.forall_mem_cons.mp h
    cases htext : String.fromUTF8? contents with
    | none => exact ⟨[], by simp, .inr ⟨name, contents, names, rfl, hcontents, htext⟩⟩
    | some text =>
      obtain rfl := eq_toUTF8_of_fromUTF8? htext
      obtain ⟨texts, htexts, hrest⟩ := ih hnames
      refine ⟨(name, text) :: texts, List.forall_mem_cons.mpr ⟨hcontents, htexts⟩, ?_⟩
      rcases hrest with rfl | ⟨name', contents', rest, rfl, hinvalid⟩
      · exact .inl rfl
      · exact .inr ⟨name', contents', rest, rfl, hinvalid⟩

theorem mapM_readOne_append {texts : List (String × String)}
    (h : ∀ script ∈ texts, disk.contents (join path script.1) = .ok script.2.toUTF8)
    (rest : List String) :
    (texts.map (·.1) ++ rest).mapM (fun name => readOne disk (join path name)) =
      (rest.mapM fun name => readOne disk (join path name)).map (texts.map (loaded path) ++ ·) := by
  induction texts with
  | nil =>
    rw [List.map_nil, List.nil_append]
    cases rest.mapM fun name => readOne disk (join path name) <;> rfl
  | cons script texts ih =>
    obtain ⟨hscript, htexts⟩ := List.forall_mem_cons.mp h
    have hread : readOne disk (join path script.1) = .ok (loaded path script) :=
      (readOne_of_contents hscript).trans (ofFile_toUTF8 _ _)
    rw [List.map_cons, List.cons_append, List.mapM_cons, ih htexts, hread]
    cases rest.mapM fun name => readOne disk (join path name) <;> rfl

theorem readsTo_mapM (hascending : names.Pairwise fun a b => nameBytes a < nameBytes b)
    (hcontents : ∀ name ∈ names, ∃ contents, disk.contents (join path name) = .ok contents) :
    ReadsTo path
      (fun name contents => name ∈ names ∧ disk.contents (join path name) = .ok contents)
      (names.mapM fun name => readOne disk (join path name)) := by
  obtain ⟨texts, htexts, rfl | ⟨name, contents, rest, rfl, hname, hinvalid⟩⟩ :=
    cases_of_contents hcontents
  · have hread : (texts.map (·.1)).mapM (fun name => readOne disk (join path name)) =
        .ok (texts.map (loaded path)) := by
      simpa [Except.map, pure, Except.pure] using mapM_readOne_append htexts []
    rw [hread]
    rw [List.pairwise_map] at hascending
    refine .ok hascending fun name contents => ?_
    constructor
    · rintro ⟨hmem, hname⟩
      obtain ⟨⟨name, text⟩, htext, rfl⟩ := List.mem_map.mp hmem
      exact ⟨text, htext, Except.ok.inj (hname.symm.trans (htexts _ htext))⟩
    · rintro ⟨text, hmem, rfl⟩
      exact ⟨List.mem_map_of_mem hmem, htexts _ hmem⟩
  · have hread := mapM_readOne_append htexts (name :: rest)
    rw [List.mapM_cons, readOne_of_contents hname, ofFile, hinvalid] at hread
    rw [hread]
    refine .error ⟨⟨by simp, hname⟩, hinvalid, ?_⟩
    rintro name' contents' ⟨hmem', hname'⟩ hinvalid'
    rcases List.mem_append.mp hmem' with hfront | hrest
    · -- What stands in front is text.
      obtain ⟨script, hmem, rfl⟩ := List.mem_map.mp hfront
      obtain rfl := Except.ok.inj (hname'.symm.trans (htexts script hmem))
      rw [fromUTF8?_toUTF8] at hinvalid'
      cases hinvalid'
    · rcases List.mem_cons.mp hrest with rfl | hbehind
      · exact List.le_refl _
      · have hlater := (List.pairwise_append.mp hascending).2.1
        exact List.le_of_lt ((List.pairwise_cons.mp hlater).1 _ hbehind)

/-! ### Directories -/

end Source

namespace Disk.Shows

variable {disk disk' : Disk} {path name : String} {names : List String}
  {entries listed : List (String × FileTree)} {contents : ByteArray}

theorem perm (h : disk.Shows path listed) (hperm : listed.Perm entries) :
    disk.Shows path entries where
  nodup := (hperm.map (·.1)).nodup_iff.mp h.nodup
  names := by
    obtain ⟨names, hnames, hlisted⟩ := h.names
    exact ⟨names, hnames, hlisted.trans (hperm.map (·.1))⟩
  file name contents hmem := h.file name contents (hperm.mem_iff.mpr hmem)
  directory name children hmem := h.directory name children (hperm.mem_iff.mpr hmem)

/-- The scripts that are found are the script files that can be followed. -/
theorem isScriptOf_iff (h : disk.Shows path entries) (hperm : names.Perm (entries.map (·.1))) :
    IsScriptOf entries name contents ∧ disk.Follows (join path name) ↔
      name ∈ scripts disk path names ∧ disk.contents (join path name) = .ok contents := by
  rw [mem_scripts, hperm.mem_iff, isScriptIn, Bool.and_eq_true, isScriptName_iff,
    decide_eq_true_eq]
  constructor
  · rintro ⟨⟨hmem, hnamed⟩, hfollows⟩
    obtain ⟨hkind, hcontents⟩ := h.file name contents hmem hfollows
    exact ⟨⟨List.mem_map_of_mem hmem, hnamed, hkind⟩, hcontents⟩
  · rintro ⟨⟨hmem, hnamed, hkind⟩, hcontents⟩
    have hfollows : disk.Follows (join path name) := by rw [Disk.Follows, hkind]; rfl
    obtain ⟨⟨name, child⟩, hentry, rfl⟩ := List.mem_map.mp hmem
    cases child with
    | directory children => exact absurd hkind (h.directory name children hentry)
    | file contents' =>
      obtain ⟨-, hcontents'⟩ := h.file name contents' hentry hfollows
      obtain rfl := Except.ok.inj (hcontents.symm.trans hcontents')
      exact ⟨⟨hentry, hnamed⟩, hfollows⟩

theorem readsTo (h : disk.Shows path entries) :
    ReadsTo path (fun name contents =>
      IsScriptOf entries name contents ∧ disk.Follows (join path name))
      (readScripts disk path) := by
  obtain ⟨names, hnames, hperm⟩ := h.names
  have hnodup : names.Nodup := hperm.nodup_iff.mpr h.nodup
  have hcontents : ∀ name ∈ scripts disk path names,
      ∃ contents, disk.contents (join path name) = .ok contents := by
    intro name hname
    obtain ⟨hmem, hscript⟩ := mem_scripts.mp hname
    rw [isScriptIn, Bool.and_eq_true, decide_eq_true_eq] at hscript
    obtain ⟨⟨name, child⟩, hentry, rfl⟩ := List.mem_map.mp (hperm.mem_iff.mp hmem)
    cases child with
    | directory children => exact absurd hscript.2 (h.directory name children hentry)
    | file contents =>
      have hfollows : disk.Follows (join path name) := by rw [Disk.Follows, hscript.2]; rfl
      exact ⟨contents, (h.file name contents hentry hfollows).2⟩
  simp only [h.isScriptOf_iff hperm]
  rw [readScripts_of_names hnames]
  exact readsTo_mapM (pairwise_scripts disk path hnodup) hcontents

/-- All scripts are accounted for if all of them can be followed, or if the first that is not text
can, which is reported then whatever has been passed over. -/
theorem readsTo_isScriptOf_iff (h : disk.Shows path entries) :
    ReadsTo path (IsScriptOf entries) (readScripts disk path) ↔
      (∀ name contents, IsScriptOf entries name contents → disk.Follows (join path name)) ∨
        ∃ name contents, IsFirstInvalid (IsScriptOf entries) name contents ∧
          disk.Follows (join path name) := by
  have hread := h.readsTo
  constructor
  · intro hall
    generalize readScripts disk path = result at hread hall
    cases hall with
    | ok ascending hiff =>
      refine .inl fun name contents hscript => ?_
      obtain ⟨source, hmem, hname⟩ := (ReadsTo.ok ascending hiff).exists_source hscript
      obtain ⟨name', -, ⟨-, hfollows⟩, hname'⟩ := hread.exists_selected hmem
      rwa [join_inj (hname.symm.trans hname')]
    | error first =>
      refine .inr ⟨_, _, first, ?_⟩
      generalize hfirst : (Except.error _ : Except ReadError (List Source)) = result at hread
      cases hread with
      | ok => cases hfirst
      | error first' =>
        have hpath := congrArg ReadError.path (Except.error.inj hfirst)
        rw [join_inj hpath]
        exact first'.isSelected.2
  · rintro (hfollows | ⟨name, contents, first, hfollows⟩)
    · have hselected : ∀ name contents,
          IsScriptOf entries name contents ∧ disk.Follows (join path name) ↔
            IsScriptOf entries name contents :=
        fun name contents => and_iff_left_of_imp (hfollows name contents)
      simpa only [hselected] using hread
    · have first' : IsFirstInvalid (fun name contents =>
          IsScriptOf entries name contents ∧ disk.Follows (join path name)) name contents :=
        ⟨⟨first.isSelected, hfollows⟩, first.invalid,
          fun name' contents' hscript => first.least name' contents' hscript.1⟩
      rw [hread.unique (.error first')]
      exact .error first

end Disk.Shows

/-! ### The disk of a file tree -/

namespace FileSystem

variable {fs : FileSystem} {path name : String} {entries : List (String × FileTree)}
  {child : FileTree}

theorem names_of_find (h : fs.find path = .ok (.directory entries)) :
    fs.disk.names path = .ok (entries.map (·.1)) := by
  simp only [disk, h]

theorem of_find_file {contents : ByteArray} (h : fs.find path = .ok (.file contents)) :
    fs.disk.kind? path = some .file ∧ fs.disk.contents path = .ok contents := by
  simp only [disk, h, and_self]

theorem kind?_of_find_directory (h : fs.find path = .ok (.directory entries)) :
    fs.disk.kind? path = some .directory := by
  simp only [disk, h]

/-- Only the length of its path keeps an entry from being found. -/
theorem follows_join_iff (hentries : AreEntries entries)
    (hpath : fs.find path = .ok (.directory entries)) (hmem : (name, child) ∈ entries) :
    fs.disk.Follows (join path name) ↔ (join path name).utf8ByteSize ≤ maxPath := by
  constructor
  · intro hfollows
    cases hfind : fs.find (join path name) with
    | error fault => simp [Disk.Follows, disk, hfind] at hfollows
    | ok tree => exact (find_eq_ok_iff.mp hfind).2.2.1
  · intro hsize
    have hfind := find_join hentries hpath hmem hsize
    cases child <;> simp [Disk.Follows, disk, hfind]

theorem shows (hentries : AreEntries entries) (hpath : fs.find path = .ok (.directory entries)) :
    fs.disk.Shows path entries where
  nodup := hentries.nodup
  names := ⟨_, names_of_find hpath, .refl _⟩
  file name contents hmem hfollows := by
    have hsize := (follows_join_iff hentries hpath hmem).mp hfollows
    exact of_find_file (find_join hentries hpath hmem hsize)
  directory name children hmem hkind := by
    have hfollows : fs.disk.Follows (join path name) := by rw [Disk.Follows, hkind]; rfl
    have hsize := (follows_join_iff hentries hpath hmem).mp hfollows
    have hdirectory := kind?_of_find_directory (find_join hentries hpath hmem hsize)
    rw [hkind] at hdirectory
    cases hdirectory

end FileSystem

namespace Source

/-- Reading a directory gives the same in whatever order its entries are listed: all the scripts that
can be followed by name, or the first of them that is not text. These are all the scripts there are,
unless one cannot be followed, and is not behind one that is reported. -/
theorem readScripts_of_shows {disk disk' : Disk} {path : String}
    {entries : List (String × FileTree)} (h : disk.Shows path entries)
    (h' : disk'.Shows path entries)
    (hfollows : ∀ entry ∈ entries,
      disk'.Follows (join path entry.1) ↔ disk.Follows (join path entry.1)) :
    readScripts disk' path = readScripts disk path ∧
      ReadsTo path (fun name contents =>
        IsScriptOf entries name contents ∧ disk.Follows (join path name))
        (readScripts disk path) ∧
      (ReadsTo path (IsScriptOf entries) (readScripts disk path) ↔
        (∀ name contents, IsScriptOf entries name contents → disk.Follows (join path name)) ∨
          ∃ name contents, IsFirstInvalid (IsScriptOf entries) name contents ∧
            disk.Follows (join path name)) := by
  refine ⟨?_, h.readsTo, h.readsTo_isScriptOf_iff⟩
  have hselected : ∀ name contents,
      IsScriptOf entries name contents ∧ disk'.Follows (join path name) ↔
        IsScriptOf entries name contents ∧ disk.Follows (join path name) :=
    fun name contents => and_congr_right fun hscript => hfollows _ hscript.mem
  have hread := h'.readsTo
  simp only [hselected] at hread
  exact hread.unique h.readsTo

/-- Of two scripts that are not text the one with the smaller name is reported. -/
theorem readScripts_of_shows_invalid :
    let invalid := FileTree.file ⟨#[0xFF]⟩
    let entries := [("a.js", FileTree.file "x".toUTF8), ("b.js", invalid), ("c.js", invalid)]
    let disk := FileSystem.disk ⟨.directory entries, []⟩
    let disk' := FileSystem.disk ⟨.directory entries.reverse, []⟩
    disk.Shows "/" entries ∧ disk'.Shows "/" entries ∧
      (∀ entry ∈ entries,
        disk'.Follows (join "/" entry.1) ↔ disk.Follows (join "/" entry.1)) ∧
      readScripts disk' "/" = readScripts disk "/" ∧
      readScripts disk "/" = .error ⟨"/b.js", .notUtf8⟩ := by
  intro invalid entries disk disk'
  have hentries : AreEntries entries := ⟨by decide, by decide⟩
  have hreverse : AreEntries entries.reverse := ⟨by decide, by decide⟩
  have hfind (entries : List (String × FileTree)) :
      FileSystem.find ⟨.directory entries, []⟩ "/" = .ok (.directory entries) :=
    FileSystem.find_eq_ok_iff.mpr ⟨by decide, by decide, by decide, rfl⟩
  have hshows : disk.Shows "/" entries := FileSystem.shows hentries (hfind entries)
  have hshows' : disk'.Shows "/" entries :=
    (FileSystem.shows hreverse (hfind entries.reverse)).perm (List.reverse_perm entries)
  have hfollows : ∀ entry ∈ entries,
      disk'.Follows (join "/" entry.1) ↔ disk.Follows (join "/" entry.1) := by
    intro entry hmem
    have hmem' : entry ∈ entries.reverse := List.mem_reverse.mpr hmem
    rw [FileSystem.follows_join_iff hentries (hfind entries) hmem,
      FileSystem.follows_join_iff hreverse (hfind entries.reverse) hmem']
  obtain ⟨hsame, hread, -⟩ := readScripts_of_shows hshows hshows' hfollows
  have hmem : ("b.js", invalid) ∈ entries := by simp [entries]
  have hfirst : IsFirstInvalid (fun name contents =>
      IsScriptOf entries name contents ∧ disk.Follows (join "/" name)) "b.js" ⟨#[0xFF]⟩ := by
    refine ⟨⟨⟨hmem, "b", by decide, rfl⟩, ?_⟩, by decide, ?_⟩
    · exact (FileSystem.follows_join_iff hentries (hfind entries) hmem).mpr (by decide)
    · rintro name contents ⟨⟨hmem, -⟩, -⟩ hinvalid
      have hcases : name = "a.js" ∧ contents = "x".toUTF8 ∨ name = "b.js" ∧ contents = ⟨#[0xFF]⟩ ∨
          name = "c.js" ∧ contents = ⟨#[0xFF]⟩ := by simpa [entries, invalid] using hmem
      rcases hcases with ⟨-, rfl⟩ | ⟨rfl, -⟩ | ⟨rfl, -⟩
      · rw [fromUTF8?_toUTF8] at hinvalid
        cases hinvalid
      · exact List.le_refl _
      · decide
  exact ⟨hshows, hshows', hfollows, hsame, hread.unique (.error hfirst)⟩

/-! ### Scripts that cannot be followed -/

def dots (n : Nat) : String := String.join (List.replicate n "./")

theorem dots_succ (n : Nat) : dots (n + 1) = "./" ++ dots n := by
  rw [← String.toList_inj]
  simp [dots, List.replicate_succ]

theorem toList_dots_succ (n : Nat) : (dots (n + 1)).toList = ['.'] ++ '/' :: (dots n).toList := by
  rw [dots_succ, String.toList_append]
  rfl

theorem nul_notMem_dots (n : Nat) : '\x00' ∉ (dots n).toList := by
  induction n with
  | zero => exact List.not_mem_nil
  | succ n ih => simpa [toList_dots_succ] using ih

theorem utf8ByteSize_dots (n : Nat) : (dots n).utf8ByteSize = 2 * n := by
  induction n with
  | zero => rfl
  | succ n ih =>
    have hstep : "./".utf8ByteSize = 2 := rfl
    rw [dots_succ, String.utf8ByteSize_append, ih, hstep]
    omega

theorem components_dots (n : Nat) : components (dots n) = List.replicate n "." ++ [""] := by
  induction n with
  | zero => rfl
  | succ n ih =>
    have hhere : (['.'].splitOn '/').map String.ofList = ["."] := rfl
    rw [components, toList_dots_succ, List.splitOn_append_cons_self, List.map_append, hhere,
      List.replicate_succ]
    exact congrArg ("." :: ·) ih

theorem walk_dots (n : Nat) (entries : List (String × FileTree)) :
    walk [] (.directory entries) (List.replicate n "." ++ [""]) = .ok (.directory entries) := by
  induction n with
  | zero => rfl
  | succ n ih => rw [List.replicate_succ, List.cons_append, walk_cons, if_pos (.inr rfl), ih]

theorem find_dots {n : Nat} (hpos : 0 < n) (hsize : 2 * n ≤ maxPath)
    (entries : List (String × FileTree)) :
    FileSystem.find ⟨.directory entries, []⟩ (dots n) = .ok (.directory entries) := by
  have hempty : dots n ≠ "" := by
    rw [← Nat.sub_add_cancel hpos, dots_succ]
    simp
  have hstart : FileSystem.start ⟨.directory entries, []⟩ (dots n) = [] := by
    unfold FileSystem.start
    split <;> rfl
  refine FileSystem.find_eq_ok_iff.mpr
    ⟨nul_notMem_dots n, hempty, by rw [utf8ByteSize_dots]; exact hsize, ?_⟩
  rw [hstart, List.nil_append, components_dots]
  exact walk_dots n entries

theorem le_utf8ByteSize_join (path name : String) :
    path.utf8ByteSize + name.utf8ByteSize ≤ (join path name).utf8ByteSize := by
  unfold join
  split
  next => exact Nat.le_of_eq (String.utf8ByteSize_append).symm
  next =>
    rw [String.utf8ByteSize_append, String.utf8ByteSize_append]
    omega

/-- A directory is found by a path of 4090 bytes, and a script in it is not read. -/
theorem not_readsTo_dots :
    let path := dots 2045
    let entries := [("cccccccc.js", FileTree.file "C".toUTF8)]
    let disk := FileSystem.disk ⟨.directory entries, []⟩
    disk.Shows path entries ∧ readScripts disk path = .ok [] ∧
      ¬ ReadsTo path (IsScriptOf entries) (readScripts disk path) := by
  intro path entries disk
  have hentries : AreEntries entries := ⟨by decide, by decide⟩
  have hfind := find_dots (n := 2045) (by decide) (by decide) entries
  have hscript : IsScriptOf entries "cccccccc.js" "C".toUTF8 :=
    ⟨by simp [entries], "cccccccc", by decide, rfl⟩
  have hshows : disk.Shows path entries := FileSystem.shows hentries hfind
  have hlong : ¬ disk.Follows (join path "cccccccc.js") := by
    rw [FileSystem.follows_join_iff hentries hfind hscript.mem, Nat.not_le]
    have hjoin := le_utf8ByteSize_join path "cccccccc.js"
    have hname : "cccccccc.js".utf8ByteSize = 11 := rfl
    rw [utf8ByteSize_dots, hname] at hjoin
    exact Nat.lt_of_lt_of_le (by decide) hjoin
  have hnone : scripts disk path ["cccccccc.js"] = [] := by
    refine List.eq_nil_iff_forall_not_mem.mpr fun name hmem => ?_
    obtain ⟨hname, hkind⟩ := mem_scripts.mp hmem
    obtain rfl := List.mem_singleton.mp hname
    rw [isScriptIn, Bool.and_eq_true, decide_eq_true_eq] at hkind
    exact hlong (by rw [Disk.Follows, hkind.2]; rfl)
  have hread : readScripts disk path = .ok [] := by
    rw [readScripts_of_names (FileSystem.names_of_find hfind)]
    change (scripts disk path ["cccccccc.js"]).mapM _ = _
    rw [hnone]
    rfl
  refine ⟨hshows, hread, fun h => ?_⟩
  rw [hread] at h
  obtain ⟨source, hmem, -⟩ := h.exists_source hscript
  cases hmem

end Source

end LoopScript
