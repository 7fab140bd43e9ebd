import LoopScript.Source

/-! The scripts among the names in a directory, in the order in which they are read. -/
namespace LoopScript.Source

variable {disk : Disk} {path name : String} {names : List String}

theorem join_inj {name' : String} (h : join path name = join path name') : name = name' := by
  unfold join at h
  split at h
  · exact String.append_right_inj _ |>.mp h
  · exact String.append_right_inj _ |>.mp h

theorem isScriptName_iff (name : String) :
    isScriptName name = true ↔ ∃ base, base ≠ "" ∧ name = base ++ ".js" := by
  simp only [isScriptName, Bool.and_eq_true, List.isSuffixOf_iff_suffix, decide_eq_true_eq]
  constructor
  · rintro ⟨⟨front, hname⟩, hlength⟩
    refine ⟨String.ofList front, ?_, ?_⟩
    · intro hempty
      have hfront : front = [] := by simpa using hempty
      rw [← hname, hfront] at hlength
      exact absurd hlength (by decide)
    · rw [← String.toList_inj, ← hname]
      simp
  · rintro ⟨base, hbase, rfl⟩
    have hlength : 0 < base.toList.length := List.length_pos_iff.mpr (by simpa using hbase)
    have hchars : (base ++ ".js").toList = base.toList ++ ['.', 'j', 's'] := String.toList_append
    rw [hchars, List.length_append]
    exact ⟨List.suffix_append _ _, by simpa using hlength⟩

theorem mem_scripts : name ∈ scripts disk path names ↔
    name ∈ names ∧ isScriptIn disk path name = true :=
  (List.mergeSort_perm _ _).mem_iff.trans List.mem_filter

theorem nameBytes_injective {name name' : String} (h : nameBytes name = nameBytes name') :
    name = name' := by
  have hbytes : name.toUTF8 = name'.toUTF8 := ByteArray.ext (Array.toList_inj.mp h)
  exact String.toByteArray_inj.mp hbytes

theorem pairwise_scripts (disk : Disk) (path : String) (h : names.Nodup) :
    (scripts disk path names).Pairwise fun a b => nameBytes a < nameBytes b := by
  have hsorted : (scripts disk path names).Pairwise fun a b => nameBytes a ≤ nameBytes b := by
    have htrans : ∀ a b c : String, decide (nameBytes a ≤ nameBytes b) = true →
        decide (nameBytes b ≤ nameBytes c) = true → decide (nameBytes a ≤ nameBytes c) := by
      simpa using fun _ _ _ => List.le_trans
    have htotal : ∀ a b : String,
        decide (nameBytes a ≤ nameBytes b) || decide (nameBytes b ≤ nameBytes a) := by
      simpa using fun a b => List.le_total (nameBytes a) (nameBytes b)
    exact (List.pairwise_mergeSort htrans htotal _).imp of_decide_eq_true
  have hnodup : (scripts disk path names).Nodup :=
    (List.mergeSort_perm _ _).nodup_iff.mpr (h.sublist List.filter_sublist)
  refine hsorted.imp₂ (fun a b hle hne => ?_) hnodup
  exact Std.lt_of_le_of_ne hle fun heq => hne (nameBytes_injective heq)

theorem eq_of_ascending {α : Type} {key : α → List UInt8} {as bs : List α}
    (ha : as.Pairwise fun a b => key a < key b) (hb : bs.Pairwise fun a b => key a < key b)
    (hmem : ∀ a, a ∈ as ↔ a ∈ bs) : as = bs := by
  have hne : ∀ {a b : α}, key a < key b → a ≠ b := by
    rintro a _ hlt rfl
    exact List.lt_irrefl _ hlt
  have hperm : as.Perm bs := (List.perm_ext_iff_of_nodup (ha.imp hne) (hb.imp hne)).mpr hmem
  exact hperm.eq_of_pairwise (fun _ _ _ _ hlt hgt => absurd hgt (List.lt_asymm hlt)) ha hb

/-! ### Reading -/

theorem fromUTF8?_toUTF8 (text : String) : String.fromUTF8? text.toUTF8 = some text :=
  dif_pos text.isValidUTF8

theorem ofFile_toUTF8 (path text : String) : ofFile path text.toUTF8 = .ok ⟨path, text⟩ := by
  rw [ofFile, fromUTF8?_toUTF8]

theorem eq_toUTF8_of_fromUTF8? {contents : ByteArray} {text : String}
    (h : String.fromUTF8? contents = some text) : contents = text.toUTF8 := by
  unfold String.fromUTF8? at h
  split at h
  next =>
    cases h
    rfl
  next => cases h

theorem readOne_of_contents {contents : ByteArray} (h : disk.contents path = .ok contents) :
    readOne disk path = ofFile path contents := by
  rw [readOne, h]
  rfl

theorem readScripts_of_names (h : disk.names path = .ok names) : readScripts disk path =
    (scripts disk path names).mapM fun name => readOne disk (join path name) := by
  rw [readScripts, h]
  rfl

theorem readAny_of_directory (h : disk.kind? path = some .directory) :
    readAny disk path = readScripts disk path :=
  if_pos h

theorem readAny_of_file (h : disk.kind? path = some .file) :
    readAny disk path = (readOne disk path).map ([·]) :=
  if_neg (by simp [h])

theorem mapM_readOne {source : String → Source}
    (h : ∀ name ∈ names, readOne disk (join path name) = .ok (source name)) :
    names.mapM (fun name => readOne disk (join path name)) = .ok (names.map source) := by
  induction names with
  | nil => rfl
  | cons name names ih =>
    obtain ⟨hname, hnames⟩ := List.forall_mem_cons.mp h
    rw [List.mapM_cons, hname, ih hnames]
    rfl

end LoopScript.Source
