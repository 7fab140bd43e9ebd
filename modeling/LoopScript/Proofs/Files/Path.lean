import LoopScript.FileSystem
import LoopScript.Source

/-! Paths into a directory. The name of an entry, joined to a path that leads to the directory,
leads to that entry. -/
namespace LoopScript

namespace FileTree

structure IsName (name : String) : Prop where
  ne_empty : name ≠ ""
  ne_dot : name ≠ "."
  ne_dots : name ≠ ".."
  slash_notMem : '/' ∉ name.toList
  nul_notMem : '\x00' ∉ name.toList
  size_le : name.utf8ByteSize ≤ maxName

instance (name : String) : Decidable (IsName name) :=
  decidable_of_iff (name ≠ "" ∧ name ≠ "." ∧ name ≠ ".." ∧ '/' ∉ name.toList ∧
      '\x00' ∉ name.toList ∧ name.utf8ByteSize ≤ maxName)
    ⟨fun ⟨h₁, h₂, h₃, h₄, h₅, h₆⟩ => ⟨h₁, h₂, h₃, h₄, h₅, h₆⟩,
      fun ⟨h₁, h₂, h₃, h₄, h₅, h₆⟩ => ⟨h₁, h₂, h₃, h₄, h₅, h₆⟩⟩

structure AreEntries (entries : List (String × FileTree)) : Prop where
  nodup : (entries.map (·.1)).Nodup
  isName : ∀ entry ∈ entries, IsName entry.1

variable {parents : List FileTree} {here tree child : FileTree} {entries : List (String × FileTree)}
  {names : List String} {name : String}

theorem AreEntries.lookup_eq_some (h : AreEntries entries) (hmem : (name, child) ∈ entries) :
    entries.lookup name = some child := by
  obtain ⟨front, rest, rfl⟩ := List.append_of_mem hmem
  refine List.lookup_eq_some_iff.mpr ⟨front, rest, rfl, fun entry hentry => ?_⟩
  have hdisjoint := h.nodup
  rw [List.map_append, List.nodup_append] at hdisjoint
  have hne : entry.1 ≠ name :=
    hdisjoint.2.2 entry.1 (List.mem_map_of_mem hentry) name (by simp)
  simpa using hne.symm

/-! ### Following components -/

/-- Two dots lead to the nearest parent, and from the root to the root. -/
theorem walk_cons (parents : List FileTree) (entries : List (String × FileTree)) (name : String)
    (names : List String) : walk parents (.directory entries) (name :: names) =
      if name = "" ∨ name = "." then walk parents (.directory entries) names
      else if name = ".." then walk parents.tail (parents.headD (.directory entries)) names
      else if maxName < name.utf8ByteSize then .error .nameTooLong
      else
        match entries.lookup name with
        | none => .error .notFound
        | some child => walk (.directory entries :: parents) child names := by
  cases parents <;> rfl

/-- A path that was followed can be followed further, from some place in the tree. -/
theorem exists_walk_append (h : walk parents here names = .ok tree) :
    ∃ parents', ∀ more, walk parents here (names ++ more) = walk parents' tree more := by
  fun_induction walk parents here names with
  | case1 parents here =>
    obtain rfl : here = tree := Except.ok.inj h
    exact ⟨parents, fun _ => rfl⟩
  | case2 => cases h
  | case3 parents entries name names hstay ih =>
    obtain ⟨parents', hmore⟩ := ih h
    exact ⟨parents', fun more => by rw [List.cons_append, walk_cons, if_pos hstay, hmore]⟩
  | case4 entries names hmove ih =>
    obtain ⟨parents', hmore⟩ := ih h
    refine ⟨parents', fun more => ?_⟩
    rw [List.cons_append, walk_cons, if_neg hmove, if_pos rfl]
    exact hmore more
  | case5 entries names parent parents hmove ih =>
    obtain ⟨parents', hmore⟩ := ih h
    refine ⟨parents', fun more => ?_⟩
    rw [List.cons_append, walk_cons, if_neg hmove, if_pos rfl]
    exact hmore more
  | case6 => cases h
  | case7 => cases h
  | case8 parents entries name names hmove hdown hsize child hchild ih =>
    obtain ⟨parents', hmore⟩ := ih h
    refine ⟨parents', fun more => ?_⟩
    rw [List.cons_append, walk_cons, if_neg hmove, if_neg hdown, if_neg hsize, hchild]
    exact hmore more

theorem walk_append_empty (parents : List FileTree) (here : FileTree) (names : List String)
    (name : String) (more : List String) : walk parents here (names ++ "" :: name :: more) =
      walk parents here (names ++ name :: more) := by
  fun_induction walk parents here names with
  | case1 parents here =>
    cases here with
    | file => rfl
    | directory entries => rw [List.nil_append, walk_cons, if_pos (.inl rfl), List.nil_append]
  | case2 => rfl
  | case3 parents entries name' names hstay ih =>
    simp only [List.cons_append, walk, if_pos hstay, ih]
  | case4 entries names hmove ih => simp only [List.cons_append, walk, if_neg hmove, if_pos, ih]
  | case5 entries names parent parents hmove ih =>
    simp only [List.cons_append, walk, if_neg hmove, if_pos, ih]
  | case6 parents entries name' names hmove hdown hsize =>
    simp only [List.cons_append, walk, if_neg hmove, if_neg hdown, if_pos hsize]
  | case7 parents entries name' names hmove hdown hsize hnone =>
    simp only [List.cons_append, walk, if_neg hmove, if_neg hdown, if_neg hsize, hnone]
  | case8 parents entries name' names hmove hdown hsize child hchild ih =>
    simp only [List.cons_append, walk, if_neg hmove, if_neg hdown, if_neg hsize, hchild, ih]

theorem walk_entry (parents : List FileTree) (h : IsName name)
    (hlookup : entries.lookup name = some child) :
    walk parents (.directory entries) [name] = .ok child := by
  have hsize : ¬maxName < name.utf8ByteSize := Nat.not_lt.mpr h.size_le
  have hmove : ¬(name = "" ∨ name = ".") := not_or.mpr ⟨h.ne_empty, h.ne_dot⟩
  rw [walk_cons, if_neg hmove, if_neg h.ne_dots, if_neg hsize, hlookup]
  rfl

theorem walk_append_entry (hname : IsName name) (hlookup : entries.lookup name = some child)
    (h : walk parents here names = .ok (.directory entries)) :
    walk parents here (names ++ [name]) = .ok child := by
  obtain ⟨parents', hmore⟩ := exists_walk_append h
  rw [hmore, walk_entry parents' hname hlookup]

/-! ### Joined paths -/

theorem components_append_slash (path : String) (hname : IsName name) :
    components (path ++ "/" ++ name) = components path ++ [name] := by
  have hchars : (path ++ "/" ++ name).toList = path.toList ++ '/' :: name.toList := by simp
  rw [components, hchars, List.splitOn_append_cons_self,
    List.splitOn_eq_singleton hname.slash_notMem, List.map_append, components]
  simp

theorem components_append_of_slash {path : String} (hpath : path.toList.getLast? = some '/')
    (hname : IsName name) : ∃ names, components path = names ++ [""] ∧
      components (path ++ name) = names ++ [name] := by
  obtain ⟨front, hfront⟩ := List.getLast?_eq_some_iff.mp hpath
  refine ⟨(front.splitOn '/').map String.ofList, ?_, ?_⟩
  · rw [components, hfront, List.splitOn_append_cons_self, List.map_append]
    rfl
  · have hchars : (path ++ name).toList = front ++ '/' :: name.toList := by simp [hfront]
    rw [components, hchars, List.splitOn_append_cons_self,
      List.splitOn_eq_singleton hname.slash_notMem, List.map_append]
    simp

end FileTree

open FileTree Source

variable {fs : FileSystem} {path name : String} {entries : List (String × FileTree)}
  {child : FileTree}

theorem FileSystem.find_eq_ok_iff {tree : FileTree} : fs.find path = .ok tree ↔
    '\x00' ∉ path.toList ∧ path ≠ "" ∧ path.utf8ByteSize ≤ maxPath ∧
      walk [] fs.root (fs.start path ++ components path) = .ok tree := by
  unfold find
  by_cases hnul : '\x00' ∈ path.toList
  · simp [hnul]
  by_cases hempty : path = ""
  · simp [hempty]
  by_cases hsize : path.utf8ByteSize ≤ maxPath
  · simp [hnul, hempty, hsize, Nat.not_lt.mpr hsize]
  · simp [hnul, hempty, hsize, Nat.not_le.mp hsize]

theorem Source.nul_notMem_join (hpath : '\x00' ∉ path.toList) (hname : '\x00' ∉ name.toList) :
    '\x00' ∉ (join path name).toList := by
  unfold join
  split <;> simp [hpath, hname]

theorem Source.join_ne_empty (hpath : path ≠ "") : join path name ≠ "" := by
  unfold join
  split <;> simp [hpath]

theorem FileSystem.start_join (fs : FileSystem) (hpath : path ≠ "") (name : String) :
    fs.start (join path name) = fs.start path := by
  have hchars : path.toList ≠ [] := by simpa using hpath
  obtain ⟨c, rest, hpath⟩ := List.exists_cons_of_ne_nil hchars
  have hhead : (join path name).toList.head? = path.toList.head? := by
    unfold join
    split <;> simp [hpath]
  rw [start, start, hhead]

/-- The name of an entry, joined to a path to the directory, leads to the entry. -/
theorem FileSystem.find_join (hentries : AreEntries entries)
    (hpath : fs.find path = .ok (.directory entries)) (hmem : (name, child) ∈ entries)
    (hsize : (join path name).utf8ByteSize ≤ maxPath) : fs.find (join path name) = .ok child := by
  have hname : IsName name := hentries.isName (name, child) hmem
  have hlookup := hentries.lookup_eq_some hmem
  obtain ⟨hnul, hempty, -, hwalk⟩ := find_eq_ok_iff.mp hpath
  refine find_eq_ok_iff.mpr
    ⟨nul_notMem_join hnul hname.nul_notMem, join_ne_empty hempty, hsize, ?_⟩
  rw [start_join fs hempty]
  unfold join
  split
  next hslash =>
    obtain ⟨names, hcomponents, hjoined⟩ := components_append_of_slash hslash hname
    have hentry := walk_append_entry hname hlookup hwalk
    rw [hcomponents, ← List.append_assoc, List.append_assoc _ [""], List.singleton_append,
      walk_append_empty] at hentry
    rw [hjoined, ← List.append_assoc]
    exact hentry
  next hslash =>
    rw [components_append_slash path hname, ← List.append_assoc]
    exact walk_append_entry hname hlookup hwalk

end LoopScript
