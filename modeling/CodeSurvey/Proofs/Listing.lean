import CodeSurvey.FileTree.Listing
import CodeSurvey.Proofs.Paths
import Mathlib.Data.List.Nodup

/-! A listing has every file below its root once, but for those in hidden directories. -/
namespace CodeSurvey.FileTree

variable {α : Type} {t : FileTree α} {size : α → Nat} {node : FileNode α}
  {entries : List (String × FileNode α)} {names : List String} {content : α} {r : Trail}
  {name path root : String} {place : Location}

theorem isHidden_iff : isHidden name = true ↔ name.toList.head? = some '.' := by
  rw [isHidden, String.startsWith_string_iff]
  constructor
  · rintro ⟨rest, h⟩
    rw [← h]
    rfl
  · intro h
    obtain ⟨rest, h⟩ := List.head?_eq_some_iff.1 h
    exact ⟨rest, h.symm⟩

/-! ### Visible files -/

/-- The names lead from a node to a file, through no directory whose name starts with a dot. The
file itself may have such a name, and so may the node. -/
structure Visible (node : FileNode α) (names : List String) (content : α) : Prop where
  file : node.lookup names = some (.file content)
  shown : ∀ dir ∈ names.dropLast, dir.toList.head? ≠ some '.'

theorem Visible.ne_nil (h : Visible (.dir entries) names content) : names ≠ [] := by
  rintro rfl
  cases h.file

theorem visible_file_iff {found : α} :
    Visible (.file content) names found ↔ names = [] ∧ found = content := by
  constructor
  · rintro ⟨hfile, -⟩
    cases names with
    | nil =>
      cases hfile
      exact ⟨rfl, rfl⟩
    | cons name rest => cases hfile
  · rintro ⟨rfl, rfl⟩
    exact ⟨rfl, by simp⟩

/-- A file below a directory is below one of its entries, which may be the file. -/
theorem visible_dir_iff :
    Visible (.dir entries) names content ↔ ∃ name rest node, names = name :: rest ∧
      entries.lookup name = some node ∧ (rest = [] ∨ name.toList.head? ≠ some '.') ∧
      Visible node rest content := by
  constructor
  · rintro ⟨hfile, hshown⟩
    cases names with
    | nil => cases hfile
    | cons name rest =>
      obtain ⟨node, hnode, hrest⟩ := Option.bind_eq_some_iff.1 hfile
      refine ⟨name, rest, node, rfl, hnode, ?_⟩
      cases rest with
      | nil => exact ⟨.inl rfl, hrest, by simp⟩
      | cons next rest =>
        obtain ⟨hname, hshown⟩ := List.forall_mem_cons.1 hshown
        exact ⟨.inr hname, hrest, hshown⟩
  · rintro ⟨name, rest, node, rfl, hnode, hname, hfile, hshown⟩
    refine ⟨Option.bind_eq_some_iff.2 ⟨node, hnode, hfile⟩, ?_⟩
    cases rest with
    | nil => simp
    | cons next rest =>
      exact List.forall_mem_cons.2 ⟨hname.resolve_left (List.cons_ne_nil _ _), hshown⟩

mutual

/-- The visible files below an entry of a directory, in the order of a listing. -/
def visibleAt (name : String) : FileNode α → List (Location × α)
  | .file content => [([name], content)]
  | .dir entries =>
    if isHidden name then [] else (visibleIn entries).map fun f => (name :: f.1, f.2)
  | .link _ => []

def visibleIn : List (String × FileNode α) → List (Location × α)
  | [] => []
  | (name, node) :: rest => visibleAt name node ++ visibleIn rest

end

theorem visibleIn_eq (entries : List (String × FileNode α)) :
    visibleIn entries = entries.flatMap fun e => visibleAt e.1 e.2 := by
  induction entries with
  | nil => rfl
  | cons e entries ih => rw [visibleIn, ih, List.flatMap_cons]

theorem lookup_iff_mem (hdistinct : (entries.map Prod.fst).Nodup) :
    entries.lookup name = some node ↔ (name, node) ∈ entries := by
  constructor
  · exact mem_of_lookup
  · intro h
    obtain ⟨before, after, rfl⟩ := List.append_of_mem h
    refine List.lookup_eq_some_iff.2 ⟨before, after, rfl, ?_⟩
    intro e he
    rw [List.map_append, List.nodup_append] at hdistinct
    have hne : e.1 ≠ name := hdistinct.2.2 _ (List.mem_map_of_mem he) name (by simp)
    simpa using hne.symm

/-- Since an entry is found by its name, the visible files below a directory are those below its
entries. -/
theorem mem_visibleIn_iff (hdistinct : (entries.map Prod.fst).Nodup)
    (hentries : ∀ e ∈ entries, ∀ names, (names, content) ∈ visibleAt e.1 e.2 ↔ ∃ rest,
      names = e.1 :: rest ∧ (rest = [] ∨ e.1.toList.head? ≠ some '.') ∧
        Visible e.2 rest content) :
    (names, content) ∈ visibleIn entries ↔ Visible (.dir entries) names content := by
  rw [visibleIn_eq, List.mem_flatMap, visible_dir_iff]
  constructor
  · rintro ⟨⟨name, node⟩, he, hmem⟩
    obtain ⟨rest, rfl, hname, hrest⟩ := (hentries _ he names).1 hmem
    exact ⟨name, rest, node, rfl, (lookup_iff_mem hdistinct).2 he, hname, hrest⟩
  · rintro ⟨name, rest, node, rfl, hnode, hname, hrest⟩
    have he := (lookup_iff_mem hdistinct).1 hnode
    exact ⟨(name, node), he, (hentries _ he _).2 ⟨rest, rfl, hname, hrest⟩⟩

theorem Readable.mem_visibleAt_iff (h : t.Readable path node) (name : String)
    (names : List String) :
    (names, content) ∈ visibleAt name node ↔ ∃ rest, names = name :: rest ∧
      (rest = [] ∨ name.toList.head? ≠ some '.') ∧ Visible node rest content := by
  induction h generalizing name names with
  | @file path found hpath =>
    simp [visibleAt, visible_file_iff]
  | @dir path entries hpath hdistinct hnames hentries ih =>
    have hin : ∀ rest, (rest, content) ∈ visibleIn entries ↔ Visible (.dir entries) rest content :=
      fun rest => mem_visibleIn_iff hdistinct fun e he names => ih e he e.1 names
    rw [visibleAt]
    by_cases hhidden : isHidden name = true
    · rw [if_pos hhidden]
      simp only [List.not_mem_nil, false_iff]
      rintro ⟨rest, -, hname, hvisible⟩
      rcases hname with rfl | hname
      · cases hvisible.file
      · exact hname (isHidden_iff.1 hhidden)
    · rw [if_neg hhidden]
      rw [isHidden_iff] at hhidden
      constructor
      · intro hmem
        obtain ⟨⟨rest, found⟩, hrest, heq⟩ := List.mem_map.1 hmem
        cases heq
        exact ⟨rest, rfl, .inr hhidden, (hin rest).1 hrest⟩
      · rintro ⟨rest, rfl, -, hvisible⟩
        exact List.mem_map_of_mem ((hin rest).2 hvisible)

theorem head?_of_mem_visibleAt {f : Location × α} (h : f ∈ visibleAt name node) :
    f.1.head? = some name := by
  cases node with
  | file content =>
    obtain rfl := List.mem_singleton.1 h
    rfl
  | dir entries =>
    rw [visibleAt] at h
    split at h
    · cases h
    · obtain ⟨below, -, rfl⟩ := List.mem_map.1 h
      rfl
  | link target => cases h

theorem nodup_visibleIn (hdistinct : (entries.map Prod.fst).Nodup)
    (hentries : ∀ e ∈ entries, (visibleAt e.1 e.2).Nodup) : (visibleIn entries).Nodup := by
  rw [visibleIn_eq, List.nodup_flatMap]
  refine ⟨hentries, (List.pairwise_map.1 hdistinct).imp ?_⟩
  intro d e hne f hd he
  have hsame := (head?_of_mem_visibleAt hd).symm.trans (head?_of_mem_visibleAt he)
  exact hne (Option.some.inj hsame)

theorem Readable.nodup_visibleAt (h : t.Readable path node) (name : String) :
    (visibleAt name node).Nodup := by
  induction h generalizing name with
  | file hpath => exact List.nodup_singleton _
  | dir hpath hdistinct hnames hentries ih =>
    rw [visibleAt]
    split
    · exact List.nodup_nil
    · refine (nodup_visibleIn hdistinct fun e he => ih e he e.1).map ?_
      rintro ⟨names, content⟩ ⟨others, other⟩ heq
      cases heq
      rfl

/-- The visible files below a directory are each there once. -/
theorem Readable.visibleIn_exact (h : t.Readable path (.dir entries)) :
    (visibleIn entries).Nodup ∧ ∀ names content,
      (names, content) ∈ visibleIn entries ↔ Visible (.dir entries) names content := by
  cases h with
  | dir hpath hdistinct hnames hentries =>
    refine ⟨nodup_visibleIn hdistinct fun e he => (hentries e he).nodup_visibleAt e.1, ?_⟩
    intro names content
    exact mem_visibleIn_iff hdistinct fun e he names => (hentries e he).mem_visibleAt_iff e.1 names

/-! ### Listing -/

theorem listEntries_eq (onLink : Trail → String → List Entry) (r : Trail)
    (entries : List (String × FileNode α)) :
    listEntries size onLink r entries = entries.flatMap fun e => listNode size onLink r e.1 e.2 := by
  induction entries with
  | nil => rfl
  | cons e entries ih => rw [listEntries, ih, List.flatMap_cons]

/-- The entry of a file that the names lead to from the directory of a trail. -/
def Trail.entryAt (r : Trail) (names : List String) (size : Nat) : Entry :=
  { path := "/".intercalate (r.names ++ names), id := Path.below r.here.path names, size }

theorem Trail.entryAt_enter (r : Trail) (name : String) (place : Location) (names : List String)
    (size : Nat) : (r.enter name place).entryAt names size = r.entryAt (name :: names) size := by
  simp [Trail.entryAt, Trail.enter, Trail.pathOf, Path.below]

theorem listEntries_eq_visibleIn {onLink : Trail → String → List Entry}
    (hentries : ∀ e ∈ entries, listNode size onLink r e.1 e.2 =
      (visibleAt e.1 e.2).map fun f => r.entryAt f.1 (size f.2)) :
    listEntries size onLink r entries =
      (visibleIn entries).map fun f => r.entryAt f.1 (size f.2) := by
  rw [listEntries_eq, visibleIn_eq, List.map_flatMap]
  exact List.flatMap_congr hentries

/-- What is listed below an entry are its visible files. -/
theorem Readable.listNode_eq (h : t.Readable (r.pathOf name) node)
    (onLink : Trail → String → List Entry) :
    listNode size onLink r name node =
      (visibleAt name node).map fun f => r.entryAt f.1 (size f.2) := by
  have hshort := h.usable.2.2
  generalize hpath : r.pathOf name = path at h
  induction h generalizing r name with
  | file hfound =>
    rw [listNode, hshort]
    rfl
  | @dir path entries hfound hdistinct hnames hentries ih =>
    rw [listNode, visibleAt, hshort]
    by_cases hhidden : isHidden name = true
    · rw [if_pos hhidden, if_pos hhidden]
      rfl
    · rw [if_neg hhidden, if_neg hhidden, if_neg (by simp), listEntries_eq_visibleIn,
        List.map_map]
      · simp only [Trail.entryAt_enter]
        rfl
      · intro e he
        have hbelow : (r.enter name (r.here.place ++ [name])).pathOf e.1 = Path.join path e.1 := by
          rw [← hpath]
          rfl
        exact ih e he (hbelow ▸ (hentries e he).usable.2.2) hbelow

theorem Readable.listDir_eq (h : t.Readable r.here.path (.dir entries))
    (onLink : Trail → String → List Entry) :
    listDir size onLink r (.dir entries) =
      (visibleIn entries).map fun f => r.entryAt f.1 (size f.2) := by
  cases h with
  | dir hpath hdistinct hnames hentries =>
    exact listEntries_eq_visibleIn fun e he => (hentries e he).listNode_eq onLink

/-- Without links it makes no difference whether links are followed. -/
theorem Readable.listBelow_eq (h : t.Readable r.here.path (.dir entries)) (followLinks : Bool) :
    t.listBelow size followLinks r (.dir entries) =
      (visibleIn entries).map fun f => r.entryAt f.1 (size f.2) := by
  cases followLinks with
  | false => exact h.listDir_eq _
  | true => exact h.listDir_eq _

/-- The entry of the file that the names lead to from a root. Its id is the full path. -/
def fileEntry (root : String) (names : List String) (size : Nat) : Entry :=
  { path := "/".intercalate names
    id := root ++ Path.divider root ++ "/".intercalate names
    size }

section

variable (h : t.Readable root (.dir entries)) (hf : Visible (.dir entries) names content)
include h hf

theorem Readable.below_eq :
    Path.below root names = root ++ Path.divider root ++ "/".intercalate names :=
  Path.below_eq h.usable.1 hf.ne_nil (h.lookup hf.file).1

theorem Readable.read_below (hroot : t.find root = .ok (place, .dir entries)) :
    t.read (Path.below root names) = .ok content := by
  rw [read, h.find_below hroot hf.file]
  rfl

/-- The way to a file can be told from its path. -/
theorem Readable.eq_of_intercalate_eq {others : List String} {other : α}
    (hg : Visible (.dir entries) others other)
    (heq : "/".intercalate names = "/".intercalate others) : (names, content) = (others, other) := by
  have hsame : names = others := by
    rw [← Path.namedSteps_intercalate hf.ne_nil (h.lookup hf.file).1, heq,
      Path.namedSteps_intercalate hg.ne_nil (h.lookup hg.file).1]
  subst hsame
  cases hf.file.symm.trans hg.file
  rfl

end

/-- The files that are listed below a root, each with the names that lead to it. -/
structure Lists (t : FileTree α) (size : α → Nat) (root : String) (followLinks : Bool)
    (node : FileNode α) (files : List (Location × α)) : Prop where
  listing : t.listing size root followLinks =
    .ok (files.map fun f => fileEntry root f.1 (size f.2))
  mem_iff : ∀ names content, (names, content) ∈ files ↔ Visible node names content
  /-- The path of a file is what is left of its id once the root is stripped from it. -/
  stripped : ∀ f ∈ files, ∃ rest,
    Path.components (fileEntry root f.1 (size f.2)).id = Path.components root ++ rest ∧
      (fileEntry root f.1 (size f.2)).path = "/".intercalate rest
  nodup : (files.map Prod.fst).Nodup
  paths : (files.map fun f => (fileEntry root f.1 (size f.2)).path).Nodup
  read : ∀ f ∈ files, t.read (fileEntry root f.1 (size f.2)).id = .ok f.2

/-- Where everything below a root directory is readable, its visible files are listed, each once and
under a path of its own, and each can be read by its id. -/
theorem files_listed (hroot : t.find root = .ok (place, .dir entries))
    (h : t.Readable root (.dir entries)) (size : α → Nat) (followLinks : Bool) :
    ∃ files, t.Lists size root followLinks (.dir entries) files := by
  obtain ⟨hnodup, hmem⟩ := h.visibleIn_exact
  have hvisible : ∀ f ∈ visibleIn entries, Visible (.dir entries) f.1 f.2 :=
    fun f hf => (hmem f.1 f.2).1 hf
  have hpaths : ((visibleIn entries).map fun f => "/".intercalate f.1).Nodup :=
    hnodup.map_on fun f hf g hg heq =>
      h.eq_of_intercalate_eq (hvisible f hf) (hvisible g hg) heq
  exact ⟨visibleIn entries, {
    listing := by
      rw [FileTree.listing, hroot]
      refine congrArg Except.ok ((h.listBelow_eq followLinks).trans ?_)
      refine List.map_congr_left fun f hf => ?_
      rw [Trail.entryAt, h.below_eq (hvisible f hf)]
      rfl
    mem_iff := hmem
    stripped := by
      intro f hf
      have hf := hvisible f hf
      exact ⟨f.1, Path.components_below root hf.ne_nil (h.lookup hf.file).1, rfl⟩
    nodup := by
      rw [← Function.comp_def, ← List.map_map] at hpaths
      exact hpaths.of_map
    paths := hpaths
    read := by
      intro f hf
      rw [fileEntry, ← h.below_eq (hvisible f hf)]
      exact h.read_below (hvisible f hf) hroot }⟩

/-- A hidden root with a hidden file, a hidden directory and one that is not hidden. -/
def siteEntries : List (String × FileNode String) :=
  [(".env", .file "KEY=1"), (".git", .dir [("HEAD", .file "ref")]),
    ("src", .dir [(".hidden.rs", .file ""), ("main.rs", .file "mod a;")])]

def siteTree : FileTree String := { root := .dir [("home", .dir [(".site", .dir siteEntries)])] }

theorem readable_siteTree : siteTree.Readable "home/.site" (.dir siteEntries) := by
  refine .dir (by decide +kernel) (by decide) (by decide) ?_
  refine List.forall_mem_cons.2 ⟨.file (by decide +kernel), List.forall_mem_cons.2 ⟨?_,
    List.forall_mem_singleton.2 ?_⟩⟩
  · exact .dir (by decide +kernel) (by decide) (by decide)
      (List.forall_mem_singleton.2 (.file (by decide +kernel)))
  · exact .dir (by decide +kernel) (by decide) (by decide) (List.forall_mem_cons.2
      ⟨.file (by decide +kernel), List.forall_mem_singleton.2 (.file (by decide +kernel))⟩)

theorem find_siteTree :
    siteTree.find "home/.site" = .ok (["home", ".site"], .dir siteEntries) := by
  have hsteps : steps "home/.site" = ["home", ".site"] := by decide +kernel
  have hstart : startOf siteTree.workingDir "home/.site" = [] := by decide +kernel
  refine find_eq_ok_iff.2 ⟨by decide, by decide, by decide +kernel, ?_⟩
  rw [hsteps, hstart]
  rfl

theorem files_listed_sample :
    siteTree.find "home/.site" = .ok (["home", ".site"], .dir siteEntries) ∧
      siteTree.Readable "home/.site" (.dir siteEntries) ∧
      ∃ files, siteTree.Lists String.utf8ByteSize "home/.site" false (.dir siteEntries) files ∧
        ([".env"], "KEY=1") ∈ files ∧ (["src", ".hidden.rs"], "") ∈ files ∧
        ([".git", "HEAD"], "ref") ∉ files := by
  obtain ⟨files, hlists⟩ :=
    files_listed find_siteTree readable_siteTree String.utf8ByteSize false
  refine ⟨find_siteTree, readable_siteTree, files, hlists, ?_, ?_, ?_⟩
  · exact (hlists.mem_iff _ _).2 ⟨rfl, by decide⟩
  · exact (hlists.mem_iff _ _).2 ⟨rfl, by decide⟩
  · intro h
    exact absurd ((hlists.mem_iff _ _).1 h).shown (by decide)

end CodeSurvey.FileTree
