import CodeSurvey.FileTree
import Mathlib.Data.List.Basic

/-! The path of a file below a directory leads to this file. -/
namespace CodeSurvey

namespace Path

variable {dir name path root : String} {names : List String}

/-- A name that an entry of a directory may have. -/
@[mk_iff]
structure IsName (name : String) : Prop where
  ne_empty : name ≠ ""
  ne_dot : name ≠ "."
  ne_dots : name ≠ ".."
  no_slash : '/' ∉ name.toList
  short : name.utf8ByteSize ≤ 255

instance : DecidablePred IsName := fun name => decidable_of_iff _ (isName_iff name).symm

/-- The path of what lies below a directory. -/
def below (root : String) (names : List String) : String := names.foldl join root

/-- What stands between the path of a directory and the names below it. -/
def divider (root : String) : String := if root.endsWith "/" then "" else "/"

theorem endsWith_slash_iff : path.endsWith "/" = true ↔ path.toList.getLast? = some '/' := by
  rw [← String.endsWith_toSlice, String.Slice.endsWith_string_iff, String.copy_toSlice]
  constructor
  · rintro ⟨before, h⟩
    rw [← h]
    exact List.getLast?_concat
  · intro h
    obtain ⟨before, h⟩ := List.getLast?_eq_some_iff.1 h
    exact ⟨before, h.symm⟩

namespace IsName

theorem not_startsWith (h : IsName name) : name.startsWith "/" = false := by
  rw [String.startsWith_string_eq_false_iff]
  rintro ⟨rest, hrest⟩
  apply h.no_slash
  rw [← hrest]
  exact List.mem_cons_self

theorem toList_ne_nil (h : IsName name) : name.toList ≠ [] := by
  intro hnil
  exact h.ne_empty (String.toList_eq_nil_iff.1 hnil)

/-- A path that ends in a name asks for no directory. -/
theorem not_endsWith (h : IsName name) (dir : String) : (dir ++ name).endsWith "/" = false := by
  rw [Bool.eq_false_iff, Ne, endsWith_slash_iff, String.toList_append,
    List.getLast?_append_of_ne_nil _ h.toList_ne_nil]
  intro hlast
  exact h.no_slash (List.mem_of_getLast? hlast)

theorem join_eq (h : IsName name) (hdir : dir ≠ "") :
    join dir name = dir ++ divider dir ++ name := by
  have hempty : dir.isEmpty = false := by
    rw [Bool.eq_false_iff, Ne, String.isEmpty_iff]
    exact hdir
  rw [join, h.not_startsWith, hempty, divider]
  by_cases hslash : dir.endsWith "/" = true
  · simp [hslash]
  · simp [hslash]

theorem not_endsWith_join (h : IsName name) (dir : String) :
    (join dir name).endsWith "/" = false := by
  rw [join]
  split
  · rw [← String.empty_append (s := name)]
    exact h.not_endsWith ""
  · split
    · exact h.not_endsWith dir
    · exact h.not_endsWith (dir ++ "/")

end IsName

/-- The names below a directory are divided by slashes. -/
theorem below_eq (hroot : root ≠ "") (hne : names ≠ []) (hnames : ∀ n ∈ names, IsName n) :
    below root names = root ++ divider root ++ "/".intercalate names := by
  induction names generalizing root with
  | nil => exact absurd rfl hne
  | cons name names ih =>
    have hname := hnames name List.mem_cons_self
    rw [below, List.foldl_cons, hname.join_eq hroot]
    cases names with
    | nil => simp
    | cons next names =>
      have hdir : root ++ divider root ++ name ≠ "" := by
        intro h
        have := congrArg String.toList h
        simp [hname.ne_empty] at this
      have hdivider : divider (root ++ divider root ++ name) = "/" := by
        rw [divider, hname.not_endsWith]
        rfl
      have hrest := ih hdir (List.cons_ne_nil next names) fun n hn =>
        hnames n (List.mem_cons_of_mem name hn)
      rw [below] at hrest
      rw [hrest, hdivider, String.intercalate_cons_cons]
      simp only [String.append_assoc]

/-! ### Steps -/

/-- The steps of a path that have a name. -/
def namedSteps (cs : List Char) : List String :=
  ((cs.splitOn '/').map String.ofList).filter (· != "")

theorem namedSteps_append_slash (cs ds : List Char) :
    namedSteps (cs ++ '/' :: ds) = namedSteps cs ++ namedSteps ds := by
  simp only [namedSteps, List.splitOn_append_cons_self, List.map_append, List.filter_append]

theorem namedSteps_intercalate (hne : names ≠ []) (hnames : ∀ n ∈ names, IsName n) :
    namedSteps ("/".intercalate names).toList = names := by
  have hslash : ∀ l ∈ names.map String.toList, '/' ∉ l := by
    intro l hl
    obtain ⟨n, hn, rfl⟩ := List.mem_map.1 hl
    exact (hnames n hn).no_slash
  have hsplit : (("/".intercalate names).toList).splitOn '/' = names.map String.toList := by
    rw [String.toList_intercalate]
    exact List.splitOn_intercalate '/' hslash (by simpa using hne)
  have hself : (names.map String.toList).map String.ofList = names := by
    rw [List.map_map]
    exact List.map_id'' (fun n => String.ofList_toList) names
  rw [namedSteps, hsplit, hself, List.filter_eq_self]
  intro n hn
  exact bne_iff_ne.2 (hnames n hn).ne_empty

/-- The steps below a directory come after those that lead to it. -/
theorem namedSteps_below (root : String) (hne : names ≠ []) (hnames : ∀ n ∈ names, IsName n) :
    namedSteps (root ++ divider root ++ "/".intercalate names).toList =
      namedSteps root.toList ++ names := by
  have hbelow := namedSteps_intercalate hne hnames
  rw [String.toList_append, String.toList_append, divider]
  generalize ("/".intercalate names).toList = rest at hbelow ⊢
  by_cases hslash : root.endsWith "/" = true
  · obtain ⟨before, hbefore⟩ := List.getLast?_eq_some_iff.1 (endsWith_slash_iff.1 hslash)
    have hroot : namedSteps root.toList = namedSteps before := by
      rw [hbefore, namedSteps_append_slash]
      exact List.append_nil _
    rw [if_pos hslash, hroot, hbefore]
    simp [namedSteps_append_slash, hbelow]
  · rw [if_neg hslash]
    simp [namedSteps_append_slash, hbelow]

theorem components_eq (path : String) :
    components path = (namedSteps path.toList).filter (· != ".") := by
  rw [components, namedSteps, List.filter_filter]
  simp only [Bool.and_comm]

/-- Without those of the directory, the components of a path are the names below it. -/
theorem components_below (root : String) (hne : names ≠ []) (hnames : ∀ n ∈ names, IsName n) :
    components (root ++ divider root ++ "/".intercalate names) = components root ++ names := by
  have hnamed : names.filter (· != ".") = names := by
    rw [List.filter_eq_self]
    intro n hn
    exact bne_iff_ne.2 (hnames n hn).ne_dot
  rw [components_eq, components_eq, namedSteps_below root hne hnames, List.filter_append, hnamed]

end Path

namespace FileTree

variable {α : Type} {t : FileTree α} {place start : Location} {node origin target : FileNode α}
  {path root : String} {tail names : List String} {spot : Spot α}

theorem steps_eq (path : String) :
    steps path = Path.namedSteps path.toList ++ if path.endsWith "/" then [""] else [] := by
  simp only [steps]
  split
  · rfl
  · exact (List.append_nil _).symm

/-- Steps that are put behind others are taken from where these lead. The others may end with a step
that has no name and only asks for a directory. -/
theorem walk_extend {jump : Location → List String → Except FileFault (Spot α)}
    (htail : tail = [] ∨ tail = [""])
    (hnames : ∀ jump, t.walk jump .follow place node names = .ok spot)
    (hjump : ∀ start steps, jump start (steps ++ tail) = .ok (.found place node) →
      jump start (steps ++ names) = .ok spot) (steps : List String)
    (h : t.walk jump .follow start origin (steps ++ tail) = .ok (.found place node)) :
    t.walk jump .follow start origin (steps ++ names) = .ok spot := by
  induction steps generalizing start origin with
  | nil =>
    rcases htail with rfl | rfl
    · rw [List.append_nil, walk] at h
      cases h
      exact hnames jump
    · cases origin with
      | dir entries =>
        cases h
        exact hnames jump
      | file content => cases h
      | link target => cases h
  | cons step steps ih =>
    cases origin with
    | dir entries =>
      rw [List.cons_append, walk] at h ⊢
      by_cases hstay : (step = "" || step = ".") = true
      · rw [if_pos hstay] at h ⊢
        exact ih h
      rw [if_neg hstay] at h ⊢
      by_cases hup : step = ".."
      · rw [if_pos hup] at h ⊢
        cases hl : t.root.lookup start.dropLast with
        | none =>
          simp only [hl] at h
          cases h
        | some above =>
          simp only [hl] at h ⊢
          exact ih h
      rw [if_neg hup, if_neg (by simp)] at h ⊢
      by_cases hlong : 255 < step.utf8ByteSize
      · rw [if_pos hlong] at h
        cases h
      rw [if_neg hlong] at h ⊢
      cases hl : entries.lookup step with
      | none =>
        simp only [hl] at h
        split at h <;> cases h
      | some child =>
        simp only [hl] at h ⊢
        cases child with
        | link target =>
          simp only at h ⊢
          rw [if_neg (by simp), ← List.append_assoc] at h ⊢
          exact hjump _ _ h
        | file content => exact ih h
        | dir entries => exact ih h
    | file content => cases h
    | link target => cases h

theorem walkFrom_extend {jump : Location → List String → Except FileFault (Spot α)}
    (htail : tail = [] ∨ tail = [""])
    (hnames : ∀ jump, t.walk jump .follow place node names = .ok spot)
    (hjump : ∀ start steps, jump start (steps ++ tail) = .ok (.found place node) →
      jump start (steps ++ names) = .ok spot) (start : Location) (steps : List String)
    (h : t.walkFrom jump .follow start (steps ++ tail) = .ok (.found place node)) :
    t.walkFrom jump .follow start (steps ++ names) = .ok spot := by
  rw [walkFrom] at h ⊢
  cases hl : t.root.lookup start with
  | none =>
    simp only [hl] at h
    cases h
  | some origin =>
    simp only [hl] at h ⊢
    exact walk_extend htail hnames hjump steps h

/-- So it is with links on the way, since what a link stands for only comes before the rest. -/
theorem travel_extend (htail : tail = [] ∨ tail = [""])
    (hnames : ∀ jump, t.walk jump .follow place node names = .ok spot) (links : Nat)
    (start : Location) (steps : List String)
    (h : t.travel .follow links start (steps ++ tail) = .ok (.found place node)) :
    t.travel .follow links start (steps ++ names) = .ok spot := by
  induction links generalizing start steps with
  | zero => exact walkFrom_extend htail hnames (fun _ _ hlink => by cases hlink) start steps h
  | succ links ih => exact walkFrom_extend htail hnames ih start steps h

/-- A path that leads somewhere is one that can be used. -/
theorem find_eq_ok_iff :
    t.find path = .ok (place, node) ↔
      path ≠ "" ∧ Char.ofNat 0 ∉ path.toList ∧ Path.isTooLong path = false ∧
        t.travel .follow maxLinks (startOf t.workingDir path) (steps path) =
          .ok (.found place node) := by
  have hfind : t.find path = .ok (place, node) ↔ t.locate .follow path = .ok (.found place node) := by
    rw [find]
    cases t.locate .follow path with
    | error fault => simp [bind, Except.bind]
    | ok spot => cases spot <;> simp [bind, Except.bind]
  rw [hfind, locate]
  by_cases hempty : path = ""
  · simp [hempty]
  by_cases hzero : Char.ofNat 0 ∈ path.toList
  · simp [hempty, hzero]
  by_cases hlong : Path.isTooLong path = true
  · simp [hempty, hzero, hlong]
  · simp [hempty, hzero, hlong]

/-! ### Below a directory -/

/-- Files and directories without links, all of which can be got at by their paths. The entries of a
directory have different names. -/
inductive Readable (t : FileTree α) : String → FileNode α → Prop where
  | file {path : String} {content : α} (hpath : t.exists? path = true) :
      Readable t path (.file content)
  | dir {path : String} {entries : List (String × FileNode α)} (hpath : t.exists? path = true)
      (hdistinct : (entries.map Prod.fst).Nodup) (hnames : ∀ e ∈ entries, Path.IsName e.1)
      (hentries : ∀ e ∈ entries, Readable t (Path.join path e.1) e.2) :
      Readable t path (.dir entries)

/-- The path of what can be read is one that can be used. -/
theorem Readable.usable (h : t.Readable path node) :
    path ≠ "" ∧ Char.ofNat 0 ∉ path.toList ∧ Path.isTooLong path = false := by
  have hexists : t.exists? path = true := by
    cases h with
    | file hpath => exact hpath
    | dir hpath _ _ _ => exact hpath
  rw [exists?] at hexists
  cases hfind : t.find path with
  | error fault => rw [hfind] at hexists; cases hexists
  | ok found =>
    obtain ⟨hne, hzero, hlong, -⟩ := find_eq_ok_iff.1 hfind
    exact ⟨hne, hzero, hlong⟩

theorem mem_of_lookup {entries : List (String × FileNode α)} {name : String}
    (h : entries.lookup name = some node) : (name, node) ∈ entries := by
  obtain ⟨before, after, rfl, -⟩ := List.lookup_eq_some_iff.1 h
  exact List.mem_append_right _ List.mem_cons_self

theorem Readable.lookup (h : t.Readable path node) (hl : node.lookup names = some target) :
    (∀ n ∈ names, Path.IsName n) ∧ t.Readable (Path.below path names) target := by
  induction names generalizing path node with
  | nil =>
    cases hl
    exact ⟨by simp, h⟩
  | cons name names ih =>
    cases h with
    | file hpath => cases hl
    | dir hpath hdistinct hnames hentries =>
      obtain ⟨child, hchild, hrest⟩ := Option.bind_eq_some_iff.1 hl
      have hmem := mem_of_lookup hchild
      obtain ⟨hbelow, htarget⟩ := ih (hentries _ hmem) hrest
      exact ⟨List.forall_mem_cons.2 ⟨hnames _ hmem, hbelow⟩, htarget⟩

/-- Names lead down from a directory. -/
theorem Readable.walk_eq (h : t.Readable path node) (hl : node.lookup names = some target)
    (jump : Location → List String → Except FileFault (Spot α)) (place : Location) :
    t.walk jump .follow place node names = .ok (.found (place ++ names) target) := by
  induction names generalizing path node place with
  | nil =>
    cases hl
    rw [walk, List.append_nil]
  | cons name names ih =>
    cases h with
    | file hpath => cases hl
    | dir hpath hdistinct hnames hentries =>
      obtain ⟨child, hchild, hrest⟩ := Option.bind_eq_some_iff.1 hl
      have hname : Path.IsName name := hnames _ (mem_of_lookup hchild)
      have hreadable := hentries _ (mem_of_lookup hchild)
      have hgo := ih hreadable hrest (place ++ [name])
      rw [List.append_assoc, List.singleton_append] at hgo
      rw [walk, if_neg (by simp [hname.ne_empty, hname.ne_dot]), if_neg hname.ne_dots,
        if_neg (by simp), if_neg (Nat.not_lt.2 hname.short)]
      simp only [hchild]
      cases hreadable with
      | file _ => exact hgo
      | dir _ _ _ _ => exact hgo

theorem startOf_append (place : Location) (h : root ≠ "") (rest : String) :
    startOf place (root ++ rest) = startOf place root := by
  have hne : root.toList ≠ [] := fun hnil => h (String.toList_eq_nil_iff.1 hnil)
  obtain ⟨c, cs, hroot⟩ := List.exists_cons_of_ne_nil hne
  have hstarts : (root ++ rest).startsWith "/" = root.startsWith "/" := by
    rw [Bool.eq_iff_iff, String.startsWith_string_iff, String.startsWith_string_iff,
      String.toList_append, hroot]
    simp [List.cons_prefix_cons]
  rw [startOf, startOf, hstarts]

/-- The steps of the path of something below a directory. -/
theorem steps_below (hroot : root ≠ "") (hne : names ≠ []) (hnames : ∀ n ∈ names, Path.IsName n) :
    steps (Path.below root names) = Path.namedSteps root.toList ++ names := by
  have hlast : (Path.below root names).endsWith "/" = false := by
    obtain ⟨dirs, name, rfl⟩ := (List.eq_nil_or_concat' names).resolve_left hne
    rw [Path.below, List.foldl_concat]
    exact (hnames name (by simp)).not_endsWith_join _
  rw [steps_eq, hlast, Path.below_eq hroot hne hnames, Path.namedSteps_below root hne hnames]
  simp

/-- What lies below a directory is found under its path. -/
theorem Readable.find_below (h : t.Readable root node) (hroot : t.find root = .ok (place, node))
    (hl : node.lookup names = some target) :
    t.find (Path.below root names) = .ok (place ++ names, target) := by
  obtain ⟨hnames, hbelow⟩ := h.lookup hl
  by_cases hne : names = []
  · subst hne
    cases hl
    rw [List.append_nil]
    exact hroot
  obtain ⟨hrootne, -, -, htravel⟩ := find_eq_ok_iff.1 hroot
  obtain ⟨hpath, hzero, hlong⟩ := hbelow.usable
  refine find_eq_ok_iff.2 ⟨hpath, hzero, hlong, ?_⟩
  rw [steps_below hrootne hne hnames]
  rw [steps_eq] at htravel
  have hstart : startOf t.workingDir (Path.below root names) = startOf t.workingDir root := by
    rw [Path.below_eq hrootne hne hnames, String.append_assoc, startOf_append _ hrootne]
  rw [hstart]
  refine travel_extend ?_ (fun jump => h.walk_eq hl jump place) _ _ _ htravel
  split
  · exact .inr rfl
  · exact .inl rfl

end FileTree

end CodeSurvey
