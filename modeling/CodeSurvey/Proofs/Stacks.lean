import CodeSurvey.Proofs.Complexity
import CodeSurvey.Proofs.Cursor

/-! The stacks of a walk. A node is left with the exit and the frame that it was entered with, and
no counter is taken below zero. -/
namespace CodeSurvey.Walk

variable {g : Grammar} {src : Source} {root : Tree} {s t : State} {p q r : Place} {o : Opening}
  {f f' : FunctionFrame} {x y z : Frame} {xs ys zs : List Frame} {mid outer : List Visit}

/-! ### Frames that grow -/

/-- What becomes of a frame while the nodes in it are read. -/
inductive Frame.Grows : Frame → Frame → Prop where
  | classLike (c : ClassDecl) (methods : List FunctionDecl) (fields : List String) :
    Grows (.classLike c) (.classLike { c with
      methods := c.methods ++ methods
      fields := c.fields ++ fields })
  | impl (h : ImplHead) : Grows (.impl h) (.impl h)
  | function {f f' : FunctionFrame} (h : SameFunction f f') : Grows (.function f) (.function f')

/-- What is to be undone for a frame. -/
def Frame.exit : Frame → Exit
  | .classLike _ => .classLike
  | .impl _ => .impl
  | .function _ => .function

theorem Frame.Grows.refl (x : Frame) : x.Grows x := by
  cases x with
  | classLike c => simpa using Frame.Grows.classLike c [] []
  | impl h => exact .impl h
  | function f => exact .function (.refl f)

theorem Frame.Grows.trans (h : x.Grows y) (h' : y.Grows z) : x.Grows z := by
  cases h with
  | classLike c methods fields =>
    cases h' with
    | classLike _ methods' fields' =>
      simpa using Frame.Grows.classLike c (methods ++ methods') (fields ++ fields')
  | impl i => exact h'
  | function h =>
    cases h' with
    | function h' => exact .function (h.trans h')

theorem Frame.Grows.exit_eq (h : x.Grows y) : y.exit = x.exit := by cases h <;> rfl

theorem grows_absorbAll (ps : List Place) (x : Frame) : x.Grows (absorbAll g src ps x) := by
  cases x with
  | classLike c =>
    rw [absorbAll_classLike]
    exact .classLike c _ _
  | impl h =>
    rw [absorbAll_impl]
    exact .impl h
  | function f =>
    rw [absorbAll_function]
    exact .function (sameFunction_readBodies g src ps f)

theorem grows_onEntry (p : Place) (x : Frame) : x.Grows (onEntry g src p x) := by
  cases x with
  | classLike c => simpa [onEntry] using Frame.Grows.classLike c [] (fieldsAt g src p)
  | impl h => exact .impl h
  | function f =>
    rw [onEntry]
    split
    · exact .function (sameFunction_branch f _)
    · exact .refl _

/-- Only the innermost frame grows. -/
inductive TopGrows : List Frame → List Frame → Prop where
  | nil : TopGrows [] []
  | cons {x y : Frame} (xs : List Frame) (h : x.Grows y) : TopGrows (x :: xs) (y :: xs)

theorem TopGrows.refl (xs : List Frame) : TopGrows xs xs := by
  cases xs with
  | nil => exact .nil
  | cons x xs => exact .cons xs (.refl x)

theorem TopGrows.trans (h : TopGrows xs ys) (h' : TopGrows ys zs) : TopGrows xs zs := by
  cases h with
  | nil => exact h'
  | cons xs h =>
    cases h' with
    | cons _ h' => exact .cons xs (h.trans h')

theorem topGrows_modifyHead {k : Frame → Frame} (hk : ∀ x : Frame, x.Grows (k x))
    (xs : List Frame) : TopGrows xs (xs.modifyHead k) := by
  cases xs with
  | nil => exact .nil
  | cons x xs => exact .cons xs (hk x)

theorem Reads.topGrows {ps : List Place} (h : Reads g src ps s t) :
    TopGrows s.frames t.frames := by
  rw [h.frames]
  exact topGrows_modifyHead (grows_absorbAll ps) _

/-! ### Frames while a node is open -/

/-- Some frames are still there, maybe under others. -/
def Holds (xs : List Frame) (s : State) : Prop :=
  ∃ top ys, s.frames = top ++ ys ∧ TopGrows xs ys

theorem holds_of_topGrows (h : TopGrows xs s.frames) : Holds xs s := ⟨[], s.frames, rfl, h⟩

theorem Holds.of_topGrows (h : Holds ys s) (hx : TopGrows xs ys) : Holds xs s := by
  obtain ⟨top, zs, hs, hz⟩ := h
  exact ⟨top, zs, hs, hx.trans hz⟩

theorem Holds.of_cons (h : Holds (x :: xs) s) : Holds xs s := by
  obtain ⟨top, _, hs, hy⟩ := h
  cases hy with
  | @cons _ y _ hy => exact ⟨top ++ [y], xs, by simp [hs], .refl xs⟩

theorem holds_siblings {ps : List Place}
    (h : ∀ p ∈ ps, ∀ s, Around g src s p → ∀ mid, mid <+: p.visits →
      Holds s.frames (mid.foldl (step g src) s))
    (hs : ∀ p ∈ ps, Around g src s p) (hmid : mid <+: ps.flatMap Place.visits) :
    Holds s.frames (mid.foldl (step g src) s) := by
  induction ps generalizing s mid with
  | nil =>
    obtain rfl := List.prefix_nil.1 hmid
    exact holds_of_topGrows (.refl _)
  | cons p ps ih =>
    have hp := hs p (by simp)
    obtain ⟨rest, hrest⟩ := hmid
    rw [List.flatMap_cons] at hrest
    rcases List.append_eq_append_iff.1 hrest with ⟨more, hmore, -⟩ | ⟨mid', rfl, hmid'⟩
    · exact h p (by simp) s hp mid ⟨more, hmore.symm⟩
    · -- The first sibling has been read, and its frames are as they were but for the top.
      have hr := reads_read p hp
      rw [List.foldl_append]
      refine Holds.of_topGrows ?_ hr.topGrows
      exact ih (fun q hq => h q (by simp [hq])) (fun q hq => hr.around (hs q (by simp [hq])))
        ⟨rest, hmid'.symm⟩

/-- At no time while a node is read are the frames around it gone. -/
theorem holds_visits (p : Place) (h : Around g src s p) (hmid : mid <+: p.visits) :
    Holds s.frames (mid.foldl (step g src) s) := by
  induction p using Place.children_induction generalizing s mid with
  | h p ih =>
    cases mid with
    | nil => exact holds_of_topGrows (.refl _)
    | cons v mid =>
      have hall : v :: mid = p.visits ∨
          v = .enter p ∧ mid <+: p.children.flatMap Place.visits := by
        rw [Place.visits_eq] at hmid ⊢
        obtain ⟨rfl, hm⟩ := List.cons_prefix_cons.1 hmid
        rcases List.prefix_concat_iff.1 hm with rfl | hm
        · exact Or.inl rfl
        · exact Or.inr ⟨rfl, hm⟩
      rcases hall with hall | ⟨rfl, hm⟩
      · rw [hall]
        exact holds_of_topGrows (reads_read p h).topGrows
      · have hc : Holds (step g src s (.enter p)).frames
            (mid.foldl (step g src) (step g src s (.enter p))) :=
          holds_siblings (fun q hq _ hs _ hm => ih q hq hs hm)
            (fun q hq => around_step_enter h hq) hm
        -- A frame of the node itself is one more above those around it.
        cases ho : opening? g src p with
        | none =>
          have hp := enter_of_none (s := s) ho
          refine hc.of_topGrows ?_
          exact hp.frames ▸ topGrows_modifyHead (grows_onEntry p) s.frames
        | some o =>
          obtain ⟨-, -, hfr, -⟩ := enter_of_some (s := s) ho
          exact Holds.of_cons (hfr ▸ hc)

/-! ### The depth of a body -/

variable (g src) in
/-- At and below a node, no decisions nest deeper than a word can count. -/
def Shallow (p : Place) : Prop := ∀ q ∈ p.subtree, level g src q < 2 ^ 32

theorem Shallow.of_mem_subtree (h : Shallow g src p) (hq : q ∈ p.subtree) : Shallow g src q :=
  fun _ hr => h _ (Place.subtree_trans hq hr)

theorem Shallow.of_mem_children (h : Shallow g src p) (hq : q ∈ p.children) : Shallow g src q :=
  h.of_mem_subtree (Place.mem_subtree_of_child hq)

variable (g src) in
theorem levelAround_le_depth (p : Place) : levelAround g src p ≤ p.depth := by
  induction p with
  | root t => exact Nat.le_refl 0
  | child p b t ih =>
    have hn : (nests g src p).toNat ≤ 1 := Bool.toNat_le _
    rw [levelAround, Place.depth]
    split <;> omega

/-- Nodes are counted in words of the same size. -/
theorem shallow_of_length_lt (h : (Place.root root).subtree.length < 2 ^ 32) :
    Shallow g src (.root root) := by
  intro q hq
  have hn : (nests g src q).toNat ≤ 1 := Bool.toNat_le _
  have hle := levelAround_le_depth g src q
  have hlt := Place.depth_lt_length hq
  rw [level]
  omega

theorem depth_branch_eq_level {nested : Bool} (hb : branchAt? g src p = some nested)
    (hlt : level g src p < 2 ^ 32) (hf : f.depth.toNat = levelAround g src p) :
    (f.branch nested).depth.toNat = level g src p := by
  rw [level_of_branch hb] at hlt ⊢
  cases nested with
  | false => exact hf
  | true =>
    rw [Bool.toNat_true] at hlt
    rw [depth_branch f true (by omega), hf]

theorem level_of_notBranch (hb : branchAt? g src p = none) :
    level g src p = levelAround g src p := by
  simp [level, nests, hb]

theorem depth_readBodies_of {ps : List Place} {n : Nat}
    (h : ∀ p ∈ ps, ∀ f, f.depth.toNat = n → (readBody g src p f).depth = f.depth)
    (hf : f.depth.toNat = n) : (readBodies g src ps f).depth = f.depth := by
  induction ps generalizing f with
  | nil => rfl
  | cons p ps ih =>
    have hp := h p (by simp) f hf
    have hps := ih (f := readBody g src p f) (fun q hq => h q (by simp [hq])) (by rw [hp, hf])
    exact hps.trans hp

/-- What is read of a body ends at the level where it began. -/
theorem depth_readBody (hs : Shallow g src p) (hf : f.depth.toNat = levelAround g src p) :
    (readBody g src p f).depth = f.depth := by
  induction p using Place.children_induction generalizing f with
  | h p ih =>
    cases ho : opening? g src p with
    | some o => rw [readBody_of_some ho]
    | none =>
      have hchildren : ∀ q ∈ p.children, ∀ f, f.depth.toNat = level g src p →
          (readBody g src q f).depth = f.depth := by
        intro q hq f hf
        exact ih q hq (hs.of_mem_children hq) (hf.trans (levelAround_child_of_none ho hq).symm)
      have hlt := hs p p.self_mem_subtree
      rw [readBody_of_none ho]
      cases hb : branchAt? g src p with
      | none => exact depth_readBodies_of hchildren (hf.trans (level_of_notBranch hb).symm)
      | some nested =>
        have hbody := depth_readBodies_of hchildren (depth_branch_eq_level hb hlt hf)
        cases nested with
        | false => exact hbody
        | true =>
          rw [level_of_branch hb, Bool.toNat_true] at hlt
          exact depth_ascend_branch f (by omega) hbody

variable (g src) in
/-- The innermost function is at the level of a node that is about to be entered. -/
def AtDepth (p : Place) (s : State) : Prop :=
  ∀ f xs, s.frames = .function f :: xs → f.depth.toNat = levelAround g src p

theorem levelAround_siblings (hq : q ∈ p.children) (hr : r ∈ p.children) :
    levelAround g src q = levelAround g src r := by
  obtain ⟨_, _, rfl⟩ := Place.eq_child_of_mem_children hq
  obtain ⟨_, _, rfl⟩ := Place.eq_child_of_mem_children hr
  rfl

theorem atDepth_step_enter (hlt : level g src p < 2 ^ 32) (hd : AtDepth g src p s)
    (hq : q ∈ p.children) : AtDepth g src q (step g src s (.enter p)) := by
  intro f' xs hf'
  cases ho : opening? g src p with
  | some o =>
    obtain ⟨-, -, hfr, -⟩ := enter_of_some (s := s) ho
    rw [levelAround_child_of_some ho hq]
    have htop := (List.cons.inj (hfr.symm.trans hf')).1
    cases o with
    | function h =>
      cases htop
      rfl
    | classLike h => cases htop
    | impl h => cases htop
  | none =>
    have hp := enter_of_none (s := s) ho
    rw [levelAround_child_of_none ho hq]
    have hfr := hp.frames.symm.trans hf'
    cases hs : s.frames with
    | nil => simp [hs] at hfr
    | cons x xs =>
      rw [hs, List.modifyHead_cons] at hfr
      have htop := (List.cons.inj hfr).1
      cases x with
      | classLike c => cases htop
      | impl h => cases htop
      | function f =>
        have hf := hd f xs hs
        rw [onEntry] at htop
        cases hb : branchAt? g src p with
        | none =>
          rw [hb] at htop
          cases htop
          exact hf.trans (level_of_notBranch hb).symm
        | some nested =>
          rw [hb] at htop
          cases htop
          exact depth_branch_eq_level hb hlt hf

theorem AtDepth.reads {ps : List Place} (hd : AtDepth g src q s) (h : Reads g src ps s t)
    (hps : ∀ p ∈ ps, Shallow g src p ∧ levelAround g src p = levelAround g src q) :
    AtDepth g src q t := by
  intro f' xs hf'
  rw [h.frames] at hf'
  cases hs : s.frames with
  | nil => simp [hs] at hf'
  | cons x ys =>
    rw [hs, List.modifyHead_cons] at hf'
    have htop := (List.cons.inj hf').1
    have hgrows : x.Grows (.function f') := htop ▸ grows_absorbAll ps x
    cases hgrows with
    | @function f _ _ =>
      have hf := hd f ys hs
      rw [absorbAll_function] at htop
      cases htop
      rw [depth_readBodies_of ?_ hf, hf]
      intro p hp f hf
      obtain ⟨hshallow, hlevel⟩ := hps p hp
      exact depth_readBody hshallow (hf.trans hlevel.symm)

/-! ### The way to a node -/

theorem foldl_down {cs : List Place} (s : State) :
    (.enter r :: (cs.flatMap Place.visits ++ outer)).foldl (step g src) s =
      outer.foldl (step g src) (readAll g src cs (step g src s (.enter r))) := by
  rw [List.foldl_cons, List.foldl_append, List.foldl_flatMap]
  rfl

theorem around_of_reaches (h : Reaches r outer p) (hr : Around g src s r) :
    Around g src (outer.foldl (step g src) s) p := by
  induction h generalizing s with
  | here r => exact hr
  | @down r c p cs ds outer hc h ih =>
    have hcs : cs ⊆ r.children := by simp [hc]
    rw [foldl_down]
    exact ih ((reads_children hr hcs).around (around_step_enter hr (by simp [hc])))

theorem atDepth_of_reaches (h : Reaches r outer p) (hr : Around g src s r)
    (hs : Shallow g src r) (hd : AtDepth g src r s) :
    AtDepth g src p (outer.foldl (step g src) s) := by
  induction h generalizing s with
  | here r => exact hd
  | @down r c p cs ds outer hc h ih =>
    have hcs : cs ⊆ r.children := by simp [hc]
    have hmem : c ∈ r.children := by simp [hc]
    have hreads := reads_children hr hcs
    have hlt := hs r r.self_mem_subtree
    rw [foldl_down]
    refine ih (hreads.around (around_step_enter hr hmem)) (hs.of_mem_children hmem) ?_
    refine (atDepth_step_enter hlt hd hmem).reads hreads ?_
    intro q hq
    exact ⟨hs.of_mem_children (hcs hq), levelAround_siblings (hcs hq) hmem⟩

/-! ### Leaving a node -/

variable (g src) in
/-- All below a node has been read, and it is about to be left. -/
def readBelow (p : Place) (s : State) : State :=
  readAll g src p.children (step g src s (.enter p))

theorem reads_below (h : Around g src s p) :
    Reads g src p.children (step g src s (.enter p)) (readBelow g src p s) :=
  reads_children h fun _ hq => hq

/-- What is popped as a node is left is what was pushed as it was entered. -/
theorem exits_readBelow (h : Around g src s p) :
    (readBelow g src p s).exits = (enter g src s p).1 :: s.exits := by
  have hexits : (enter g src s p).2.exits = s.exits := by
    cases ho : opening? g src p with
    | none => exact (enter_of_none ho).exits
    | some o => exact (enter_of_some ho).2.1
  rw [(reads_below h).exits, ← hexits]
  rfl

variable (g src) in
/-- The exits that take a frame away are those of nodes that open something. -/
theorem exit_enter_mem_iff (s : State) (p : Place) :
    (enter g src s p).1 ∈ [.function, .classLike, .impl] ↔ ∃ o, opening? g src p = some o := by
  constructor
  · intro h
    cases ho : opening? g src p with
    | some o => exact ⟨o, rfl⟩
    | none =>
      have hexit := (enter_of_none (s := s) ho).exit
      generalize (enter g src s p).1 = e at h hexit
      cases hexit <;> simp at h
  · rintro ⟨o, ho⟩
    rw [(enter_of_some ho).1]
    cases o <;> simp [exitOf]

/-- A node with another exit is entered without a frame. -/
theorem plainEntry_of_exit {e : Exit} (he : (enter g src s p).1 = e)
    (h : e ∉ [.function, .classLike, .impl]) :
    opening? g src p = none ∧ PlainEntry g src p s (enter g src s p) := by
  have ho : opening? g src p = none := by
    rw [Option.eq_none_iff_forall_ne_some]
    intro o ho
    exact h (he ▸ (exit_enter_mem_iff g src s p).2 ⟨o, ho⟩)
  exact ⟨ho, enter_of_none ho⟩

theorem frames_readBelow (h : Around g src s p) (ho : opening? g src p = some o) :
    (readBelow g src p s).frames =
      absorbAll g src p.children (frameOf g src s.frames p o) :: s.frames := by
  obtain ⟨-, -, hfr, -⟩ := enter_of_some (s := s) ho
  exact (reads_below h).frames.trans (congrArg _ hfr)

theorem exit_frameOf (xs : List Frame) (p : Place) (o : Opening) :
    (frameOf g src xs p o).exit = exitOf o := by
  cases o <;> rfl

/-- While the nodes in it are read, the frame of a node is never taken away. -/
theorem holds_frame (h : Around g src s p) (ho : opening? g src p = some o)
    (hmid : mid <+: p.children.flatMap Place.visits) :
    ∃ top y, (mid.foldl (step g src) (step g src s (.enter p))).frames = top ++ y :: s.frames ∧
      (frameOf g src s.frames p o).Grows y := by
  obtain ⟨-, -, hfr, -⟩ := enter_of_some (s := s) ho
  have hheld : Holds (step g src s (.enter p)).frames
      (mid.foldl (step g src) (step g src s (.enter p))) :=
    holds_siblings (fun q _ _ hs _ hm => holds_visits q hs hm)
      (fun q hq => around_step_enter h hq) hmid
  obtain ⟨top, ys, hframes, hys⟩ := hheld
  have hpushed : (step g src s (.enter p)).frames = frameOf g src s.frames p o :: s.frames := hfr
  rw [hpushed] at hys
  cases hys with
  | @cons _ y _ hy => exact ⟨top, y, hframes, hy⟩

/-- A method is named after the class whose frame is on top. -/
theorem attachment_named {head : FunctionHead} (h : (attachment xs head).1 = .method) :
    ∃ c rest, xs = .classLike c :: rest ∧
      (attachment xs head).2 = c.name ++ "." ++ head.name := by
  obtain ⟨c, rest, rfl⟩ := attachment_method h
  refine ⟨c, rest, rfl, ?_⟩
  cases ho : head.owner with
  | some owner => simp [attachment, ho] at h
  | none => simp [attachment, ho]

theorem method_readBelow {below : List Frame} (h : Around g src s p)
    (he : (enter g src s p).1 = .function)
    (hf : (readBelow g src p s).frames = .function f :: below) (hm : f.attach = .method) :
    s.frames = below ∧ ∃ c rest, below = .classLike c :: rest ∧
      f.qualified = c.name ++ "." ++ f.decl.name := by
  obtain ⟨o, ho⟩ := (exit_enter_mem_iff g src s p).1 (by simp [he])
  obtain ⟨hexit, -, -, -⟩ := enter_of_some (s := s) ho
  rw [frames_readBelow h ho] at hf
  obtain ⟨htop, rfl⟩ := List.cons.inj hf
  refine ⟨rfl, ?_⟩
  cases o with
  | classLike i => cases hexit.symm.trans he
  | impl i => cases hexit.symm.trans he
  | function head =>
    rw [frameOf, absorbAll_function] at htop
    have hsame := sameFunction_readBodies g src p.children
      (openFunction g src (attachment s.frames head) p head)
    rw [Frame.function.inj htop] at hsame
    obtain ⟨_, _, _, rfl⟩ := hsame
    exact attachment_named hm

/-- A decision that nests is left at the level of its body. -/
theorem nested_readBelow (h : Around g src s p) (he : (enter g src s p).1 = .branch true) :
    ∃ f below, (readBelow g src p s).frames = .function f :: below ∧
      (Shallow g src p → AtDepth g src p s →
        f.depth.toNat = level g src p ∧ 1 ≤ f.depth) := by
  obtain ⟨ho, hp⟩ := plainEntry_of_exit he (by simp)
  have hexit := hp.exit
  rw [he] at hexit
  cases hexit with
  | @branch _ f below hd hb hs =>
    refine ⟨readBodies g src p.children (f.branch true), below, ?_, ?_⟩
    · have hfr : (step g src s (.enter p)).frames = .function (f.branch true) :: below := by
        refine hp.frames.trans ?_
        simp [hs, onEntry, hb]
      rw [(reads_below h).frames, hfr, List.modifyHead_cons, absorbAll_function]
    · intro hshallow hdepth
      have hlt := hshallow p p.self_mem_subtree
      have hf := depth_branch_eq_level hb hlt (hdepth f below hs)
      have hbody : (readBodies g src p.children (f.branch true)).depth =
          (f.branch true).depth := by
        refine depth_readBodies_of ?_ hf
        intro q hq f hf
        exact depth_readBody (hshallow.of_mem_children hq)
          (hf.trans (levelAround_child_of_none ho hq).symm)
      rw [hbody, UInt32.le_iff_toNat_le, hf, level_of_branch hb]
      exact ⟨rfl, Nat.le_add_left 1 _⟩

theorem errorDepth_readBelow (h : Around g src s p) (he : (enter g src s p).1 = .error) :
    (readBelow g src p s).errorDepth = s.errorDepth + 1 := by
  obtain ⟨-, hp⟩ := plainEntry_of_exit he (by simp)
  have hexit := hp.exit
  rw [he] at hexit
  cases hexit with
  | error hd hb => exact (reads_below h).errorDepth.trans hd

/-! ### The whole walk -/

variable (g src root) in
/-- The stacks as a node is left, in `u`, against those as it was entered, in `s`, with some visits
in between. -/
structure Unwinds (p : Place) (inner : List Visit) (s u : State) : Prop where
  /-- What is popped is what the node has pushed. -/
  exits : u.exits = (enter g src s p).1 :: s.exits
  /-- The frame that the node has pushed stays until the node is left, and is on top then. -/
  frame : (enter g src s p).1 ∈ [.function, .classLike, .impl] →
    ∃ x y, (enter g src s p).2.frames = x :: s.frames ∧
      (∀ mid, mid <+: inner → ∃ top z, x.Grows z ∧
        (mid.foldl (step g src) (step g src s (.enter p))).frames = top ++ z :: s.frames) ∧
      u.frames = y :: s.frames ∧ x.Grows y ∧ y.exit = (enter g src s p).1
  /-- A method is left with the class below it that it is named after. -/
  method (f : FunctionFrame) (below : List Frame) : (enter g src s p).1 = .function →
    u.frames = .function f :: below → f.attach = .method →
    s.frames = below ∧ ∃ c rest, below = .classLike c :: rest ∧
      f.qualified = c.name ++ "." ++ f.decl.name
  /-- A decision that nests is left one level deeper than it was entered. The depth is a word, so
  this takes a tree where it cannot overflow. -/
  nested : (enter g src s p).1 = .branch true →
    ∃ f below, u.frames = .function f :: below ∧
      (Shallow g src (.root root) → f.depth.toNat = level g src p ∧ 1 ≤ f.depth)
  error : (enter g src s p).1 = .error → u.errorDepth = s.errorDepth + 1
  /-- Leaving the node gives back the stacks of its entry. -/
  left : (leave g u).exits = s.exits ∧ (leave g u).errorDepth = s.errorDepth ∧
    TopGrows s.frames (leave g u).frames

theorem unwinds_readBelow (h : Around g src s p)
    (hd : Shallow g src (.root root) → Shallow g src p ∧ AtDepth g src p s) :
    Unwinds g src root p (p.children.flatMap Place.visits) s (readBelow g src p s) where
  exits := exits_readBelow h
  frame he := by
    obtain ⟨o, ho⟩ := (exit_enter_mem_iff g src s p).1 he
    obtain ⟨hexit, -, hfr, -⟩ := enter_of_some (s := s) ho
    have hgrows : (frameOf g src s.frames p o).Grows
        (absorbAll g src p.children (frameOf g src s.frames p o)) := grows_absorbAll _ _
    refine ⟨_, _, hfr, ?_, frames_readBelow h ho, hgrows, ?_⟩
    · intro mid hmid
      obtain ⟨top, z, hframes, hz⟩ := holds_frame h ho hmid
      exact ⟨top, z, hz, hframes⟩
    · rw [hgrows.exit_eq, exit_frameOf, hexit]
  method f below he hf hm := method_readBelow h he hf hm
  nested he := by
    obtain ⟨f, below, hf, hdepth⟩ := nested_readBelow h he
    refine ⟨f, below, hf, ?_⟩
    intro hshallow
    obtain ⟨hp, hs⟩ := hd hshallow
    exact hdepth hp hs
  error he := errorDepth_readBelow h he
  left := by
    have hr := reads_read p h
    rw [read_eq] at hr
    exact ⟨hr.exits, hr.errorDepth, hr.topGrows⟩

variable (g src root) in
/-- A walk takes the tour of a tree, leaves every node with the stacks as the node has made them,
and ends with nothing on them. -/
theorem walk_unwinds :
    Tours root (tour .root root) ∧
      (∀ before p after, tour .root root = before ++ .leave p :: after →
        ∃ outer inner, before = outer ++ .enter p :: inner ∧
          Unwinds g src root p inner (outer.foldl (step g src) {})
            (before.foldl (step g src) {})) ∧
      (run g src root).frames = [] ∧ (run g src root).exits = [] ∧
        (run g src root).errorDepth = 0 := by
  rw [Place.tour_root]
  refine ⟨tours_visits root, ?_, ?_⟩
  · intro before p after hsplit
    obtain ⟨outer, hp, rfl⟩ := exists_reaches_of_leave hsplit
    have hroot : Around g src {} (.root root) := rfl
    refine ⟨outer, p.children.flatMap Place.visits, rfl, ?_⟩
    rw [List.foldl_append, List.foldl_cons, List.foldl_flatMap]
    apply unwinds_readBelow (around_of_reaches hp hroot)
    intro hshallow
    refine ⟨hshallow.of_mem_subtree hp.mem_subtree, atDepth_of_reaches hp hroot hshallow ?_⟩
    intro f xs hf
    cases hf
  · have hr := reads_run g src root
    exact ⟨hr.frames, hr.exits, hr.errorDepth⟩

/-! A method with a loop in a condition, and an error beside it in the class. -/

def stackedSource : Source := .ofText "class C:\n def m(self):\n  if a:\n   while a: x\n ?\n"

def stackedTree : Tree :=
  sampleNode "module" 0 48 none
    [sampleNode "class_definition" 0 47 none
      [sampleNode "identifier" 6 7 (some "name") [],
       sampleNode "block" 10 47 (some "body")
        [sampleNode "function_definition" 10 44 none
          [sampleNode "identifier" 14 15 (some "name") [],
           sampleNode "block" 25 44 (some "body")
            [sampleNode "if_statement" 25 44 none
              [sampleNode "while_statement" 34 44 none []]]],
         .node { (sampleNode "ERROR" 46 47 none []).label with isError := true } []]]]

/-- The state of the walk after some visits. -/
def stackedAfter (n : Nat) : State :=
  ((tour .root stackedTree).take n).foldl (step Python.grammar stackedSource) {}

theorem walk_unwinds_sample :
    (∃ p, (tour .root stackedTree)[14]? = some (.leave p) ∧
      ∃ f c rest, (stackedAfter 14).frames = .function f :: .classLike c :: rest ∧
        f.attach = .method ∧ f.qualified = c.name ++ "." ++ f.decl.name) ∧
      (∃ p, (tour .root stackedTree)[11]? = some (.leave p) ∧
        (stackedAfter 11).exits.head? = some (.branch true) ∧
        ∃ f below, (stackedAfter 11).frames = .function f :: below ∧ 1 ≤ f.depth) ∧
      ∃ p, (tour .root stackedTree)[16]? = some (.leave p) ∧
        (stackedAfter 16).exits.head? = some .error ∧ 1 ≤ (stackedAfter 16).errorDepth := by
  have hwalk : ∀ n p, (tour .root stackedTree)[n]? = some (.leave p) →
      ∃ inner s, Unwinds Python.grammar stackedSource stackedTree p inner s (stackedAfter n) := by
    intro n p hp
    obtain ⟨hn, hleave⟩ := List.getElem?_eq_some_iff.1 hp
    have hsplit := (List.take_append_drop n (tour .root stackedTree)).symm
    rw [List.drop_eq_getElem_cons hn, hleave] at hsplit
    obtain ⟨outer, inner, -, hu⟩ :=
      (walk_unwinds Python.grammar stackedSource stackedTree).2.1 _ p _ hsplit
    exact ⟨inner, _, hu⟩
  have hshallow : Shallow Python.grammar stackedSource (.root stackedTree) :=
    shallow_of_length_lt (by decide +kernel)
  refine ⟨⟨_, rfl, ?_⟩, ⟨_, rfl, by decide +kernel, ?_⟩, ⟨_, rfl, by decide +kernel, ?_⟩⟩
  · obtain ⟨inner, s, hu⟩ := hwalk 14 _ rfl
    have hpopped : (stackedAfter 14).exits.head? = some .function := by decide +kernel
    have hmethod : ((stackedAfter 14).frames.head?.bind Frame.function?).map
        FunctionFrame.attach = some .method := by decide +kernel
    rw [hu.exits] at hpopped
    have he := Option.some.inj hpopped
    obtain ⟨-, y, -, -, hy, -, -⟩ := hu.frame (by simp [he])
    rw [hy] at hmethod
    cases y with
    | classLike c => cases hmethod
    | impl h => cases hmethod
    | function f =>
      have hm := Option.some.inj hmethod
      obtain ⟨-, c, rest, hrest, hname⟩ := hu.method f _ he hy hm
      exact ⟨f, c, rest, by rw [hy, hrest], hm, hname⟩
  · obtain ⟨inner, s, hu⟩ := hwalk 11 _ rfl
    have hpopped : (stackedAfter 11).exits.head? = some (.branch true) := by decide +kernel
    rw [hu.exits] at hpopped
    obtain ⟨f, below, hf, hdepth⟩ := hu.nested (Option.some.inj hpopped)
    exact ⟨f, below, hf, (hdepth hshallow).2⟩
  · obtain ⟨inner, s, hu⟩ := hwalk 16 _ rfl
    have hpopped : (stackedAfter 16).exits.head? = some .error := by decide +kernel
    rw [hu.exits] at hpopped
    have hdepth := hu.error (Option.some.inj hpopped)
    omega

end CodeSurvey.Walk
