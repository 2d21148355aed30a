import CodeSurvey.Proofs.Contribution

/-! Reading a node with all below it leaves the stacks as they were, up to what the innermost frame
takes from it, and adds what the nodes contribute by their places. -/
namespace CodeSurvey.Walk

variable {g : Grammar} {src : Source} {s t u : State} {p q : Place} {o : Opening}
  {f f' f'' : FunctionFrame}

/-! ### Functions being read -/

/-- Two states of one function while its body is read. -/
def SameFunction (f f' : FunctionFrame) : Prop :=
  ∃ branches depth nesting,
    f' = { f with branches, depth, decl := { f.decl with nestingDepth := nesting } }

theorem SameFunction.refl (f : FunctionFrame) : SameFunction f f := ⟨_, _, _, rfl⟩

theorem SameFunction.trans (h : SameFunction f f') (h' : SameFunction f' f'') :
    SameFunction f f'' := by
  obtain ⟨_, _, _, rfl⟩ := h
  obtain ⟨_, _, _, rfl⟩ := h'
  exact ⟨_, _, _, rfl⟩

theorem sameFunction_branch (f : FunctionFrame) (nests : Bool) :
    SameFunction f (f.branch nests) := by
  cases nests <;> exact ⟨_, _, _, rfl⟩

theorem sameFunction_ascend (f : FunctionFrame) : SameFunction f f.ascend := ⟨_, _, _, rfl⟩

theorem readBody_of_some (h : opening? g src p = some o) (f : FunctionFrame) :
    readBody g src p f = f := by
  rw [readBody, Place.fold_eq]
  simp [h]

theorem readBody_of_none (h : opening? g src p = none) (f : FunctionFrame) :
    readBody g src p f =
      match branchAt? g src p with
      | some true => (readBodies g src p.children (f.branch true)).ascend
      | some false => readBodies g src p.children (f.branch false)
      | none => readBodies g src p.children f := by
  rw [readBody, Place.fold_eq]
  simp only [h, List.foldl_map]
  rfl

theorem sameFunction_readBodies_of {ps : List Place}
    (h : ∀ p ∈ ps, ∀ f, SameFunction f (readBody g src p f)) (f : FunctionFrame) :
    SameFunction f (readBodies g src ps f) := by
  induction ps generalizing f with
  | nil => exact .refl f
  | cons p ps ih =>
    have hp := h p (by simp) f
    exact hp.trans (ih (fun q hq => h q (by simp [hq])) _)

variable (g src) in
theorem sameFunction_readBody (p : Place) (f : FunctionFrame) :
    SameFunction f (readBody g src p f) := by
  induction p using Place.children_induction generalizing f with
  | h p ih =>
    cases ho : opening? g src p with
    | some o =>
      rw [readBody_of_some ho]
      exact .refl f
    | none =>
      rw [readBody_of_none ho]
      split
      · exact ((sameFunction_branch f true).trans (sameFunction_readBodies_of ih _)).trans
          (sameFunction_ascend _)
      · exact (sameFunction_branch f false).trans (sameFunction_readBodies_of ih _)
      · exact sameFunction_readBodies_of ih f

variable (g src) in
theorem sameFunction_readBodies (ps : List Place) (f : FunctionFrame) :
    SameFunction f (readBodies g src ps f) :=
  sameFunction_readBodies_of (fun p _ => sameFunction_readBody g src p) f

/-! ### Frames and the nodes that opened them -/

/-- What a frame shows of the node that opened it. -/
inductive Mark where
  | classLike (name : String)
  | impl (owner : String)
  | function (key : String)

def Frame.mark : Frame → Mark
  | .classLike c => .classLike c.name
  | .impl h => .impl h.owner
  | .function f => .function f.qualified

variable (g src) in
def markAt : Place × Opening → Mark
  | (_, .classLike h) => .classLike h.name
  | (_, .impl h) => .impl h.owner
  | (f, .function h) => .function (entryKey g src (f, h))

variable (g src) in
/-- The frames stand for the nodes around a place. -/
def Around (s : State) (p : Place) : Prop :=
  s.frames.map Frame.mark = (enclosing g src p).map (markAt g src)

theorem attachment_eq (h : Around g src s p) (head : FunctionHead) :
    attachment s.frames head = attachmentAt g src p head := by
  rw [Around] at h
  simp only [attachment, attachmentAt, around?]
  cases head.owner with
  | some owner => rfl
  | none =>
    cases hs : s.frames with
    | nil =>
      cases he : enclosing g src p with
      | nil => rfl
      | cons e es => simp [hs, he] at h
    | cons x xs =>
      cases he : enclosing g src p with
      | nil => simp [hs, he] at h
      | cons e es =>
        obtain ⟨q, o⟩ := e
        rw [hs, he, List.map_cons, List.map_cons] at h
        have hm := (List.cons.inj h).1
        cases x <;> cases o <;> try cases hm
        · simp [Mark.classLike.inj hm]
        · simp [Mark.impl.inj hm]
        · rfl

theorem caller_eq (h : Around g src s p) :
    s.caller = (functionAround? g src p).map (entryKey g src) := by
  rw [Around] at h
  rw [State.caller, functionAround?]
  generalize s.frames = xs at h
  generalize enclosing g src p = es at h
  induction xs generalizing es with
  | nil => cases es <;> simp_all
  | cons x xs ih =>
    cases es with
    | nil => simp at h
    | cons e es =>
      obtain ⟨q, o⟩ := e
      rw [List.map_cons, List.map_cons] at h
      obtain ⟨hm, ht⟩ := List.cons.inj h
      have hrest := ih es ht
      cases x <;> cases o <;> try cases hm
      · exact hrest
      · exact hrest
      · exact congrArg some (Mark.function.inj hm)

/-! ### What frames take from the nodes in them -/

section

variable (g src)

/-- What a frame takes from a node with all below it. -/
def absorb (p : Place) : Frame → Frame
  | .classLike c => .classLike { c with
      methods := c.methods ++ (region g src p).flatMap (methodAt g src)
      fields := c.fields ++ (region g src p).flatMap (fieldsAt g src) }
  | .impl h => .impl h
  | .function f => .function (readBody g src p f)

def absorbAll (ps : List Place) (x : Frame) : Frame := ps.foldl (fun x p => absorb g src p x) x

/-- What a frame takes from a node alone when it is entered. -/
def onEntry (p : Place) : Frame → Frame
  | .classLike c => .classLike { c with fields := c.fields ++ fieldsAt g src p }
  | .impl h => .impl h
  | .function f =>
    match branchAt? g src p with
    | some nests => .function (f.branch nests)
    | none => .function f

/-- What a frame takes from a node alone when it is left. -/
def onExit (p : Place) : Frame → Frame
  | .function f => if branchAt? g src p = some true then .function f.ascend else .function f
  | x => x

end

theorem mark_absorb (p : Place) (x : Frame) : (absorb g src p x).mark = x.mark := by
  cases x with
  | classLike c => rfl
  | impl h => rfl
  | function f =>
    obtain ⟨_, _, _, h⟩ := sameFunction_readBody g src p f
    simp [absorb, Frame.mark, h]

theorem absorbAll_classLike (ps : List Place) (c : ClassDecl) :
    absorbAll g src ps (.classLike c) = .classLike { c with
      methods := c.methods ++ (ps.flatMap (region g src)).flatMap (methodAt g src)
      fields := c.fields ++ (ps.flatMap (region g src)).flatMap (fieldsAt g src) } := by
  induction ps generalizing c with
  | nil => simp [absorbAll]
  | cons p ps ih =>
    have h := ih (c := { c with
      methods := c.methods ++ (region g src p).flatMap (methodAt g src)
      fields := c.fields ++ (region g src p).flatMap (fieldsAt g src) })
    simp only [absorbAll, List.foldl_cons, absorb] at h ⊢
    rw [h]
    simp

theorem absorbAll_impl (ps : List Place) (h : ImplHead) :
    absorbAll g src ps (.impl h) = .impl h := by
  induction ps with
  | nil => rfl
  | cons p ps ih => exact ih

theorem absorbAll_function (ps : List Place) (f : FunctionFrame) :
    absorbAll g src ps (.function f) = .function (readBodies g src ps f) := by
  induction ps generalizing f with
  | nil => rfl
  | cons p ps ih => exact ih (readBody g src p f)

theorem functionAs_of_none {β : Type} (select : Attach → FunctionDecl → List β)
    (h : opening? g src p = none) : functionAs g src select p = [] := by
  simp [functionAs, h]

theorem fieldsAt_of_some (h : opening? g src p = some o) : fieldsAt g src p = [] := by
  rw [fieldsAt, bindingsAt]
  rw [opening?] at h
  cases hr : roleOf g src p <;> simp_all

/-- A node that opens nothing shares what is below it with the frame around it. -/
theorem absorb_of_none (h : opening? g src p = none) (x : Frame) :
    absorb g src p x = onExit g src p (absorbAll g src p.children (onEntry g src p x)) := by
  cases x with
  | classLike c =>
    rw [onEntry, absorbAll_classLike, onExit, absorb, region_of_none h]
    · simp [methodAt, functionAs_of_none _ h, interior]
    · intro f hf
      cases hf
  | impl i =>
    rw [onEntry, absorbAll_impl, onExit, absorb]
    intro f hf
    cases hf
  | function f =>
    rw [absorb, readBody_of_none h, onEntry]
    cases hb : branchAt? g src p with
    | none => simp [absorbAll_function, onExit, hb]
    | some nests => cases nests <;> simp [absorbAll_function, onExit, hb]

/-! ### Entering a node -/

/-- Counting tokens and faults touches nothing else. -/
def SameButTallies (s t : State) : Prop :=
  ∃ tokens countedTo errors errorBytes,
    t = { s with tokens, countedTo, errors, errorBytes }

theorem sameButTallies_countToken (s : State) (t : Tree) :
    SameButTallies s (s.countToken g src t) := by
  rw [State.countToken]
  repeat' split
  all_goals exact ⟨_, _, _, _, rfl⟩

theorem sameButTallies_reportFault (s : State) (t : Tree) :
    SameButTallies s (s.reportFault src t) := by
  rw [State.reportFault]
  split <;> exact ⟨_, _, _, _, rfl⟩

variable (g src) in
/-- Either the node is a fault, or it is entered by its role. -/
theorem enter_cases (s : State) (p : Place) :
    (p.tree.isFault = true ∧ ∃ t, SameButTallies s t ∧
      enter g src s p =
        if p.tree.isError then (.error, { t with errorDepth := t.errorDepth + 1 })
        else (.nothing, t)) ∨
    (p.tree.isFault = false ∧ ∃ t, SameButTallies s t ∧
      enter g src s p = enterRole g src t p (roleOf g src p)) := by
  rw [enter]
  cases hf : p.tree.isFault with
  | true =>
    left
    exact ⟨rfl, _, sameButTallies_reportFault s p.tree, rfl⟩
  | false =>
    right
    refine ⟨rfl, _, ?_, by simp only [roleOf, hf]; rfl⟩
    split
    · exact sameButTallies_countToken s p.tree
    · exact ⟨_, _, _, _, rfl⟩

theorem around_sameButTallies (h : Around g src s p) (ht : SameButTallies s t) :
    Around g src t p := by
  obtain ⟨_, _, _, _, rfl⟩ := ht
  exact h

variable (g src) in
/-- What entering a node adds at once. -/
structure Entered (p : Place) (s t : State) : Prop where
  functions : t.functions = s.functions
  classes : t.classes = s.classes
  detached : t.detached = s.detached
  traits : t.traits.toList = s.traits.toList ++ traitAt g src p
  imports : t.imports.toList = s.imports.toList ++ importsAt g src p
  globals : t.globals.toList = s.globals.toList ++ globalsAt g src p
  calls : t.calls.toList = s.calls.toList ++ callAt g src (entryKey g src) p

theorem frames_eq_nil_iff (h : Around g src s p) : s.frames = [] ↔ around? g src p = none := by
  rw [around?, List.head?_eq_none_iff]
  rw [Around] at h
  constructor
  · intro hs
    simpa [hs] using h.symm
  · intro he
    simpa [he] using h

theorem addBindings_globals (h : Around g src s p) (hr : roleOf g src p = .binding) :
    (s.addBindings g src p).globals.toList = s.globals.toList ++ globalsAt g src p := by
  have hn := frames_eq_nil_iff h
  rw [State.addBindings, globalsAt, bindingsAt]
  cases hs : s.frames with
  | nil => simp [hn.1 hs, hr]
  | cons x xs =>
    have ha : (around? g src p).isSome = true := by
      rw [Option.isSome_iff_ne_none]
      intro hn'
      rw [hn.2 hn'] at hs
      cases hs
    cases x <;> simp [ha]

theorem addCall_calls (h : Around g src s p) (hr : roleOf g src p = .call) :
    (s.addCall g src p).calls.toList =
      s.calls.toList ++ callAt g src (entryKey g src) p := by
  rw [State.addCall, callAt]
  cases hc : g.callee src p <;> simp [hr, caller_eq h]

section

variable {r : Role} (hr : roleOf g src p = r)
include hr

theorem traitAt_of_ne (h : r ≠ .impl) : traitAt g src p = [] := by
  rw [traitAt, opening?]
  cases r <;> simp_all

theorem importsAt_of_ne (h : r ≠ .imports) : importsAt g src p = [] := by
  rw [importsAt]
  cases r <;> simp_all

theorem globalsAt_of_ne (h : r ≠ .binding) : globalsAt g src p = [] := by
  rw [globalsAt, bindingsAt]
  cases r <;> simp_all

theorem callAt_of_ne {key : Place × FunctionHead → String} (h : r ≠ .call) :
    callAt g src key p = [] := by
  rw [callAt]
  cases r <;> simp_all

/-- Most nodes are a matter of the frames alone. -/
theorem entered_frames (hi : r ≠ .impl) (hm : r ≠ .imports) (hb : r ≠ .binding) (hc : r ≠ .call)
    (ht : ∃ frames, t = { s with frames }) : Entered g src p s t := by
  obtain ⟨frames, rfl⟩ := ht
  constructor
  · rfl
  · rfl
  · rfl
  · simp [traitAt_of_ne hr hi]
  · simp [importsAt_of_ne hr hm]
  · simp [globalsAt_of_ne hr hb]
  · simp [callAt_of_ne hr hc]

end

theorem enterImpl_entered (hr : roleOf g src p = .impl) :
    Entered g src p s (enterImpl g src s p).2 := by
  have hm : importsAt g src p = [] := importsAt_of_ne hr (by simp)
  have hb : globalsAt g src p = [] := globalsAt_of_ne hr (by simp)
  have hc : callAt g src (entryKey g src) p = [] := callAt_of_ne hr (by simp)
  rw [enterImpl]
  cases hi : g.impl src p with
  | none => constructor <;> simp [traitAt, opening?, hr, hi, hm, hb, hc]
  | some i =>
    cases ht : i.traitName <;> constructor <;>
      simp [State.push, traitAt, opening?, hr, hi, ht, hm, hb, hc]

theorem enterImports_entered (hr : roleOf g src p = .imports) :
    Entered g src p s { s with imports := s.imports ++ g.imports src p } where
  functions := rfl
  classes := rfl
  detached := rfl
  traits := by simp [traitAt_of_ne hr]
  imports := by simp [importsAt, hr]
  globals := by simp [globalsAt_of_ne hr]
  calls := by simp [callAt_of_ne hr]

theorem addBindings_entered (h : Around g src s p) (hr : roleOf g src p = .binding) :
    Entered g src p s (s.addBindings g src p) := by
  have hglobals := addBindings_globals h hr
  obtain ⟨frames, globals, hk⟩ : ∃ frames globals,
      s.addBindings g src p = { s with frames, globals } := by
    rw [State.addBindings]
    split <;> exact ⟨_, _, rfl⟩
  rw [hk] at hglobals ⊢
  constructor
  · rfl
  · rfl
  · rfl
  · simp [traitAt_of_ne hr]
  · simp [importsAt_of_ne hr]
  · exact hglobals
  · simp [callAt_of_ne hr]

theorem addCall_entered (h : Around g src s p) (hr : roleOf g src p = .call) :
    Entered g src p s (s.addCall g src p) := by
  have hcalls := addCall_calls h hr
  obtain ⟨calls, hk⟩ : ∃ calls, s.addCall g src p = { s with calls } := by
    rw [State.addCall]
    split <;> exact ⟨_, rfl⟩
  rw [hk] at hcalls ⊢
  constructor
  · rfl
  · rfl
  · rfl
  · simp [traitAt_of_ne hr]
  · simp [importsAt_of_ne hr]
  · simp [globalsAt_of_ne hr]
  · exact hcalls

theorem enterRole_entered (h : Around g src s p) :
    Entered g src p s (enterRole g src s p (roleOf g src p)).2 := by
  cases hr : roleOf g src p with
  | function =>
    refine entered_frames hr (by simp) (by simp) (by simp) (by simp) ?_
    simp only [enterRole, enterFunction]
    split <;> exact ⟨_, rfl⟩
  | classLike =>
    refine entered_frames hr (by simp) (by simp) (by simp) (by simp) ?_
    simp only [enterRole, enterClass]
    split <;> exact ⟨_, rfl⟩
  | impl => exact enterImpl_entered hr
  | imports => exact enterImports_entered hr
  | binding => exact addBindings_entered h hr
  | call => exact addCall_entered h hr
  | branch nests =>
    refine entered_frames hr (by simp) (by simp) (by simp) (by simp) ?_
    simp only [enterRole, enterBranch]
    split <;> exact ⟨_, rfl⟩
  | other => exact entered_frames hr (by simp) (by simp) (by simp) (by simp) ⟨_, rfl⟩

theorem step_enter_entered (h : Around g src s p) :
    Entered g src p s (step g src s (.enter p)) := by
  rcases enter_cases g src s p with ⟨hf, t, ht, he⟩ | ⟨_, t, ht, he⟩
  · have hr : roleOf g src p = .other := by simp [roleOf, hf]
    obtain ⟨_, _, _, _, rfl⟩ := ht
    simp only [step, he]
    split <;> constructor <;>
      simp [traitAt_of_ne hr, importsAt_of_ne hr, globalsAt_of_ne hr, callAt_of_ne hr]
  · have hE := enterRole_entered (around_sameButTallies h ht)
    obtain ⟨_, _, _, _, rfl⟩ := ht
    simp only [step, he]
    exact ⟨hE.functions, hE.classes, hE.detached, hE.traits, hE.imports, hE.globals, hE.calls⟩

variable (g src) in
/-- What is to be undone for a node that opens nothing. -/
inductive PlainExit (p : Place) (s t : State) : Exit → Prop where
  | error (hd : t.errorDepth = s.errorDepth + 1) (hb : branchAt? g src p = none) :
    PlainExit p s t .error
  | nothing (hd : t.errorDepth = s.errorDepth)
    (hb : branchAt? g src p = none ∨ ∀ f rest, s.frames ≠ .function f :: rest) :
    PlainExit p s t .nothing
  | branch {nests : Bool} {f : FunctionFrame} {rest : List Frame}
    (hd : t.errorDepth = s.errorDepth) (hb : branchAt? g src p = some nests)
    (hs : s.frames = .function f :: rest) : PlainExit p s t (.branch nests)

theorem modifyHead_onEntry_eq_self (hb : branchAt? g src p = none) (hf : fieldsAt g src p = [])
    (xs : List Frame) : xs.modifyHead (onEntry g src p) = xs := by
  cases xs with
  | nil => rfl
  | cons x xs => cases x <;> simp [onEntry, hb, hf]

variable (g src) in
/-- Entering a node that opens nothing. -/
structure PlainEntry (p : Place) (s : State) (r : Exit × State) : Prop where
  exits : r.2.exits = s.exits
  frames : r.2.frames = s.frames.modifyHead (onEntry g src p)
  exit : PlainExit g src p s r.2 r.1

theorem plainEntry_quiet (hb : branchAt? g src p = none) (hf : fieldsAt g src p = [])
    (he : t.exits = s.exits) (hfr : t.frames = s.frames) (hd : t.errorDepth = s.errorDepth) :
    PlainEntry g src p s (.nothing, t) where
  exits := he
  frames := by rw [modifyHead_onEntry_eq_self hb hf, hfr]
  exit := .nothing hd (.inl hb)

theorem plainEntry_binding (hr : roleOf g src p = .binding) :
    PlainEntry g src p s (.nothing, s.addBindings g src p) := by
  have hb : branchAt? g src p = none := by simp [branchAt?, hr]
  rw [State.addBindings]
  cases hs : s.frames with
  | nil => exact ⟨rfl, by simp [hs], .nothing rfl (.inl hb)⟩
  | cons x xs =>
    cases x with
    | classLike c =>
      exact ⟨rfl, by simp [hs, onEntry, fieldsAt, bindingsAt, hr], .nothing rfl (.inl hb)⟩
    | impl i => exact ⟨rfl, by simp [hs, onEntry], .nothing rfl (.inl hb)⟩
    | function f => exact ⟨rfl, by simp [hs, onEntry, hb], .nothing rfl (.inl hb)⟩

theorem plainEntry_branch {nests : Bool} (hr : roleOf g src p = .branch nests) :
    PlainEntry g src p s (enterBranch s nests) := by
  have hb : branchAt? g src p = some nests := by simp [branchAt?, hr]
  have hf : fieldsAt g src p = [] := by simp [fieldsAt, bindingsAt, hr]
  rw [enterBranch]
  cases hs : s.frames with
  | nil => exact ⟨rfl, by simp [hs], .nothing rfl (.inr (by simp [hs]))⟩
  | cons x xs =>
    cases x with
    | classLike c => exact ⟨rfl, by simp [hs, onEntry, hf], .nothing rfl (.inr (by simp [hs]))⟩
    | impl i => exact ⟨rfl, by simp [hs, onEntry], .nothing rfl (.inr (by simp [hs]))⟩
    | function f => exact ⟨rfl, by simp [hs, onEntry, hb], .branch rfl hb hs⟩

theorem plainEntry_enterRole (h : opening? g src p = none) :
    PlainEntry g src p s (enterRole g src s p (roleOf g src p)) := by
  have hb : ∀ r, roleOf g src p = r → (∀ nests, r ≠ .branch nests) → branchAt? g src p = none := by
    intro r hr hn
    rw [branchAt?]
    split
    · next nests hr' => exact absurd (hr ▸ hr') (hn nests)
    · rfl
  have hf : ∀ r, roleOf g src p = r → r ≠ .binding → fieldsAt g src p = [] := by
    intro r hr hn
    subst hr
    rw [fieldsAt, bindingsAt]
    split
    · next hr => exact absurd hr hn
    · rfl
  cases hr : roleOf g src p with
  | function =>
    have hn : g.function src p = none := by simpa [opening?, hr] using h
    simp only [enterRole, enterFunction, hn]
    exact plainEntry_quiet (hb _ hr (by simp)) (hf _ hr (by simp)) rfl rfl rfl
  | classLike =>
    have hn : g.classLike src p = none := by simpa [opening?, hr] using h
    simp only [enterRole, enterClass, hn]
    exact plainEntry_quiet (hb _ hr (by simp)) (hf _ hr (by simp)) rfl rfl rfl
  | impl =>
    have hn : g.impl src p = none := by simpa [opening?, hr] using h
    simp only [enterRole, enterImpl, hn]
    exact plainEntry_quiet (hb _ hr (by simp)) (hf _ hr (by simp)) rfl rfl rfl
  | imports => exact plainEntry_quiet (hb _ hr (by simp)) (hf _ hr (by simp)) rfl rfl rfl
  | binding => exact plainEntry_binding hr
  | call =>
    simp only [enterRole, State.addCall]
    split <;> exact plainEntry_quiet (hb _ hr (by simp)) (hf _ hr (by simp)) rfl rfl rfl
  | branch nests => exact plainEntry_branch hr
  | other => exact plainEntry_quiet (hb _ hr (by simp)) (hf _ hr (by simp)) rfl rfl rfl

theorem PlainEntry.of_sameButTallies {r : Exit × State} (h : PlainEntry g src p t r)
    (ht : SameButTallies s t) : PlainEntry g src p s r := by
  obtain ⟨e, u⟩ := r
  obtain ⟨_, _, _, _, rfl⟩ := ht
  obtain ⟨hx, hfr, hp⟩ := h
  refine ⟨hx, hfr, ?_⟩
  cases hp with
  | error hd hb => exact .error hd hb
  | nothing hd hb => exact .nothing hd hb
  | branch hd hb hs => exact .branch hd hb hs

theorem enter_of_none (h : opening? g src p = none) :
    PlainEntry g src p s (enter g src s p) := by
  rcases enter_cases g src s p with ⟨hf, t, ht, he⟩ | ⟨_, t, ht, he⟩
  · have hb : branchAt? g src p = none := by simp [branchAt?, roleOf, hf]
    have hfl : fieldsAt g src p = [] := by simp [fieldsAt, bindingsAt, roleOf, hf]
    obtain ⟨_, _, _, _, rfl⟩ := ht
    rw [he]
    split
    · exact ⟨rfl, by simp [modifyHead_onEntry_eq_self hb hfl], .error rfl hb⟩
    · exact plainEntry_quiet hb hfl rfl rfl rfl
  · rw [he]
    exact (plainEntry_enterRole h).of_sameButTallies ht

def exitOf : Opening → Exit
  | .function _ => .function
  | .classLike _ => .classLike
  | .impl _ => .impl

variable (g src) in
/-- The frame of what a node opens under some frames. -/
def frameOf (frames : List Frame) (p : Place) : Opening → Frame
  | .function h => .function (openFunction g src (attachment frames h) p h)
  | .classLike h => .classLike (openClass g src p h)
  | .impl h => .impl h

/-- Entering a node that opens a declaration or an impl block pushes its frame. -/
theorem enter_of_some (h : opening? g src p = some o) :
    (enter g src s p).1 = exitOf o ∧ (enter g src s p).2.exits = s.exits ∧
      (enter g src s p).2.frames = frameOf g src s.frames p o :: s.frames ∧
      (enter g src s p).2.errorDepth = s.errorDepth := by
  rcases enter_cases g src s p with ⟨hf, _, _, _⟩ | ⟨_, t, ht, he⟩
  · simp [opening?, roleOf, hf] at h
  obtain ⟨_, _, _, _, rfl⟩ := ht
  rw [he]
  rw [opening?] at h
  cases hr : roleOf g src p <;> simp only [hr, Option.map_eq_some_iff, reduceCtorEq] at h
  case function =>
    obtain ⟨i, hi, rfl⟩ := h
    simp [enterRole, enterFunction, hi, State.push, exitOf, frameOf]
  case classLike =>
    obtain ⟨i, hi, rfl⟩ := h
    simp [enterRole, enterClass, hi, State.push, exitOf, frameOf]
  case impl =>
    obtain ⟨i, hi, rfl⟩ := h
    simp [enterRole, enterImpl, hi, State.push, exitOf, frameOf]

/-! ### Leaving a node -/

variable (g src) in
/-- What leaving a node adds. -/
structure Left (p : Place) (s t : State) : Prop where
  functions : t.functions.toList = s.functions.toList ++ topLevelAt g src p
  classes : t.classes.toList = s.classes.toList ++ classAt g src p
  detached : t.detached.toList = s.detached.toList ++ detachedAt g src p
  traits : t.traits = s.traits
  imports : t.imports = s.imports
  globals : t.globals = s.globals
  calls : t.calls = s.calls

theorem left_of_none (h : opening? g src p = none) (exits : List Exit) (frames : List Frame)
    (errorDepth : Nat) : Left g src p s { s with exits, frames, errorDepth } where
  functions := by simp [topLevelAt, functionAs_of_none _ h]
  classes := by simp [classAt, h]
  detached := by simp [detachedAt, functionAs_of_none _ h]
  traits := rfl
  imports := rfl
  globals := rfl
  calls := rfl

theorem onExit_eq_self (hb : branchAt? g src p = none) (x : Frame) : onExit g src p x = x := by
  cases x <;> simp [onExit, hb]

/-- A frame that is no function's has nothing to undo for a branch. -/
theorem onExit_absorbAll {x : Frame} (hx : ∀ f, x ≠ .function f) (ps : List Place) :
    onExit g src p (absorbAll g src ps (onEntry g src p x)) =
      absorbAll g src ps (onEntry g src p x) := by
  cases x with
  | classLike c =>
    rw [onEntry, absorbAll_classLike]
    rfl
  | impl h =>
    rw [onEntry, absorbAll_impl]
    rfl
  | function f => exact absurd rfl (hx f)

theorem leave_of_none {e : Exit} {exits : List Exit} (h : opening? g src p = none)
    (he : PlainExit g src p s t e) (hx : u.exits = e :: exits)
    (hf : u.frames = (s.frames.modifyHead (onEntry g src p)).modifyHead
      (absorbAll g src p.children))
    (hd : u.errorDepth = t.errorDepth) :
    leave g u = { u with
      exits, frames := s.frames.modifyHead (absorb g src p), errorDepth := s.errorDepth } := by
  rw [leave]
  rw [hx]
  cases he with
  | error hd' hb =>
    have : s.frames.modifyHead (absorb g src p) = u.frames := by
      rw [hf]
      cases s.frames with
      | nil => rfl
      | cons x xs => simp [absorb_of_none h, onExit_eq_self hb]
    simp [undo, this, hd, hd']
  | nothing hd' hb =>
    have : s.frames.modifyHead (absorb g src p) = u.frames := by
      rw [hf]
      cases hs : s.frames with
      | nil => rfl
      | cons x xs =>
        rcases hb with hb | hb
        · simp [absorb_of_none h, onExit_eq_self hb]
        · have hx : ∀ f, x ≠ .function f := by
            intro f hxf
            exact hb f xs (by rw [hs, hxf])
          simp [absorb_of_none h, onExit_absorbAll hx]
    simp [undo, this, hd, hd']
  | @branch nests f rest hd' hb hs =>
    have hfr : u.frames = .function (readBodies g src p.children (f.branch nests)) :: rest := by
      rw [hf, hs]
      simp [onEntry, hb, absorbAll_function]
    have : s.frames.modifyHead (absorb g src p) =
        if nests then .function (readBodies g src p.children (f.branch nests)).ascend :: rest
        else u.frames := by
      rw [hs, hfr]
      cases nests <;> simp [absorb, readBody_of_none h, hb]
    cases nests with
    | true => simp [undo, leaveBranch, this, hfr, hd, hd']
    | false => simp [undo, this, hd, hd']

theorem absorb_of_some (h : opening? g src p = some o) (x : Frame) :
    absorb g src p x = match x with
      | .classLike c => .classLike { c with methods := c.methods ++ methodAt g src p }
      | x => x := by
  cases x with
  | classLike c => simp [absorb, region_of_some h, fieldsAt_of_some h]
  | impl i => rfl
  | function f => simp [absorb, readBody_of_some h]

theorem absorb_of_some_of_notMethod (h : opening? g src p = some o) (hm : methodAt g src p = [])
    (xs : List Frame) : xs.modifyHead (absorb g src p) = xs := by
  cases xs with
  | nil => rfl
  | cons x xs => cases x <;> simp [absorb_of_some h, hm]

theorem attachment_method {frames : List Frame} {head : FunctionHead}
    (h : (attachment frames head).1 = .method) : ∃ c rest, frames = .classLike c :: rest := by
  simp only [attachment] at h
  split at h <;> simp_all

variable (g src) in
/-- Leaving a node that has opened something restores the stacks of its entry. -/
structure Closed (p : Place) (s : State) (exits : List Exit) (u t : State) : Prop where
  exits : t.exits = exits
  frames : t.frames = s.frames.modifyHead (absorb g src p)
  errorDepth : t.errorDepth = u.errorDepth
  left : Left g src p u t

/-- A function is filed by what is around its node. -/
theorem closeFunction_closed {head : FunctionHead} (h : opening? g src p = some (.function head))
    (ha : Around g src s p) (hu : u.frames = s.frames)
    (hf : SameFunction (openFunction g src (attachmentAt g src p head) p head) f)
    (hd : f.finished = functionAt g src p head) :
    Closed g src p s u.exits u (u.closeFunction f) := by
  have hat : f.attach = (attachmentAt g src p head).1 := by
    obtain ⟨_, _, _, rfl⟩ := hf
    rfl
  have hc : classAt g src p = [] := by simp [classAt, h]
  rw [State.closeFunction]
  cases hk : (attachmentAt g src p head).1 with
  | topLevel =>
    have hm : methodAt g src p = [] := by simp [methodAt, functionAs, h, hk]
    simp only [hat, hk]
    refine ⟨rfl, by rw [hu, absorb_of_some_of_notMethod h hm], rfl, ?_⟩
    constructor <;> simp [topLevelAt, detachedAt, functionAs, h, hk, hd, hc]
  | method =>
    have hm : methodAt g src p = [functionAt g src p head] := by
      simp [methodAt, functionAs, h, hk]
    rw [← attachment_eq ha] at hk
    obtain ⟨c, rest, hs⟩ := attachment_method hk
    rw [attachment_eq ha] at hk
    simp only [hat, hk, hu, hs]
    refine ⟨rfl, by simp [hs, absorb_of_some h, hm, hd], rfl, ?_⟩
    constructor <;> simp [topLevelAt, detachedAt, functionAs, h, hk, hc]
  | owner name =>
    have hm : methodAt g src p = [] := by simp [methodAt, functionAs, h, hk]
    simp only [hat, hk]
    refine ⟨rfl, by rw [hu, absorb_of_some_of_notMethod h hm], rfl, ?_⟩
    constructor <;> simp [topLevelAt, detachedAt, functionAs, h, hk, hd, hc]

theorem leave_of_some {exits : List Exit} (h : opening? g src p = some o)
    (ha : Around g src s p) (hx : u.exits = exitOf o :: exits)
    (hf : u.frames = absorbAll g src p.children (frameOf g src s.frames p o) :: s.frames) :
    Closed g src p s exits u (leave g u) := by
  rw [leave]
  rw [hx]
  cases o with
  | function i =>
    rw [frameOf, attachment_eq ha, absorbAll_function] at hf
    simp only [exitOf, undo, leaveFunction, hf]
    have hcl := closeFunction_closed (u := { u with exits, frames := s.frames }) h ha rfl
      (sameFunction_readBodies g src p.children _) rfl
    have hl := hcl.left
    exact ⟨hcl.exits, hcl.frames, hcl.errorDepth, hl.functions, hl.classes, hl.detached, hl.traits,
      hl.imports, hl.globals, hl.calls⟩
  | classLike i =>
    have hm : methodAt g src p = [] := by simp [methodAt, functionAs, h]
    rw [frameOf, absorbAll_classLike] at hf
    simp only [exitOf, undo, leaveClass, hf]
    refine ⟨rfl, by rw [absorb_of_some_of_notMethod h hm], rfl, ?_⟩
    constructor <;>
      simp [topLevelAt, detachedAt, functionAs, h, classAt, ownClass, interior, openClass]
  | impl i =>
    have hm : methodAt g src p = [] := by simp [methodAt, functionAs, h]
    simp only [exitOf, undo, hf]
    refine ⟨rfl, by rw [absorb_of_some_of_notMethod h hm]; rfl, rfl, ?_⟩
    constructor <;> simp [topLevelAt, detachedAt, functionAs, h, classAt]

/-! ### Reading a node -/

variable (g src) in
def read (p : Place) (s : State) : State := p.visits.foldl (step g src) s

variable (g src) in
def readAll (ps : List Place) (s : State) : State := ps.foldl (fun s p => read g src p s) s

theorem read_eq (p : Place) (s : State) :
    read g src p s = leave g (readAll g src p.children (step g src s (.enter p))) := by
  rw [read, Place.visits_eq, List.foldl_cons, List.foldl_append, List.foldl_flatMap]
  rfl

theorem run_eq_read (root : Tree) : run g src root = read g src (.root root) {} := by
  rw [run, Place.tour_root, read]

variable (g src) in
/-- Reading some siblings with all below them: functions and classes are filed as their nodes are
left, everything else as the nodes are entered. -/
structure Reads (ps : List Place) (s t : State) : Prop where
  exits : t.exits = s.exits
  errorDepth : t.errorDepth = s.errorDepth
  frames : t.frames = s.frames.modifyHead (absorbAll g src ps)
  functions : t.functions.toList =
    s.functions.toList ++ (ps.flatMap Place.postorder).flatMap (topLevelAt g src)
  classes : t.classes.toList =
    s.classes.toList ++ (ps.flatMap Place.postorder).flatMap (classAt g src)
  detached : t.detached.toList =
    s.detached.toList ++ (ps.flatMap Place.postorder).flatMap (detachedAt g src)
  traits : t.traits.toList =
    s.traits.toList ++ (ps.flatMap Place.subtree).flatMap (traitAt g src)
  imports : t.imports.toList =
    s.imports.toList ++ (ps.flatMap Place.subtree).flatMap (importsAt g src)
  globals : t.globals.toList =
    s.globals.toList ++ (ps.flatMap Place.subtree).flatMap (globalsAt g src)
  calls : t.calls.toList =
    s.calls.toList ++ (ps.flatMap Place.subtree).flatMap (callAt g src (entryKey g src))

theorem reads_nil (s : State) : Reads g src [] s s where
  exits := rfl
  errorDepth := rfl
  frames := by cases s.frames <;> rfl
  functions := by simp
  classes := by simp
  detached := by simp
  traits := by simp
  imports := by simp
  globals := by simp
  calls := by simp

theorem Reads.cons {ps : List Place} (h : Reads g src [p] s t) (h' : Reads g src ps t u) :
    Reads g src (p :: ps) s u where
  exits := h'.exits.trans h.exits
  errorDepth := h'.errorDepth.trans h.errorDepth
  frames := by
    rw [h'.frames, h.frames]
    cases s.frames <;> simp [absorbAll]
  functions := by rw [h'.functions, h.functions]; simp
  classes := by rw [h'.classes, h.classes]; simp
  detached := by rw [h'.detached, h.detached]; simp
  traits := by rw [h'.traits, h.traits]; simp
  imports := by rw [h'.imports, h.imports]; simp
  globals := by rw [h'.globals, h.globals]; simp
  calls := by rw [h'.calls, h.calls]; simp

/-- A node is read by entering it, reading its children and leaving it. -/
theorem Entered.node {v : State} (he : Entered g src p s t) (hc : Reads g src p.children t u)
    (hl : Left g src p u v) (hx : v.exits = s.exits) (hd : v.errorDepth = s.errorDepth)
    (hf : v.frames = s.frames.modifyHead (absorb g src p)) : Reads g src [p] s v where
  exits := hx
  errorDepth := hd
  frames := hf
  functions := by
    rw [hl.functions, hc.functions, he.functions, List.flatMap_singleton, Place.postorder_eq]
    simp
  classes := by
    rw [hl.classes, hc.classes, he.classes, List.flatMap_singleton, Place.postorder_eq]
    simp
  detached := by
    rw [hl.detached, hc.detached, he.detached, List.flatMap_singleton, Place.postorder_eq]
    simp
  traits := by
    rw [hl.traits, hc.traits, he.traits, List.flatMap_singleton, Place.subtree_eq]
    simp
  imports := by
    rw [hl.imports, hc.imports, he.imports, List.flatMap_singleton, Place.subtree_eq]
    simp
  globals := by
    rw [hl.globals, hc.globals, he.globals, List.flatMap_singleton, Place.subtree_eq]
    simp
  calls := by
    rw [hl.calls, hc.calls, he.calls, List.flatMap_singleton, Place.subtree_eq]
    simp

theorem map_mark_modifyHead {k : Frame → Frame} (hk : ∀ x, (k x).mark = x.mark)
    (xs : List Frame) : (xs.modifyHead k).map Frame.mark = xs.map Frame.mark := by
  cases xs <;> simp [hk]

theorem mark_onEntry (p : Place) (x : Frame) : (onEntry g src p x).mark = x.mark := by
  cases x with
  | classLike c => rfl
  | impl h => rfl
  | function f =>
    cases hb : branchAt? g src p with
    | none => simp [onEntry, hb]
    | some nests =>
      obtain ⟨_, _, _, h⟩ := sameFunction_branch f nests
      simp [onEntry, hb, Frame.mark, h]

theorem mark_absorbAll (ps : List Place) (x : Frame) : (absorbAll g src ps x).mark = x.mark := by
  induction ps generalizing x with
  | nil => rfl
  | cons p ps ih => exact (ih (absorb g src p x)).trans (mark_absorb p x)

theorem mark_frameOf (h : Around g src s p) (o : Opening) :
    (frameOf g src s.frames p o).mark = markAt g src (p, o) := by
  cases o with
  | function i =>
    rw [frameOf, attachment_eq h]
    rfl
  | classLike i => rfl
  | impl i => rfl

/-- The frames after a node has been entered stand for what is around its children. -/
theorem around_step_enter (h : Around g src s p) (hq : q ∈ p.children) :
    Around g src (step g src s (.enter p)) q := by
  rw [Around]
  cases ho : opening? g src p with
  | none =>
    have hp := enter_of_none (s := s) ho
    rw [enclosing_child_of_none ho hq, ← h]
    exact (congrArg _ hp.frames).trans (map_mark_modifyHead (mark_onEntry p) _)
  | some o =>
    obtain ⟨-, -, hfr, -⟩ := enter_of_some (s := s) ho
    rw [enclosing_child_of_some ho hq]
    refine (congrArg (List.map Frame.mark) hfr).trans ?_
    rw [List.map_cons, List.map_cons, mark_frameOf h, h]

theorem Reads.around {ps : List Place} (h : Reads g src ps s t) (ha : Around g src s q) :
    Around g src t q := by
  rw [Around, h.frames, map_mark_modifyHead (mark_absorbAll _), ha]

/-- Siblings are read in the same surroundings. -/
theorem reads_siblings {ps : List Place}
    (h : ∀ p ∈ ps, ∀ s, Around g src s p → Reads g src [p] s (read g src p s))
    (hs : ∀ p ∈ ps, Around g src s p) : Reads g src ps s (readAll g src ps s) := by
  induction ps generalizing s with
  | nil => exact reads_nil s
  | cons p ps ih =>
    have hr := h p (by simp) s (hs p (by simp))
    apply hr.cons
    exact ih (fun q hq => h q (by simp [hq])) (fun q hq => hr.around (hs q (by simp [hq])))

/-- Reading a node whose surroundings the frames stand for. -/
theorem reads_read (p : Place) (h : Around g src s p) : Reads g src [p] s (read g src p s) := by
  induction p using Place.children_induction generalizing s with
  | h p ih =>
    rw [read_eq]
    have he := step_enter_entered h
    have hc : Reads g src p.children (step g src s (.enter p))
        (readAll g src p.children (step g src s (.enter p))) :=
      reads_siblings (fun q hq s => ih q hq) fun q hq => around_step_enter h hq
    cases ho : opening? g src p with
    | none =>
      have hp := enter_of_none (s := s) ho
      have hx := hc.exits.trans (congrArg ((enter g src s p).1 :: ·) hp.exits)
      have hf := hc.frames.trans (congrArg _ hp.frames)
      have hl := leave_of_none ho hp.exit hx hf hc.errorDepth
      rw [hl]
      exact he.node hc (left_of_none ho _ _ _) rfl rfl rfl
    | some o =>
      obtain ⟨hx, hes, hfr, hd⟩ := enter_of_some (s := s) ho
      have hx' : (readAll g src p.children (step g src s (.enter p))).exits =
          exitOf o :: s.exits := by
        rw [hc.exits, ← hx, ← hes]
        rfl
      have hf := hc.frames.trans (congrArg _ hfr)
      have hcl := leave_of_some ho h hx' hf
      exact he.node hc hcl.left hcl.exits (hcl.errorDepth.trans (hc.errorDepth.trans hd)) hcl.frames

/-- Reading some of the children of a node that has been entered. -/
theorem reads_children {ps : List Place} (h : Around g src s p) (hps : ps ⊆ p.children) :
    Reads g src ps (step g src s (.enter p)) (readAll g src ps (step g src s (.enter p))) :=
  reads_siblings (fun q _ _ => reads_read q) fun _ hq => around_step_enter h (hps hq)

variable (g src) in
/-- What is known at the end of a walk. -/
theorem reads_run (root : Tree) : Reads g src [.root root] {} (run g src root) := by
  rw [run_eq_read]
  exact reads_read _ rfl

end CodeSurvey.Walk
