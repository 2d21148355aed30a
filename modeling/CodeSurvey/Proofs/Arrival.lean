import CodeSurvey.Proofs.Accounting

/-! The order in which the files of a survey come in shows only among files of one path. -/
namespace CodeSurvey.Surveyor

open Pool (Trace sent)

variable {v w : Surveyor} {files order order' : List Entry} {fetch : Fetch} {s t : Survey}

/-- The ways a survey can go that is not cancelled, with the files in the order in which their
outcomes come in. -/
inductive Arrives (v : Surveyor) (files : List Entry) (fetch : Fetch) :
    List Entry → Survey → Prop where
  | inOrder : Arrives v files fetch (v.pending files) (v.run files fetch .never)
  | pooled {events : List Pool.Event} {p : Pool}
      (h : Trace v fetch (v.start files) events p) (hd : p.Drained) (hc : .cancel ∉ events) :
      Arrives v files fetch (sent events) (v.pooled files p)

theorem Arrives.collected (h : v.Arrives files fetch order s) :
    order.Perm (v.pending files) ∧
      s = Survey.collect files.length (v.skips files) (order.map (v.process fetch)) false := by
  cases h with
  | inOrder => exact ⟨.rfl, run_never files⟩
  | pooled h hd hc => exact pooled_eq_collect h hd hc

theorem Arrives.completes (h : v.Arrives files fetch order s) : v.Completes files fetch s := by
  cases h with
  | inOrder => exact completes_run v files fetch
  | pooled h hd hc =>
    refine ⟨_, .pooled h hd, ?_⟩
    rintro e ⟨before, after, rfl, hb⟩
    exact hc (List.mem_append_left _ hb)

theorem exists_arrives (fetch : Fetch) (hp : 0 < v.parallelism)
    (horder : order.Perm (v.pending files)) : ∃ s, v.Arrives files fetch order s := by
  obtain ⟨events, p, htrace, hd, hc, rfl⟩ := Pool.exists_sent fetch hp horder []
  exact ⟨_, .pooled htrace hd hc⟩

/-- Records that come in sorted stay in their order. -/
theorem Arrives.records_of_sorted (h : v.Arrives files fetch order s) {rs : List FileRecord}
    (hrs : order.map (v.process fetch) = rs.map .ok)
    (hsorted : rs.Pairwise fun a b => a.path ≤ b.path) : s.records = rs := by
  obtain ⟨-, rfl⟩ := h.collected
  have hrecords : Survey.recordsOf (rs.map .ok) = rs := by
    rw [Survey.recordsOf, List.filterMap_map]
    exact List.filterMap_some
  rw [Survey.records_collect, hrs, hrecords]
  exact List.mergeSort_of_pairwise (by simpa using hsorted)

/-- Files come in in step if those of each path that counts come in in the same order. -/
def InStep (v w : Surveyor) (files : List Entry) (fetch : Fetch) (counts : String → Bool)
    (s t : Survey) : Prop :=
  ∃ order order', v.Arrives files fetch order s ∧ w.Arrives files fetch order' t ∧
    ∀ path, counts path = true →
      order.filter (·.path = path) = order'.filter (·.path = path)

/-! ### What comes of the files of a path -/

theorem filter_filterMap_process {β : Type} {select : Outcome → Option β} {key : β → String}
    (hkey : ∀ e b, select (v.process fetch e) = some b → key b = e.path) (es : List Entry)
    (path : String) :
    ((es.map (v.process fetch)).filterMap select).filter (key · = path) =
      ((es.filter (·.path = path)).map (v.process fetch)).filterMap select := by
  rw [List.filterMap_map, List.filter_filterMap, List.filterMap_map, List.filterMap_filter]
  apply List.filterMap_congr
  intro e _
  cases hb : select (v.process fetch e) with
  | none => simp [hb]
  | some b => simp [hb, hkey e b hb, Option.filter]

theorem filter_errorsOf (v : Surveyor) (fetch : Fetch) (es : List Entry) (path : String) :
    (Survey.errorsOf (es.map (v.process fetch))).filter (·.path = path) =
      Survey.errorsOf ((es.filter (·.path = path)).map (v.process fetch)) := by
  apply filter_filterMap_process
  intro e x hx
  cases hp : v.process fetch e with
  | ok r => rw [hp] at hx; cases hx
  | error y =>
    rw [hp] at hx
    cases hx
    exact path_of_process_error hp

theorem filter_recordsOf (hk : v.registry.KeepsPaths) (fetch : Fetch) (es : List Entry)
    (path : String) :
    (Survey.recordsOf (es.map (v.process fetch))).filter (·.path = path) =
      Survey.recordsOf ((es.filter (·.path = path)).map (v.process fetch)) := by
  apply filter_filterMap_process
  intro e r hr
  cases hp : v.process fetch e with
  | error x => rw [hp] at hr; cases hr
  | ok r' =>
    rw [hp] at hr
    cases hr
    exact path_of_process_ok hk hp

end CodeSurvey.Surveyor
