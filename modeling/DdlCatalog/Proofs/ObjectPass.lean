import Mathlib
import DdlCatalog.Proofs.Recording
import DdlCatalog.Proofs.Steps
import DdlCatalog.Proofs.UniqueNames.Catalog
/-!
The object phase of the resolution pass. Every object reference recorded since the last pass is
taken once: it is run when its turn comes in a round and it does not wait for a copy, or dropped
when the table its `LIKE` copy fills is gone. A `LIKE` copy waits while another reference not
taken yet fills its source. When a round takes nothing, every reference left waits for another
one left, so each of them leads into a cycle of copies; they are reported as circular and run as
they stand. Running a reference carries out its binding exactly when its name resolves at that
moment.

A `LIKE` copy of its own table does not wait for itself: it is run in the first round, and
nothing reports it.
-/

namespace DdlCatalog.Analysis

open DdlCatalog.Catalog

namespace Analyze

theorem run_bind {α β : Type} (m : Analyze α) (f : α → Analyze β) (a : Analyzer) :
    (m >>= f).run a = (f (m.run a).1).run (m.run a).2 := rfl

theorem run_pure {α : Type} (x : α) (a : Analyzer) : (pure x : Analyze α).run a = (x, a) := rfl

/-- The handle the name of an object reference resolves to in state `a`. -/
def lookupAt (a : Analyzer) (r : ObjectRef) : Option Nat := ((lookupObject r).run a).1

theorem lookupObject_run (r : ObjectRef) (a : Analyzer) :
    (lookupObject r).run a = (lookupAt a r, a) := by
  unfold lookupAt lookupObject
  cases r.target <;> rfl

/-- In state `a`, the reference `y` fills the source of the `LIKE` reference `x`: the name `x`
copies from resolves to the table `y` defines, which is not the table `x` defines. -/
def Fills (a : Analyzer) (x y : Nat × ObjectRef) : Prop :=
  y.1 ≠ x.1 ∧ ∃ t src, x.2.defines = some t ∧ lookupAt a x.2 = some src ∧ src ≠ t ∧
    y.2.defines = some src

/-- A `LIKE` reference waits while a reference not taken yet fills its source. -/
def Waits (all : List (Nat × ObjectRef)) (done : List Nat) (a : Analyzer) (x : Nat × ObjectRef) :
    Prop :=
  ∃ y ∈ all, y.1 ∉ done ∧ Fills a x y

theorem waitsForCopy_run (all : List (Nat × ObjectRef)) (done : List Nat) (i : Nat)
    (r : ObjectRef) (a : Analyzer) :
    ((waitsForCopy all done i r).run a).2 = a ∧
      (((waitsForCopy all done i r).run a).1 = true ↔ Waits all done a (i, r)) := by
  unfold waitsForCopy
  cases defines : r.defines with
  | none =>
    simp only [run_pure, true_and]
    simp [Waits, Fills, defines]
  | some t =>
    simp only [run_bind, lookupObject_run]
    cases found : lookupAt a r with
    | none =>
      simp only [run_pure, true_and]
      simp [Waits, Fills, defines, found]
    | some src =>
      by_cases own : src = t
      · have same : (src == t) = true := beq_iff_eq.mpr own
        simp only [same, if_true, run_pure, true_and]
        simp [Waits, Fills, defines, found, own]
      · have differ : (src == t) = false := beq_eq_false_iff_ne.mpr own
        simp only [differ, Bool.false_eq_true, if_false, run_pure, true_and]
        simp only [List.any_eq_true, Bool.and_eq_true, bne_iff_ne, ne_eq, Bool.not_eq_true',
          List.contains_eq_mem, decide_eq_false_iff_not, beq_iff_eq, Waits, Fills, defines, found,
          Option.some.injEq, exists_and_left, exists_eq_left', own, not_false_eq_true, true_and]
        constructor
        · rintro ⟨y, listed, ⟨other, pending⟩, fills⟩
          exact ⟨y, listed, pending, other, fills⟩
        · rintro ⟨y, listed, pending, other, fills⟩
          exact ⟨y, listed, ⟨other, pending⟩, fills⟩

/-- Running one object reference: when its name resolves, the binding is carried out on the
object found; otherwise the state stays as it is. -/
inductive RunsOne (r : ObjectRef) : Analyzer → Analyzer → Prop
  | found {a : Analyzer} {x : Nat} : lookupAt a r = some x → RunsOne r a ((bind r x).run a).2
  | missing {a : Analyzer} : lookupAt a r = none → RunsOne r a a

theorem resolveObject_runs (r : ObjectRef) (a : Analyzer) :
    RunsOne r a ((resolveObject r).run a).2 := by
  unfold resolveObject
  simp only [run_bind, lookupObject_run]
  cases found : lookupAt a r with
  | none => exact RunsOne.missing found
  | some x =>
    simp only [run_bind, run_pure]
    exact RunsOne.found found

/-- The table the `LIKE` copy of `r` fills is no longer in the catalog. -/
def CopyTargetGone (a : Analyzer) (r : ObjectRef) : Prop :=
  ∃ t, r.defines = some t ∧ a.catalog.hasTable t = false

/-- `RunsWhenReady all done a xs b`: from state `a`, with the references at the positions `done`
taken, the references `xs` are taken one after another and the state ends as `b`. Each is not
taken yet and does not wait for a copy when its turn comes; it is then run, or dropped when the
table it fills is gone. -/
inductive RunsWhenReady (all : List (Nat × ObjectRef)) :
    List Nat → Analyzer → List (Nat × ObjectRef) → Analyzer → Prop
  | nil {done : List Nat} {a : Analyzer} : RunsWhenReady all done a [] a
  | run {done : List Nat} {a b c : Analyzer} {x : Nat × ObjectRef} {rest : List (Nat × ObjectRef)} :
      x.1 ∉ done → ¬ Waits all done a x → ¬ CopyTargetGone a x.2 → RunsOne x.2 a b →
      RunsWhenReady all (x.1 :: done) b rest c → RunsWhenReady all done a (x :: rest) c
  | drop {done : List Nat} {a c : Analyzer} {x : Nat × ObjectRef} {rest : List (Nat × ObjectRef)} :
      x.1 ∉ done → ¬ Waits all done a x → CopyTargetGone a x.2 →
      RunsWhenReady all (x.1 :: done) a rest c → RunsWhenReady all done a (x :: rest) c

namespace RunsWhenReady

variable {all : List (Nat × ObjectRef)} {done : List Nat} {a b c : Analyzer}
  {xs ys : List (Nat × ObjectRef)}

theorem nil_state (ready : RunsWhenReady all done a [] b) : b = a := by
  cases ready
  rfl

theorem append (first : RunsWhenReady all done a xs b)
    (second : RunsWhenReady all ((xs.map Prod.fst).reverse ++ done) b ys c) :
    RunsWhenReady all done a (xs ++ ys) c := by
  induction first with
  | nil => exact second
  | run fresh idle present runs _ ih =>
    exact RunsWhenReady.run fresh idle present runs (ih (by simpa using second))
  | drop fresh idle gone _ ih =>
    exact RunsWhenReady.drop fresh idle gone (ih (by simpa using second))

/-- No reference is taken twice. -/
theorem nodup (ready : RunsWhenReady all done a xs b) (distinct : done.Nodup) :
    ((xs.map Prod.fst).reverse ++ done).Nodup := by
  induction ready with
  | nil => exact distinct
  | run fresh _ _ _ _ ih => simpa using ih (List.nodup_cons.mpr ⟨fresh, distinct⟩)
  | drop fresh _ _ _ ih => simpa using ih (List.nodup_cons.mpr ⟨fresh, distinct⟩)

end RunsWhenReady

/-- One round takes, in order, some of the references it scans; it reports progress exactly
when it takes one, and when it takes none every reference it scans that is not taken waits. -/
theorem objectRound_takes (all rs : List (Nat × ObjectRef)) (done : List Nat)
    (errs : List ResolutionError) (a : Analyzer) :
    ∃ ran, ran.Sublist rs ∧ RunsWhenReady all done a ran ((objectRound all rs done errs).run a).2 ∧
      ((objectRound all rs done errs).run a).1.2.1 = (ran.map Prod.fst).reverse ++ done ∧
      (((objectRound all rs done errs).run a).1.1 = false ↔ ran = []) ∧
      (((objectRound all rs done errs).run a).1.1 = false →
        ∀ x ∈ rs, x.1 ∉ done → Waits all done a x) := by
  induction rs generalizing done errs a with
  | nil =>
    refine ⟨[], List.Sublist.slnil, RunsWhenReady.nil, rfl, ?_, fun _ => by simp⟩
    rw [objectRound, run_pure]
    simp
  | cons x rest ih =>
    obtain ⟨i, r⟩ := x
    obtain ⟨unchanged, waits⟩ := waitsForCopy_run all done i r a
    rw [objectRound]
    simp only [run_bind, unchanged]
    by_cases skipped : (done.contains i || ((waitsForCopy all done i r).run a).1) = true
    · rw [if_pos skipped]
      obtain ⟨ran, sub, ready, taken, progress, idle⟩ := ih done errs a
      refine ⟨ran, sub.cons _, ready, taken, progress, fun stalled x listed pending => ?_⟩
      rcases List.mem_cons.mp listed with rfl | later
      · simp only [Bool.or_eq_true, List.contains_eq_mem, decide_eq_true_eq, pending, false_or]
          at skipped
        exact waits.mp skipped
      · exact idle stalled x later pending
    · rw [if_neg skipped]
      simp only [Bool.or_eq_true, List.contains_eq_mem, decide_eq_true_eq, not_or] at skipped
      obtain ⟨fresh, ready⟩ := skipped
      have idle : ¬ Waits all done a (i, r) := fun waiting => ready (waits.mpr waiting)
      simp only [run_bind]
      -- the copy is dropped when the table it fills is gone, and run otherwise
      split_ifs with dropped
      · have gone : CopyTargetGone a r := by
          rcases defines : r.defines with _ | t
          · simp [defines] at dropped
          · exact ⟨t, defines, by simpa [defines] using dropped⟩
        simp only [run_bind, run_pure, catalog_run]
        obtain ⟨ran, sub, rest_ready, taken, -⟩ := ih (i :: done) errs a
        exact ⟨(i, r) :: ran, sub.cons_cons _, RunsWhenReady.drop fresh idle gone rest_ready,
          by simp [taken], by simp, fun progress => by simp at progress⟩
      · have present : ¬ CopyTargetGone a r := by
          rintro ⟨t, defines, absent⟩
          simp [defines, absent] at dropped
        simp only [run_bind, run_pure, catalog_run]
        obtain ⟨ran, sub, rest_ready, taken, -⟩ :=
          ih (i :: done) (errs ++ ((resolveObject r).run a).1.toList) ((resolveObject r).run a).2
        exact ⟨(i, r) :: ran, sub.cons_cons _,
          RunsWhenReady.run fresh idle present (resolveObject_runs r a) rest_ready,
          by simp [taken], by simp, fun progress => by simp at progress⟩

/-- The rounds end at a fixpoint and not for lack of fuel: with more rounds left than references
not taken, every productive round takes a new one, so the last round takes none and every
reference left waits. -/
theorem objectRounds_takes (all : List (Nat × ObjectRef)) (fuel : Nat) (done : List Nat)
    (errs : List ResolutionError) (a : Analyzer) (distinct : done.Nodup)
    (within : done ⊆ all.map Prod.fst) (enough : all.length < fuel + done.length) :
    ∃ ran, (∀ x ∈ ran, x ∈ all) ∧
      RunsWhenReady all done a ran ((objectRounds all fuel done errs).run a).2 ∧
      ((objectRounds all fuel done errs).run a).1.1 = (ran.map Prod.fst).reverse ++ done ∧
      ∀ x ∈ all, x.1 ∉ ((objectRounds all fuel done errs).run a).1.1 →
        Waits all ((objectRounds all fuel done errs).run a).1.1
          ((objectRounds all fuel done errs).run a).2 x := by
  induction fuel generalizing done errs a with
  | zero =>
    have bound := distinct.length_le_of_subset within
    simp only [List.length_map] at bound
    omega
  | succ fuel ih =>
    rw [objectRounds]
    simp only [run_bind]
    obtain ⟨ran, sub, ready, taken, progress, idle⟩ := objectRound_takes all all done errs a
    by_cases productive : ((objectRound all all done errs).run a).1.1 = true
    · rw [if_pos productive]
      have nonempty : ran ≠ [] := fun empty => by simp [progress.mpr empty] at productive
      have grown : all.length < fuel + ((objectRound all all done errs).run a).1.2.1.length := by
        have : 0 < ran.length := List.length_pos_iff.mpr nonempty
        simp only [taken, List.length_append, List.length_reverse, List.length_map]
        omega
      have listed : ((objectRound all all done errs).run a).1.2.1 ⊆ all.map Prod.fst := by
        rw [taken]
        intro i mem
        rcases List.mem_append.mp mem with fromRan | fromDone
        · obtain ⟨x, member, rfl⟩ := List.mem_map.mp (List.mem_reverse.mp fromRan)
          exact List.mem_map_of_mem (sub.subset member)
        · exact within fromDone
      obtain ⟨more, inAll, rest_ready, rest_taken, stalled⟩ :=
        ih _ ((objectRound all all done errs).run a).1.2.2 _ (taken ▸ ready.nodup distinct) listed
          grown
      refine ⟨ran ++ more, fun x mem => ?_, ready.append (taken ▸ rest_ready), ?_, stalled⟩
      · rcases List.mem_append.mp mem with early | late
        · exact sub.subset early
        · exact inAll x late
      · rw [rest_taken, taken]
        simp
    · rw [if_neg productive]
      simp only [Bool.not_eq_true] at productive
      obtain rfl := progress.mp productive
      rw [ready.nil_state]
      simp only [run_pure, taken, List.map_nil, List.reverse_nil, List.nil_append]
      exact ⟨[], by simp, RunsWhenReady.nil, rfl, idle productive⟩

/-- The object references recorded, with their positions among all references. -/
def objectRefsAt (a : Analyzer) : List (Nat × ObjectRef) := (objectRefs.run a).1

theorem objectRefs_run (a : Analyzer) : objectRefs.run a = (objectRefsAt a, a) := rfl

/-- Two object references never share a position. -/
theorem objectRefsAt_positions (a : Analyzer) : ((objectRefsAt a).map Prod.fst).Nodup := by
  have positions : a.refs.toList.zipIdx.Pairwise fun p q => p.2 ≠ q.2 := by
    apply List.pairwise_map.mp
    rw [List.zipIdx_map_snd, ← List.nodup_iff_pairwise_ne]
    exact List.nodup_range'
  rw [List.nodup_iff_pairwise_ne, List.pairwise_map]
  unfold objectRefsAt objectRefs
  simp only [run_bind, run_pure]
  refine positions.filterMap _ fun p q differ x kept y other => ?_
  obtain ⟨r, i⟩ := p
  obtain ⟨s, j⟩ := q
  cases r <;> cases s <;> simp only [Option.some.injEq, reduceCtorEq] at kept other
  subst kept other
  exact differ

/-- `b` is `a` with one more diagnostic, a `CircularLike` error on the owner of `r`, and nothing
else changed but the log. -/
structure ReportsCircular (r : ObjectRef) (a b : Analyzer) : Prop where
  records : Records a b
  reported : ∃ message pos,
    b.diagnostics = a.diagnostics.push ⟨.error, .circularLike, r.ownerName, message, pos⟩

theorem report_circular (r : ObjectRef) (message : String) (pos : Sql.Position) (a : Analyzer) :
    ReportsCircular r a ((report .error .circularLike r.ownerName pos message).run a).2 :=
  ⟨report_recording _ _ _ _ _ a, message, pos, rfl⟩

/-- `RunsAsCircular a xs b`: from state `a`, each reference of `xs` in turn is reported as
circular and then run, and the state ends as `b`. -/
inductive RunsAsCircular : Analyzer → List (Nat × ObjectRef) → Analyzer → Prop
  | nil {a : Analyzer} : RunsAsCircular a [] a
  | run {a b c d : Analyzer} {x : Nat × ObjectRef} {rest : List (Nat × ObjectRef)} :
      ReportsCircular x.2 a b → RunsOne x.2 b c → RunsAsCircular c rest d →
      RunsAsCircular a (x :: rest) d

/-- A loop whose every round reports and runs a reference not taken, and passes over one
taken, runs the references not taken as circular, in order. -/
theorem forIn_runsAsCircular (done : List Nat)
    (body : Nat × ObjectRef → List ResolutionError → Analyze (ForInStep (List ResolutionError)))
    (each : ∀ x errs a, ∃ errs', ((body x errs).run a).1 = .yield errs' ∧
      if x.1 ∈ done then ((body x errs).run a).2 = a
      else ∃ b, ReportsCircular x.2 a b ∧ RunsOne x.2 b ((body x errs).run a).2)
    (xs : List (Nat × ObjectRef)) (errs : List ResolutionError) (a : Analyzer) :
    RunsAsCircular a (xs.filter (·.1 ∉ done)) ((forIn xs errs body).run a).2 := by
  induction xs generalizing errs a with
  | nil => exact RunsAsCircular.nil
  | cons x rest ih =>
    obtain ⟨errs', yields, round⟩ := each x errs a
    rw [List.forIn_cons, run_bind, yields]
    by_cases taken : x.1 ∈ done
    · rw [if_pos taken] at round
      rw [List.filter_cons_of_neg (by simpa using taken), round]
      exact ih errs' a
    · rw [if_neg taken] at round
      obtain ⟨b, reports, runs⟩ := round
      rw [List.filter_cons_of_pos (by simpa using taken)]
      exact RunsAsCircular.run reports runs (ih errs' _)

end Analyze

/-- In a finite set where every member has a successor in the set, following successors from any
member reaches a cycle. -/
theorem reaches_cycle_of_successors {α : Type} {R : α → α → Prop} {l : List α}
    (succ : ∀ x ∈ l, ∃ y ∈ l, R x y) {x : α} (listed : x ∈ l) :
    ∃ y, Relation.ReflTransGen R x y ∧ Relation.TransGen R y y := by
  classical
  choose f next using fun (z : {z // z ∈ l}) => succ z.1 z.2
  -- the walk stays in `l`, so two of its points meet
  let walk : Nat → {z // z ∈ l} := fun n => (fun z => ⟨f z, (next z).1⟩)^[n] ⟨x, listed⟩
  have step : ∀ n, R (walk n).1 (walk (n + 1)).1 := fun n => by
    simp only [walk, Function.iterate_succ_apply']
    exact (next _).2
  have reach : ∀ n, Relation.ReflTransGen R x (walk n).1 := fun n => by
    induction n with
    | zero => exact Relation.ReflTransGen.refl
    | succ n ih => exact ih.tail (step n)
  have along : ∀ m k, Relation.TransGen R (walk m).1 (walk (m + k + 1)).1 := fun m k => by
    induction k with
    | zero => exact Relation.TransGen.single (step m)
    | succ k ih => exact ih.tail (step (m + k + 1))
  obtain ⟨i, j, differ, same⟩ := Finite.exists_ne_map_eq_of_infinite walk
  rcases Nat.lt_or_gt_of_ne differ with before | after
  · refine ⟨(walk i).1, reach i, ?_⟩
    have cycle := along i (j - i - 1)
    rwa [show i + (j - i - 1) + 1 = j by omega, ← same] at cycle
  · refine ⟨(walk j).1, reach j, ?_⟩
    have cycle := along j (i - j - 1)
    rwa [show j + (i - j - 1) + 1 = i by omega, same] at cycle

open Analyze in
/-- The object phase takes every object reference exactly once. Those taken in the rounds run
when their turn comes and they do not wait for a copy: no `LIKE` copy runs while a reference not
taken fills its source. When no more can be taken, every reference left waits for another one
left, so its chain of sources leads into a cycle of copies; these, and only these, are reported
as circular, and then run as they stand. A reference runs by binding exactly when its name
resolves at that moment. -/
theorem resolveObjects_runs_once_in_copy_order (a : Analyzer) :
    ∃ ran left mid,
      (ran ++ left).Perm (objectRefsAt a) ∧
      RunsWhenReady (objectRefsAt a) [] a ran mid ∧
      (∀ x ∈ left, ∃ y ∈ left, Fills mid x y) ∧
      (∀ x ∈ left, ∃ y, Relation.ReflTransGen (Fills mid) x y ∧ Relation.TransGen (Fills mid) y y) ∧
      RunsAsCircular mid left (resolveObjects.run a).2 := by
  unfold resolveObjects
  simp only [run_bind, objectRefs_run, run_pure]
  obtain ⟨ran, inAll, ready, taken, stalled⟩ := objectRounds_takes (objectRefsAt a)
    ((objectRefsAt a).length + 1) [] [] a List.nodup_nil (List.nil_subset _) (by simp)
  have distinct := objectRefsAt_positions a
  generalize (objectRefsAt a) = all at *
  generalize (objectRounds all (all.length + 1) [] []).run a = out at *
  obtain ⟨⟨done, errs⟩, mid⟩ := out
  simp only [List.append_nil] at taken
  dsimp only at taken stalled ready ⊢
  -- the references left are those the rounds did not take, each waiting for another one left
  have blocked : ∀ x ∈ all.filter (fun x => decide (x.1 ∉ done)),
      ∃ y ∈ all.filter (fun x => decide (x.1 ∉ done)), Fills mid x y := by
    intro x left
    obtain ⟨listed, pending⟩ := List.mem_filter.mp left
    obtain ⟨y, yListed, yPending, fills⟩ := stalled x listed (by simpa using pending)
    exact ⟨y, List.mem_filter.mpr ⟨yListed, by simpa using yPending⟩, fills⟩
  refine ⟨ran, all.filter (fun x => decide (x.1 ∉ done)), mid, ?_, ready, blocked,
    fun x left => reaches_cycle_of_successors blocked left,
    forIn_runsAsCircular done _ ?_ all errs mid⟩
  · have ranDistinct : (ran.map Prod.fst).Nodup := by
      simpa using ready.nodup List.nodup_nil
    have allDistinct : all.Nodup := distinct.of_map _
    refine (List.perm_ext_iff_of_nodup ?_ allDistinct).mpr fun x => ⟨fun mem => ?_, fun mem => ?_⟩
    · rw [List.nodup_append]
      refine ⟨ranDistinct.of_map _, allDistinct.filter _, fun y yRan z zLeft same => ?_⟩
      have pending := (List.mem_filter.mp zLeft).2
      rw [← same, taken] at pending
      simp only [List.mem_reverse, decide_not, Bool.not_eq_eq_eq_not, Bool.not_true,
        decide_eq_false_iff_not] at pending
      exact pending (List.mem_map_of_mem yRan)
    · rcases List.mem_append.mp mem with early | left
      · exact inAll x early
      · exact (List.mem_filter.mp left).1
    · by_cases inDone : x.1 ∈ done
      · rw [taken, List.mem_reverse] at inDone
        obtain ⟨y, yRan, same⟩ := List.mem_map.mp inDone
        rw [← List.inj_on_of_nodup_map distinct (inAll y yRan) mem same]
        exact List.mem_append_left _ yRan
      · exact List.mem_append_right _ (List.mem_filter.mpr ⟨mem, by simpa using inDone⟩)
  · intro x errs' m
    by_cases inDone : x.1 ∈ done
    · have skip : (!done.contains x.1) = false := by simpa using inDone
      simp only [skip, Bool.false_eq_true, if_false, if_pos inDone]
      exact ⟨errs', rfl, rfl⟩
    · have go : (!done.contains x.1) = true := by simpa using inDone
      simp only [go, if_true, if_neg inDone, run_bind]
      split <;> exact ⟨_, rfl, _, report_circular _ _ _ _, resolveObject_runs _ _⟩

/-- A table copied `LIKE` itself is not a cycle: its copy does not wait for itself, and the pass
reports nothing. -/
theorem self_like_copy_is_not_circular :
    let u := (AnalysisUnit.new "u" (Catalog.new {}) {}).run [.script "CREATE TABLE a LIKE a;", .finish]
    u.catalog.tables.map (fun t => (t.name, t.likeTable)) = [("a", "a")] ∧ u.diagnostics = [] := by
  set_option maxRecDepth 100000 in decide +kernel

end DdlCatalog.Analysis
