import DdlCatalog.Analysis.Unit
/-!
Specifications of analysis steps. `Spec pre m post` says that running `m` from a state where
`pre` holds ends with a result and a state where `post` holds. A statement is a long sequence of
small steps, so its specification is put together from those of its steps by the rules below;
a loop is specified by an invariant of its accumulator.

Most steps only record: a diagnostic, a log record, a handle or an account. `Records a b` says
that `b` differs from `a` at most in what recording changes, and `Recording m` that every run of
`m` only records. Properties of the object tree survive such steps unchanged.
-/

namespace DdlCatalog.Analysis

open DdlCatalog.Catalog

/-- Running `m` from a state where `pre` holds gives a result and a state where `post` holds. -/
def Spec {α : Type} (pre : Analyzer → Prop) (m : Analyze α) (post : α → Analyzer → Prop) : Prop :=
  ∀ a, pre a → post (m.run a).1 (m.run a).2

namespace Spec

variable {α β : Type} {pre : Analyzer → Prop} {post : α → Analyzer → Prop}

theorem of_pure {x : α} (holds : ∀ a, pre a → post x a) : Spec pre (pure x) post := holds

theorem pure_keep {x : α} : Spec pre (pure x) fun _ => pre := fun _ holds => holds

/-- A fact that every state of the precondition gives can be used throughout. -/
theorem of_pre_fact {p : Prop} {m : Analyze α} (fact : ∀ a, pre a → p) (spec : p → Spec pre m post) :
    Spec pre m post :=
  fun a start => spec (fact a start) a start

/-- A fact that does not depend on the state can be taken out of the precondition. -/
theorem of_fact {p : Prop} {m : Analyze α} (spec : p → Spec pre m post) :
    Spec (fun a => p ∧ pre a) m post :=
  fun a start => spec start.1 a start.2

theorem bind {m : Analyze α} {f : α → Analyze β} {mid : α → Analyzer → Prop}
    {post : β → Analyzer → Prop} (first : Spec pre m mid) (rest : ∀ x, Spec (mid x) (f x) post) :
    Spec pre (m >>= f) post :=
  fun a start => rest _ _ (first a start)

theorem conseq {pre' : Analyzer → Prop} {post' : α → Analyzer → Prop} {m : Analyze α}
    (spec : Spec pre' m post') (weaker : ∀ a, pre a → pre' a)
    (stronger : ∀ x a, post' x a → post x a) : Spec pre m post :=
  fun a start => stronger _ _ (spec a (weaker a start))

theorem of_modify {f : Analyzer → Analyzer} {post : Unit → Analyzer → Prop}
    (holds : ∀ a, pre a → post () (f a)) : Spec pre (modify f) post := holds

/-- A change of the state followed by the rest: the rest starts from what the change leaves. -/
theorem modify_bind {f : Analyzer → Analyzer} {g : Unit → Analyze β} {post : β → Analyzer → Prop}
    (mid : Analyzer → Prop) (holds : ∀ a, pre a → mid (f a)) (rest : Spec mid (g ()) post) :
    Spec pre (modify f >>= g) post :=
  fun a start => rest (f a) (holds a start)

theorem of_get {post : Analyzer → Analyzer → Prop} (holds : ∀ a, pre a → post a a) :
    Spec pre get post := holds

theorem of_modifyGet {f : Analyzer → α × Analyzer} (holds : ∀ a, pre a → post (f a).1 (f a).2) :
    Spec pre (modifyGet f) post := holds

/-- Both branches of a conditional go on the same way. -/
theorem ite_bind {c : Prop} [Decidable c] {m₁ m₂ : Analyze α} {f : α → Analyze β}
    {mid : α → Analyzer → Prop} {post : β → Analyzer → Prop}
    (first : Spec pre (if c then m₁ else m₂) mid) (rest : ∀ x, Spec (mid x) (f x) post) :
    Spec pre (if c then m₁ >>= f else m₂ >>= f) post := by
  by_cases holds : c
  · rw [if_pos holds] at first ⊢
    exact bind first rest
  · rw [if_neg holds] at first ⊢
    exact bind first rest

/-- A step that leaves the settings alone keeps every fact about them. -/
theorem frame_options {m : Analyze α} (spec : Spec pre m post)
    (keeps : ∀ a, (m.run a).2.options = a.options) (p : Options → Prop) :
    Spec (fun a => pre a ∧ p a.options) m fun x a => post x a ∧ p a.options :=
  fun a start => ⟨spec a start.1, (keeps a).symm ▸ start.2⟩

/-- A loop keeps an invariant of its accumulator that every round keeps. -/
theorem forIn {xs : List β} {init : α} {f : β → α → Analyze (ForInStep α)}
    (inv : α → Analyzer → Prop)
    (round : ∀ x ∈ xs, ∀ acc, Spec (inv acc) (f x acc) fun r => inv r.value) :
    Spec (inv init) (ForIn.forIn xs init f) inv := by
  induction xs generalizing init with
  | nil => exact fun a start => start
  | cons x rest ih =>
    rw [List.forIn_cons]
    refine bind (round x List.mem_cons_self init) fun r => ?_
    cases r with
    | done acc => exact of_pure fun _ holds => holds
    | yield acc => exact ih (fun y mem => round y (List.mem_cons_of_mem _ mem))

/-- A loop keeps an invariant of the elements run so far and its accumulator. -/
theorem forIn_prefix {xs : List β} {init : α} {f : β → α → Analyze (ForInStep α)}
    (inv : List β → α → Analyzer → Prop)
    (round : ∀ pre x post, xs = pre ++ x :: post → ∀ acc, Spec (inv pre acc) (f x acc)
      fun r => inv (match r with | .yield _ => pre ++ [x] | .done _ => xs) r.value) :
    Spec (inv [] init) (ForIn.forIn xs init f) (inv xs) := by
  -- the prefix run so far grows from `[]`; the loop runs over the rest
  suffices rest : ∀ rest pre init, xs = pre ++ rest →
      Spec (inv pre init) (ForIn.forIn rest init f) (inv xs) from
    rest xs [] init rfl
  intro rest
  induction rest with
  | nil =>
    intro pre init split a start
    rw [List.append_nil] at split
    rw [split]
    exact start
  | cons x rest ih =>
    intro pre init split
    rw [List.forIn_cons]
    refine bind (round pre x rest split init) fun r => ?_
    cases r with
    | done acc => exact of_pure fun _ holds => holds
    | yield acc => exact ih (pre ++ [x]) acc (by simp [split])

end Spec

/-- `b` differs from `a` at most in what recording changes: diagnostics, log records, the
register of handles (which only grows) and the accounts. -/
structure Records (a b : Analyzer) : Prop where
  schemas : b.catalog.schemas = a.catalog.schemas
  servers : b.catalog.servers = a.catalog.servers
  tablespaces : b.catalog.tablespaces = a.catalog.tablespaces
  logfileGroups : b.catalog.logfileGroups = a.catalog.logfileGroups
  options : b.options = a.options
  refs : b.refs = a.refs
  current : b.current = a.current
  handles : a.catalog.handles.size ≤ b.catalog.handles.size

namespace Records

@[refl] theorem refl (a : Analyzer) : Records a a :=
  ⟨rfl, rfl, rfl, rfl, rfl, rfl, rfl, Nat.le_refl _⟩

theorem trans {a b c : Analyzer} (first : Records a b) (second : Records b c) :
    Records a c :=
  ⟨second.schemas.trans first.schemas, second.servers.trans first.servers,
    second.tablespaces.trans first.tablespaces, second.logfileGroups.trans first.logfileGroups,
    second.options.trans first.options, second.refs.trans first.refs,
    second.current.trans first.current, Nat.le_trans first.handles second.handles⟩

end Records

/-- A property of states that recording cannot change. -/
def Stable (inv : Analyzer → Prop) : Prop := ∀ a b, inv a → Records a b → inv b

namespace Stable

theorem and {p q : Analyzer → Prop} (left : Stable p) (right : Stable q) :
    Stable fun a => p a ∧ q a :=
  fun a b holds records => ⟨left a b holds.1 records, right a b holds.2 records⟩

theorem const (p : Prop) : Stable fun _ => p := fun _ _ holds _ => holds

theorem caseSensitive (cs : Bool) : Stable fun a => a.options.caseSensitive = cs :=
  fun _ _ holds records => (congrArg Options.caseSensitive records.options).trans holds

theorem issued (id : Nat) : Stable fun a => id ≤ a.catalog.handles.size :=
  fun _ _ holds records => Nat.le_trans holds records.handles

theorem schemas (p : List Schema → Options → Prop) : Stable fun a => p a.catalog.schemas a.options :=
  fun _ _ holds records => by
    show p _ _
    rwa [records.schemas, records.options]

end Stable

/-- Every run of `m` only records. -/
def Recording {α : Type} (m : Analyze α) : Prop := ∀ a, Records a (m.run a).2

namespace Recording

variable {α β : Type}

theorem pure (x : α) : Recording (Pure.pure x : Analyze α) := fun a => Records.refl a

theorem bind {m : Analyze α} {f : α → Analyze β} (first : Recording m)
    (rest : ∀ x, Recording (f x)) : Recording (m >>= f) :=
  fun a => (first a).trans (rest _ _)

theorem forIn {xs : List β} {init : α} {f : β → α → Analyze (ForInStep α)}
    (round : ∀ x ∈ xs, ∀ acc, Recording (f x acc)) : Recording (ForIn.forIn xs init f) := by
  intro a
  exact Spec.forIn (fun _ b => Records a b)
    (fun x mem acc b start => start.trans (round x mem acc b)) a (Records.refl a)

theorem mapM {xs : List β} {f : β → Analyze α} (each : ∀ x ∈ xs, Recording (f x)) :
    Recording (xs.mapM f) := by
  induction xs with
  | nil => exact pure []
  | cons x rest ih =>
    rw [List.mapM_cons]
    exact bind (each x List.mem_cons_self) fun _ =>
      bind (ih fun y mem => each y (List.mem_cons_of_mem _ mem)) fun _ => pure _

theorem foldlM {xs : List β} {init : α} {f : α → β → Analyze α} (each : ∀ acc x, Recording (f acc x)) :
    Recording (xs.foldlM f init) := by
  induction xs generalizing init with
  | nil => exact pure init
  | cons x rest ih =>
    rw [List.foldlM_cons]
    exact bind (each init x) fun _ => ih

/-- A property that recording cannot change holds after a recording step. -/
theorem spec {m : Analyze α} (recording : Recording m) {inv : Analyzer → Prop}
    (stable : Stable inv) : Spec inv m fun _ => inv :=
  fun a start => stable a _ start (recording a)

/-- A recording step with a fixed result. -/
theorem result {m : Analyze α} {x : α} (recording : Recording m) (value : ∀ a, (m.run a).1 = x)
    {pre : Analyzer → Prop} {post : α → Analyzer → Prop}
    (holds : ∀ a b, pre a → Records a b → post x b) : Spec pre m post :=
  fun a start => value a ▸ holds a _ start (recording a)

end Recording

namespace Analyze

/-! Reading the state changes nothing. -/

@[simp] theorem caseSensitive_run (a : Analyzer) : caseSensitive.run a = (a.options.caseSensitive, a) :=
  rfl

@[simp] theorem options_run (a : Analyzer) : options.run a = (a.options, a) := rfl

@[simp] theorem catalog_run (a : Analyzer) : catalog.run a = (a.catalog, a) := rfl

@[simp] theorem schemaById_run (id : Nat) (a : Analyzer) :
    (schemaById id).run a = (a.catalog.schemaById id, a) := rfl

/-! Recording steps. -/

theorem note_recording (level : Log.Level) (message : String) (attrs : List (String × Log.Value)) :
    Recording (note level message attrs) :=
  fun _ => ⟨rfl, rfl, rfl, rfl, rfl, rfl, rfl, Nat.le_refl _⟩

theorem debug_recording (message : String) (attrs : List (String × Log.Value)) :
    Recording (debug message attrs) := note_recording _ _ _

theorem report_recording (severity : Severity) (code : Code) (object : String) (pos : Sql.Position)
    (message : String) : Recording (report severity code object pos message) :=
  fun _ => ⟨rfl, rfl, rfl, rfl, rfl, rfl, rfl, Nat.le_refl _⟩

theorem duplicate_recording (kind : ObjectKind) (object : String) (pos : Sql.Position)
    (ifNotExists : Bool) : Recording (duplicate kind object pos ifNotExists) :=
  report_recording _ _ _ _ _

@[simp] theorem issue_run (kind : ObjectKind) (name : String) (a : Analyzer) :
    (issue kind name).run a =
      (a.catalog.handles.size + 1, { a with catalog := (a.catalog.issue kind name).2 }) := rfl

theorem issue_recording (kind : ObjectKind) (name : String) : Recording (issue kind name) :=
  fun a => ⟨rfl, rfl, rfl, rfl, rfl, rfl, rfl, by simp [Catalog.issue]⟩

@[simp] theorem release_run (id : Nat) (a : Analyzer) :
    (release id).run a = ((), { a with catalog := a.catalog.release id }) := rfl

theorem release_recording (id : Nat) : Recording (release id) := by
  intro a
  rw [release_run]
  unfold Catalog.release
  split
  · exact ⟨rfl, rfl, rfl, rfl, rfl, rfl, rfl, Nat.le_refl _⟩
  · exact ⟨rfl, rfl, rfl, rfl, rfl, rfl, rfl, by simp⟩

@[simp] theorem rename_run (id : Nat) (name : String) (a : Analyzer) :
    (rename id name).run a = ((), { a with catalog := a.catalog.rename id name }) := rfl

theorem rename_recording (id : Nat) (name : String) : Recording (rename id name) := by
  intro a
  rw [rename_run]
  unfold Catalog.rename
  split
  · exact ⟨rfl, rfl, rfl, rfl, rfl, rfl, rfl, Nat.le_refl _⟩
  · exact ⟨rfl, rfl, rfl, rfl, rfl, rfl, rfl, by simp⟩

@[simp] theorem pushRefs_run (rs : List Reference) (a : Analyzer) :
    (pushRefs rs).run a = ((), { a with refs := a.refs ++ rs.toArray }) := rfl

theorem releaseTable_recording (t : Table) : Recording (releaseTable t) := by
  unfold releaseTable
  refine Recording.bind (Recording.forIn fun _ _ _ => ?_) fun _ => ?_
  · exact Recording.bind (release_recording _) fun _ => Recording.pure _
  refine Recording.bind (Recording.forIn fun _ _ _ => ?_) fun _ => ?_
  · exact Recording.bind (release_recording _) fun _ => Recording.pure _
  refine Recording.bind (Recording.forIn fun _ _ _ => ?_) fun _ => ?_
  · exact Recording.bind (release_recording _) fun _ => Recording.pure _
  refine Recording.bind (Recording.forIn fun _ _ _ => ?_) fun _ => release_recording _
  exact Recording.bind (release_recording _) fun _ => Recording.pure _

end Analyze

end DdlCatalog.Analysis
