import Mathlib
import DdlCatalog.Catalog.Store
/-!
Names under the case policy. Comparing two names is an equivalence: byte equality when the
catalog is case-sensitive, equality of the folded forms otherwise. So "no two objects share a
name" is a pairwise condition on the list of names, and a lookup that finds nothing means that no
name in the list matches.
-/

namespace DdlCatalog.Catalog

theorem nameEqual_iff_fold (cs : Bool) (a b : String) :
    nameEqual cs a b = true ↔ (if cs then a = b else foldName a = foldName b) := by
  cases cs with
  | true => simp [nameEqual]
  | false =>
    simp only [nameEqual, Bool.false_eq_true, if_false, Bool.or_eq_true, beq_iff_eq]
    constructor
    · rintro (same | folded)
      · rw [same]
      · exact folded
    · exact Or.inr

@[simp] theorem nameEqual_refl (cs : Bool) (a : String) : nameEqual cs a a = true := by
  cases cs <;> simp [nameEqual]

theorem nameEqual_comm (cs : Bool) (a b : String) : nameEqual cs a b = nameEqual cs b a := by
  cases cs <;> simp only [nameEqual, if_true, Bool.false_eq_true, if_false, BEq.comm (a := a),
    BEq.comm (a := foldName a)]

theorem nameEqual_trans {cs : Bool} {a b c : String} (first : nameEqual cs a b = true)
    (second : nameEqual cs b c = true) : nameEqual cs a c = true := by
  rw [nameEqual_iff_fold] at first second ⊢
  cases cs with
  | true => simp only [if_true] at first second ⊢; exact first.trans second
  | false => simp only [Bool.false_eq_true, if_false] at first second ⊢; exact first.trans second

/-- A name that differs from one of two equal names differs from the other. -/
theorem nameEqual_false_of_left {cs : Bool} {a b c : String} (same : nameEqual cs a b = true)
    (apart : nameEqual cs a c = false) : nameEqual cs b c = false := by
  cases other : nameEqual cs b c with
  | false => rfl
  | true => rw [nameEqual_trans same other] at apart; exact absurd apart (by simp)

/-- No two of the names are the same under the case policy. -/
def NamesDistinct (cs : Bool) (names : List String) : Prop :=
  names.Pairwise fun a b => nameEqual cs a b = false

@[simp] theorem namesDistinct_nil (cs : Bool) : NamesDistinct cs [] := List.Pairwise.nil

theorem namesDistinct_append_single {cs : Bool} {names : List String} {fresh : String} :
    NamesDistinct cs (names ++ [fresh]) ↔
      NamesDistinct cs names ∧ ∀ n ∈ names, nameEqual cs n fresh = false := by
  simp [NamesDistinct, List.pairwise_append]

theorem NamesDistinct.sublist {cs : Bool} {names others : List String}
    (distinct : NamesDistinct cs names) (sub : others.Sublist names) : NamesDistinct cs others :=
  List.Pairwise.sublist sub distinct

/-- Distinct names stay distinct in any order. -/
theorem NamesDistinct.perm {cs : Bool} {names others : List String} (perm : names.Perm others) :
    NamesDistinct cs names ↔ NamesDistinct cs others :=
  perm.pairwise_iff fun {a b} apart => by rwa [nameEqual_comm]

/-- The names gathered over a list with one member in front are distinct exactly when they are
within that member, within the rest, and between the two. -/
theorem namesDistinct_flatMap_cons {α : Type} {cs : Bool} (f : α → List String) (x : α)
    (rest : List α) :
    NamesDistinct cs ((x :: rest).flatMap f) ↔ NamesDistinct cs (f x) ∧
      NamesDistinct cs (rest.flatMap f) ∧ ∀ y ∈ rest, ∀ a ∈ f x, ∀ b ∈ f y, nameEqual cs a b = false := by
  simp only [NamesDistinct, List.flatMap_cons, List.pairwise_append, List.mem_flatMap]
  constructor
  · rintro ⟨own, others, cross⟩
    exact ⟨own, others, fun y mem a inX b inY => cross a inX b ⟨y, mem, inY⟩⟩
  · rintro ⟨own, others, cross⟩
    exact ⟨own, others, fun a inX b ⟨y, mem, inY⟩ => cross y mem a inX b inY⟩

/-- Names gathered over a sublist of members stay distinct. -/
theorem NamesDistinct.flatMap_sublist {α : Type} {cs : Bool} {f : α → List String} {xs ys : List α}
    (distinct : NamesDistinct cs (xs.flatMap f)) (sub : ys.Sublist xs) :
    NamesDistinct cs (ys.flatMap f) := by
  rw [NamesDistinct, List.pairwise_flatMap] at distinct ⊢
  exact ⟨fun a mem => distinct.1 a (sub.subset mem), distinct.2.sublist sub⟩

/-- The names of the members kept by a filter stay distinct. -/
theorem NamesDistinct.filter {α : Type} {cs : Bool} {nameOf : α → String} {xs : List α}
    (p : α → Bool) (distinct : NamesDistinct cs (xs.map nameOf)) :
    NamesDistinct cs ((xs.filter p).map nameOf) :=
  distinct.sublist ((List.filter_sublist).map nameOf)

/-- Two different members of a list with distinct names have different names. -/
theorem NamesDistinct.apart {α : Type} {cs : Bool} {nameOf : α → String} {xs : List α} {x y : α}
    (distinct : NamesDistinct cs (xs.map nameOf)) (first : x ∈ xs) (second : y ∈ xs) (other : x ≠ y) :
    nameEqual cs (nameOf x) (nameOf y) = false := by
  rw [NamesDistinct, List.pairwise_map] at distinct
  have : Std.Symm fun p q : α => nameEqual cs (nameOf p) (nameOf q) = false :=
    ⟨fun _ _ apart => by rwa [nameEqual_comm]⟩
  exact distinct.forall first second other

/-- Replacing members by members of the same name keeps the names. -/
theorem map_names_of_same {α : Type} {nameOf : α → String} {xs : List α} (f : α → α)
    (same : ∀ x ∈ xs, nameOf (f x) = nameOf x) : (xs.map f).map nameOf = xs.map nameOf := by
  rw [List.map_map]
  exact List.map_congr_left fun x mem => same x mem

section Lookup

variable {α : Type} (nameOf : α → String) (cs : Bool) (key : String)

theorem findNamed_eq_none_iff (xs : List α) :
    findNamed nameOf cs key xs = none ↔ ∀ x ∈ xs, nameEqual cs (nameOf x) key = false := by
  induction xs with
  | nil => simp [findNamed]
  | cons x rest ih =>
    by_cases found : nameEqual cs (nameOf x) key = true
    · simp [findNamed, found]
    · simp only [Bool.not_eq_true] at found
      simp [findNamed, found, ih]

theorem findNamed_mem {xs : List α} {x : α} (found : findNamed nameOf cs key xs = some x) :
    x ∈ xs ∧ nameEqual cs (nameOf x) key = true := by
  induction xs with
  | nil => simp [findNamed] at found
  | cons y rest ih =>
    by_cases hit : nameEqual cs (nameOf y) key = true
    · simp only [findNamed, hit, if_true, Option.some.injEq] at found
      exact ⟨found ▸ List.mem_cons_self, found ▸ hit⟩
    · simp only [findNamed, hit, Bool.false_eq_true, if_false] at found
      exact ⟨List.mem_cons_of_mem _ (ih found).1, (ih found).2⟩

/-- A member added after none that matches is the one found. -/
theorem findNamed_append_of_none {xs : List α} {x : α} (absent : findNamed nameOf cs key xs = none)
    (hit : nameEqual cs (nameOf x) key = true) : findNamed nameOf cs key (xs ++ [x]) = some x := by
  induction xs with
  | nil => simp [findNamed, hit]
  | cons y rest ih =>
    have miss : nameEqual cs (nameOf y) key = false :=
      (findNamed_eq_none_iff nameOf cs key _).mp absent y List.mem_cons_self
    have restAbsent : findNamed nameOf cs key rest = none :=
      (findNamed_eq_none_iff nameOf cs key _).mpr fun z mem =>
        (findNamed_eq_none_iff nameOf cs key _).mp absent z (List.mem_cons_of_mem _ mem)
    simp [findNamed, miss, ih restAbsent]

/-- Among distinct names, only the member a lookup finds matches the key. -/
theorem findNamed_other {xs : List α} {x y : α} (distinct : NamesDistinct cs (xs.map nameOf))
    (found : findNamed nameOf cs key xs = some x) (mem : y ∈ xs) (other : y ≠ x) :
    nameEqual cs (nameOf y) key = false := by
  have ⟨inXs, hit⟩ := findNamed_mem nameOf cs key found
  rw [nameEqual_comm]
  exact nameEqual_false_of_left hit (distinct.apart inXs mem (Ne.symm other))

theorem findNamed_isNone_iff (xs : List α) :
    (findNamed nameOf cs key xs).isNone = true ↔ ∀ x ∈ xs, nameEqual cs (nameOf x) key = false := by
  rw [Option.isNone_iff_eq_none, findNamed_eq_none_iff]

theorem findNamed_not_isSome {xs : List α} (absent : ¬(findNamed nameOf cs key xs).isSome = true) :
    ∀ x ∈ xs, nameEqual cs (nameOf x) key = false :=
  (findNamed_eq_none_iff nameOf cs key xs).mp (Option.not_isSome_iff_eq_none.mp absent)

end Lookup

end DdlCatalog.Catalog
