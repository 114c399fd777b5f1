import Mathlib.Logic.Function.Basic
import Mathlib.Data.List.Basic

/-!
# Maps

A map from keys to values, as far as `HashMap` and `BTreeMap` are read and written by key: the
partial function of its lookups. Two maps with the same lookups are the same map.
-/

namespace NmOpenvpn3

namespace Rust

/-- A map, by its lookups. -/
abbrev Dict (κ ν : Type*) := κ → Option ν

namespace Dict

variable {κ ν : Type*} [DecidableEq κ]

/-- The empty map. -/
def empty : Dict κ ν := fun _ ↦ none

/-- `insert`: the new value replaces an old one. -/
def insert (d : Dict κ ν) (k : κ) (v : ν) : Dict κ ν := fun k' ↦ if k' = k then some v else d k'

/-- `remove`. -/
def remove (d : Dict κ ν) (k : κ) : Dict κ ν := fun k' ↦ if k' = k then none else d k'

/-- Insert a value that is there, leave the map alone otherwise. -/
def setOpt (d : Dict κ ν) (k : κ) : Option ν → Dict κ ν
  | some v => d.insert k v
  | none => d

/-- `entry(k).or_insert(v)`: an old value stays. -/
def orInsert (d : Dict κ ν) (k : κ) (v : ν) : Dict κ ν := d.insert k ((d k).getD v)

/-- The map that a list of entries builds, later entries replacing earlier ones. -/
def ofList (l : List (κ × ν)) : Dict κ ν := l.foldl (fun d p ↦ d.insert p.1 p.2) empty

/-- Insert a list of entries. -/
def insertAll (d : Dict κ ν) (l : List (κ × ν)) : Dict κ ν :=
  l.foldl (fun d p ↦ d.insert p.1 p.2) d

/-- The entries of a map, each once, in some order. -/
structure Lists (d : Dict κ ν) (l : List (κ × ν)) : Prop where
  nodup : (l.map Prod.fst).Nodup
  mem : ∀ k v, d k = some v ↔ (k, v) ∈ l

/-- Set a list of values, those that are there. -/
def setAll (d : Dict κ ν) (l : List (κ × Option ν)) : Dict κ ν :=
  l.foldl (fun d p ↦ d.setOpt p.1 p.2) d

omit [DecidableEq κ] in
@[ext] theorem ext {d d' : Dict κ ν} (h : ∀ k, d k = d' k) : d = d' := funext h

omit [DecidableEq κ] in
@[simp] theorem empty_apply (k : κ) : (empty : Dict κ ν) k = none := rfl

@[simp] theorem insert_self (d : Dict κ ν) (k : κ) (v : ν) : d.insert k v k = some v := if_pos rfl

theorem insert_of_ne {k k' : κ} (h : k' ≠ k) (d : Dict κ ν) (v : ν) : d.insert k v k' = d k' :=
  if_neg h

theorem remove_of_ne {k k' : κ} (h : k' ≠ k) (d : Dict κ ν) : d.remove k k' = d k' := if_neg h

@[simp] theorem setOpt_none (d : Dict κ ν) (k : κ) : d.setOpt k none = d := rfl

@[simp] theorem setOpt_some (d : Dict κ ν) (k : κ) (v : ν) :
    d.setOpt k (some v) = d.insert k v := rfl

theorem setOpt_self (d : Dict κ ν) (k : κ) (v : Option ν) : d.setOpt k v k = v.or (d k) := by
  cases v with
  | none => rfl
  | some v => exact insert_self d k v

/-- Setting the value that is there changes nothing. -/
theorem setOpt_eq_self (d : Dict κ ν) (k : κ) : d.setOpt k (d k) = d := by
  ext1 k'
  by_cases hk : k' = k
  · subst hk
    cases hv : d k' with
    | none => exact hv
    | some v => exact insert_self d k' v
  · cases hv : d k with
    | none => rfl
    | some v => exact insert_of_ne hk d v

theorem setOpt_of_ne {k k' : κ} (h : k' ≠ k) (d : Dict κ ν) (v : Option ν) :
    d.setOpt k v k' = d k' := by
  cases v with
  | none => rfl
  | some v => exact insert_of_ne h d v

/-- Of two values set under one key the later one stays. -/
theorem insert_setOpt_some (d : Dict κ ν) (k : κ) (v w : ν) :
    (d.insert k v).setOpt k (some w) = d.setOpt k (some w) := by
  ext1 k'
  by_cases hk : k' = k
  · subst hk
    simp
  · rw [setOpt_of_ne hk, insert_of_ne hk, setOpt_of_ne hk]

/-- Writes to an overlaid map are writes to the overlay. -/
theorem setOpt_overlay {d e base : Dict κ ν} {k' : κ} (h : d k' = (e k').or (base k')) (k : κ)
    (v : Option ν) : d.setOpt k v k' = (e.setOpt k v k').or (base k') := by
  by_cases hk : k' = k
  · subst hk
    rw [setOpt_self, setOpt_self, h, Option.or_assoc]
  · rw [setOpt_of_ne hk, setOpt_of_ne hk, h]

theorem insert_overlay {d e base : Dict κ ν} {k' : κ} (h : d k' = (e k').or (base k')) (k : κ)
    (v : ν) : d.insert k v k' = (e.insert k v k').or (base k') :=
  setOpt_overlay h k (some v)

theorem insertAll_of_nodup {l : List (κ × ν)} (hnd : (l.map Prod.fst).Nodup) (d : Dict κ ν) (k : κ)
    (v : ν) :
    d.insertAll l k = some v ↔ (k, v) ∈ l ∨ (k ∉ l.map Prod.fst ∧ d k = some v) := by
  induction l generalizing d with
  | nil => simp [insertAll]
  | cons p l ih =>
    obtain ⟨k', v'⟩ := p
    rw [List.map_cons, List.nodup_cons] at hnd
    rw [show d.insertAll ((k', v') :: l) = (d.insert k' v').insertAll l from rfl, ih hnd.2]
    by_cases hk : k = k'
    · subst hk
      have hnot : (k, v) ∉ l := fun hm ↦ hnd.1 (List.mem_map.mpr ⟨_, hm, rfl⟩)
      simp only [hnot, false_or, hnd.1, not_false_eq_true, true_and, insert_self,
        List.mem_cons, Prod.mk.injEq, List.map_cons, not_true_eq_false, false_and,
        or_false, Option.some_inj]
      exact eq_comm
    · simp [insert_of_ne hk, hk]

/-- Inserting the entries of a map gives the map. -/
theorem Lists.insertAll_empty {d : Dict κ ν} {l : List (κ × ν)} (h : d.Lists l) :
    (empty : Dict κ ν).insertAll l = d := by
  ext1 k
  refine Option.ext fun v ↦ ?_
  rw [insertAll_of_nodup h.nodup, h.mem]
  simp

@[simp] theorem setAll_nil (d : Dict κ ν) : d.setAll [] = d := rfl

@[simp] theorem setAll_cons (d : Dict κ ν) (p : κ × Option ν) (l : List (κ × Option ν)) :
    d.setAll (p :: l) = (d.setOpt p.1 p.2).setAll l := rfl

theorem setAll_append (d : Dict κ ν) (l l' : List (κ × Option ν)) :
    d.setAll (l ++ l') = (d.setAll l).setAll l' :=
  List.foldl_append

theorem setAll_of_not_mem {k : κ} {l : List (κ × Option ν)} (h : k ∉ l.map Prod.fst)
    (d : Dict κ ν) : d.setAll l k = d k := by
  induction l generalizing d with
  | nil => rfl
  | cons p l ih =>
    rw [List.map_cons, List.mem_cons, not_or] at h
    rw [setAll_cons, ih h.2, setOpt_of_ne h.1]

/-- With distinct keys, each key gets its own value. -/
theorem setAll_of_mem {l : List (κ × Option ν)} (hnd : (l.map Prod.fst).Nodup) {k : κ}
    {v : Option ν} (h : (k, v) ∈ l) (d : Dict κ ν) : d.setAll l k = v.or (d k) := by
  induction l generalizing d with
  | nil => simp at h
  | cons p l ih =>
    rw [List.map_cons, List.nodup_cons] at hnd
    rcases List.mem_cons.mp h with rfl | h
    · rw [setAll_cons, setAll_of_not_mem hnd.1, setOpt_self]
    · have hk : k ≠ p.1 := fun e ↦ hnd.1 (e ▸ List.mem_map.mpr ⟨_, h, rfl⟩)
      rw [setAll_cons, ih hnd.2 h, setOpt_of_ne hk]

theorem orInsert_self (d : Dict κ ν) (k : κ) (v : ν) : d.orInsert k v k = (d k).or (some v) := by
  rw [orInsert, insert_self]
  cases d k <;> rfl

theorem orInsert_of_ne {k k' : κ} (h : k' ≠ k) (d : Dict κ ν) (v : ν) :
    d.orInsert k v k' = d k' :=
  insert_of_ne h d _

end Dict

/-- **Last write wins.** When every step overlays what it writes on the old value, the value after a
run is what the last writing step wrote, else the value before the run. -/
theorem foldl_eq_findSome?_or {σ α ν : Type*} {step : σ → α → σ} {r : σ → Option ν}
    {written : α → Option ν} (h : ∀ s a, r (step s a) = (written a).or (r s)) (l : List α)
    (s : σ) : r (l.foldl step s) = (l.reverse.findSome? written).or (r s) := by
  induction l generalizing s with
  | nil => rfl
  | cons a l ih =>
    rw [List.foldl_cons, ih, h, List.reverse_cons, List.findSome?_append, Option.or_assoc]
    cases hw : written a <;> simp [hw]

theorem findSome?_congr {α ν : Type*} {f g : α → Option ν} {l : List α} (h : ∀ a ∈ l, f a = g a) :
    l.findSome? f = l.findSome? g := by
  induction l with
  | nil => rfl
  | cons a l ih =>
    rw [List.findSome?_cons, List.findSome?_cons, h a List.mem_cons_self,
      ih fun b hb ↦ h b (List.mem_cons_of_mem _ hb)]

/-- A switch that steps only turn on is on if it was on before the run or a step turns it on. -/
theorem foldl_eq_any_or {σ α : Type*} {step : σ → α → σ} {r : σ → Bool} {on : α → Bool}
    (h : ∀ s a, r (step s a) = (on a || r s)) (l : List α) (s : σ) :
    r (l.foldl step s) = (l.any on || r s) := by
  induction l generalizing s with
  | nil => rfl
  | cons a l ih => rw [List.foldl_cons, ih, h, List.any_cons, Bool.or_left_comm, Bool.or_assoc]

/-! ## Repeated writers -/

section KeepLast

variable {α ν : Type*} {p : α → Bool}

/-- Of the elements with a property, only the last. The others stay. -/
def keepLast (p : α → Bool) : List α → List α
  | [] => []
  | a :: l => if p a && l.any p then keepLast p l else a :: keepLast p l

theorem keepLast_of_not_any {l : List α} (h : l.any p = false) : keepLast p l = l := by
  induction l with
  | nil => rfl
  | cons a l ih =>
    rw [List.any_cons, Bool.or_eq_false_iff] at h
    rw [keepLast, h.1, Bool.false_and, if_neg Bool.false_ne_true, ih h.2]

/-- In front of another one, none is kept. -/
theorem keepLast_append_of_any (pre : List α) {l : List α} (h : l.any p = true) :
    keepLast p (pre ++ l) = (pre.filter fun a ↦ !p a) ++ keepLast p l := by
  induction pre with
  | nil => rfl
  | cons a pre ih =>
    rw [List.cons_append, keepLast, List.any_append, h, Bool.or_true, Bool.and_true, ih]
    cases hp : p a <;> simp [hp]

theorem keepLast_append_of_not_any (pre : List α) {l : List α} (h : l.any p = false) :
    keepLast p (pre ++ l) = keepLast p pre ++ l := by
  induction pre with
  | nil => exact keepLast_of_not_any h
  | cons a pre ih =>
    rw [List.cons_append, keepLast, keepLast, List.any_append, h, Bool.or_false, ih]
    split_ifs <;> rfl

/-- What is behind an element does not depend on what is in front of it. -/
theorem exists_keepLast_append (p : α → Bool) (pre l : List α) :
    ∃ pre', keepLast p (pre ++ l) = pre' ++ keepLast p l := by
  cases h : l.any p with
  | true => exact ⟨_, keepLast_append_of_any pre h⟩
  | false => exact ⟨_, by rw [keepLast_append_of_not_any pre h, keepLast_of_not_any h]⟩

theorem keepLast_sublist (p : α → Bool) (l : List α) : (keepLast p l).Sublist l := by
  induction l with
  | nil => exact .slnil
  | cons a l ih =>
    rw [keepLast]
    split_ifs
    · exact ih.cons a
    · exact ih.cons_cons a

/-- The elements without the property all stay. -/
theorem filter_keepLast {q : α → Bool} (h : ∀ a, q a = true → p a = false) (l : List α) :
    (keepLast p l).filter q = l.filter q := by
  induction l with
  | nil => rfl
  | cons a l ih =>
    rw [keepLast]
    split_ifs with hdrop
    · have hq : q a = false := by
        by_contra hq
        rw [h a (by simpa using hq)] at hdrop
        exact absurd hdrop (by simp)
      rw [ih, List.filter_cons, hq, if_neg Bool.false_ne_true]
    · rw [List.filter_cons, List.filter_cons, ih]

theorem mem_keepLast_of_not {a : α} {l : List α} (h : p a = false) :
    a ∈ keepLast p l ↔ a ∈ l := by
  have hfilter : a ∈ (keepLast p l).filter (fun a ↦ !p a) ↔ a ∈ l.filter fun a ↦ !p a := by
    rw [filter_keepLast (by simp)]
  simpa [h] using hfilter

theorem any_keepLast_of_not {q : α → Bool} (h : ∀ a, q a = true → p a = false) (l : List α) :
    (keepLast p l).any q = l.any q := by
  rw [Bool.eq_iff_iff, List.any_eq_true, List.any_eq_true]
  exact exists_congr fun a ↦ and_congr_left fun hq ↦ mem_keepLast_of_not (h a hq)

theorem any_keepLast_self (l : List α) : (keepLast p l).any p = l.any p := by
  induction l with
  | nil => rfl
  | cons a l ih =>
    rw [keepLast]
    split_ifs with hdrop
    · rw [Bool.and_eq_true] at hdrop
      rw [ih, List.any_cons, hdrop.2, Bool.or_true]
    · rw [List.any_cons, List.any_cons, ih]

/-- An element with the property is the last to write, and writes `v`, although another element with
the property comes after it. The elements `pre` come before it. -/
def Exposed (p : α → Bool) (written : α → Option ν) (l pre : List α) (v : ν) : Prop :=
  ∃ a post, l = pre ++ a :: post ∧ p a = true ∧ written a = some v ∧ post.any p = true ∧
    ∀ b ∈ post, written b = none

variable {written : α → Option ν} {l : List α}

/-- Without the exposed element, what was written before it comes up. -/
theorem Exposed.last_written {pre : List α} {v : ν} (h : Exposed p written l pre v) :
    l.reverse.findSome? written = some v ∧ (keepLast p l).reverse.findSome? written =
      (pre.filter fun a ↦ !p a).reverse.findSome? written := by
  obtain ⟨a, post, rfl, hp, hv, hany, hpost⟩ := h
  have hnone : post.reverse.findSome? written = none :=
    List.findSome?_eq_none_iff.mpr fun b hb ↦ hpost b (List.mem_reverse.mp hb)
  have hkept : (keepLast p post).reverse.findSome? written = none :=
    List.findSome?_eq_none_iff.mpr fun b hb ↦
      hpost b ((keepLast_sublist p post).mem (List.mem_reverse.mp hb))
  constructor
  · simp [List.findSome?_append, hnone, hv]
  · have hdrop : keepLast p (a :: post) = keepLast p post := by
      rw [keepLast, hp, hany]
      rfl
    rw [keepLast_append_of_any pre (by rw [List.any_cons, hany, Bool.or_true]), hdrop,
      List.reverse_append, List.findSome?_append, hkept, Option.none_or]

/-- **Either an element is exposed, or keeping the last ones only does not show.** -/
theorem exposed_or (p : α → Bool) (written : α → Option ν) (l : List α) :
    (∃ pre v, Exposed p written l pre v) ∨
      (keepLast p l).reverse.findSome? written = l.reverse.findSome? written := by
  cases h : l.reverse.findSome? written with
  | none =>
    rw [List.findSome?_eq_none_iff] at h
    exact .inr (List.findSome?_eq_none_iff.mpr fun b hb ↦
      h b (List.mem_reverse.mpr ((keepLast_sublist p l).mem (List.mem_reverse.mp hb))))
  | some v =>
    obtain ⟨l₁, a, l₂, hl, ha, hl₁⟩ := List.findSome?_eq_some_iff.mp h
    obtain rfl : l = l₂.reverse ++ a :: l₁.reverse := by
      rw [← List.reverse_reverse l, hl]
      simp
    by_cases hover : p a = true ∧ l₁.reverse.any p = true
    · exact .inl ⟨_, v, a, _, rfl, hover.1, ha, hover.2, by simpa using hl₁⟩
    · refine .inr ?_
      obtain ⟨pre', hpre'⟩ := exists_keepLast_append p l₂.reverse (a :: l₁.reverse)
      have hkeep : keepLast p (a :: l₁.reverse) = a :: keepLast p l₁.reverse := by
        rw [keepLast, if_neg (by simpa using hover)]
      have hnone : (keepLast p l₁.reverse).reverse.findSome? written = none :=
        List.findSome?_eq_none_iff.mpr fun b hb ↦ hl₁ b (List.mem_reverse.mp
          ((keepLast_sublist p _).mem (List.mem_reverse.mp hb)))
      rw [hpre', hkeep]
      simp [List.findSome?_append, hnone, ha]

end KeepLast

end Rust

end NmOpenvpn3
