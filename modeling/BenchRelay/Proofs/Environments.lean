import BenchRelay.Config.Basic
import Mathlib.Data.List.Nodup
import Mathlib.Data.List.Lex
import Mathlib.Data.Char
import Mathlib.Data.List.Sort

/-!
# Environments

A list that has each name once is known by what it says of each name. An environment is also in the
order of its names, which makes it the only list that says the same: it comes of its variables in
any order, and of some of them given again.
-/

namespace BenchRelay

/-! ### What a list says of a name -/

section Lookup

variable {α : Type} {name : Text} {a : α} {list : List (Text × α)}

theorem lookup_cons_eq (name n : Text) (a : α) (list : List (Text × α)) :
    ((n, a) :: list).lookup name = if name = n then some a else list.lookup name := by
  rw [List.lookup_cons]
  by_cases h : name = n
  · simp [h]
  · rw [beq_eq_false_iff_ne.mpr h, if_neg h]

theorem mem_of_lookup_eq_some (h : list.lookup name = some a) : (name, a) ∈ list := by
  obtain ⟨before, after, rfl, -⟩ := List.lookup_eq_some_iff.mp h
  simp

/-- Where each name stands once, what is said of a name is what stands beside it. -/
theorem lookup_eq_some_iff_mem (h : (list.map Prod.fst).Nodup) :
    list.lookup name = some a ↔ (name, a) ∈ list := by
  refine ⟨mem_of_lookup_eq_some, fun hmem => ?_⟩
  induction list with
  | nil => simp at hmem
  | cons entry list ih =>
    obtain ⟨n, b⟩ := entry
    rw [List.map_cons, List.nodup_cons] at h
    rw [lookup_cons_eq]
    rcases List.mem_cons.mp hmem with heq | hmem
    · rw [if_pos (Prod.mk.inj heq).1, (Prod.mk.inj heq).2]
    · have hne : name ≠ n := fun heq => h.1 (List.mem_map.mpr ⟨(name, a), hmem, heq⟩)
      rw [if_neg hne, ih h.2 hmem]

end Lookup

namespace Environment

/-- Each name stands once and before all greater ones. -/
def Ordered (environment : Environment) : Prop := environment.Pairwise fun a b => a.1 < b.1

variable {environment : Environment} {name value : Text}

theorem Ordered.nodup (h : Ordered environment) : (environment.map Prod.fst).Nodup :=
  List.pairwise_map.mpr (h.imp fun hlt => ne_of_lt hlt)

theorem get?_set (name value n : Text) (environment : Environment) :
    (environment.set name value).get? n =
      if n = name then some value else environment.get? n := by
  simp only [get?]
  induction environment with
  | nil => rw [set, lookup_cons_eq]
  | cons pair environment ih =>
    obtain ⟨m, v⟩ := pair
    rw [set]
    split
    · next heq =>
      subst heq
      simp only [lookup_cons_eq]
      split <;> rfl
    · next hne =>
      split
      · rw [lookup_cons_eq]
      · rw [lookup_cons_eq, lookup_cons_eq, ih]
        by_cases hn : n = m
        · rw [if_pos hn, if_pos hn, if_neg fun heq => hne (heq.symm.trans hn)]
        · rw [if_neg hn, if_neg hn]

theorem mem_set {pair : Text × Text} (h : pair ∈ environment.set name value) :
    pair = (name, value) ∨ pair ∈ environment := by
  fun_induction set name value environment <;> simp_all <;> tauto

theorem Ordered.set (h : Ordered environment) : Ordered (environment.set name value) := by
  induction environment with
  | nil => simp [Environment.set, Ordered]
  | cons pair environment ih =>
    obtain ⟨n, v⟩ := pair
    obtain ⟨hall, hrest⟩ := List.pairwise_cons.mp h
    rw [Environment.set]
    split
    · next heq => exact List.pairwise_cons.mpr ⟨fun pair hpair => heq ▸ hall pair hpair, hrest⟩
    · next hne =>
      split
      · next hlt =>
        refine List.pairwise_cons.mpr ⟨fun pair hpair => ?_, h⟩
        rcases List.mem_cons.mp hpair with rfl | hpair
        · exact hlt
        · exact hlt.trans (hall pair hpair)
      · next hle =>
        refine List.pairwise_cons.mpr ⟨fun pair hpair => ?_, ih hrest⟩
        rcases mem_set hpair with rfl | hpair
        · exact lt_of_le_of_ne (not_lt.mp hle) (Ne.symm hne)
        · exact hall pair hpair

/-- Two environments that say the same of all names are equal. -/
theorem Ordered.ext {other : Environment} (h : Ordered environment) (hother : Ordered other)
    (hget : ∀ name, environment.get? name = other.get? name) : environment = other := by
  have hperm : environment.Perm other := by
    rw [List.perm_ext_iff_of_nodup (List.Nodup.of_map _ h.nodup) (List.Nodup.of_map _ hother.nodup)]
    rintro ⟨name, value⟩
    rw [← lookup_eq_some_iff_mem h.nodup, ← lookup_eq_some_iff_mem hother.nodup]
    exact (hget name).congr_left
  exact hperm.eq_of_pairwise (fun a b _ _ hab hba => absurd hab (lt_asymm hba)) h hother

theorem Ordered.foldl (h : Ordered environment) (pairs : List (Text × Text)) :
    Ordered (pairs.foldl (fun environment pair => environment.set pair.1 pair.2) environment) := by
  induction pairs generalizing environment with
  | nil => exact h
  | cons pair pairs ih => exact ih h.set

theorem ordered_ofList (pairs : List (Text × Text)) : Ordered (ofList pairs) :=
  Ordered.foldl .nil pairs

/-- Setting variables to what they have to be makes up for what is not yet said of them. -/
theorem get?_foldl {pairs : List (Text × Text)} {made : Environment}
    (hpairs : ∀ pair ∈ pairs, environment.get? pair.1 = some pair.2)
    (hmade : ∀ name, made.get? name = environment.get? name ∨ name ∈ pairs.map Prod.fst)
    (name : Text) :
    get? (pairs.foldl (fun environment pair => environment.set pair.1 pair.2) made) name =
      environment.get? name := by
  induction pairs generalizing made with
  | nil => simpa using hmade name
  | cons pair pairs ih =>
    refine ih (fun other hother => hpairs other (by simp [hother])) fun name => ?_
    rw [get?_set]
    by_cases hname : name = pair.1
    · rw [if_pos hname, hname]
      exact .inl (hpairs pair (by simp)).symm
    · rw [if_neg hname]
      exact (hmade name).imp_right fun hmem => by simpa [hname] using hmem

/-- Variables in any order, some of them more than once, make the environment that says them. -/
theorem ofList_eq (h : Ordered environment) {pairs : List (Text × Text)}
    (hpairs : ∀ pair ∈ pairs, environment.get? pair.1 = some pair.2)
    (hall : ∀ name, environment.get? name ≠ none → name ∈ pairs.map Prod.fst) :
    ofList pairs = environment := by
  refine (ordered_ofList pairs).ext h (get?_foldl hpairs fun name => ?_)
  by_cases hname : environment.get? name = none
  · exact .inl hname.symm
  · exact .inr (hall name hname)

end Environment

end BenchRelay
